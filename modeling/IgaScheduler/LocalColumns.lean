import IgaScheduler.CivilOrder
import IgaScheduler.PublicRuns

namespace IgaScheduler

/-!
# Columns of SQLite and of PostgreSQL

SQLite keeps an instant as the ISO text that it is given and compares instants
as texts; `node:sqlite` reads a text up to its first null character.  PostgreSQL
takes no null characters, instants of the years 1 to 9999 only, and integers of
a fixed width.
-/

/-! ## Texts -/

/-- What `node:sqlite` reads of a text column. -/
def readText (text : String) : String :=
  String.ofList (text.toList.takeWhile fun letter => letter ≠ '\x00')

def readJson (text : String) : Json :=
  .str (readText text)

def readOptional (text : Option String) : Json :=
  PublicRuns.optionalText (text.map readText)

theorem readText_eq
    {text : String}
    (noNull : '\x00' ∉ text.toList) :
    readText text = text := by
  rw [readText, List.takeWhile_eq_self_iff.mpr, String.ofList_toList]
  intro letter member
  exact decide_eq_true fun null => noNull (null ▸ member)

theorem readJson_eq
    {text : String}
    (noNull : '\x00' ∉ text.toList) :
    readJson text = .str text :=
  congrArg Json.str (readText_eq noNull)

theorem readOptional_eq
    {text : Option String}
    (noNull : ∀ value ∈ text, '\x00' ∉ value.toList) :
    readOptional text = PublicRuns.optionalText text := by
  cases text with
  | none =>
      rfl
  | some value =>
      exact congrArg (fun text => PublicRuns.optionalText (some text))
        (readText_eq (noNull value rfl))

theorem withoutNull_str
    {text : String} :
    withoutNull (.str text) = true ↔ '\x00' ∉ text.toList := by
  rw [withoutNull, decide_eq_true_eq]

theorem withoutNull_optionalText
    {text : Option String} :
    withoutNull (PublicRuns.optionalText text) = true ↔
      ∀ value ∈ text, '\x00' ∉ value.toList := by
  cases text with
  | none =>
      exact iff_of_true rfl (by rintro value ⟨⟩)
  | some text =>
      refine withoutNull_str.trans ⟨?_, fun plain => plain text rfl⟩
      rintro plain value ⟨⟩
      exact plain

theorem withoutNullFields_iff
    {fields : List (String × Json)} :
    withoutNullFields fields = true ↔
      ∀ field ∈ fields,
        '\x00' ∉ field.1.toList ∧ withoutNull field.2 = true := by
  induction fields with
  | nil =>
      exact iff_of_true rfl (by rintro field ⟨⟩)
  | cons field rest inductionHypothesis =>
      obtain ⟨name, value⟩ := field
      rw [withoutNullFields, Bool.and_eq_true, Bool.and_eq_true,
        decide_eq_true_eq, inductionHypothesis, List.forall_mem_cons]

/-! ## Instants and integers -/

/-- PostgreSQL reads the ISO text of an instant. -/
def isTimestamptz (instant : Timestamp) : Bool :=
  1 ≤ (Civil.parts instant).year && (Civil.parts instant).year ≤ 9999

/-- The width of an `integer`. -/
def isInteger (value : Int) : Bool :=
  -2 ^ 31 ≤ value && value < 2 ^ 31

/-- The width of a `bigint`, as which a limit is taken. -/
def isBigint (value : Int) : Bool :=
  -2 ^ 63 ≤ value && value < 2 ^ 63

theorem fourDigitYear
    {instant : Timestamp}
    (read : isTimestamptz instant = true) :
    Civil.FourDigitYear instant := by
  rw [isTimestamptz, Bool.and_eq_true, decide_eq_true_eq,
    decide_eq_true_eq] at read
  exact ⟨by omega, read.2⟩

end IgaScheduler
