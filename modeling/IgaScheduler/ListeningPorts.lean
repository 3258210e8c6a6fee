import IgaScheduler.JsonDoubles

namespace IgaScheduler

/-!
# Ports to listen on

`Number(text)`, and what `listen` of Node makes of its first argument: a number
has to be a port, and a text that is no number from zero on names a socket in
the file system.
-/

namespace JavaScript

/-- `text.trim()`. -/
def trim (letters : List Char) : List Char :=
  ((letters.dropWhile isWhiteSpace).reverse.dropWhile isWhiteSpace).reverse

/-- A number of JavaScript. -/
inductive Numeric where
  | nan
  | infinite (negative : Bool)
  | finite (negative : Bool) (magnitude : Double)
  deriving DecidableEq

namespace Numeric

/-- The double that is nearest to a quotient, or an infinity. -/
def nearest
    (negative : Bool)
    (quotient : Quotient) :
    Numeric :=
  let magnitude := Double.nearest quotient
  if magnitude.isFinite then .finite negative magnitude
  else .infinite negative

/-- `number < 0`. -/
def isNegative : Numeric → Bool
  | .nan => false
  | .infinite negative => negative
  | .finite negative magnitude => negative && magnitude.significand ≠ 0

end Numeric

/-! ## `Number(text)` -/

/-- What is behind the sign, and whether it is a minus. -/
def splitSign : List Char → Bool × List Char
  | '-' :: rest => (true, rest)
  | '+' :: rest => (false, rest)
  | rest => (false, rest)

/-- The integer of at least one digit. -/
def digits? (letters : List Char) : Option Nat :=
  if letters ≠ [] ∧ letters.all Char.isDigit then some (digitsValue letters)
  else none

/-- The exponent behind a decimal, if there is one. -/
def exponentPart? : List Char → Option Int
  | [] => some 0
  | letter :: rest =>
      if letter = 'e' ∨ letter = 'E' then
        let (negative, letters) := splitSign rest
        (digits? letters).map fun value : Nat =>
          if negative then -(value : Int) else value
      else
        none

/-- A decimal without a sign; its point may stand at either end. -/
def decimalLiteral? (text : List Char) : Option Quotient :=
  let whole := text.takeWhile Char.isDigit
  let (fraction, rest) :=
    match text.dropWhile Char.isDigit with
    | '.' :: rest => (rest.takeWhile Char.isDigit, rest.dropWhile Char.isDigit)
    | rest => ([], rest)
  if whole ++ fraction = [] then
    none
  else
    (exponentPart? rest).map fun exponent =>
      scaled 10 (exponent - fraction.length)
        (digitsValue (whole ++ fraction), 1)

/-- The base that the letter behind a zero stands for. -/
def radix? (letter : Char) : Option Nat :=
  if letter = 'x' ∨ letter = 'X' then some 16
  else if letter = 'o' ∨ letter = 'O' then some 8
  else if letter = 'b' ∨ letter = 'B' then some 2
  else none

/-- The integer of at least one digit in a base. -/
def integerLiteral?
    (base : Nat)
    (letters : List Char) :
    Option Nat := do
  let digits ← letters.mapM fun letter =>
    (hexDigit? letter).filter fun digit => digit < base
  if digits = [] then
    none
  else
    some (digits.foldl (fun value digit => base * value + digit) 0)

def signedLiteral (letters : List Char) : Numeric :=
  let (negative, text) := splitSign letters
  if text = "Infinity".toList then
    .infinite negative
  else
    match decimalLiteral? text with
    | none => .nan
    | some quotient => .nearest negative quotient

/-- `Number(text)`; a blank text is zero. -/
def toNumber (text : String) : Numeric :=
  match trim text.toList with
  | [] => .finite false ⟨0, 0⟩
  | first :: second :: letters =>
      match if first = '0' then radix? second else none with
      | none => signedLiteral (first :: second :: letters)
      | some base =>
          match integerLiteral? base letters with
          | none => .nan
          | some magnitude => .nearest false (magnitude, 1)
  | letters => signedLiteral letters

end JavaScript

namespace Startup

open JavaScript

/-- The first argument of `listen`. -/
inductive ListenArgument where
  | number (port : Numeric)
  | text (port : String)

/-- Where a server listens. -/
inductive Listening where
  | port (number : Nat)
  | path (name : String)
  deriving DecidableEq

/-- `+port === +port >>> 0 && port <= 0xFFFF`. -/
def portNumber? : Numeric → Option Nat
  | .finite negative magnitude =>
      let (numerator, denominator) := magnitude.quotient
      let whole := numerator / denominator
      if numerator = whole * denominator ∧ whole ≤ 65535 ∧
          (negative = true → whole = 0) then
        some whole
      else
        none
  | _ => none

/-- `isPipeName`: `!(Number(text) >= 0)`. -/
def isPipeName (text : String) : Bool :=
  toNumber text = .nan || (toNumber text).isNegative

/-- `listen`; `none` is `ERR_SOCKET_BAD_PORT`. -/
def listen? : ListenArgument → Option Listening
  | .number port => (portNumber? port).map .port
  | .text port =>
      if isPipeName port then
        some (.path port)
      else if trim port.toList = [] then
        none
      else
        (portNumber? (toNumber port)).map .port

/-- A port, or the name of a socket. -/
def Listens : ListenArgument → Prop
  | .number port => (portNumber? port).isSome = true
  | .text port =>
      isPipeName port = true ∨
        trim port.toList ≠ [] ∧ (portNumber? (toNumber port)).isSome = true

theorem isSome_listen?
    {argument : ListenArgument} :
    (listen? argument).isSome = true ↔ Listens argument := by
  cases argument with
  | number port =>
      rw [listen?, Option.isSome_map]
      rfl
  | text port =>
      unfold listen? Listens
      dsimp only
      by_cases pipe : isPipeName port = true
      · rw [if_pos pipe]
        exact iff_of_true rfl (.inl pipe)
      · rw [if_neg pipe, or_iff_right pipe]
        by_cases blank : trim port.toList = []
        · rw [if_pos blank]
          exact iff_of_false (by decide) fun both => both.1 blank
        · rw [if_neg blank, Option.isSome_map, and_iff_right blank]

example :
    ["3000", "0x1F90", " 8e3 ", "-0", "65536", "80.5", "   "].map
        (fun port => listen? (.text port)) =
      [some (.port 3000), some (.port 8080), some (.port 8000),
        some (.port 0), none, none, none] := by
  decide

example :
    ["abc", "-1", "1_000"].map (fun port => listen? (.text port)) =
      [some (.path "abc"), some (.path "-1"), some (.path "1_000")] := by
  decide

end Startup

end IgaScheduler
