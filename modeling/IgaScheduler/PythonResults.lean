import IgaScheduler.JsonDoubles
import IgaScheduler.PythonJson
import IgaScheduler.ResultProtocol

namespace IgaScheduler

/-!
# Results of jobs for Python

The line that `run_job` of the Python SDK prints is one of printable ASCII, so
that the executor reads the result however its bytes come in chunks.  A number
that is no double, as Python's integers may be, is rounded to one.
-/

open JobOutput (Execution Limits OneLine Unmarked AsciiText byteLength
  capture capture_value encode_ascii encode_append parseResult resultPrefix
  run_terminated spawnEntrypoint startsLine_of_reads)
open TextLines (StartsLine Terminated)
open Utf8Chunks (bytes decode encode events run utf16)

namespace JavaScript

/--
`JSON.parse(text)` on code units; the message of a refusal is the engine's, and
a text with an infinite number has no value here.
-/
def parseText (text : List Nat) : Except String Json :=
  match ((scalars? text).bind parse).bind withDoubles with
  | some value => .ok value
  | none => .error "invalid JSON"

end JavaScript

namespace PythonSdk

/-- What `run_job` prints for the result of a job. -/
def resultLine (result : Json) : List Char :=
  resultPrefix ++ PythonJson.dumps result

def runJob (result : Json) : List UInt8 :=
  encode (resultLine result ++ ['\n'])

/-! ## A line of ASCII behind an output -/

/-- A line of ASCII is decoded to its letters, however it is cut. -/
theorem decoded_line
    {output : List UInt8}
    {line : List Char}
    {chunks : List (List UInt8)}
    (ascii : AsciiText line)
    (terminated : Terminated 10 output)
    (written : chunks.flatten = output ++ encode line) :
    ∃ earlier,
      chunks.flatMap decode = earlier ++ utf16 line ∧
        Utf8Chunks.Reads output earlier ∧ Terminated 10 earlier := by
  obtain ⟨units, small⟩ := encode_ascii ascii
  have stream : bytes (events chunks) = output ++ encode line := by
    rw [Utf8Chunks.bytes_events, written]
  obtain ⟨first, second, shape, rfl, rest⟩ :=
    List.filterMap_eq_append_iff.mp stream
  obtain ⟨earlier, firstRan, reads, ended⟩ := run_terminated terminated
  have secondRan : run [] second = (utf16 line, []) := by
    have ran := @Utf8Chunks.run_ascii second (by
      rw [bytes, rest]
      exact small)
    rw [ran, bytes, rest, units]
  have text := Utf8Chunks.run_events chunks
  rw [shape, Utf8Chunks.run_append, firstRan] at text
  dsimp only at text
  rw [secondRan] at text
  exact ⟨earlier, (Prod.mk.inj text).1.symm, reads, ended⟩

/-! ## The line of a result -/

section Results

variable {value : Json}
variable (lowest : PythonJson.lowest value = true)

section Text

include lowest

theorem asciiText_dumps : AsciiText (PythonJson.dumps value) := by
  intro letter member
  have shown := PythonJson.printable_dumps lowest letter member
  omega

theorem asciiText_resultLine : AsciiText (resultLine value ++ ['\n']) := by
  intro letter member
  rw [resultLine, List.append_assoc, List.mem_append, List.mem_append]
    at member
  have mark : AsciiText resultPrefix := by decide
  have newline : AsciiText ['\n'] := by decide
  rcases member with inMark | inText | inNewline
  · exact mark letter inMark
  · exact asciiText_dumps lowest letter inText
  · exact newline letter inNewline

/-- No line ends inside the line of a result. -/
theorem oneLine_resultLine :
    ∀ unit ∈ utf16 (resultLine value), unit ≠ 10 ∧ unit ≠ 13 := by
  have absent {letter : Char} (small : letter.toNat < 32) :
      letter ∉ resultLine value := by
    have marks : PythonJson.Printable resultPrefix := by decide
    intro member
    rcases List.mem_append.mp member with inMark | inText
    · have large := marks letter inMark
      omega
    · have shown := PythonJson.printable_dumps lowest letter inText
      omega
  intro unit member
  constructor
  · rintro rfl
    obtain ⟨letter, inside, same⟩ :=
      JobOutput.mem_utf16 (by decide) member
    exact absent (by omega) inside
  · rintro rfl
    obtain ⟨letter, inside, same⟩ :=
      JobOutput.mem_utf16 (by decide) member
    exact absent (by omega) inside

end Text

variable {delivered : Json}
variable (doubles :
  JavaScript.withDoubles (PythonJson.asRead value) = some delivered)
include lowest doubles

/-- The executor parses the text of a result to what the job returned. -/
theorem parsePayload_dumps
    {limits : Limits}
    (permitted :
      (encode (PythonJson.dumps value)).length ≤
        limits.maxResultOutputBytes) :
    JobOutput.parsePayload JavaScript.parseText limits
        (utf16 (PythonJson.dumps value)) =
      .ok delivered := by
  unfold JobOutput.parsePayload
  rw [if_neg, JavaScript.parseText, JavaScript.scalars?_utf16,
    Option.bind_some, PythonJson.parse_dumps lowest, Option.bind_some,
    doubles]
  rw [JobOutput.byteLength_utf16]
  exact Nat.not_lt.mpr permitted

variable {limits : Limits}
variable {output : List UInt8}
variable {chunks : List (List UInt8)}

theorem parseResult_resultLine
    (permitted :
      (encode (PythonJson.dumps value)).length ≤
        limits.maxResultOutputBytes)
    (terminated : Terminated 10 output)
    (unmarked : Unmarked output)
    (written : chunks.flatten = output ++ runJob value)
    (fits : (chunks.flatMap decode).length ≤ limits.maxStdoutBytes + 1) :
    parseResult JavaScript.parseText limits
        ((chunks.flatMap decode).take limits.maxStdoutBytes) =
      .ok delivered := by
  obtain ⟨earlier, text, reads, ended⟩ :=
    decoded_line (asciiText_resultLine lowest) terminated written
  obtain ⟨units, small⟩ := @encode_ascii resultPrefix (by decide)
  have startsNone : ¬ StartsLine 10 (utf16 resultPrefix) earlier := by
    intro starts
    rw [← units] at starts
    exact unmarked (startsLine_of_reads (by decide) small reads starts)
  have line :
      utf16 (resultLine value ++ ['\n']) =
        utf16 (resultLine value) ++ [10] := by
    rw [utf16, List.flatMap_append]
    rfl
  obtain ⟨tail, captured, ends⟩ :
      ∃ tail,
        (chunks.flatMap decode).take limits.maxStdoutBytes =
            earlier ++ (utf16 (resultLine value) ++ tail) ∧
          (tail = [] ∨ tail = [10]) := by
    rw [text, line] at fits ⊢
    simp only [List.length_append, List.length_singleton] at fits
    by_cases whole :
        earlier.length + ((utf16 (resultLine value)).length + 1) ≤
          limits.maxStdoutBytes
    · exact ⟨[10], List.take_of_length_le (by simpa using whole), .inr rfl⟩
    · refine ⟨[], ?_, .inl rfl⟩
      rw [← List.append_assoc, List.append_nil, List.take_left']
      rw [List.length_append]
      omega
  have plain := oneLine_resultLine lowest
  have marked :
      utf16 (resultLine value) =
        utf16 resultPrefix ++ utf16 (PythonJson.dumps value) := by
    rw [resultLine, utf16, List.flatMap_append]
    rfl
  have found := TextLines.find?_lines_eq_some ended startsNone
    (marked ▸ List.prefix_append _ _)
    (fun member => (plain _ member).1 rfl)
    (fun last => (plain _ (List.mem_of_getLast? last)).2 rfl) ends
  rw [captured, parseResult, found]
  dsimp only
  rw [marked, List.drop_left]
  exact parsePayload_dumps lowest doubles permitted

/--
With exit code 0, what a Python job returns is what the execution resolves
with, its numbers as the nearest doubles, whatever the job has printed before
and however the bytes come in chunks, as long as the output fits.
-/
theorem python_result_delivered
    (timeoutSeconds : Nat)
    (permitted :
      (encode (PythonJson.dumps value)).length ≤
        limits.maxResultOutputBytes)
    (terminated : Terminated 10 output)
    (unmarked : Unmarked output)
    (written : chunks.flatten = output ++ runJob value)
    (fits : (chunks.flatMap decode).length ≤ limits.maxStdoutBytes + 1) :
    ∃ execution,
      spawnEntrypoint JavaScript.parseText limits timeoutSeconds chunks
          (some 0) false =
          .ok execution ∧
        execution.output = delivered := by
  have read := parseResult_resultLine lowest doubles permitted terminated
    unmarked written fits
  unfold spawnEntrypoint
  dsimp only
  rw [capture_value, read]
  exact ⟨_, rfl, rfl⟩

end Results

/-- A result with letters outside ASCII and an integer that is no double. -/
def greeting : Json :=
  .obj [("greeting", .str "Grüße 😀"), ("rate", .num 25 1),
    ("ticket", .num 9007199254740993 0)]

/-- Only the integer is not delivered as it is. -/
theorem withDoubles_greeting :
    JavaScript.withDoubles (PythonJson.asRead greeting) =
      some (.obj [("greeting", .str "Grüße 😀"), ("rate", .num 25 1),
        ("ticket", .num 9007199254740992 0)]) := by
  have ordered : PythonJson.asRead greeting = greeting :=
    congrArg Json.obj (JavaScript.fromEntries_eq (by decide))
  rw [ordered]
  rfl

def threeByteChunks (bytes : List UInt8) : List (List UInt8) :=
  bytes.toChunks 3

/-- The letters arrive as escapes, so that no chunk cuts one of them. -/
theorem python_result_delivered_greeting :
    ∃ execution,
      spawnEntrypoint JavaScript.parseText JobOutput.defaultLimits 300
          (threeByteChunks (encode ['h', 'i', '\n'] ++ runJob greeting))
          (some 0) false =
          .ok execution ∧
        execution.output =
          .obj [("greeting", .str "Grüße 😀"), ("rate", .num 25 1),
            ("ticket", .num 9007199254740992 0)] :=
  @python_result_delivered greeting (by decide) _ withDoubles_greeting _ _ _
    300 (by decide) (.inr ⟨encode ['h', 'i'], rfl⟩)
    (by
      rintro ⟨before, after, shape, -⟩
      have lengths := congrArg List.length shape
      have mark : (encode resultPrefix).length = 16 := by decide
      have short : (encode ['h', 'i'] ++ [10]).length = 3 := by decide
      rw [short, List.length_append, List.length_append, mark] at lengths
      omega)
    (by decide) (by decide)

end PythonSdk

end IgaScheduler
