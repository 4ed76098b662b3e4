/-
# Frames of a stack

A line of a stack names a method and, behind it, the place in a file: a file
name, a line and a column, perhaps in parentheses. The method ends at an `@`, at
a blank with an opening parenthesis, or else at the first blank, and everything
behind that up to the line number is the file name, which holds neither `@` nor
opening parentheses. A leading `at` between blanks and the method is no part of
it, if something is left without it.
-/

import TelemetryChannel.Decimal.Numeral
import TelemetryChannel.Json.Basic

namespace TelemetryChannel.Exception

open Text Decimal

/-- A frame of a stack. -/
structure Frame where
  level : Nat
  method : String
  assembly : String
  fileName : String
  line : Nat
  deriving DecidableEq, Repr

/-- What a line of a stack says: the method and the file, with the blanks around
them, and the digits of the line number. -/
structure Location where
  method : List Char
  file : List Char
  line : List Char
  deriving DecidableEq, Repr

/-- Take the digits at the end of a reversed text and the colon in front of
them. -/
def takeNumber? (reversed : List Char) : Option (List Char × List Char) :=
  let digits := reversed.takeWhile isDigit
  match reversed.dropWhile isDigit with
  | ':' :: rest => if digits = [] then none else some (digits.reverse, rest)
  | _ => none

/-- Split off the place in the file at the end of a line: what stands before it,
and the digits of the line number. -/
def splitPlace? (text : List Char) : Option (List Char × List Char) := do
  let reversed :=
    match text.reverse with
    | ')' :: rest => rest
    | rest => rest
  let (_, beforeColumn) ← takeNumber? reversed
  let (line, beforeLine) ← takeNumber? beforeColumn
  some (beforeLine.reverse, line)

/-- The characters that no file name holds. -/
def endsMethod (c : Char) : Bool :=
  c == '(' || c == '@'

/-- Split at the first blank that has something behind it. -/
def splitAtBlank? (text : List Char) : Option (List Char × List Char) :=
  match text.dropWhile fun c => !isBlank c with
  | _ :: first :: rest => some (text.takeWhile fun c => !isBlank c, first :: rest)
  | _ => none

/-- Split what stands before a line number into the method and the file. `file`
is the longest end without `@` and opening parenthesis; what decides is the
character in front of it. -/
def splitMethod? (text : List Char) : Option (List Char × List Char) :=
  let reversed := text.reverse
  let file := (reversed.takeWhile fun c => !endsMethod c).reverse
  match reversed.dropWhile fun c => !endsMethod c with
  | [] => splitAtBlank? file
  | '@' :: before => if file = [] then none else some (before.reverse, file)
  | mark :: before =>
    match before, file with
    | blank :: method, first :: rest =>
      if isBlank blank then some (method.reverse, first :: rest)
      else (splitAtBlank? file).map fun found => ((mark :: before).reverse ++ found.1, found.2)
    | _, _ => (splitAtBlank? file).map fun found => ((mark :: before).reverse ++ found.1, found.2)

/-- A text without the blanks and the `at` at its start. -/
def afterAt? (text : List Char) : Option (List Char) :=
  match text.takeWhile isBlank, text.dropWhile isBlank with
  | _ :: _, 'a' :: 't' :: rest => some rest
  | _, _ => none

/-- Read a line of a stack. -/
def Location.ofLine? (text : List Char) : Option Location := do
  let (place, line) ← splitPlace? text
  let (method, file) ← ((afterAt? place).bind splitMethod?).or (splitMethod? place)
  some { method, file, line }

/-- The method of a frame that names none. -/
def noMethod : String := "<no_method>"

/-- The number of a line; one that no signed word holds counts as none. -/
def lineNumber (digits : List Char) : Nat :=
  let n := digitsValue digits
  if (n : Int) ≤ Json.maxSigned then n else 0

/-- The frame of a line that says where it is. -/
def Frame.ofLocation (level : Nat) (text : List Char) (location : Location) : Frame :=
  let method := trimChars location.method
  { level := level
    method := if method = [] then noMethod else String.ofList method
    assembly := String.ofList (trimChars text)
    fileName := String.ofList (trimChars location.file)
    line := lineNumber location.line }

/-- What a frame takes apart from its texts and numbers. -/
def Frame.baseSize : Nat := 58

/-- The size of a frame. -/
def Frame.size (frame : Frame) : Nat :=
  frame.method.toList.length + frame.fileName.toList.length + frame.assembly.toList.length +
    baseSize + (Nat.toDigits 10 frame.level).length + (Nat.toDigits 10 frame.line).length

theorem Frame.size_pos (frame : Frame) : 0 < frame.size := by
  unfold Frame.size Frame.baseSize
  omega

example : Location.ofLine? "    at foo (http://host/app.js:10:5)".toList =
    some ⟨" foo".toList, "http://host/app.js".toList, "10".toList⟩ := by decide +kernel
example : Location.ofLine? "bar@app.js:20:7".toList =
    some ⟨"bar".toList, "app.js".toList, "20".toList⟩ := by decide +kernel
example : Location.ofLine? "TypeError: x is undefined".toList = none := by decide +kernel

end TelemetryChannel.Exception
