/-
# Reading JSON text

The reader takes one character after the other. Its state is the lexeme in
progress, the place where the next lexeme belongs, and the containers that wait
for a value, innermost first. A container leaves the stack while it waits for
anything else, so the height of the stack at a value is its depth.

Between lexemes only the space, the tab and the two line ends are skipped. A
string must not hold control characters below the space.
-/

import TelemetryChannel.Json.Numeral
import TelemetryChannel.Json.Parsed
import TelemetryChannel.Json.Printer

namespace TelemetryChannel.Json

/-- The characters of a string, the last one first. An escaped high surrogate
waits for the low one that has to follow it; without it the string is broken. -/
structure StringSoFar where
  chars : List Char
  high : Option Nat
  broken : Bool

namespace StringSoFar

/-- The string of which nothing was read. -/
def empty : StringSoFar := ⟨[], none, false⟩

/-- The string with one more character. -/
def push (soFar : StringSoFar) (c : Char) : StringSoFar :=
  { chars := c :: soFar.chars, high := none, broken := soFar.broken || soFar.high.isSome }

/-- The string with one more escaped unit of sixteen bits. -/
def pushUnit (soFar : StringSoFar) (unit : Nat) : StringSoFar :=
  let isLow := 0xDC00 ≤ unit ∧ unit ≤ 0xDFFF
  match soFar.high with
  | some high =>
    if isLow then
      let c := Char.ofNat (0x10000 + (high - 0xD800) * 0x400 + (unit - 0xDC00))
      { soFar with chars := c :: soFar.chars, high := none }
    else { soFar with broken := true }
  | none =>
    if 0xD800 ≤ unit ∧ unit ≤ 0xDBFF then { soFar with high := some unit }
    else if isLow then { soFar with broken := true }
    else soFar.push (Char.ofNat unit)

/-- The text of the string, unless it is broken. -/
def text? (soFar : StringSoFar) : Option String :=
  if soFar.broken || soFar.high.isSome then none
  else some (String.ofList soFar.chars.reverse)

end StringSoFar

/-- The lexeme that is being read. -/
inductive Lexeme where
  | gap
  | word (missing : List Char) (value : Parsed)
  | numeral (chars : List Char)
  | string (soFar : StringSoFar)
  | escape (soFar : StringSoFar)
  | unit (soFar : StringSoFar) (missing : Nat) (value : Nat)

/-- Entries that were read, the last one first. -/
abbrev EntriesSoFar := List (Option String × Parsed)

/-- What the next lexeme has to be. -/
inductive Place where
  | value
  | firstItem
  | firstKey
  | key (entries : EntriesSoFar)
  | colon (entries : EntriesSoFar) (key : Option String)
  | afterItem (items : List Parsed)
  | afterEntry (entries : EntriesSoFar)
  | done (result : Parsed)

/-- A container that waits for a value. -/
inductive Frame where
  | array (items : List Parsed)
  | object (entries : EntriesSoFar) (key : Option String)

/-- Where the reader stands. -/
structure Reader where
  lexeme : Lexeme
  place : Place
  stack : List Frame

namespace Reader

/-- The reader before the first character. -/
def start : Reader := ⟨.gap, .value, []⟩

/-- Hand a value to the innermost container that waits for one. -/
def give (stack : List Frame) (value : Parsed) : Reader :=
  match stack with
  | [] => ⟨.gap, .done value, []⟩
  | .array items :: rest => ⟨.gap, .afterItem (value :: items), rest⟩
  | .object entries key :: rest => ⟨.gap, .afterEntry ((key, value) :: entries), rest⟩

/-- The depth from which on containers are unreadable. -/
def maxDepth : Nat := 127

/-- Hand over a container that was closed. -/
def close (stack : List Frame) (container : Parsed) : Reader :=
  give stack (if maxDepth ≤ stack.length then .unreadable else container)

/-- Hand over a string that was closed: as a key or as a value. -/
def closeString (reader : Reader) (soFar : StringSoFar) : Reader :=
  match reader.place with
  | .firstKey => ⟨.gap, .colon [] soFar.text?, reader.stack⟩
  | .key entries => ⟨.gap, .colon entries soFar.text?, reader.stack⟩
  | _ => give reader.stack ((soFar.text?.map .string).getD .unreadable)

/-- Hand over a numeral that has ended. -/
def closeNumeral? (reader : Reader) (chars : List Char) : Option Reader :=
  (Numeral.ofChars? chars.reverse).map fun numeral =>
    give reader.stack ((numeral.value?.map .number).getD .unreadable)

/-- Whether a character may stand between lexemes. -/
def isGap (c : Char) : Bool :=
  c == ' ' || c == '\t' || c == '\n' || c == '\r'

/-- Whether a character may stand in a numeral. -/
def isNumeralChar (c : Char) : Bool :=
  Decimal.isDigit c || c == '-' || c == '+' || c == '.' || c == 'e' || c == 'E'

/-- Start a value with its first character. -/
def openValue? (reader : Reader) (c : Char) : Option Reader :=
  match c with
  | '"' => some { reader with lexeme := .string .empty }
  | '[' => some ⟨.gap, .firstItem, .array [] :: reader.stack⟩
  | '\x7b' => some ⟨.gap, .firstKey, reader.stack⟩
  | 'n' => some { reader with lexeme := .word ['u', 'l', 'l'] .null }
  | 't' => some { reader with lexeme := .word ['r', 'u', 'e'] (.bool true) }
  | 'f' => some { reader with lexeme := .word ['a', 'l', 's', 'e'] (.bool false) }
  | _ =>
    if Decimal.isDigit c ∨ c = '-' then some { reader with lexeme := .numeral [c] } else none

/-- Take a character between lexemes. -/
def stepGap? (reader : Reader) (c : Char) : Option Reader :=
  if isGap c then some { reader with lexeme := .gap }
  else
    match reader.place with
    | .value => openValue? reader c
    | .firstItem =>
      match c, reader.stack with
      | ']', _ :: rest => some (close rest (.array []))
      | _, _ => openValue? reader c
    | .firstKey =>
      match c with
      | '"' => some { reader with lexeme := .string .empty }
      | '\x7d' => some (close reader.stack (.object []))
      | _ => none
    | .key _ => if c = '"' then some { reader with lexeme := .string .empty } else none
    | .colon entries key =>
      if c = ':' then some ⟨.gap, .value, .object entries key :: reader.stack⟩ else none
    | .afterItem items =>
      match c with
      | ',' => some ⟨.gap, .value, .array items :: reader.stack⟩
      | ']' => some (close reader.stack (.array items.reverse))
      | _ => none
    | .afterEntry entries =>
      match c with
      | ',' => some ⟨.gap, .key entries, reader.stack⟩
      | '\x7d' => some (close reader.stack (.object entries.reverse))
      | _ => none
    | .done _ => none

/-- The character that an escape letter stands for. -/
def unescape? (c : Char) : Option Char :=
  match c with
  | '"' => some '"'
  | '\\' => some '\\'
  | '/' => some '/'
  | 'b' => some '\x08'
  | 'f' => some '\x0c'
  | 'n' => some '\n'
  | 'r' => some '\r'
  | 't' => some '\t'
  | _ => none

/-- The value of a hexadecimal digit. -/
def hexValue? (c : Char) : Option Nat :=
  if '0' ≤ c ∧ c ≤ '9' then some (c.toNat - 48)
  else if 'a' ≤ c ∧ c ≤ 'f' then some (c.toNat - 87)
  else if 'A' ≤ c ∧ c ≤ 'F' then some (c.toNat - 55)
  else none

/-- Take one character; nothing if it cannot stand here. -/
def step? (reader : Reader) (c : Char) : Option Reader :=
  match reader.lexeme with
  | .gap => stepGap? reader c
  | .word [] _ => none
  | .word (expected :: missing) value =>
    if c ≠ expected then none
    else if missing = [] then some (give reader.stack value)
    else some { reader with lexeme := .word missing value }
  | .numeral chars =>
    if isNumeralChar c then some { reader with lexeme := .numeral (c :: chars) }
    else (closeNumeral? reader chars).bind fun closed => stepGap? closed c
  | .string soFar =>
    if c = '"' then some (closeString reader soFar)
    else if c = '\\' then some { reader with lexeme := .escape soFar }
    else if c.toNat < 0x20 then none
    else some { reader with lexeme := .string (soFar.push c) }
  | .escape soFar =>
    if c = 'u' then some { reader with lexeme := .unit soFar 4 0 }
    else (unescape? c).map fun escaped => { reader with lexeme := .string (soFar.push escaped) }
  | .unit soFar missing value =>
    (hexValue? c).map fun digit =>
      let longer := value * 16 + digit
      if missing ≤ 1 then { reader with lexeme := .string (soFar.pushUnit longer) }
      else { reader with lexeme := .unit soFar (missing - 1) longer }

/-- Take characters one after the other. -/
def run? (reader : Reader) : List Char → Option Reader
  | [] => some reader
  | c :: rest =>
    match step? reader c with
    | none => none
    | some next => run? next rest

/-- What was read when the text ends here. -/
def result? (reader : Reader) : Option Parsed :=
  match reader.lexeme, reader.place with
  | .gap, .done result => some result
  | .numeral chars, _ =>
    match closeNumeral? reader chars with
    | some ⟨_, .done result, _⟩ => some result
    | _ => none
  | _, _ => none

theorem run?_append (reader : Reader) (first second : List Char) :
    reader.run? (first ++ second) = (reader.run? first).bind fun next => next.run? second := by
  induction first generalizing reader with
  | nil => rfl
  | cons c rest ih =>
      simp only [List.cons_append, run?]
      cases step? reader c with
      | none => rfl
      | some next => exact ih next

end Reader

/-- The contents of a text, if it is well formed. -/
def Parsed.ofText? (text : String) : Option Parsed :=
  (Reader.start.run? text.toList).bind Reader.result?

/-- The value that a text writes. -/
def ofText? (text : String) : Option Json :=
  (Parsed.ofText? text).bind Parsed.toJson?

example : (ofText? " [1, -0, 1e2, \"\\u00e9\\ud83d\\ude00\", \x7b\"a\":true\x7d] ").map Json.text =
    some "[1,-0.0,100.0,\"é😀\",\x7b\"a\":true\x7d]" := by decide +kernel
example : (ofText? "[1 2]").isNone := by decide +kernel
example : (ofText? "\"\\ud83d\"").isNone := by decide +kernel
example : (ofText? "1e400").isNone := by decide +kernel

end TelemetryChannel.Json
