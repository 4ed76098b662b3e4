/-
# Bytes of a text

Texts are scanned byte by byte, and a place in a text is an index into its bytes.
A character takes one byte or more of them. A text can be cut at the first byte
of a character or at its end, and nowhere else.

The service answers with bytes. They are read as UTF-8, and what is not UTF-8
never makes an answer unreadable: every longest run of bytes that starts like a
character and is then broken off counts as one replacement character, and the
byte that broke it off is read afresh.
-/

namespace TelemetryChannel.Text

/-- The bytes of a text, in UTF-8. -/
def bytes (text : List Char) : List UInt8 :=
  text.flatMap String.utf8EncodeChar

/-- What is before and what is behind an index into the bytes of a text. There is
nothing if the index is inside of a character or beyond the end. -/
def cutAt? : Nat → List Char → Option (List Char × List Char)
  | 0, text => some ([], text)
  | _ + 1, [] => none
  | index + 1, c :: rest =>
    if c.utf8Size ≤ index + 1 then do
      let (before, behind) ← cutAt? (index + 1 - c.utf8Size) rest
      some (c :: before, behind)
    else none

example : cutAt? 3 "aé😀".toList = some ("aé".toList, "😀".toList) := by decide +kernel
example : cutAt? 2 "aé😀".toList = none := by decide +kernel

namespace Utf8

/-- The character that stands for bytes that are not text. -/
def replacement : Char := '\uFFFD'

/-- A character of which some bytes were read. The next byte has to lie between
`low` and `high`; for the second byte these bounds leave out overlong forms,
surrogates, and numbers above the last character. -/
structure Pending where
  missing : Nat
  low : UInt8
  high : UInt8
  code : Nat

/-- The pending character that a first byte opens, if it opens one. -/
def Pending.ofLead? (byte : UInt8) : Option Pending :=
  let n := byte.toNat
  if 0xC2 ≤ n ∧ n ≤ 0xDF then some ⟨1, 0x80, 0xBF, n - 0xC0⟩
  else if n = 0xE0 then some ⟨2, 0xA0, 0xBF, 0⟩
  else if n = 0xED then some ⟨2, 0x80, 0x9F, n - 0xE0⟩
  else if 0xE1 ≤ n ∧ n ≤ 0xEF then some ⟨2, 0x80, 0xBF, n - 0xE0⟩
  else if n = 0xF0 then some ⟨3, 0x90, 0xBF, 0⟩
  else if 0xF1 ≤ n ∧ n ≤ 0xF3 then some ⟨3, 0x80, 0xBF, n - 0xF0⟩
  else if n = 0xF4 then some ⟨3, 0x80, 0x8F, n - 0xF0⟩
  else none

/-- What a byte gives where a character may start. -/
def lead (byte : UInt8) : List Char × Option Pending :=
  if byte < 0x80 then ([Char.ofNat byte.toNat], none)
  else
    match Pending.ofLead? byte with
    | some pending => ([], some pending)
    | none => ([replacement], none)

/-- What a byte gives after the bytes of a pending character. -/
def Pending.next (pending : Pending) (byte : UInt8) : List Char × Option Pending :=
  if pending.low ≤ byte ∧ byte ≤ pending.high then
    let code := pending.code * 64 + (byte.toNat - 0x80)
    match pending.missing with
    | missing + 2 => ([], some ⟨missing + 1, 0x80, 0xBF, code⟩)
    | _ => ([Char.ofNat code], none)
  else
    let (chars, afterwards) := lead byte
    (replacement :: chars, afterwards)

/-- Read bytes, given the character that is pending before them. -/
def decodeFrom : Option Pending → List UInt8 → List Char
  | none, [] => []
  | some _, [] => [replacement]
  | none, byte :: rest =>
    let (chars, pending) := lead byte
    chars ++ decodeFrom pending rest
  | some pending, byte :: rest =>
    let (chars, afterwards) := pending.next byte
    chars ++ decodeFrom afterwards rest

/-- The text of bytes, with replacement characters for what is not UTF-8. -/
def decode (bytes : List UInt8) : String :=
  String.ofList (decodeFrom none bytes)

example : decode [0x61, 0xC3, 0xA9, 0xF0, 0x9F, 0x98, 0x80] = "aé😀" := by decide +kernel
example : decode [0xE2, 0x82, 0x41, 0xFF, 0xC0, 0x80] = "\uFFFDA\uFFFD\uFFFD\uFFFD" := by
  decide +kernel

end Utf8

end TelemetryChannel.Text
