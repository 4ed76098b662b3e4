/-
# Lengths, cuts and case

The limits of the ingestion service count characters, so a text is cut after a
number of characters and never inside one. Keys and schemes are compared
without regard to case; the only texts they are ever compared with are ASCII,
and `lowerAscii` folds exactly the characters that can matter there.
-/

import TelemetryChannel.Text.Blank

namespace TelemetryChannel.Text

/-- The first `limit` characters of a text. -/
def clip (limit : Nat) (text : String) : String :=
  String.ofList (text.toList.take limit)

/-- A text cut at every occurrence of a separator. There is always one piece
more than there are separators, so the empty text has one empty piece. -/
def split (separator : Char) : List Char → List (List Char)
  | [] => [[]]
  | c :: rest =>
    match split separator rest with
    | [] => [[c]]
    | piece :: pieces =>
      if c = separator then [] :: piece :: pieces else (c :: piece) :: pieces

/-- Lower case of an ASCII letter; other characters are kept. -/
def asciiLower (c : Char) : Char :=
  if 'A' ≤ c ∧ c ≤ 'Z' then Char.ofNat (c.toNat + 32) else c

/-- Lower case as far as ASCII texts can tell. Outside ASCII the Kelvin sign is
the one character whose lower case is an ASCII letter. -/
def foldCase (c : Char) : Char :=
  if c.toNat = 0x212A then 'k' else asciiLower c

/-- A text in lower case, for comparing it with an ASCII text. -/
def folded (text : String) : String :=
  String.ofList (text.toList.map foldCase)

/-- Whether two texts are equal when the case of ASCII letters is ignored. -/
def sameIgnoringCase (first second : List Char) : Bool :=
  first.map asciiLower == second.map asciiLower

/-- The rest of a text that starts with `start`, ignoring the case of ASCII
letters. -/
def afterIgnoringCase? (start text : List Char) : Option (List Char) :=
  if sameIgnoringCase (text.take start.length) start then some (text.drop start.length)
  else none

/-- Replace the occurrences of `pattern` from left to right after the first
`skipped` characters, which belong to the occurrence just replaced. -/
def replaceAfter (pattern replacement : List Char) : Nat → List Char → List Char
  | _, [] => []
  | skipped + 1, _ :: rest => replaceAfter pattern replacement skipped rest
  | 0, c :: rest =>
    if pattern ≠ [] ∧ pattern.isPrefixOf (c :: rest) then
      replacement ++ replaceAfter pattern replacement (pattern.length - 1) rest
    else
      c :: replaceAfter pattern replacement 0 rest

/-- Replace every occurrence of `pattern`, from left to right and without
overlaps. An empty pattern occurs nowhere. -/
def replaceAll (pattern replacement text : List Char) : List Char :=
  replaceAfter pattern replacement 0 text

theorem clip_length_le (limit : Nat) (text : String) :
    (clip limit text).toList.length ≤ limit := by
  rw [clip, String.toList_ofList, List.length_take]
  exact Nat.min_le_left _ _

theorem clip_of_length_le {limit : Nat} {text : String}
    (h : text.toList.length ≤ limit) : clip limit text = text := by
  simp [clip, List.take_of_length_le h]

theorem split_ne_nil (separator : Char) (cs : List Char) : split separator cs ≠ [] := by
  induction cs with
  | nil => simp [split]
  | cons c rest ih =>
      unfold split
      split
      · simp
      · split <;> simp

end TelemetryChannel.Text
