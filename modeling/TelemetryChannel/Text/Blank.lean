/-
# Blank characters and trimming

Names, keys and numerals reach the channel with stray blanks around them. A
blank is a character with the Unicode property White_Space; the property has
twenty-five members, listed here as ranges. Trimming removes blanks from the
ends of a text and never touches its inside.
-/

namespace TelemetryChannel.Text

/-- The Unicode property White_Space: the five line and tab controls, the
space, the next-line control, the no-break space, the Ogham space, the
typographic spaces, the two separators, and the narrow, mathematical and
ideographic spaces. -/
def isBlank (c : Char) : Bool :=
  let n := c.toNat
  (0x09 ≤ n && n ≤ 0x0D) || n == 0x20 || n == 0x85 || n == 0xA0 || n == 0x1680 ||
    (0x2000 ≤ n && n ≤ 0x200A) || n == 0x2028 || n == 0x2029 || n == 0x202F ||
    n == 0x205F || n == 0x3000

/-- Remove the blanks at the start. -/
def trimStartChars (cs : List Char) : List Char :=
  cs.dropWhile isBlank

/-- Remove the blanks at the end. -/
def trimEndChars (cs : List Char) : List Char :=
  (cs.reverse.dropWhile isBlank).reverse

/-- Remove the blanks at both ends. -/
def trimChars (cs : List Char) : List Char :=
  trimEndChars (trimStartChars cs)

/-- A text without the blanks at its ends. -/
def trim (text : String) : String :=
  String.ofList (trimChars text.toList)

theorem trimStartChars_length_le (cs : List Char) :
    (trimStartChars cs).length ≤ cs.length :=
  (List.dropWhile_sublist _).length_le

theorem trimEndChars_length_le (cs : List Char) :
    (trimEndChars cs).length ≤ cs.length := by
  simpa [trimEndChars] using
    (List.dropWhile_sublist (l := cs.reverse) isBlank).length_le

theorem trimChars_length_le (cs : List Char) : (trimChars cs).length ≤ cs.length :=
  Nat.le_trans (trimEndChars_length_le _) (trimStartChars_length_le _)

end TelemetryChannel.Text
