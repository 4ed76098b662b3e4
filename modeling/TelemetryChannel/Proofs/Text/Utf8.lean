/-
# Text comes back from its bytes

Reading bytes as text never fails, but it is faithful where the bytes are UTF-8: the bytes of a
text are read as that text. So the answer to a request may have any text.
-/

import Mathlib.Tactic.IntervalCases
import TelemetryChannel.Delivery.Dispatch

namespace TelemetryChannel

namespace Text.Utf8

theorem decodeFrom_ascii {n : Nat} (ascii : n < 0x80) (rest : List UInt8) :
    decodeFrom none (UInt8.ofNat n :: rest) = Char.ofNat n :: decodeFrom none rest := by
  have size : (UInt8.ofNat n).toNat = n :=
    UInt8.toNat_ofNat_of_lt' (Nat.lt_trans ascii (by decide))
  have low : UInt8.ofNat n < 0x80 := by
    rw [UInt8.lt_iff_toNat_lt, size]
    exact ascii
  simp only [decodeFrom, lead, if_pos low, size, List.singleton_append]

/-- A first byte that opens a character is remembered. -/
theorem decodeFrom_lead {n : Nat} {pending : Pending} (high : 0x80 ≤ n) (byte : n < 0x100)
    (opens : Pending.ofLead? (UInt8.ofNat n) = some pending) (rest : List UInt8) :
    decodeFrom none (UInt8.ofNat n :: rest) = decodeFrom (some pending) rest := by
  have size : (UInt8.ofNat n).toNat = n := UInt8.toNat_ofNat_of_lt' byte
  have unlow : ¬ UInt8.ofNat n < 0x80 := by
    rw [UInt8.lt_iff_toNat_lt, size]
    exact Nat.not_lt.2 high
  simp only [decodeFrom, lead, if_neg unlow, opens, List.nil_append]

/-- The byte for six bits of a character. -/
def trail (bits : Nat) : UInt8 :=
  UInt8.ofNat (bits + 0x80)

theorem toNat_trail {bits : Nat} (six : bits < 64) : (trail bits).toNat = bits + 0x80 :=
  UInt8.toNat_ofNat_of_lt' (Nat.lt_of_lt_of_le (Nat.add_lt_add_right six _) (by decide))

theorem within_trail {bits : Nat} {low high : UInt8} (six : bits < 64)
    (above : low.toNat ≤ bits + 0x80) (below : bits + 0x80 ≤ high.toNat) :
    low ≤ trail bits ∧ trail bits ≤ high := by
  rw [UInt8.le_iff_toNat_le, UInt8.le_iff_toNat_le, toNat_trail six]
  exact ⟨above, below⟩

/-- The last byte of a character gives the character. -/
theorem decodeFrom_last {bits code : Nat} {low high : UInt8} (six : bits < 64)
    (above : low.toNat ≤ bits + 0x80) (below : bits + 0x80 ≤ high.toNat) (rest : List UInt8) :
    decodeFrom (some ⟨1, low, high, code⟩) (trail bits :: rest) =
      Char.ofNat (code * 64 + bits) :: decodeFrom none rest := by
  simp only [decodeFrom, Pending.next, if_pos (within_trail six above below), toNat_trail six,
    Nat.add_sub_cancel, List.singleton_append]

/-- A byte in the middle of a character is remembered. -/
theorem decodeFrom_middle {bits code missing : Nat} {low high : UInt8} (six : bits < 64)
    (above : low.toNat ≤ bits + 0x80) (below : bits + 0x80 ≤ high.toNat) (rest : List UInt8) :
    decodeFrom (some ⟨missing + 2, low, high, code⟩) (trail bits :: rest) =
      decodeFrom (some ⟨missing + 1, 0x80, 0xBF, code * 64 + bits⟩) rest := by
  simp only [decodeFrom, Pending.next, if_pos (within_trail six above below), toNat_trail six,
    Nat.add_sub_cancel, List.nil_append]

theorem ofLead?_two {bits : Nat} (least : 2 ≤ bits) (five : bits < 32) :
    Pending.ofLead? (UInt8.ofNat (bits + 0xC0)) = some ⟨1, 0x80, 0xBF, bits⟩ := by
  interval_cases bits <;> rfl

theorem ofLead?_three {bits : Nat} (four : bits < 16) :
    Pending.ofLead? (UInt8.ofNat (bits + 0xE0)) =
      some ⟨2, if bits = 0 then 0xA0 else 0x80, if bits = 13 then 0x9F else 0xBF, bits⟩ := by
  interval_cases bits <;> rfl

theorem ofLead?_four {bits : Nat} (five : bits < 5) :
    Pending.ofLead? (UInt8.ofNat (bits + 0xF0)) =
      some ⟨3, if bits = 0 then 0x90 else 0x80, if bits = 4 then 0x8F else 0xBF, bits⟩ := by
  interval_cases bits <;> rfl

theorem decodeFrom_utf8EncodeChar (c : Char) (rest : List UInt8) :
    decodeFrom none (String.utf8EncodeChar c ++ rest) = c :: decodeFrom none rest := by
  have valid : c.toNat < 0xD800 ∨ 0xDFFF < c.toNat ∧ c.toNat < 0x110000 := c.valid
  have number : c.val.toNat = c.toNat := rfl
  have whole {n : Nat} (same : n = c.toNat) : Char.ofNat n = c := by
    rw [same, Char.ofNat_toNat]
  rw [String.utf8EncodeChar]
  simp only [number]
  split
  · rename_i one
    rw [List.singleton_append, decodeFrom_ascii (by omega), whole rfl]
  split
  · rename_i two
    have leading : c.toNat / 64 % 32 = c.toNat / 64 := by omega
    rw [List.cons_append, List.singleton_append, leading,
      decodeFrom_lead (by omega) (by omega) (ofLead?_two (by omega) (by omega))]
    exact (decodeFrom_last (by omega) (by simp) (by simp; omega) rest).trans
      (congrArg (· :: _) (whole (by omega)))
  split
  · rename_i three
    have leading : c.toNat / 4096 % 16 = c.toNat / 4096 := by omega
    rw [List.cons_append, List.cons_append, List.singleton_append, leading,
      decodeFrom_lead (by omega) (by omega) (ofLead?_three (by omega))]
    refine (decodeFrom_middle (by omega) ?_ ?_ _).trans ?_
    · split
      · simp; omega
      · simp
    · split
      · simp; omega
      · simp; omega
    exact (decodeFrom_last (by omega) (by simp) (by simp; omega) rest).trans
      (congrArg (· :: _) (whole (by omega)))
  · rename_i four
    have leading : c.toNat / 262144 % 8 = c.toNat / 262144 := by omega
    rw [List.cons_append, List.cons_append, List.cons_append, List.singleton_append, leading,
      decodeFrom_lead (by omega) (by omega) (ofLead?_four (by omega))]
    refine (decodeFrom_middle (by omega) ?_ ?_ _).trans ?_
    · split
      · simp; omega
      · simp
    · split
      · simp; omega
      · simp; omega
    refine (decodeFrom_middle (by omega) (by simp) (by simp; omega) _).trans ?_
    exact (decodeFrom_last (by omega) (by simp) (by simp; omega) rest).trans
      (congrArg (· :: _) (whole (by omega)))

/-- The bytes of a text are read as the text. -/
theorem decode_utf8EncodeChar (text : String) :
    decode (text.toList.flatMap String.utf8EncodeChar) = text := by
  have chars : ∀ chars : List Char,
      decodeFrom none (chars.flatMap String.utf8EncodeChar) = chars := by
    intro chars
    induction chars with
    | nil => rfl
    | cons c rest ih => rw [List.flatMap_cons, decodeFrom_utf8EncodeChar, ih]
  rw [decode, chars, String.ofList_toList]

end Text.Utf8

namespace Delivery

/-- An answer may have any status and any text. -/
theorem Response.exists_text (status : Nat) (text : String) :
    ∃ response : Response, response.status = status ∧ response.text = text :=
  ⟨⟨status, text.toList.flatMap String.utf8EncodeChar⟩, rfl, Text.Utf8.decode_utf8EncodeChar text⟩

end Delivery

end TelemetryChannel
