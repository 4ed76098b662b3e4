/-
# Places between characters

The bytes of a text that is put together are the bytes of its parts. So the number of bytes in front
of a character is an index where a text can be cut, and what is found at that index is the first
byte of the character. ASCII characters are their own bytes, and no other character has a byte that
could be taken for one of them.
-/

import TelemetryChannel.Text.Utf8

namespace TelemetryChannel.Text

variable {front behind text : List Char}

theorem bytes_cons (c : Char) (rest : List Char) :
    bytes (c :: rest) = String.utf8EncodeChar c ++ bytes rest :=
  List.flatMap_cons

theorem bytes_append (front behind : List Char) :
    bytes (front ++ behind) = bytes front ++ bytes behind :=
  List.flatMap_append

/-- What is at the index behind the bytes of a text is what follows. -/
theorem getElem?_bytes (front behind : List Char) :
    (bytes (front ++ behind))[(bytes front).length]? = (bytes behind).head? := by
  rw [bytes_append, List.getElem?_append_right (Nat.le_refl _), Nat.sub_self,
    List.head?_eq_getElem?]

theorem drop_bytes (front behind : List Char) :
    (bytes (front ++ behind)).drop (bytes front).length = bytes behind := by
  rw [bytes_append, List.drop_left]

theorem length_bytes_cons (c : Char) (rest : List Char) :
    (bytes (c :: rest)).length = c.utf8Size + (bytes rest).length := by
  rw [bytes_cons, List.length_append, String.length_utf8EncodeChar]

/-- A text is cut between its characters and nowhere else. -/
theorem cutAt?_eq_some {index : Nat} :
    cutAt? index text = some (front, behind) ↔
      text = front ++ behind ∧ index = (bytes front).length := by
  fun_induction cutAt? index text generalizing front with
  | case1 text =>
      simp only [Option.some.injEq, Prod.mk.injEq]
      constructor
      · rintro ⟨rfl, rfl⟩
        exact ⟨rfl, rfl⟩
      · rintro ⟨rfl, empty⟩
        cases front with
        | nil => exact ⟨rfl, rfl⟩
        | cons c rest =>
            have size := c.utf8Size_pos
            rw [length_bytes_cons] at empty
            omega
  | case2 index =>
      refine ⟨nofun, fun ⟨none', some'⟩ => ?_⟩
      rw [(List.append_eq_nil_iff.1 none'.symm).1] at some'
      cases some'
  | case3 index c rest fits ih =>
      simp only [Option.bind_eq_bind, Option.bind_eq_some_iff, Prod.exists, Option.some.injEq,
        Prod.mk.injEq]
      constructor
      · rintro ⟨before, _, cut, rfl, rfl⟩
        obtain ⟨rfl, same⟩ := ih.1 cut
        refine ⟨rfl, ?_⟩
        rw [length_bytes_cons]
        omega
      · rintro ⟨split, same⟩
        cases front with
        | nil => cases same
        | cons first front =>
            obtain ⟨rfl, rfl⟩ := List.cons.inj split
            rw [length_bytes_cons] at same
            exact ⟨front, behind, ih.2 ⟨rfl, by omega⟩, rfl, rfl⟩
  | case4 index c rest inside =>
      refine ⟨nofun, fun ⟨split, same⟩ => ?_⟩
      cases front with
      | nil => cases same
      | cons first front =>
          obtain ⟨rfl, -⟩ := List.cons.inj split
          rw [length_bytes_cons] at same
          omega

/-- The first byte of a character is the character itself, if that is ASCII, or else it is none
that is. -/
theorem utf8EncodeChar_cases (c : Char) :
    ∃ first others, String.utf8EncodeChar c = first :: others ∧
      (c.toNat < 0x80 ∧ first.toNat = c.toNat ∧ others = [] ∨
        0x80 ≤ c.toNat ∧ 0x80 ≤ first.toNat) := by
  have number : c.val.toNat = c.toNat := rfl
  rw [String.utf8EncodeChar]
  simp only [number]
  split
  · have fits : c.toNat < 2 ^ 8 := Nat.lt_of_le_of_lt ‹_› (by decide)
    exact ⟨_, _, rfl, .inl ⟨by omega, UInt8.toNat_ofNat_of_lt' fits, rfl⟩⟩
  split
  · exact ⟨_, _, rfl, .inr ⟨by omega, by simp; omega⟩⟩
  split
  · exact ⟨_, _, rfl, .inr ⟨by omega, by simp; omega⟩⟩
  · exact ⟨_, _, rfl, .inr ⟨by omega, by simp; omega⟩⟩

/-- A test of bytes does for ASCII characters what a test of characters does, and no other
characters pass either of them. -/
structure Tests (byteTest : UInt8 → Bool) (test : Char → Bool) : Prop where
  ascii : ∀ (c : Char) (byte : UInt8), c.toNat < 0x80 → byte.toNat = c.toNat →
    byteTest byte = test c
  chars : ∀ c : Char, 0x80 ≤ c.toNat → test c = false
  bytes : ∀ byte : UInt8, 0x80 ≤ byte.toNat → byteTest byte = false

namespace Tests

variable {byteTest : UInt8 → Bool} {test : Char → Bool} (tests : Tests byteTest test)
include tests

/-- What is at an index is tested as the character there. -/
theorem any_getElem? (front behind : List Char) :
    ((Text.bytes (front ++ behind))[(Text.bytes front).length]?.any byteTest) =
      behind.head?.any test := by
  rw [getElem?_bytes]
  cases behind with
  | nil => rfl
  | cons c rest =>
      obtain ⟨first, others, encoded, ⟨ascii, same, -⟩ | ⟨high, high'⟩⟩ := utf8EncodeChar_cases c
      · simp [bytes_cons, encoded, tests.ascii c first ascii same]
      · simp [bytes_cons, encoded, tests.chars c high, tests.bytes first high']

/-- A run of bytes that pass is as long as the run of characters. -/
theorem length_takeWhile (text : List Char) :
    ((Text.bytes text).takeWhile byteTest).length = (text.takeWhile test).length := by
  induction text with
  | nil => rfl
  | cons c rest ih =>
      obtain ⟨first, others, encoded, ⟨ascii, same, rfl⟩ | ⟨high, high'⟩⟩ := utf8EncodeChar_cases c
      · rw [bytes_cons, encoded, List.singleton_append, List.takeWhile_cons, List.takeWhile_cons,
          tests.ascii c first ascii same]
        split <;> simp [ih]
      · rw [bytes_cons, encoded, List.cons_append, List.takeWhile_cons, List.takeWhile_cons,
          tests.bytes first high', tests.chars c high]
        rfl

/-- Characters that pass take one byte each. -/
theorem length_bytes {run : List Char} (passes : ∀ c ∈ run, test c = true) :
    (Text.bytes run).length = run.length := by
  induction run with
  | nil => rfl
  | cons c rest ih =>
      obtain ⟨here, later⟩ := List.forall_mem_cons.1 passes
      obtain ⟨first, others, encoded, ⟨ascii, same, rfl⟩ | ⟨high, -⟩⟩ := utf8EncodeChar_cases c
      · rw [bytes_cons, encoded, List.singleton_append, List.length_cons, ih later,
          List.length_cons]
      · exact absurd here (tests.chars c high ▸ Bool.false_ne_true)

end Tests

end TelemetryChannel.Text
