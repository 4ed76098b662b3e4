/-
# What a score can be

The absolute value of a signed word is at most 2 ^ 31, and every number up to there is the hash of
some text. A score is the hash in percent of the greatest word, though, and that is one less: the
least word has no counterpart. So scores are percentages, except for those of the texts that are
hashed to the least word. Their score is a little more than a hundred.
-/

import TelemetryChannel.Proofs.Sampling.Hash

namespace TelemetryChannel.Sampling

open Json

/-- The distance of a number from the nearest multiple of 2 ^ 32. -/
theorem abs_bmod (value : ℤ) :
    |value.bmod (2 ^ 32)| = min (value % 2 ^ 32) (2 ^ 32 - value % 2 ^ 32) := by
  have low := Int.emod_nonneg value (show (2 ^ 32 : ℤ) ≠ 0 by decide)
  have high := Int.emod_lt_of_pos value (show (0 : ℤ) < 2 ^ 32 by decide)
  have wraps : value.bmod (2 ^ 32) =
      if value % 2 ^ 32 < 2 ^ 31 then value % 2 ^ 32 else value % 2 ^ 32 - 2 ^ 32 :=
    Int.bmod_def value (2 ^ 32)
  rw [wraps]
  generalize value % 2 ^ 32 = rest at low high
  split
  · rw [abs_of_nonneg low, min_eq_left (by omega)]
  · rw [abs_of_neg (by omega), min_eq_right (by omega)]
    omega

theorem hash_eq_min {text : String} (filled : text ≠ "") :
    (hash text : ℤ) = min (polynomial 5381 (repeated (unitsOf text)) % 2 ^ 32)
      (2 ^ 32 - polynomial 5381 (repeated (unitsOf text)) % 2 ^ 32) := by
  rw [hash_eq_abs filled, abs_bmod]

theorem hash_empty : hash "" = 0 := by decide +kernel

theorem hash_le (text : String) : hash text ≤ 2147483648 := by
  by_cases filled : text = ""
  · rw [filled, hash_empty]
    exact Nat.zero_le _
  · have exact' := hash_eq_min filled
    omega

/-- The polynomial of the empty text is what all of them start with. -/
theorem hash_le_maxWord_iff (text : String) :
    hash text ≤ maxWord ↔
      polynomial 5381 (repeated (unitsOf text)) % 2 ^ 32 ≠ 2 ^ 31 := by
  by_cases filled : text = ""
  · have none' : repeated (unitsOf "") = [] :=
      repeated_eq_nil_iff.2 (unitsOf_eq_nil_iff.2 rfl)
    rw [filled, hash_empty, none', polynomial_nil]
    decide
  · have exact' := hash_eq_min filled
    rw [maxWord]
    omega

theorem units_ofNat {unit : Nat} (plain : unit < 0xD800) : units (Char.ofNat unit) = [unit] := by
  have same : (Char.ofNat unit).toNat = unit := by
    rw [Char.toNat_ofNat, if_pos (.inl plain)]
  unfold units
  dsimp only
  rw [same, if_pos (by omega)]

theorem unitsOf_ofNats {word : List Nat} (plain : ∀ unit ∈ word, unit < 0xD800) :
    unitsOf (String.ofList (word.map Char.ofNat)) = word := by
  rw [unitsOf, String.toList_ofList]
  induction word with
  | nil => rfl
  | cons unit word ih =>
      rw [List.forall_mem_cons] at plain
      rw [List.map_cons, List.flatMap_cons, units_ofNat plain.1, ih plain.2, List.singleton_append]

/-- Whatever the start is, the units that follow can be digits to the base of thirty-three. -/
theorem exists_polynomial_eq (start : ℤ) {count value : Nat} (small : value < 33 ^ count) :
    ∃ word : List Nat, word.length = count ∧ (∀ unit ∈ word, unit < 33) ∧
      polynomial start word = start * 33 ^ count + value := by
  induction count generalizing start value with
  | zero =>
      have zero : value = 0 := Nat.lt_one_iff.1 small
      refine ⟨[], rfl, nofun, ?_⟩
      rw [polynomial_nil, zero, Nat.cast_zero, pow_zero, mul_one, add_zero]
  | succ count ih =>
      -- The first unit is the highest digit, and the others are those of the remainder.
      obtain ⟨word, length, digits, same⟩ := ih (33 * start + (value / 33 ^ count : Nat))
        (Nat.mod_lt value (Nat.pow_pos (by decide)))
      have first : value / 33 ^ count < 33 := by
        rw [Nat.div_lt_iff_lt_mul (Nat.pow_pos (by decide)), ← Nat.pow_succ']
        exact small
      have whole : (33 ^ count * (value / 33 ^ count : Nat) + (value % 33 ^ count : Nat) : ℤ) =
          value := by
        exact_mod_cast Nat.div_add_mod value (33 ^ count)
      refine ⟨value / 33 ^ count :: word, congrArg Nat.succ length,
        List.forall_mem_cons.2 ⟨first, digits⟩, ?_⟩
      rw [polynomial_cons, same, ← whole, pow_succ]
      ring

/-- Eight characters are enough for every hash. -/
theorem exists_hash_eq {value : Nat} (inRange : value ≤ 2147483648) :
    ∃ text, hash text = value := by
  -- Eight digits reach every remainder, since 2 ^ 32 is less than 33 ^ 8.
  obtain ⟨rest, remains⟩ : ∃ rest : Nat, (rest : ℤ) = (value - 5381 * 33 ^ 8) % 2 ^ 32 :=
    ⟨_, Int.toNat_of_nonneg (Int.emod_nonneg _ (by decide))⟩
  obtain ⟨word, length, digits, same⟩ :=
    exists_polynomial_eq 5381 (show rest < 33 ^ 8 by omega)
  have plain : ∀ unit ∈ word, unit < 0xD800 := by
    intro unit member
    exact Nat.lt_trans (digits unit member) (by decide)
  have unitsOf_text := unitsOf_ofNats plain
  have long : repeated word = word := by
    rw [repeated, if_neg]
    intro short
    rw [length] at short
    exact absurd short.2 (by decide)
  have filled : String.ofList (word.map Char.ofNat) ≠ "" := by
    intro empty
    rw [empty, unitsOf_eq_nil_iff.2 rfl] at unitsOf_text
    rw [← unitsOf_text] at length
    cases length
  refine ⟨String.ofList (word.map Char.ofNat), ?_⟩
  have exact' := hash_eq_min filled
  rw [unitsOf_text, long, same] at exact'
  omega

/-- The score of a text in exact arithmetic. -/
def exactScore (text : String) : ℚ :=
  percent (fun n => (n : ℚ)) (hash text)

theorem exactScore_eq (text : String) : exactScore text = hash text / maxWord * 100 := by
  rw [exactScore, percent]
  norm_num

theorem exactScore_nonneg (text : String) : 0 ≤ exactScore text := by
  rw [exactScore_eq]
  positivity

theorem exactScore_le_hundred_iff (text : String) :
    exactScore text ≤ 100 ↔ hash text ≤ maxWord := by
  have positive : (0 : ℚ) < maxWord := by norm_num [maxWord]
  rw [exactScore_eq, mul_le_iff_le_one_left (by norm_num), div_le_one positive, Nat.cast_le]

/-- Scores are percentages, with one exception. A hash is at most 2 ^ 31, and every number up to
there is the hash of some text. It is more than the greatest signed word if and only if the
polynomial of the text leaves 2 ^ 31, and this is the only case in which the score of an item is no
percentage: it is the hash in percent of the greatest word, in exact arithmetic at least nothing and
at most a hundred otherwise. -/
theorem scores_are_percentages (text : String) :
    hash text ≤ 2147483648 ∧ (∀ value ≤ 2147483648, ∃ other, hash other = value) ∧
      (hash text ≤ 2147483647 ↔
        polynomial 5381 (repeated (unitsOf text)) % 2 ^ 32 ≠ 2 ^ 31) ∧
      ∀ item, key? item = some text →
        (∀ draw, score item draw = percent Float.ofNat (hash text)) ∧
          0 ≤ exactScore text ∧ (exactScore text ≤ 100 ↔ hash text ≤ 2147483647) := by
  refine ⟨hash_le text, fun value => exists_hash_eq, hash_le_maxWord_iff text, ?_⟩
  intro item keyed
  refine ⟨fun draw => ?_, exactScore_nonneg text, exactScore_le_hundred_iff text⟩
  rw [score, keyed]
  rfl

/-- An event that was tracked while `user` was there, with some tags. -/
def eventWhile (user : Item.User) (tags : Entries Json) : Item where
  name := none
  time := none
  instrumentationKey := none
  baseType := some "EventData"
  baseData := some (.object [])
  data := none
  tags := [tags]
  context := { Item.Context.empty with user }

theorem score_of_alice :
    key? (eventWhile ⟨some "alice", none, none⟩ []) = some "alice" ∧ exactScore "alice" ≤ 100 := by
  have keyed : key? (eventWhile ⟨some "alice", none, none⟩ []) = some "alice" := by decide
  have hashed : hash "alice" ≤ 2147483647 := by decide +kernel
  obtain ⟨-, -, -, scored⟩ := scores_are_percentages "alice"
  obtain ⟨-, -, percentage⟩ := scored _ keyed
  exact ⟨keyed, percentage.2 hashed⟩

/-- A guest whose score is more than a hundred, and stays so when it is rounded. -/
theorem score_of_guest_above_hundred :
    key? (eventWhile ⟨some "guest-875669706", none, none⟩ []) = some "guest-875669706" ∧
      ¬ hash "guest-875669706" ≤ 2147483647 ∧ ¬ exactScore "guest-875669706" ≤ 100 ∧
        full < score (eventWhile ⟨some "guest-875669706", none, none⟩ []) 0.0 := by
  have hashed : ¬ hash "guest-875669706" ≤ 2147483647 := by decide +kernel
  refine ⟨by decide, hashed, ?_, by decide +kernel⟩
  rw [exactScore_le_hundred_iff]
  exact hashed

end TelemetryChannel.Sampling
