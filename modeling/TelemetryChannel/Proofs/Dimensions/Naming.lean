/-
# Names for keys

A key that cleaning does not change keeps its name, whoever has it already. For any other key
names are tried, one after the other, until one is free: the cleaned key itself, and then its
beginning with a number behind it. Of that number the last three digits are written, so the
numbers come around after a thousand, and the search ends if and only if one of a thousand and
one names is free. It ends next to less than a thousand names, and a name that it finds is new.
-/

import Mathlib.Data.List.Nodup
import Mathlib.Data.List.Perm.Subperm
import TelemetryChannel.Proofs.Decimal.Digits
import TelemetryChannel.Proofs.Dimensions.Cleaning

namespace TelemetryChannel

open Json

namespace Decimal

/-- The last three characters of some digits. -/
def lastThree (digits : List Char) : List Char :=
  digits.drop (digits.length - 3)

/-- The hundreds, the tens and the ones of a number. -/
def threeDigits (number : Nat) : List Char :=
  [Nat.digitChar (number / 100 % 10), Nat.digitChar (number / 10 % 10),
    Nat.digitChar (number % 10)]

theorem lastThree_append (front : List Char) {three : List Char} (length : three.length = 3) :
    lastThree (front ++ three) = three := by
  have here : (front ++ three).length - 3 = front.length := by
    rw [List.length_append, length, Nat.add_sub_cancel]
  rw [lastThree, here, List.drop_left]

theorem exists_toDigits (number : Nat) :
    ∃ front, Nat.toDigits 10 number = front ++ [Nat.digitChar (number % 10)] := by
  by_cases small : number < 10
  · refine ⟨[], ?_⟩
    rw [Nat.toDigits_of_lt_base small, Nat.mod_eq_of_lt small, List.nil_append]
  · exact ⟨_, Nat.toDigits_of_base_le (by decide) (Nat.not_lt.1 small)⟩

theorem exists_zeros_toDigits (number : Nat) :
    ∃ front, '0' :: '0' :: Nat.toDigits 10 number = front ++ threeDigits number := by
  by_cases one : number < 10
  · have tens : number / 10 = 0 := Nat.div_eq_of_lt one
    have hundreds : number / 100 = 0 := by omega
    refine ⟨[], ?_⟩
    rw [Nat.toDigits_of_lt_base one, threeDigits, hundreds, tens, Nat.mod_eq_of_lt one]
    rfl
  rw [Nat.toDigits_of_base_le (by decide) (Nat.not_lt.1 one)]
  by_cases two : number / 10 < 10
  · have hundreds : number / 100 = 0 := by omega
    refine ⟨['0'], ?_⟩
    rw [Nat.toDigits_of_lt_base two, threeDigits, hundreds, Nat.mod_eq_of_lt two]
    rfl
  · obtain ⟨front, digits⟩ := exists_toDigits (number / 10 / 10)
    refine ⟨'0' :: '0' :: front, ?_⟩
    rw [Nat.toDigits_of_base_le (by decide) (Nat.not_lt.1 two), digits, Nat.div_div_eq_div_mul,
      threeDigits]
    simp

theorem lastThree_zeros_toDigits (number : Nat) :
    lastThree ('0' :: '0' :: Nat.toDigits 10 number) = threeDigits number := by
  obtain ⟨front, split⟩ := exists_zeros_toDigits number
  rw [split, lastThree_append front rfl]

theorem threeDigits_mod (number : Nat) : threeDigits (number % 1000) = threeDigits number := by
  have hundreds : number % 1000 / 100 % 10 = number / 100 % 10 := by omega
  have tens : number % 1000 / 10 % 10 = number / 10 % 10 := by omega
  have ones : number % 1000 % 10 = number % 10 := by omega
  rw [threeDigits, hundreds, tens, ones, threeDigits]

theorem padded_three (number : Nat) : padded 3 (number % 1000) = threeDigits number := by
  rw [← threeDigits_mod, ← lastThree_zeros_toDigits]
  have written : 0 < (Nat.toDigits 10 (number % 1000)).length := Nat.length_toDigits_pos
  have short : (Nat.toDigits 10 (number % 1000)).length ≤ 3 :=
    (Nat.length_toDigits_le_iff (by decide) (by decide)).2 (Nat.mod_lt number (by decide))
  have split : '0' :: '0' :: Nat.toDigits 10 (number % 1000) =
      List.replicate ((Nat.toDigits 10 (number % 1000)).length - 1) '0' ++
        padded 3 (number % 1000) := by
    have two : (Nat.toDigits 10 (number % 1000)).length - 1 +
        (3 - (Nat.toDigits 10 (number % 1000)).length) = 2 := by omega
    rw [padded, ← List.append_assoc, List.replicate_append_replicate, two]
    rfl
  rw [split, lastThree_append _ (Dimensions.length_padded_three number)]

theorem threeDigits_inj {first second : Nat} :
    threeDigits first = threeDigits second ↔ first % 1000 = second % 1000 := by
  have injective : ∀ a < 10, ∀ b < 10, Nat.digitChar a = Nat.digitChar b → a = b := by decide
  constructor
  · intro same
    simp only [threeDigits, List.cons.injEq, and_true] at same
    obtain ⟨hundreds, tens, ones⟩ := same
    have h := injective _ (Nat.mod_lt _ (by decide)) _ (Nat.mod_lt _ (by decide)) hundreds
    have t := injective _ (Nat.mod_lt _ (by decide)) _ (Nat.mod_lt _ (by decide)) tens
    have o := injective _ (Nat.mod_lt _ (by decide)) _ (Nat.mod_lt _ (by decide)) ones
    omega
  · intro same
    rw [← threeDigits_mod, same, threeDigits_mod]

end Decimal

namespace Text

/-- A text that is as long without the blanks around it has none. -/
theorem trim_eq_of_length_eq {text : String}
    (same : (trim text).toList.length = text.toList.length) : trim text = text := by
  have ends : (trimChars text.toList).Sublist (trimStartChars text.toList) := by
    rw [trimChars, trimEndChars, ← List.reverse_sublist, List.reverse_reverse]
    exact List.dropWhile_sublist _
  have within : (trimChars text.toList).Sublist text.toList :=
    ends.trans (List.dropWhile_sublist _)
  rw [trim, String.toList_ofList] at same
  rw [trim, within.eq_of_length same, String.ofList_toList]

theorem length_trim_le (text : String) : (trim text).toList.length ≤ text.toList.length := by
  rw [trim, String.toList_ofList]
  exact trimChars_length_le _

end Text

namespace Dimensions

variable {key name : String} {taken : Entries Json} {start count : Nat}

/-- A key without the blanks around it, as far as a name may go. -/
def cleaned (key : String) : String :=
  Text.clip Limit.name.length (Text.trim key)

theorem value_apply_name (key : String) : (Limit.name.apply key).value = cleaned key := by
  have trims : (if Limit.name.trims then Text.trim key else key) = Text.trim key := rfl
  unfold Limit.apply
  rw [trims, cleaned]
  dsimp only
  split
  · rfl
  · rename_i short
    rw [Text.clip_of_length_le (Nat.not_lt.1 short)]

theorem length_cleaned (key : String) :
    (cleaned key).toList.length = min 150 (Text.trim key).toList.length := by
  rw [cleaned, Text.clip, String.toList_ofList, List.length_take]
  rfl

/-- Cleaning shortens every key that is not clean. -/
theorem length_cleaned_eq_iff :
    (cleaned key).toList.length = key.toList.length ↔ CleanKey key := by
  have trimmed := Text.length_trim_le key
  rw [length_cleaned]
  constructor
  · intro same
    have equal : Text.trim key = key := Text.trim_eq_of_length_eq (by omega)
    refine ⟨equal, ?_⟩
    omega
  · rintro ⟨equal, short⟩
    rw [equal, Nat.min_eq_right short]

/-- A text below the limit is what a key becomes exactly if it is the key without blanks. -/
theorem cleaned_eq_iff (short : name.toList.length < 150) :
    cleaned key = name ↔ Text.trim key = name := by
  have limit : Limit.name.length = 150 := rfl
  have fits (kept : (Text.trim key).toList.length ≤ 150) : cleaned key = Text.trim key := by
    rw [cleaned, Text.clip_of_length_le (limit ▸ kept)]
  constructor
  · intro same
    have length := length_cleaned key
    rw [same] at length
    rw [← same, fits (by omega)]
  · intro same
    rw [fits (same ▸ short.le), same]

/-- The name that is tried after so many others. Of a number the last three digits are written,
with zeros in front of them. -/
def tried (key : String) : Nat → String
  | 0 => cleaned key
  | count + 1 =>
    Text.clip (Limit.name.length - 3) (cleaned key) ++
      String.ofList (Decimal.lastThree ('0' :: '0' :: Nat.toDigits 10 (count + 1)))

theorem tried_succ (key : String) (count : Nat) :
    tried key (count + 1) = numberedKey (cleaned key) (count + 1) := by
  rw [tried, numberedKey, Decimal.lastThree_zeros_toDigits, Decimal.padded_three]

/-- A name with a number behind it says what the number is, up to thousands. -/
theorem tried_succ_inj {first second : Nat} :
    tried key (first + 1) = tried key (second + 1) ↔ (first + 1) % 1000 = (second + 1) % 1000 := by
  rw [tried, tried, Decimal.lastThree_zeros_toDigits, Decimal.lastThree_zeros_toDigits,
    ← Decimal.threeDigits_inj, ← String.toList_inj]
  simp

/-- A name with a number behind it ends in a digit. -/
theorem getLast?_tried_succ (key : String) (count : Nat) :
    (tried key (count + 1)).toList.getLast? = some (Nat.digitChar ((count + 1) % 10)) := by
  rw [tried, Decimal.lastThree_zeros_toDigits, String.toList_append, String.toList_ofList,
    List.getLast?_append]
  rfl

/-- The names come around. -/
theorem exists_tried_eq (key : String) (count : Nat) :
    ∃ early ≤ 1000, tried key early = tried key count := by
  cases count with
  | zero => exact ⟨0, Nat.zero_le _, rfl⟩
  | succ count =>
      refine ⟨count % 1000 + 1, Nat.succ_le_of_lt (Nat.mod_lt _ (by decide)), ?_⟩
      rw [tried_succ_inj]
      omega

/-- Next to less than a thousand names, one with a number is free. -/
theorem exists_tried_notMem (key : String) (few : taken.length < 1000) :
    ∃ count, tried key count ∉ taken.keys := by
  by_contra all
  have within : (List.range 1000).map (fun count => tried key (count + 1)) ⊆ taken.keys := by
    intro name member
    obtain ⟨count, -, rfl⟩ := List.mem_map.1 member
    exact Classical.not_not.1 (not_exists.1 all (count + 1))
  have distinct : ((List.range 1000).map fun count => tried key (count + 1)).Nodup := by
    refine List.nodup_range.map_on fun first early second late same => ?_
    rw [tried_succ_inj] at same
    rw [List.mem_range] at early late
    omega
  have room := (List.subperm_of_subset distinct within).length_le
  rw [List.length_map, List.length_range, Entries.keys, List.length_map] at room
  omega

/-- A name is found by trying one name after the other, from some point on: the first one that
is free. -/
inductive Finds (key : String) (taken : Entries Json) : Nat → String → Prop
  | free {count : Nat} (isFree : tried key count ∉ taken.keys) :
      Finds key taken count (tried key count)
  | next {count : Nat} {name : String} (isTaken : tried key count ∈ taken.keys)
      (later : Finds key taken (count + 1) name) : Finds key taken count name

theorem Finds.exists (finds : Finds key taken start name) :
    ∃ count, name = tried key count ∧ tried key count ∉ taken.keys := by
  induction finds with
  | free isFree => exact ⟨_, rfl, isFree⟩
  | next _ _ ih => exact ih

/-- The search finds one name only. -/
theorem Finds.unique {other : String} (finds : Finds key taken start name)
    (too : Finds key taken start other) : name = other := by
  induction finds with
  | free isFree =>
      cases too with
      | free => rfl
      | next isTaken => exact absurd isTaken isFree
  | next isTaken _ ih =>
      cases too with
      | free isFree => exact absurd isTaken isFree
      | next _ later => exact ih later

theorem finds_of_first {first : Nat} (isFree : tried key first ∉ taken.keys)
    (before : ∀ count, start ≤ count → count < first → tried key count ∈ taken.keys)
    (ahead : start ≤ first) : Finds key taken start (tried key first) := by
  induction ahead using Nat.decreasingInduction with
  | self => exact .free isFree
  | of_succ count behind ih =>
      refine .next (before count (Nat.le_refl _) behind) (ih fun other after => ?_)
      exact before other (Nat.le_of_succ_le after)

/-- All names that are tried for a key that is not clean are taken. -/
def Exhausts (taken : Entries Json) (key : String) : Prop :=
  ¬ CleanKey key ∧ ∀ count, tried key count ∈ taken.keys

/-- The thousand names with a number that are looked at are those that are tried. -/
theorem finds_of_firstFree? (isTaken : cleaned key ∈ taken.keys)
    (found : firstFree? (cleaned key) taken = some name) : Finds key taken 0 name := by
  obtain ⟨number, first, rfl⟩ := Option.map_eq_some_iff.1 found
  obtain ⟨isFree, -, before⟩ := List.find?_range_eq_some.1 first
  rw [← tried_succ] at isFree ⊢
  apply finds_of_first
  · intro present
    rw [Entries.has_eq_true_iff.2 present] at isFree
    cases isFree
  · intro count _ early
    cases count with
    | zero => exact isTaken
    | succ count =>
        have present := before count (Nat.lt_of_succ_lt_succ early)
        rw [← tried_succ, Bool.not_not] at present
        exact Entries.has_eq_true_iff.1 present
  · exact Nat.zero_le _

theorem tried_mem_of_firstFree? (isTaken : cleaned key ∈ taken.keys)
    (none' : firstFree? (cleaned key) taken = none) (count : Nat) :
    tried key count ∈ taken.keys := by
  obtain ⟨early, within, same⟩ := exists_tried_eq key count
  rw [← same]
  cases early with
  | zero => exact isTaken
  | succ early =>
      have present := List.find?_range_eq_none.1 (Option.map_eq_none_iff.1 none') early within
      rw [← tried_succ, Bool.not_not] at present
      exact Entries.has_eq_true_iff.1 present

theorem found_cleanKey_of_not_clean (unclean : ¬ CleanKey key) (taken : Entries Json) :
    (cleanKey key taken).found =
      if cleaned key ∈ taken.keys then firstFree? (cleaned key) taken else some (cleaned key) := by
  unfold cleanKey
  rw [Sought.found_bind, Sought.found_lift, value_apply_name, Option.bind_some,
    if_neg fun same => unclean (length_cleaned_eq_iff.1 same)]
  by_cases isTaken : cleaned key ∈ taken.keys
  · rw [Entries.has_eq_true_iff.2 isTaken, if_pos isTaken, Bool.not_true, if_neg Bool.false_ne_true,
      Sought.found_ofOption]
  · have isFree : taken.has (cleaned key) = false :=
      Bool.eq_false_iff.2 fun has => isTaken (Entries.has_eq_true_iff.1 has)
    rw [isFree, if_neg isTaken, Bool.not_false, if_pos rfl, Sought.found_pure]

theorem finds_of_found_cleanKey (unclean : ¬ CleanKey key)
    (found : (cleanKey key taken).found = some name) : Finds key taken 0 name := by
  rw [found_cleanKey_of_not_clean unclean] at found
  by_cases isTaken : cleaned key ∈ taken.keys
  · rw [if_pos isTaken] at found
    exact finds_of_firstFree? isTaken found
  · rw [if_neg isTaken] at found
    rw [← Option.some.inj found]
    exact .free isTaken

/-- The search never ends if and only if every name that it tries is taken. -/
theorem found_cleanKey_eq_none_iff : (cleanKey key taken).found = none ↔ Exhausts taken key := by
  by_cases clean : CleanKey key
  · rw [cleanKey_of_clean clean]
    exact ⟨fun never => (Option.some_ne_none _ never).elim, fun exhausts => absurd clean exhausts.1⟩
  rw [found_cleanKey_of_not_clean clean]
  constructor
  · intro never
    by_cases isTaken : cleaned key ∈ taken.keys
    · rw [if_pos isTaken] at never
      exact ⟨clean, tried_mem_of_firstFree? isTaken never⟩
    · rw [if_neg isTaken] at never
      exact (Option.some_ne_none _ never).elim
  · rintro ⟨-, all⟩
    have isTaken : cleaned key ∈ taken.keys := all 0
    rw [if_pos isTaken, Option.eq_none_iff_forall_ne_some]
    intro name found
    obtain ⟨count, -, isFree⟩ := (finds_of_firstFree? isTaken found).exists
    exact isFree (all count)

/-- A clean key keeps its name, and any other one gets the name that is found by trying, if there is
one. -/
theorem found_cleanKey_iff : (cleanKey key taken).found = some name ↔
    (CleanKey key ∧ name = key) ∨ (¬ CleanKey key ∧ Finds key taken 0 name) := by
  by_cases clean : CleanKey key
  · rw [cleanKey_of_clean clean]
    simp [clean, eq_comm]
  constructor
  · intro found
    exact .inr ⟨clean, finds_of_found_cleanKey clean found⟩
  · rintro (⟨isClean, -⟩ | ⟨-, finds⟩)
    · exact absurd isClean clean
    · cases found : (cleanKey key taken).found with
      | none =>
          obtain ⟨count, -, isFree⟩ := finds.exists
          exact absurd ((found_cleanKey_eq_none_iff.1 found).2 count) isFree
      | some other => rw [(finds_of_found_cleanKey clean found).unique finds]

theorem exists_found_cleanKey (key : String) (few : taken.length < 1000) :
    ∃ name, (cleanKey key taken).found = some name := by
  obtain ⟨count, isFree⟩ := exists_tried_notMem key few
  apply Option.ne_none_iff_exists'.1
  intro never
  exact isFree ((found_cleanKey_eq_none_iff.1 never).2 count)

end Dimensions

end TelemetryChannel
