/-
# The order of the fields of a connection string

A connection string is what its segments give when they are joined by semicolons. What it
says depends on its segments in two ways only: whether all of them that are not blank are
fields, and what the last field with each of five names says. So the order of fields with
different names makes no difference, nor do blank segments, fields with other names and
fields whose name comes again.
-/

import Mathlib.Data.List.Nodup
import TelemetryChannel.Proofs.Text.Pieces
import TelemetryChannel.Settings.ConnectionString

namespace TelemetryChannel.ConnectionString

open Text

/-- The text of some segments with semicolons between them. -/
def joined (segments : List String) : String :=
  ";".intercalate segments

/-- Every text is joined of segments. -/
theorem exists_joined (text : String) :
    ∃ segments, (∀ segment ∈ segments, ';' ∉ segment.toList) ∧ joined segments = text := by
  refine ⟨(split ';' text.toList).map String.ofList, fun segment member => ?_, ?_⟩
  · obtain ⟨piece, there, rfl⟩ := List.mem_map.1 member
    rw [String.toList_ofList]
    exact notMem_of_mem_split there
  · apply String.toList_injective
    have pieces : ((split ';' text.toList).map String.ofList).map String.toList =
        split ';' text.toList := by
      simp [Function.comp_def]
    rw [joined, String.toList_intercalate, pieces, split_eq_splitOn]
    exact List.intercalate_splitOn ';'

/-- A segment with nothing but blanks. -/
def IsBlank (segment : String) : Prop :=
  trimChars segment.toList = []

instance (segment : String) : Decidable (IsBlank segment) :=
  inferInstanceAs (Decidable (trimChars segment.toList = []))

/-- A segment that is a key and a value with the only equals sign between them. -/
structure IsField (segment key value : String) : Prop where
  text : segment = key ++ "=" ++ value
  key : '=' ∉ key.toList
  value : '=' ∉ value.toList

/-- The name that a key stands for: without the blanks around it and in lower case. -/
def nameOf (key : String) : String :=
  folded (trim key)

/-- The name and the value of a segment that is a field. -/
def field? (segment : String) : Option Field :=
  (field segment.toList).toOption

/-- The name of a segment that is a field. -/
def nameIn? (segment : String) : Option String :=
  (field? segment).map Prod.fst

variable {segment key value name : String}

theorem field?_eq_some_iff : field? segment = some (name, value) ↔
    ∃ key, IsField segment key value ∧ name = nameOf key := by
  have text_iff (first second : List Char) : segment.toList = first ++ '=' :: second ↔
      segment = String.ofList first ++ "=" ++ String.ofList second := by
    rw [← String.toList_inj]
    simp
  unfold field? field
  constructor
  · intro read
    split at read
    · rename_i first second pieces
      obtain ⟨rfl, rfl⟩ := Prod.mk.inj (Option.some.inj read)
      obtain ⟨text, noFirst, noSecond⟩ := split_eq_pair_iff.1 pieces
      refine ⟨String.ofList first, ⟨(text_iff _ _).1 text, ?_, ?_⟩, ?_⟩
      · rwa [String.toList_ofList]
      · rwa [String.toList_ofList]
      · rw [nameOf, trim, String.toList_ofList]
    · cases read
  · rintro ⟨key, ⟨rfl, noKey, noValue⟩, rfl⟩
    have pieces : split '=' (key ++ "=" ++ value).toList = [key.toList, value.toList] :=
      split_eq_pair_iff.2 ⟨by simp, noKey, noValue⟩
    simp only [pieces, String.ofList_toList]
    rfl

/-- The names of the segments are those of the fields. -/
theorem nameIn?_eq_some_iff :
    nameIn? segment = some name ↔ ∃ key value, IsField segment key value ∧ name = nameOf key := by
  unfold nameIn?
  constructor
  · intro named
    obtain ⟨⟨name, value⟩, read, rfl⟩ := Option.map_eq_some_iff.1 named
    obtain ⟨key, isField, same⟩ := field?_eq_some_iff.1 read
    exact ⟨key, value, isField, same⟩
  · rintro ⟨key, value, isField, same⟩
    exact Option.map_eq_some_iff.2 ⟨_, field?_eq_some_iff.2 ⟨key, isField, same⟩, rfl⟩

/-- A blank segment is no field. -/
theorem field?_of_isBlank (blank : IsBlank segment) : field? segment = none := by
  rw [Option.eq_none_iff_forall_ne_some]
  rintro ⟨name, value⟩ read
  obtain ⟨key, ⟨rfl, -⟩, -⟩ := field?_eq_some_iff.1 read
  have equals : isBlank '=' = true := trimChars_eq_nil_iff.1 blank '=' (by simp)
  exact absurd equals (by decide)

/-- All segments that are not blank are fields. -/
def Readable (segments : List String) : Prop :=
  ∀ segment ∈ segments, ¬ IsBlank segment → (field? segment).isSome

instance (segments : List String) : Decidable (Readable segments) :=
  inferInstanceAs (Decidable (∀ segment ∈ segments, _))

theorem readable_cons {segments : List String} : Readable (segment :: segments) ↔
    (¬ IsBlank segment → (field? segment).isSome) ∧ Readable segments :=
  List.forall_mem_cons

theorem field_eq (segment : String) : field segment.toList =
    match field? segment with
    | some found => .ok found
    | none => .error .invalidFormat := by
  unfold field? field
  split <;> rfl

variable {segments others : List String}

theorem fields_eq_mapM (whole : ∀ segment ∈ segments, ';' ∉ segment.toList) :
    fields (joined segments) =
      (segments.filter fun segment => ¬ IsBlank segment).mapM fun segment =>
        field segment.toList := by
  cases segments with
  | nil => rfl
  | cons first rest =>
      have pieces : split ';' (joined (first :: rest)).toList =
          (first :: rest).map String.toList := by
        rw [joined, String.toList_intercalate, split_eq_splitOn]
        refine List.splitOn_intercalate ';' ?_ (List.cons_ne_nil _ _)
        simpa using whole
      rw [fields, pieces, List.filter_map, List.mapM_map]
      congr 1
      refine List.filter_congr fun segment _ => ?_
      rw [Bool.eq_iff_iff, decide_eq_true_iff]
      exact bne_iff_ne

/-- The fields of joined segments are those of the segments, if all that are not blank are
fields. -/
theorem fields_joined (whole : ∀ segment ∈ segments, ';' ∉ segment.toList) :
    fields (joined segments) =
      if Readable segments then .ok (segments.filterMap field?) else .error .invalidFormat := by
  rw [fields_eq_mapM whole]
  clear whole
  induction segments with
  | nil => rfl
  | cons segment rest ih =>
      by_cases blank : IsBlank segment
      · rw [List.filter_cons_of_neg (by simpa using blank), ih,
          List.filterMap_cons_none (field?_of_isBlank blank)]
        simp only [readable_cons, blank, not_true_eq_false, false_implies, true_and]
      · rw [List.filter_cons_of_pos (by simpa using blank), List.mapM_cons, ih, field_eq]
        cases read : field? segment with
        | none => simp [readable_cons, blank, read, bind, Except.bind]
        | some found =>
            rw [List.filterMap_cons_some read]
            by_cases readable : Readable rest <;>
              simp [readable_cons, read, readable, bind, Except.bind, pure, Except.pure]

variable {found gathered : List Field}

theorem last?_cons (first : Field) (rest : List Field) (name : String) :
    last? (first :: rest) name =
      (last? rest name).or (if first.1 = name then some first.2 else none) := by
  simp only [last?, List.reverse_cons, List.find?_append, List.find?_singleton, Option.map_or,
    beq_iff_eq]
  split <;> rfl

theorem last?_eq_none_iff : last? found name = none ↔ name ∉ found.map Prod.fst := by
  simp only [last?, Option.map_eq_none_iff, List.find?_eq_none, List.mem_reverse, beq_iff_eq,
    List.mem_map, not_exists, not_and]

theorem last?_cons_of_ne {first : Field} (other : first.1 ≠ name) (rest : List Field) :
    last? (first :: rest) name = last? rest name := by
  rw [last?_cons, if_neg other, Option.or_none]

/-- A field whose name comes again says nothing. -/
theorem last?_cons_of_mem {rest : List Field} (again : name ∈ rest.map Prod.fst) (first : Field) :
    last? (first :: rest) name = last? rest name := by
  obtain ⟨value, last⟩ :=
    Option.ne_none_iff_exists'.1 (mt last?_eq_none_iff.1 (not_not.2 again))
  rw [last?_cons, last, Option.some_or]

/-- If all names are different, the order of the fields makes no difference to what is last. -/
theorem last?_eq_some_iff (distinct : (found.map Prod.fst).Nodup) :
    last? found name = some value ↔ (name, value) ∈ found := by
  induction found with
  | nil => simp [last?]
  | cons first rest ih =>
      obtain ⟨other, text⟩ := first
      obtain ⟨fresh, distinct⟩ := List.nodup_cons.1 distinct
      rw [last?_cons]
      by_cases same : other = name
      · subst same
        rw [last?_eq_none_iff.2 fresh, List.mem_cons]
        have later : (other, value) ∉ rest := fun member => fresh (List.mem_map.2 ⟨_, member, rfl⟩)
        simp [later, eq_comm]
      · simp [same, Ne.symm same, ih distinct]

theorem last?_perm (permuted : found.Perm gathered) (distinct : (found.map Prod.fst).Nodup)
    (name : String) : last? found name = last? gathered name := by
  apply Option.ext
  intro value
  have distinct' := (permuted.map Prod.fst).nodup_iff.1 distinct
  rw [last?_eq_some_iff distinct, last?_eq_some_iff distinct', permuted.mem_iff]

/-- The names that mean something. -/
def meaningful : List String :=
  ["ingestionendpoint", "endpointsuffix", "location", "authorization", "instrumentationkey"]

theorem ofFields_congr (same : ∀ name ∈ meaningful, last? found name = last? gathered name) :
    ofFields found = ofFields gathered := by
  simp only [meaningful, List.forall_mem_cons] at same
  obtain ⟨endpoint, hostEnd, location, way, key, -⟩ := same
  have service : ingestionOf found = ingestionOf gathered := by
    simp only [ingestionOf, endpoint, hostEnd, location]
  have allowed : authorized found = authorized gathered := by
    simp only [authorized, way]
  rw [ofFields, service, allowed, key, ofFields]

theorem ofText_joined_congr (whole : ∀ segment ∈ segments, ';' ∉ segment.toList)
    (others_whole : ∀ segment ∈ others, ';' ∉ segment.toList)
    (readable : Readable segments ↔ Readable others)
    (same : ∀ name ∈ meaningful,
      last? (segments.filterMap field?) name = last? (others.filterMap field?) name) :
    ofText (joined segments) = ofText (joined others) := by
  rw [ofText, ofText, fields_joined whole, fields_joined others_whole]
  by_cases each : Readable segments
  · rw [if_pos each, if_pos (readable.1 each)]
    exact ofFields_congr same
  · rw [if_neg each, if_neg (mt readable.2 each)]

/-- The segments that make a difference: not the blank ones, and of the fields only those with a
name that means something. -/
def Matters (segment : String) : Prop :=
  ¬ IsBlank segment ∧ ∀ name, nameIn? segment = some name → name ∈ meaningful

instance (segment : String) : Decidable (Matters segment) :=
  inferInstanceAs (Decidable (¬ IsBlank segment ∧ ∀ name, nameIn? segment = some name → _))

/-- What is no field and not blank makes a difference. -/
theorem matters_of_not_field (visible : ¬ IsBlank segment) (unread : field? segment = none) :
    Matters segment :=
  ⟨visible, fun name named => by simp [nameIn?, unread] at named⟩

theorem readable_filter_matters (segments : List String) :
    Readable (segments.filter (Matters ·)) ↔ Readable segments := by
  simp only [Readable, List.mem_filter, decide_eq_true_eq]
  constructor
  · intro readable segment member visible
    by_contra unread
    have nothing := Option.not_isSome_iff_eq_none.1 unread
    exact unread (readable segment ⟨member, matters_of_not_field visible nothing⟩ visible)
  · exact fun readable segment member => readable segment member.1

/-- The segments that make a difference are enough to find what a field with a name that means
something says. -/
theorem last?_filter_matters (segments : List String) (known : name ∈ meaningful) :
    last? ((segments.filter (Matters ·)).filterMap field?) name =
      last? (segments.filterMap field?) name := by
  induction segments with
  | nil => rfl
  | cons segment rest ih =>
      cases read : field? segment with
      | none =>
          rw [List.filterMap_cons_none read, ← ih]
          by_cases matters : Matters segment
          · rw [List.filter_cons_of_pos (by simpa using matters), List.filterMap_cons_none read]
          · rw [List.filter_cons_of_neg (by simpa using matters)]
      | some found =>
          rw [List.filterMap_cons_some read]
          by_cases matters : Matters segment
          · rw [List.filter_cons_of_pos (by simpa using matters), List.filterMap_cons_some read,
              last?_cons, last?_cons, ih]
          · have unknown : found.1 ≠ name := by
              rintro rfl
              refine matters ⟨fun blank => ?_, fun name named => ?_⟩
              · rw [field?_of_isBlank blank] at read
                cases read
              · rw [nameIn?, read] at named
                cases named
                exact known
            rw [List.filter_cons_of_neg (by simpa using matters), last?_cons_of_ne unknown, ih]

/-- The segments without those fields whose name comes again. -/
def lastOfEach : List String → List String
  | [] => []
  | segment :: rest =>
    if ∃ name, nameIn? segment = some name ∧ name ∈ rest.filterMap nameIn? then lastOfEach rest
    else segment :: lastOfEach rest

theorem lastOfEach_sublist (segments : List String) : (lastOfEach segments).Sublist segments := by
  induction segments with
  | nil => exact List.Sublist.refl []
  | cons segment rest ih =>
      rw [lastOfEach]
      split
      · exact ih.cons segment
      · exact ih.cons_cons segment

theorem map_fst_filterMap_field? (segments : List String) :
    (segments.filterMap field?).map Prod.fst = segments.filterMap nameIn? := by
  rw [List.map_filterMap]
  rfl

theorem readable_lastOfEach (segments : List String) :
    Readable (lastOfEach segments) ↔ Readable segments := by
  induction segments with
  | nil => exact Iff.rfl
  | cons segment rest ih =>
      rw [lastOfEach]
      split
      · rename_i again
        obtain ⟨name, named, -⟩ := again
        obtain ⟨found, read, -⟩ := Option.map_eq_some_iff.1 named
        simp [readable_cons, ih, read]
      · rw [readable_cons, readable_cons, ih]

theorem last?_lastOfEach (segments : List String) (name : String) :
    last? ((lastOfEach segments).filterMap field?) name =
      last? (segments.filterMap field?) name := by
  induction segments with
  | nil => rfl
  | cons segment rest ih =>
      rw [lastOfEach]
      cases read : field? segment with
      | none =>
          rw [if_neg (by simp [nameIn?, read]), List.filterMap_cons_none read,
            List.filterMap_cons_none read, ih]
      | some found =>
          rw [List.filterMap_cons_some read]
          split
          · rename_i again
            obtain ⟨_, named, later⟩ := again
            rw [nameIn?, read] at named
            cases named
            rw [← map_fst_filterMap_field?] at later
            rw [ih]
            by_cases same : found.1 = name
            · exact (last?_cons_of_mem (same ▸ later) found).symm
            · exact (last?_cons_of_ne same _).symm
          · rw [List.filterMap_cons_some read, last?_cons, last?_cons, ih]

/-- What a connection string says does not depend on the order of its fields. Segments in another
order say the same if the names of their fields are all different; so do segments that differ in
blank ones and in fields with unknown names only; and of the fields with one name the last one says
it all. -/
theorem ofText_of_segments (whole : ∀ segment ∈ segments, ';' ∉ segment.toList)
    (others_whole : ∀ segment ∈ others, ';' ∉ segment.toList) :
    (segments.Perm others → (segments.filterMap nameIn?).Nodup →
      ofText (joined segments) = ofText (joined others)) ∧
    (segments.filter (Matters ·) = others.filter (Matters ·) →
      ofText (joined segments) = ofText (joined others)) ∧
    ofText (joined segments) = ofText (joined (lastOfEach segments)) := by
  refine ⟨fun permuted distinct => ?_, fun same => ?_, ?_⟩
  · refine ofText_joined_congr whole others_whole ?_ fun name _ => ?_
    · exact forall_congr' fun segment => by rw [permuted.mem_iff]
    · exact last?_perm (permuted.filterMap field?)
        (by rwa [map_fst_filterMap_field?]) name
  · refine ofText_joined_congr whole others_whole ?_ fun name known => ?_
    · rw [← readable_filter_matters segments, same, readable_filter_matters]
    · rw [← last?_filter_matters segments known, same, last?_filter_matters others known]
  · refine ofText_joined_congr whole ?_ (readable_lastOfEach segments).symm fun name _ => ?_
    · exact fun segment member => whole segment ((lastOfEach_sublist segments).subset member)
    · exact (last?_lastOfEach segments name).symm

/-- A key and an address. -/
def keyAndAddress : List String :=
  ["InstrumentationKey=k", " IngestionEndpoint =https://ingest"]

/-- The same in another order, with a blank segment and an unknown field between them. -/
def mixedSegments : List String :=
  [" IngestionEndpoint =https://ingest", " ", "Foo=1", "InstrumentationKey=k"]

theorem ofText_of_mixedSegments :
    ofText (joined keyAndAddress) = .ok ⟨"https://ingest", "k"⟩ ∧
    ofText (joined mixedSegments) = .ok ⟨"https://ingest", "k"⟩ ∧
    ofText (joined ("instrumentationkey=old" :: keyAndAddress)) = .ok ⟨"https://ingest", "k"⟩ := by
  have said : ofText (joined keyAndAddress) = .ok ⟨"https://ingest", "k"⟩ := by decide +kernel
  have whole : ∀ segment ∈ keyAndAddress, ';' ∉ segment.toList := by decide +kernel
  have reversed_whole : ∀ segment ∈ keyAndAddress.reverse, ';' ∉ segment.toList :=
    fun segment member => whole segment (List.mem_reverse.1 member)
  have mixed_whole : ∀ segment ∈ mixedSegments, ';' ∉ segment.toList := by decide +kernel
  have repeated_whole : ∀ segment ∈ "instrumentationkey=old" :: keyAndAddress,
      ';' ∉ segment.toList := by decide +kernel
  have reordered : ofText (joined keyAndAddress) = ofText (joined keyAndAddress.reverse) :=
    (ofText_of_segments whole reversed_whole).1 (List.reverse_perm _).symm (by decide +kernel)
  have padded : ofText (joined keyAndAddress.reverse) = ofText (joined mixedSegments) :=
    (ofText_of_segments reversed_whole mixed_whole).2.1 (by decide +kernel)
  have last : lastOfEach ("instrumentationkey=old" :: keyAndAddress) = keyAndAddress := by
    decide +kernel
  refine ⟨said, ?_, ?_⟩
  · rw [← padded, ← reordered, said]
  · rw [(ofText_of_segments repeated_whole whole).2.2, last, said]

end TelemetryChannel.ConnectionString
