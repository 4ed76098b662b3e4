/-
# The parts of an absolute identifier

The text of an identifier with a scheme is the scheme, the user information, the host with
the port, the path, the query and the fragment, with marks between them. The marks are found
again in the text: the user information ends at the last `@` of the authority, which ends at
the first slash, question mark or hash, the path ends at the first question mark or hash, and
the query at the first hash. So the host, the port and the path that are read do not depend
on the rest.
-/

import Mathlib.Data.Bool.AllAny
import TelemetryChannel.Proofs.Text.Pieces
import TelemetryChannel.Uri

namespace TelemetryChannel

namespace Text

/-- A letter in lower case is a letter. -/
theorem asciiLower_of_upper {c : Char} (upper : 'A' ≤ c ∧ c ≤ 'Z') :
    'a' ≤ asciiLower c ∧ asciiLower c ≤ 'z' := by
  have letters : ∀ n, n < 91 → 65 ≤ n → 'a' ≤ Char.ofNat (n + 32) ∧ Char.ofNat (n + 32) ≤ 'z' := by
    decide
  have bounds : 65 ≤ c.toNat ∧ c.toNat ≤ 90 := upper
  rw [asciiLower, if_pos upper]
  exact letters c.toNat (by omega) bounds.1

/-- Only letters have another lower case. -/
theorem eq_of_asciiLower_eq {c d : Char} (same : asciiLower c = d)
    (mark : ¬ ('a' ≤ d ∧ d ≤ 'z')) : c = d := by
  by_cases upper : 'A' ≤ c ∧ c ≤ 'Z'
  · exact absurd (same ▸ asciiLower_of_upper upper) mark
  · rwa [asciiLower, if_neg upper] at same

/-- Marks are found whatever the case is. -/
theorem eq_of_map_asciiLower_eq {text marks : List Char} (same : text.map asciiLower = marks)
    (unlettered : ∀ c ∈ marks, ¬ ('a' ≤ c ∧ c ≤ 'z')) : text = marks := by
  rw [← same]
  refine (List.map_id text).symm.trans (List.map_congr_left fun c member => ?_)
  exact eq_of_asciiLower_eq rfl (unlettered _ (same ▸ List.mem_map_of_mem member))

end Text

theorem bind_eq_ok_iff {ε α β : Type} {first : Except ε α} {next : α → Except ε β} {value : β} :
    first >>= next = .ok value ↔ ∃ found, first = .ok found ∧ next found = .ok value := by
  cases first with
  | error error => exact ⟨nofun, nofun⟩
  | ok found =>
      constructor
      · exact fun later => ⟨found, rfl, later⟩
      · rintro ⟨_, same, later⟩
        cases same
        exact later

namespace Uri

open Text

/-- What is read of an identifier with a scheme. -/
theorem ofText_of_isSome {text : String} {uri : Uri} (read : ofText text = .ok uri)
    (absolute : uri.scheme.isSome) : ∃ scheme rest,
    takeScheme text.toList = .ok (some scheme, rest) ∧
    (rest.takeWhile fun c => !endsAuthority c) ≠ [] ∧
    uri.authority = String.ofList (rest.takeWhile fun c => !endsAuthority c) ∧
    takePath (rest.dropWhile fun c => !endsAuthority c) = .ok (uri.path, uri.query) := by
  unfold ofText at read
  split at read
  · cases read
  · split at read
    · cases read
    · cases read
      cases absolute
    · cases read
    · cases read
    · obtain ⟨found, -, same⟩ := bind_eq_ok_iff.1 read
      cases same
      cases absolute
    · obtain ⟨⟨scheme, rest⟩, taken, read⟩ := bind_eq_ok_iff.1 read
      dsimp only at read
      split at read
      · cases read
      · obtain ⟨-, -, read⟩ := bind_eq_ok_iff.1 read
        cases scheme with
        | none =>
            dsimp only at read
            split at read
            · cases read
              cases absolute
            · cases read
        | some scheme =>
            refine ⟨scheme, rest, taken, ?_⟩
            dsimp only at read
            split at read
            · cases read
            · rename_i some
              obtain ⟨⟨path, query⟩, path_read, same⟩ := bind_eq_ok_iff.1 read
              cases same
              exact ⟨some, rfl, path_read⟩

theorem authority_ne_of_isSome {text : String} {uri : Uri} (read : ofText text = .ok uri)
    (absolute : uri.scheme.isSome) : uri.authority ≠ "" := by
  obtain ⟨_, rest, -, some, authority, -⟩ := ofText_of_isSome read absolute
  intro none
  have nothing := congrArg String.toList (authority.symm.trans none)
  rw [String.toList_ofList] at nothing
  exact some nothing

/-- A path is read up to the first question mark or hash, whatever follows. -/
theorem path_of_takePath {text : List Char} {path : String} {query : Option String}
    (read : takePath text = .ok (path, query)) :
    path = if (text.takeWhile fun c => c != '?' && c != '#') = [] then "/"
      else String.ofList (text.takeWhile fun c => c != '?' && c != '#') := by
  unfold takePath at read
  dsimp only at read
  split at read
  · cases read
  · split at read
    · split at read
      · cases read
        rfl
      · cases read
    · cases read
      rfl

/-- The mark after a scheme. -/
def schemeEnd : List Char := "://".toList

theorem isSchemeChar_of_asciiLower {c : Char} (allowed : isSchemeChar (asciiLower c) = true) :
    isSchemeChar c = true := by
  by_cases upper : 'A' ≤ c ∧ c ≤ 'Z'
  · simp [isSchemeChar, isAlphanumeric, upper]
  · rwa [asciiLower, if_neg upper] at allowed

/-- What follows a scheme and its mark, without regard to the case of the scheme. -/
theorem of_afterIgnoringCase? (scheme : List Char) {text rest : List Char}
    (allowed : ∀ c ∈ scheme, isSchemeChar (asciiLower c) = true)
    (found : afterIgnoringCase? (scheme ++ schemeEnd) text = some rest) :
    ∃ written, text = written ++ schemeEnd ++ rest ∧ ∀ c ∈ written, isSchemeChar c = true := by
  unfold afterIgnoringCase? at found
  split at found
  · rename_i same
    cases found
    rw [sameIgnoringCase, beq_iff_eq, List.map_append, List.map_eq_append_iff] at same
    obtain ⟨written, mark, start, lower, mark_lower⟩ := same
    have marked : mark = schemeEnd := eq_of_map_asciiLower_eq mark_lower <|
      List.all_iff_forall_prop.1 (by decide)
    subst marked
    refine ⟨written, ?_, fun c member => ?_⟩
    · rw [← start, List.take_append_drop]
    · have letter := List.mem_map_of_mem (f := asciiLower) member
      rw [lower] at letter
      obtain ⟨letter, there, same⟩ := List.mem_map.1 letter
      exact isSchemeChar_of_asciiLower (same ▸ allowed letter there)
  · cases found

/-- A scheme is written with its characters, and its mark follows. -/
theorem of_takeScheme {text rest scheme : List Char}
    (taken : takeScheme text = .ok (some scheme, rest)) :
    ∃ written, text = written ++ schemeEnd ++ rest ∧ ∀ c ∈ written, isSchemeChar c = true := by
  unfold takeScheme at taken
  split at taken
  · rename_i found
    cases taken
    exact of_afterIgnoringCase? "http".toList (List.all_eq_true.1 (by decide)) found
  · rename_i found
    cases taken
    exact of_afterIgnoringCase? "https".toList (List.all_eq_true.1 (by decide)) found
  · dsimp only at taken
    split at taken
    · rename_i after
      split at taken
      · cases taken
      · split at taken
        · cases taken
        · cases taken
          refine ⟨text.takeWhile isSchemeChar, ?_, fun c member => List.mem_takeWhile_imp member⟩
          rw [List.append_assoc]
          exact List.takeWhile_append_dropWhile.symm.trans (congrArg _ after)
    · cases taken

theorem takeWhile_scheme {scheme : List Char} (allowed : ∀ c ∈ scheme, isSchemeChar c = true)
    (rest : List Char) : (scheme ++ schemeEnd ++ rest).takeWhile isSchemeChar = scheme := by
  rw [List.append_assoc]
  exact takeWhile_append_of_stop allowed fun c first => by cases first; decide

theorem dropWhile_scheme {scheme : List Char} (allowed : ∀ c ∈ scheme, isSchemeChar c = true)
    (rest : List Char) :
    (scheme ++ schemeEnd ++ rest).dropWhile isSchemeChar = schemeEnd ++ rest := by
  rw [List.append_assoc]
  exact dropWhile_append_of_stop allowed fun c first => by cases first; decide

/-! ## The parts -/

/-- A text that is read as an identifier with a scheme. -/
def IsAbsolute (text : String) : Prop :=
  ∃ uri, ofText text = .ok uri ∧ uri.scheme.isSome

/-- The parts of the text of an absolute identifier. The user information is what stands before
the last `@` of the authority. -/
structure Parts where
  scheme : List Char
  user : Option (List Char)
  hostAndPort : List Char
  path : List Char
  query : Option (List Char)
  fragment : Option (List Char)
  scheme_allowed : ∀ c ∈ scheme, isSchemeChar c = true
  user_within : ∀ name, user = some name → ∀ c ∈ name, endsAuthority c = false
  host_within : ∀ c ∈ hostAndPort, endsAuthority c = false ∧ c ≠ '@'
  path_rooted : ∀ c ∈ path.head?, c = '/'
  path_within : ∀ c ∈ path, c ≠ '?' ∧ c ≠ '#'
  query_within : ∀ text, query = some text → '#' ∉ text

namespace Parts

/-- The authority: the user information with its mark, and the host with the port. -/
def authority (parts : Parts) : List Char :=
  (parts.user.map (· ++ ['@'])).getD [] ++ parts.hostAndPort

/-- What follows the path: the query and the fragment with their marks. -/
def ending (parts : Parts) : List Char :=
  (parts.query.map ('?' :: ·)).getD [] ++ (parts.fragment.map ('#' :: ·)).getD []

/-- The text of which these are the parts. -/
def text (parts : Parts) : String :=
  String.ofList
    (parts.scheme ++ schemeEnd ++ (parts.authority ++ (parts.path ++ parts.ending)))

/-- The path as it is read: a missing one is the root. -/
def rootedPath (parts : Parts) : String :=
  if parts.path = [] then "/" else String.ofList parts.path

theorem authority_within (parts : Parts) : ∀ c ∈ parts.authority, (!endsAuthority c) = true := by
  intro c member
  rw [Bool.not_eq_true']
  rcases List.mem_append.1 member with user | host
  · cases named : parts.user with
    | none => simp [named] at user
    | some name =>
        rw [named] at user
        rcases List.mem_append.1 user with inside | mark
        · exact parts.user_within name named c inside
        · rw [List.mem_singleton.1 mark]
          decide
  · exact (parts.host_within c host).1

theorem head?_ending (parts : Parts) : ∀ c ∈ parts.ending.head?, c = '?' ∨ c = '#' := by
  intro c first
  unfold ending at first
  cases asked : parts.query with
  | some query =>
      rw [asked] at first
      exact .inl (Option.some.inj first).symm
  | none =>
      cases noted : parts.fragment with
      | some fragment =>
          rw [asked, noted] at first
          exact .inr (Option.some.inj first).symm
      | none => simp [asked, noted] at first

theorem head?_after (parts : Parts) :
    ∀ c ∈ (parts.path ++ parts.ending).head?, (!endsAuthority c) = false := by
  intro c first
  cases path : parts.path with
  | nil =>
      rw [path] at first
      rcases parts.head?_ending c first with rfl | rfl <;> rfl
  | cons start rest =>
      rw [path] at first
      rw [parts.path_rooted c (by rw [path]; exact first)]
      rfl

/-- The host and the port are what follows the last `@`. -/
theorem hostAndPort_eq (parts : Parts) {uri : Uri}
    (same : uri.authority = String.ofList parts.authority) :
    uri.hostAndPort = parts.hostAndPort := by
  have whole : '@' ∉ parts.hostAndPort := fun member => (parts.host_within '@' member).2 rfl
  have written : uri.authority.toList = parts.authority := by rw [same, String.toList_ofList]
  cases named : parts.user with
  | none =>
      rw [authority, named, Option.map_none, Option.getD_none, List.nil_append] at written
      exact (getLast_split_of_notMem (written ▸ whole)).trans written
  | some name =>
      rw [authority, named, Option.map_some, Option.getD_some, List.append_assoc] at written
      exact getLast_split written whole

/-- The host, the port and the path are read as they are written, whatever the user
information, the query and the fragment are. -/
theorem of_ofText (parts : Parts) {uri : Uri} (read : ofText parts.text = .ok uri)
    (absolute : uri.scheme.isSome) :
    uri.hostAndPort = parts.hostAndPort ∧ uri.path = parts.rootedPath := by
  obtain ⟨scheme, rest, taken, -, authority, path⟩ := ofText_of_isSome read absolute
  obtain ⟨written, same, allowed⟩ := of_takeScheme taken
  have found : rest = parts.authority ++ (parts.path ++ parts.ending) := by
    have after := congrArg (List.dropWhile isSchemeChar) same
    rw [text, String.toList_ofList, dropWhile_scheme parts.scheme_allowed,
      dropWhile_scheme allowed] at after
    exact (List.append_cancel_left after).symm
  rw [found, takeWhile_append_of_stop parts.authority_within parts.head?_after] at authority
  rw [found, dropWhile_append_of_stop parts.authority_within parts.head?_after] at path
  refine ⟨parts.hostAndPort_eq authority, ?_⟩
  rw [path_of_takePath path, takeWhile_append_of_stop (by simpa using parts.path_within)]
  · rfl
  · intro c first
    rcases parts.head?_ending c first with rfl | rfl <;> rfl

end Parts

theorem exists_user_host (authority : List Char) : ∃ user host,
    authority = (Option.map (· ++ ['@']) user).getD [] ++ host ∧ '@' ∉ host := by
  by_cases marked : '@' ∈ authority
  · obtain ⟨host, user, same, whole⟩ :=
      List.eq_append_cons_of_mem (List.mem_reverse.2 marked)
    refine ⟨some user.reverse, host.reverse, ?_, by simpa using whole⟩
    rw [← List.reverse_reverse authority, same]
    simp
  · exact ⟨none, authority, rfl, marked⟩

theorem exists_path_ending {after : List Char}
    (rooted : ∀ c ∈ after.head?, endsAuthority c = true) : ∃ path ending,
    after = path ++ ending ∧ (∀ c ∈ path.head?, c = '/') ∧ (∀ c ∈ path, c ≠ '?' ∧ c ≠ '#') ∧
      ∀ c ∈ ending.head?, c = '?' ∨ c = '#' := by
  have within : ∀ c ∈ after.takeWhile fun c => c != '?' && c != '#', c ≠ '?' ∧ c ≠ '#' :=
    fun c member => by simpa using List.mem_takeWhile_imp member
  refine ⟨_, _, List.takeWhile_append_dropWhile.symm, fun c first => ?_, within, fun c first => ?_⟩
  · have start : c ∈ after.head? := by
      rw [← List.takeWhile_append_dropWhile (l := after), List.head?_append, first, Option.some_or]
      rfl
    have mark := rooted c start
    have inside := within c (List.mem_of_mem_head? first)
    simpa [endsAuthority, inside] using mark
  · have stop := List.head?_dropWhile_not (fun c => c != '?' && c != '#') after
    rw [first] at stop
    simpa [or_iff_not_imp_left] using stop

theorem exists_query_fragment {ending : List Char} (start : ∀ c ∈ ending.head?, c = '?' ∨ c = '#') :
    ∃ query fragment, ending =
      (Option.map ('?' :: ·) query).getD [] ++ (Option.map ('#' :: ·) fragment).getD [] ∧
        ∀ text, query = some text → '#' ∉ text := by
  cases ending with
  | nil => exact ⟨none, none, rfl, nofun⟩
  | cons c rest =>
      rcases start c rfl with rfl | rfl
      · by_cases noted : '#' ∈ rest
        · obtain ⟨query, fragment, rfl, whole⟩ := List.eq_append_cons_of_mem noted
          exact ⟨some query, some fragment, rfl, fun text same => by cases same; exact whole⟩
        · exact ⟨some rest, none, by simp, fun text same => by cases same; exact noted⟩
      · exact ⟨none, some rest, rfl, nofun⟩

/-- Every absolute identifier has these parts. -/
theorem exists_parts {text : String} (absolute : IsAbsolute text) :
    ∃ parts : Parts, parts.text = text := by
  obtain ⟨uri, read, schemed⟩ := absolute
  obtain ⟨_, rest, taken, -⟩ := ofText_of_isSome read schemed
  obtain ⟨scheme, written, scheme_allowed⟩ := of_takeScheme taken
  have within : ∀ c ∈ rest.takeWhile fun c => !endsAuthority c, endsAuthority c = false :=
    fun c member => by simpa using List.mem_takeWhile_imp member
  have rooted : ∀ c ∈ (rest.dropWhile fun c => !endsAuthority c).head?, endsAuthority c = true := by
    intro c first
    have stop := List.head?_dropWhile_not (fun c => !endsAuthority c) rest
    rw [first] at stop
    simpa using stop
  obtain ⟨user, host, authority, whole⟩ :=
    exists_user_host (rest.takeWhile fun c => !endsAuthority c)
  obtain ⟨path, ending, after, path_rooted, path_within, start⟩ := exists_path_ending rooted
  obtain ⟨query, fragment, ends, query_within⟩ := exists_query_fragment start
  rw [← List.takeWhile_append_dropWhile (p := fun c => !endsAuthority c) (l := rest), authority,
    after, ends] at written
  rw [authority] at within
  refine ⟨⟨scheme, user, host, path, query, fragment, scheme_allowed, ?_, ?_, path_rooted,
    path_within, query_within⟩, String.toList_injective ?_⟩
  · rintro name rfl c member
    exact within c (by simp [member])
  · exact fun c member => ⟨within c (by simp [member]), fun mark => whole (mark ▸ member)⟩
  · exact String.toList_ofList.trans written.symm

/-- Two texts with the host, the port and the path in common. They may differ in the scheme, the
user information, the query and the fragment, and a missing path is the root. -/
def SameResource (first second : String) : Prop :=
  ∃ one two : Parts, one.text = first ∧ two.text = second ∧
    one.hostAndPort = two.hostAndPort ∧ one.rootedPath = two.rootedPath

/-- Absolute identifiers lead to the same resource if and only if the same host, port and path are
read. -/
theorem sameResource_iff {first second : String} {uri uri' : Uri} (read : ofText first = .ok uri)
    (absolute : uri.scheme.isSome) (read' : ofText second = .ok uri')
    (absolute' : uri'.scheme.isSome) :
    SameResource first second ↔ uri.hostAndPort = uri'.hostAndPort ∧ uri.path = uri'.path := by
  constructor
  · rintro ⟨one, two, rfl, rfl, host, path⟩
    obtain ⟨same_host, same_path⟩ := one.of_ofText read absolute
    obtain ⟨same_host', same_path'⟩ := two.of_ofText read' absolute'
    rw [same_host, same_host', same_path, same_path']
    exact ⟨host, path⟩
  · rintro ⟨host, path⟩
    obtain ⟨one, rfl⟩ := exists_parts ⟨uri, read, absolute⟩
    obtain ⟨two, rfl⟩ := exists_parts ⟨uri', read', absolute'⟩
    obtain ⟨same_host, same_path⟩ := one.of_ofText read absolute
    obtain ⟨same_host', same_path'⟩ := two.of_ofText read' absolute'
    refine ⟨one, two, rfl, rfl, ?_, ?_⟩
    · rw [← same_host, ← same_host', host]
    · rw [← same_path, ← same_path', path]

end Uri

end TelemetryChannel
