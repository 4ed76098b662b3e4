/-
# The ingestion service of a connection string

The address of the service is an absolute identifier without a final slash. It need not be
secure: the scheme that is written becomes the scheme of the address, but for an `s` after a
scheme that ends in `http`. So an address that is named as a whole leads to a secure endpoint
if and only if it starts with `http://` or `https://`, in lower case, and every other endpoint
is secure.
-/

import TelemetryChannel.Proofs.Text.Replacing
import TelemetryChannel.Proofs.Uri.Parts
import TelemetryChannel.Settings.ConnectionString

namespace TelemetryChannel.ConnectionString

open Text Uri

variable {scheme text endpoint : List Char} {url ingestion : String}

/-- The scheme that a scheme becomes: with an `s` if it ends in `http`. -/
def secured (scheme : List Char) : List Char :=
  if "http".toList <:+ scheme then scheme ++ ['s'] else scheme

theorem secured_cons {c : Char} (other : c :: scheme ≠ "http".toList) :
    secured (c :: scheme) = c :: secured scheme := by
  have inside : "http".toList <:+ c :: scheme ↔ "http".toList <:+ scheme := by
    rw [List.suffix_cons_iff, or_iff_right (Ne.symm other)]
  unfold secured
  simp only [inside]
  split <;> rfl

theorem isSchemeChar_secured (allowed : ∀ c ∈ scheme, isSchemeChar c = true) :
    ∀ c ∈ secured scheme, isSchemeChar c = true := by
  intro c member
  unfold secured at member
  split at member
  · rcases List.mem_append.1 member with inside | added
    · exact allowed c inside
    · rw [List.mem_singleton.1 added]
      decide
  · exact allowed c member

/-- Only the schemes `http` and `https` become `https`. -/
theorem secured_eq_https_iff :
    secured scheme = "https".toList ↔ scheme = "http".toList ∨ scheme = "https".toList := by
  constructor
  · intro secure
    unfold secured at secure
    split at secure
    · exact .inl (List.append_cancel_right (secure : scheme ++ ['s'] = "http".toList ++ ['s']))
    · exact .inr secure
  · rintro (rfl | rfl) <;> decide

/-- A text starts with a scheme and its mark. -/
structure HasScheme (text scheme : List Char) : Prop where
  letters : ∀ c ∈ scheme, isSchemeChar c = true
  starts : scheme ++ schemeEnd <+: text

theorem HasScheme.unique {other : List Char} (first : HasScheme text scheme)
    (second : HasScheme text other) : scheme = other := by
  obtain ⟨letters, rest, rfl⟩ := first
  obtain ⟨letters', rest', same⟩ := second
  rw [← takeWhile_scheme letters rest, ← same, takeWhile_scheme letters']

theorem HasScheme.mono {longer : List Char} (found : HasScheme text scheme)
    (inside : text <+: longer) : HasScheme longer scheme :=
  ⟨found.letters, found.starts.trans inside⟩

theorem hasScheme_http_iff : HasScheme text "http".toList ↔ "http://".toList <+: text :=
  ⟨fun found => found.starts, fun starts => ⟨List.all_eq_true.1 (by decide), starts⟩⟩

theorem hasScheme_https_iff : HasScheme text "https".toList ↔ "https://".toList <+: text :=
  ⟨fun found => found.starts, fun starts => ⟨List.all_eq_true.1 (by decide), starts⟩⟩

/-- The text that is read as an address: secure where it named the insecure scheme. -/
def upgraded (text : List Char) : List Char :=
  if "https://".toList.isPrefixOf text then text
  else replaceAll "http://".toList "https://".toList text

/-- The scheme that a text starts with becomes secure if it ends in `http`, because that and the
mark are replaced. -/
theorem replaceAll_scheme (letters : ∀ c ∈ scheme, isSchemeChar c = true) (rest : List Char) :
    replaceAll "http://".toList "https://".toList (scheme ++ schemeEnd ++ rest) =
      secured scheme ++ schemeEnd ++ replaceAll "http://".toList "https://".toList rest := by
  induction scheme with
  | nil => exact replaceAll_append_of_notMem (by decide) rest
  | cons c scheme ih =>
      by_cases http : c :: scheme = "http".toList
      · rw [http]
        exact replaceAll_append (by decide) rest
      · have written : HasScheme (c :: scheme ++ schemeEnd ++ rest) (c :: scheme) :=
          ⟨letters, rest, rfl⟩
        have absent : ¬ "http://".toList <+: c :: (scheme ++ schemeEnd ++ rest) := fun found =>
          http (written.unique (hasScheme_http_iff.2 found))
        rw [List.cons_append, List.cons_append, replaceAll_cons absent,
          ih fun c member => letters c (List.mem_cons_of_mem _ member), secured_cons http]
        rfl

/-- A text that starts with a scheme after the replacement started with a scheme before. -/
theorem exists_hasScheme_of_replaceAll
    (found : HasScheme (replaceAll "http://".toList "https://".toList text) scheme) :
    ∃ written, HasScheme text written := by
  induction text generalizing scheme with
  | nil =>
      have nothing := List.append_eq_nil_iff.1 (List.prefix_nil.1 found.starts)
      exact absurd nothing.2 (by decide)
  | cons c rest ih =>
      by_cases http : "http://".toList <+: c :: rest
      · exact ⟨_, hasScheme_http_iff.2 http⟩
      · obtain ⟨letters, starts⟩ := found
        cases scheme with
        | nil => exact ⟨[], nofun, prefix_of_prefix_replaceAll (by decide) (by decide) starts⟩
        | cons first scheme =>
            rw [replaceAll_cons http, List.cons_append, List.cons_prefix_cons] at starts
            obtain ⟨rfl, starts⟩ := starts
            rw [List.forall_mem_cons] at letters
            obtain ⟨written, before⟩ := ih ⟨letters.2, starts⟩
            exact ⟨first :: written, List.forall_mem_cons.2 ⟨letters.1, before.letters⟩,
              List.cons_prefix_cons.2 ⟨rfl, before.starts⟩⟩

/-- What is read as an address starts with what the scheme that is written becomes. -/
theorem HasScheme.upgraded (found : HasScheme text scheme) :
    HasScheme (upgraded text) (secured scheme) := by
  refine ⟨isSchemeChar_secured found.letters, ?_⟩
  unfold ConnectionString.upgraded
  split
  · rename_i https
    obtain rfl := found.unique (hasScheme_https_iff.2 (List.isPrefixOf_iff_prefix.1 https))
    exact found.starts
  · obtain ⟨letters, rest, rfl⟩ := found
    exact ⟨_, (replaceAll_scheme letters rest).symm⟩

/-- What is read as an address starts with a scheme only if one is written. -/
theorem exists_of_hasScheme_upgraded (found : HasScheme (upgraded text) scheme) :
    ∃ written, HasScheme text written ∧ secured written = scheme := by
  have before : ∃ written, HasScheme text written := by
    unfold upgraded at found
    split at found
    · exact ⟨scheme, found⟩
    · exact exists_hasScheme_of_replaceAll found
  obtain ⟨written, before⟩ := before
  exact ⟨written, before, before.upgraded.unique found⟩

/-- The address that is read: without blanks, secure and without final slashes. -/
def bare (url : String) : String :=
  String.ofList ((upgraded (trimChars url.toList)).reverse.dropWhile (· == '/')).reverse

theorem address_eq_ok_iff :
    address url = .ok ingestion ↔ bare url = ingestion ∧ IsAbsolute ingestion := by
  unfold address
  extract_lets trimmed secure shortened
  have same : shortened = bare url := rfl
  rw [same]
  constructor
  · intro accepted
    split at accepted
    · rename_i uri found
      split at accepted
      · rename_i absolute
        obtain rfl := Except.ok.inj accepted
        exact ⟨rfl, uri, found, absolute.1⟩
      · cases accepted
    · cases accepted
  · rintro ⟨rfl, uri, found, absolute⟩
    simp only [found]
    exact if_pos ⟨absolute, Uri.authority_ne_of_isSome found absolute⟩

theorem toList_bare (url : String) : (bare url).toList =
    ((upgraded (trimChars url.toList)).reverse.dropWhile (· == '/')).reverse :=
  String.toList_ofList

theorem bare_begins (url : String) : (bare url).toList <+: upgraded (trimChars url.toList) := by
  rw [toList_bare, ← List.reverse_suffix, List.reverse_reverse]
  exact List.dropWhile_suffix _

/-- An address has no final slash. -/
theorem not_slash_suffix_bare (url : String) : ¬ ['/'] <:+ (bare url).toList := by
  rw [toList_bare]
  intro slash
  obtain ⟨rest, start⟩ := List.reverse_prefix.2 slash
  have stop := List.head?_dropWhile_not (· == '/') (upgraded (trimChars url.toList)).reverse
  rw [List.reverse_reverse] at start
  rw [← start] at stop
  cases stop

theorem exists_hasScheme_of_isAbsolute (absolute : IsAbsolute ingestion) :
    ∃ scheme, HasScheme ingestion.toList scheme := by
  obtain ⟨uri, read, schemed⟩ := absolute
  obtain ⟨_, rest, taken, -⟩ := Uri.ofText_of_isSome read schemed
  obtain ⟨written, same, letters⟩ := Uri.of_takeScheme taken
  exact ⟨written, letters, rest, same.symm⟩

/-- An endpoint starts with the address of its service, and the scheme of that is what the scheme
that is written becomes. -/
theorem hasScheme_of_address (accepted : address url = .ok ingestion)
    (begins : ingestion.toList <+: endpoint) :
    ∃ written, HasScheme (trimChars url.toList) written ∧
      HasScheme endpoint (secured written) := by
  obtain ⟨rfl, absolute⟩ := address_eq_ok_iff.1 accepted
  obtain ⟨scheme, found⟩ := exists_hasScheme_of_isAbsolute absolute
  obtain ⟨written, before, rfl⟩ := exists_of_hasScheme_upgraded (found.mono (bare_begins url))
  exact ⟨written, before, found.mono begins⟩

/-- A text that is the address of a web service in lower case, whether secure or not. -/
def NamesWeb (url : String) : Prop :=
  "http://".toList <+: trimChars url.toList ∨ "https://".toList <+: trimChars url.toList

/-- An address that is written with a scheme in front is trimmed at its end only. -/
theorem namesWeb_https (rest : String) : NamesWeb ("https://" ++ rest) := by
  refine .inr ?_
  have start : ("https://" ++ rest).toList = "https://".toList ++ rest.toList :=
    String.toList_append
  rw [start, trimChars]
  have kept : trimStartChars ("https://".toList ++ rest.toList) =
      "https:/".toList ++ '/' :: rest.toList :=
    trimStartChars_cons_of_not_isBlank (by decide) _
  rw [kept, trimEndChars_append_cons (by decide)]
  exact ⟨_, List.append_assoc "https:/".toList ['/'] _⟩

/-- An endpoint is secure if the address of its service is written for the web. -/
theorem https_prefix_iff_namesWeb (accepted : address url = .ok ingestion)
    (begins : ingestion.toList <+: endpoint) : "https://".toList <+: endpoint ↔ NamesWeb url := by
  obtain ⟨written, before, becomes⟩ := hasScheme_of_address accepted begins
  have same {text scheme other : List Char} (found : HasScheme text scheme) :
      HasScheme text other ↔ scheme = other :=
    ⟨found.unique, fun same => same ▸ found⟩
  rw [NamesWeb, ← hasScheme_https_iff, ← hasScheme_https_iff, ← hasScheme_http_iff, same becomes,
    same before, same before]
  exact secured_eq_https_iff

variable {found : List Field}

/-- An ingestion service is named as a whole, put together behind a secure scheme, or the standard
one. -/
theorem ingestionOf_cases (accepted : ingestionOf found = .ok ingestion) :
    (∃ url, last? found "ingestionendpoint" = some url ∧ address url = .ok ingestion) ∨
    last? found "ingestionendpoint" = none ∧
      ((∃ rest, address ("https://" ++ rest) = .ok ingestion) ∨
        ingestion = Settings.standardIngestion) := by
  unfold ingestionOf at accepted
  split at accepted
  · rename_i url named
    exact .inl ⟨url, named, accepted⟩
  · rename_i hostEnd unnamed _
    dsimp only at accepted
    rw [String.append_assoc, String.append_assoc] at accepted
    exact .inr ⟨unnamed, .inl ⟨_, accepted⟩⟩
  · rename_i unnamed _
    cases accepted
    exact .inr ⟨unnamed, .inr rfl⟩

/-- The ingestion service is absolute and has no final slash. -/
theorem bare_of_ingestionOf (accepted : ingestionOf found = .ok ingestion) :
    ¬ ['/'] <:+ ingestion.toList ∧ IsAbsolute ingestion := by
  have settled {url : String} (named : address url = .ok ingestion) :
      ¬ ['/'] <:+ ingestion.toList ∧ IsAbsolute ingestion := by
    obtain ⟨rfl, absolute⟩ := address_eq_ok_iff.1 named
    exact ⟨not_slash_suffix_bare url, absolute⟩
  rcases ingestionOf_cases accepted with ⟨url, -, named⟩ | ⟨-, ⟨rest, made⟩ | rfl⟩
  · exact settled named
  · exact settled made
  · exact ⟨by decide, _, rfl, rfl⟩

/-- Only an address that is named as a whole can lead to an endpoint that is not secure. -/
theorem https_prefix_iff_of_ingestionOf (accepted : ingestionOf found = .ok ingestion)
    (begins : ingestion.toList <+: endpoint) : "https://".toList <+: endpoint ↔
      ∀ url, last? found "ingestionendpoint" = some url → NamesWeb url := by
  rcases ingestionOf_cases accepted with ⟨url, named, read⟩ | ⟨unnamed, made⟩
  · rw [https_prefix_iff_namesWeb read begins, named]
    exact ⟨fun web url same => by cases same; exact web, fun web => web url rfl⟩
  · refine iff_of_true ?_ fun url named => by rw [unnamed] at named; cases named
    rcases made with ⟨rest, read⟩ | rfl
    · exact (https_prefix_iff_namesWeb read begins).2 (namesWeb_https rest)
    · have secure : "https://".toList <+: Settings.standardIngestion.toList := by decide
      exact secure.trans begins

theorem address_of_named (accepted : ingestionOf found = .ok ingestion)
    (named : last? found "ingestionendpoint" = some url) : address url = .ok ingestion := by
  rw [ingestionOf, named] at accepted
  exact accepted

theorem ingestionOf_of_ofFields {connection : ConnectionString}
    (read : ofFields found = .ok connection) : ingestionOf found = .ok connection.ingestion := by
  obtain ⟨ingestion, service, read⟩ := bind_eq_ok_iff.1 read
  cases allowed : authorized found with
  | false =>
      rw [allowed] at read
      cases read
  | true =>
      cases key : last? found "instrumentationkey" with
      | none =>
          rw [allowed, key] at read
          cases read
      | some instrumentationKey =>
          rw [allowed, key] at read
          cases read
          exact service

/-- The ingestion service of an accepted connection string is an absolute identifier without a final
slash. It is secure unless its address is named as a whole and starts with neither `http://` nor
`https://`; the scheme of a named address is kept, but for an `s` after a scheme that ends in
`http`. -/
theorem endpoint_of_accepted {text : String} {settings : Settings}
    (accepted : Settings.ofConnectionString text = .ok settings) :
    ∃ found ingestion, fields text = .ok found ∧
      settings.endpointUrl = Settings.trackEndpoint ingestion ∧
      ¬ ['/'] <:+ ingestion.toList ∧ IsAbsolute ingestion ∧
      ("https://".toList <+: settings.endpointUrl.toList ↔
        ∀ url, last? found "ingestionendpoint" = some url → NamesWeb url) ∧
      ∀ url, last? found "ingestionendpoint" = some url →
        ∃ written, HasScheme (trimChars url.toList) written ∧
          HasScheme settings.endpointUrl.toList (secured written) := by
  obtain ⟨connection, read, same⟩ := bind_eq_ok_iff.1 accepted
  obtain ⟨found, fields_read, read⟩ := bind_eq_ok_iff.1 read
  cases same
  have service := ingestionOf_of_ofFields read
  have begins : connection.ingestion.toList <+:
      (Settings.trackEndpoint connection.ingestion).toList :=
    ⟨"/v2/track".toList, String.toList_append.symm⟩
  obtain ⟨bare, absolute⟩ := bare_of_ingestionOf service
  refine ⟨found, connection.ingestion, fields_read, rfl, bare, absolute, ?_, fun url named => ?_⟩
  · exact https_prefix_iff_of_ingestionOf service begins
  · exact hasScheme_of_address (address_of_named service named) begins

/-- An insecure address with blanks around it and a final slash. -/
def plainAddress : String :=
  "InstrumentationKey=k;IngestionEndpoint= http://ingest/ "

theorem endpoint_of_plainAddress : ∃ settings,
    Settings.ofConnectionString plainAddress = .ok settings ∧
      settings.endpointUrl = "https://ingest/v2/track" ∧
      "https://".toList <+: settings.endpointUrl.toList := by
  obtain ⟨settings, accepted, endpoint⟩ : ∃ settings,
      Settings.ofConnectionString plainAddress = .ok settings ∧
        settings.endpointUrl = "https://ingest/v2/track" := ⟨_, rfl, rfl⟩
  have read : fields plainAddress =
      .ok [("instrumentationkey", "k"), ("ingestionendpoint", " http://ingest/ ")] := rfl
  obtain ⟨found, _, read', -, -, -, secure, -⟩ := endpoint_of_accepted accepted
  rw [read] at read'
  cases read'
  refine ⟨settings, accepted, endpoint, secure.2 fun url named => ?_⟩
  cases named
  exact .inl (by decide)

/-- A connection string that is accepted although its endpoint is not secure. -/
def IsInsecure (text : String) : Prop :=
  ∃ settings, Settings.ofConnectionString text = .ok settings ∧
    ¬ "https://".toList <+: settings.endpointUrl.toList

/-- Neither other schemes nor other cases of the scheme are refused. -/
theorem endpoint_insecure :
    IsInsecure "InstrumentationKey=k;IngestionEndpoint=ftp://ingest" ∧
      IsInsecure "InstrumentationKey=k;IngestionEndpoint=HTTP://ingest" := by
  constructor
  · refine ⟨_, rfl, ?_⟩
    decide +kernel
  · refine ⟨_, rfl, ?_⟩
    decide +kernel

end TelemetryChannel.ConnectionString
