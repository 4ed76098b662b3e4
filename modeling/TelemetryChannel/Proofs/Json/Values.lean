/-
# Where values end

Whatever a value is, when the reader is through with it, the value is handed to the container that
has waited for it, and reading goes on there as if nothing else had been read. Inside of a container
everything is handed to what that container holds, so nothing gets out of it before its bracket is
closed. A value is a string only if it starts with a quote, and an array only if it starts with a
bracket.
-/

import TelemetryChannel.Proofs.Json.Spelling

namespace TelemetryChannel.Json

/-- What may stand between lexemes. -/
def Gap (text : List Char) : Prop :=
  ∀ c ∈ text, c = ' ' ∨ c = '\t' ∨ c = '\n' ∨ c = '\r'

theorem isGap_iff {c : Char} :
    Reader.isGap c = true ↔ c = ' ' ∨ c = '\t' ∨ c = '\n' ∨ c = '\r' := by
  simp [Reader.isGap, or_assoc]

section

variable {place : Place} {stack : List Frame} {result : Parsed}

theorem run?_gap {gap : List Char} (isGap : Gap gap) (place : Place) (stack : List Frame) :
    Reader.run? ⟨.gap, place, stack⟩ gap = some ⟨.gap, place, stack⟩ := by
  induction gap with
  | nil => rfl
  | cons c rest ih =>
      obtain ⟨here, later⟩ := List.forall_mem_cons.1 isGap
      have stays : Reader.step? ⟨.gap, place, stack⟩ c = some ⟨.gap, place, stack⟩ :=
        if_pos (isGap_iff.2 here)
      rw [Reader.run?, stays]
      exact ih later

/-- The gap in front of a lexeme is passed over. -/
theorem exists_gap {text : List Char}
    (read : Reader.read? ⟨.gap, place, stack⟩ text = some result) :
    ∃ gap rest, text = gap ++ rest ∧ Gap gap ∧
      Reader.read? ⟨.gap, place, stack⟩ rest = some result ∧
        rest.head?.any Reader.isGap = false := by
  have isGap : Gap (text.takeWhile Reader.isGap) := fun c member =>
    isGap_iff.1 (List.all_eq_true.1 List.all_takeWhile c member)
  refine ⟨text.takeWhile Reader.isGap, text.dropWhile Reader.isGap,
    List.takeWhile_append_dropWhile.symm, isGap, ?_, ?_⟩
  · rwa [← Reader.read?_append (run?_gap isGap place stack), List.takeWhile_append_dropWhile]
  · cases rest : text.dropWhile Reader.isGap with
    | nil => rfl
    | cons c rest' =>
        have stop := List.head?_dropWhile_not Reader.isGap text
        rw [rest] at stop
        simpa using stop

/-- A lexeme follows the gap, unless there is nothing left. -/
theorem exists_lexeme {text : List Char}
    (read : Reader.read? ⟨.gap, place, stack⟩ text = some result) :
    ∃ gap, Gap gap ∧ (text = gap ∧ Reader.result? ⟨.gap, place, stack⟩ = some result ∨
      ∃ c rest next, text = gap ++ c :: rest ∧ Reader.isGap c = false ∧
        Reader.stepGap? ⟨.gap, place, stack⟩ c = some next ∧ next.read? rest = some result) := by
  obtain ⟨gap, rest, rfl, isGap, read, stops⟩ := exists_gap read
  refine ⟨gap, isGap, ?_⟩
  cases rest with
  | nil => exact .inl ⟨List.append_nil gap, read⟩
  | cons c rest =>
      rw [Reader.read?_cons] at read
      obtain ⟨next, step, read⟩ := Option.bind_eq_some_iff.1 read
      exact .inr ⟨c, rest, next, rfl, stops, step, read⟩

/-- Nothing follows the whole value but a gap. -/
theorem gap_of_done {value : Parsed} {text : List Char}
    (read : Reader.read? ⟨.gap, .done value, stack⟩ text = some result) :
    Gap text ∧ result = value := by
  obtain ⟨gap, isGap, ⟨rfl, ends⟩ | ⟨c, rest, next, rfl, noGap, step, -⟩⟩ := exists_lexeme read
  · exact ⟨isGap, (Option.some.inj ends).symm⟩
  · simp [Reader.stepGap?, noGap] at step

end

theorem Reader.lexeme_give (stack : List Frame) (value : Parsed) :
    (give stack value).lexeme = .gap := by
  unfold give
  split <;> rfl

theorem Reader.step?_of_gap {reader : Reader} (between : reader.lexeme = .gap) (c : Char) :
    reader.step? c = reader.stepGap? c := by
  unfold step?
  rw [between]

/-- A numeral that ends with the text is handed over then. -/
theorem Reader.result?_numeral (chars : List Char) (place : Place) (stack : List Frame) :
    Reader.result? ⟨.numeral chars, place, stack⟩ =
      (closeNumeral? ⟨.numeral chars, place, stack⟩ chars).bind result? := by
  simp only [result?, closeNumeral?]
  cases Numeral.ofChars? chars.reverse with
  | none => rfl
  | some numeral =>
      cases stack with
      | nil => rfl
      | cons frame rest => cases frame <;> rfl

/-! ## Inside of containers -/

/-- Whether a container that waits for a value is an array. -/
def Frame.isArray : Frame → Bool
  | .array _ => true
  | .object _ _ => false

/-- Whether the container whose parts are read at a place is an array. Where a value is missing,
that container waits for it, and at the end there is none. -/
def Place.isArray? : Place → Option Bool
  | .afterItem _ => some true
  | .firstKey | .key _ | .colon _ _ | .afterEntry _ => some false
  | .value | .firstItem | .done _ => none

theorem isArray?_atValue {place : Place} (atValue : place = .value ∨ place = .firstItem) :
    place.isArray? = none := by
  rcases atValue with rfl | rfl <;> rfl

/-- A value that an array is read as, or an object. Both may be unreadable. -/
def OfContainer : Bool → Parsed → Prop
  | _, .unreadable => True
  | true, .array _ => True
  | false, .object _ => True
  | _, _ => False

/-- On top of some containers there is at least one more, which waits or whose parts are being read,
and the outermost of these is an array or an object. -/
def Holds (base : List Frame) (isArray : Bool) (place : Place) (stack : List Frame) : Prop :=
  place.isArray? = some isArray ∧ stack = base ∨
    ∃ above bottom, stack = above ++ bottom :: base ∧ bottom.isArray = isArray

/-- The lexemes that may be in progress at a place. -/
def Lexeme.Fits (lexeme : Lexeme) (place : Place) : Prop :=
  match lexeme with
  | .gap => ∀ result, place ≠ .done result
  | .word _ _ | .numeral _ => place = .value ∨ place = .firstItem
  | .string _ | .escape _ | .unit _ _ _ =>
    place = .value ∨ place = .firstItem ∨ place = .firstKey ∨ ∃ entries, place = .key entries

/-- The reader is inside of an array, or of an object, that was opened on top of some containers. -/
structure Within (base : List Frame) (isArray : Bool) (reader : Reader) : Prop where
  holds : Holds base isArray reader.place reader.stack
  fits : reader.lexeme.Fits reader.place
  -- Before its first item an array already waits, and yet its bracket may close it.
  first : reader.place = .firstItem → ∃ items rest, reader.stack = .array items :: rest

section

variable {base stack : List Frame} {isArray kind : Bool} {place other : Place} {frame : Frame}

/-- Where a value is missing, a container waits for it. -/
theorem Holds.exists_frame (holds : Holds base isArray place stack)
    (waits : place.isArray? = none) :
    ∃ above bottom, stack = above ++ bottom :: base ∧ bottom.isArray = isArray := by
  rcases holds with ⟨isOpen, -⟩ | waits'
  · cases waits.symm.trans isOpen
  · exact waits'

/-- A container that waits for a value counts as before. -/
theorem Holds.push (holds : Holds base isArray place stack)
    (same : place.isArray? = some frame.isArray) (other : Place) :
    Holds base isArray other (frame :: stack) := by
  rcases holds with ⟨isOpen, rfl⟩ | ⟨above, bottom, rfl, isArray'⟩
  · exact .inr ⟨[], frame, rfl, Option.some.inj (same.symm.trans isOpen)⟩
  · exact .inr ⟨frame :: above, bottom, rfl, isArray'⟩

/-- So does one that has got its value. -/
theorem Holds.pop (holds : Holds base isArray place (frame :: stack))
    (waits : place.isArray? = none) (same : other.isArray? = some frame.isArray) :
    Holds base isArray other stack := by
  obtain ⟨above, bottom, split, isArray'⟩ := holds.exists_frame waits
  cases above with
  | nil =>
      obtain ⟨rfl, rfl⟩ := List.cons.inj split
      exact .inl ⟨same.trans (congrArg some isArray'), rfl⟩
  | cons first above =>
      obtain ⟨-, rfl⟩ := List.cons.inj split
      exact .inr ⟨above, bottom, rfl, isArray'⟩

theorem Holds.congr (holds : Holds base isArray place stack)
    (same : other.isArray? = place.isArray?) : Holds base isArray other stack :=
  holds.imp_left fun ⟨isOpen, bottom⟩ => ⟨same.trans isOpen, bottom⟩

theorem Holds.colon (holds : Holds base isArray place stack) (same : place.isArray? = some false)
    (entries : EntriesSoFar) (key : Option String) :
    Within base isArray ⟨.gap, .colon entries key, stack⟩ :=
  ⟨holds.congr same.symm, fun _ => nofun, nofun⟩

/-- A value that is handed to a container inside does not get out. -/
theorem Holds.give (holds : Holds base isArray place stack) (waits : place.isArray? = none)
    (value : Parsed) : Within base isArray (Reader.give stack value) := by
  cases stack with
  | nil =>
      obtain ⟨above, bottom, split, -⟩ := holds.exists_frame waits
      simp at split
  | cons frame rest =>
      cases frame with
      | array items => exact ⟨holds.pop waits rfl, fun _ => nofun, nofun⟩
      | object entries key => exact ⟨holds.pop waits rfl, fun _ => nofun, nofun⟩

/-- A reader that stays inside of the container, or hands it over. -/
def Within.Next (base : List Frame) (isArray : Bool) (next : Reader) : Prop :=
  Within base isArray next ∨ ∃ value, OfContainer isArray value ∧ next = Reader.give base value

theorem Holds.close {container : Parsed} (holds : Holds base isArray place stack)
    (isOpen : place.isArray? = some kind) (form : OfContainer kind container) :
    Within.Next base isArray (Reader.close stack container) := by
  rcases holds with ⟨isOpen', rfl⟩ | ⟨above, bottom, rfl, isArray'⟩
  · obtain rfl := Option.some.inj (isOpen.symm.trans isOpen')
    refine .inr ⟨_, ?_, rfl⟩
    split
    · cases kind <;> trivial
    · exact form
  · have waiting : Holds base isArray .value (above ++ bottom :: base) :=
      .inr ⟨above, bottom, rfl, isArray'⟩
    exact .inl (waiting.give rfl _)

end

/-- A value that is neither a string nor an array. -/
def Plain (value : Parsed) : Prop :=
  (∀ text, value ≠ .string text) ∧ ∀ items, value ≠ .array items

/-- How values start. -/
theorem openValue?_cases {lexeme : Lexeme} {place : Place} {stack : List Frame} {c : Char}
    {next : Reader} (step : Reader.openValue? ⟨lexeme, place, stack⟩ c = some next) :
    c = '"' ∧ next = ⟨.string .empty, place, stack⟩ ∨
      c = '[' ∧ next = ⟨.gap, .firstItem, .array [] :: stack⟩ ∨
      c = '\x7b' ∧ next = ⟨.gap, .firstKey, stack⟩ ∨
      (∃ missing value, Plain value ∧ next = ⟨.word missing value, place, stack⟩) ∨
      ∃ chars, next = ⟨.numeral chars, place, stack⟩ := by
  unfold Reader.openValue? at step
  split at step
  · exact .inl ⟨rfl, (Option.some.inj step).symm⟩
  · exact .inr (.inl ⟨rfl, (Option.some.inj step).symm⟩)
  · exact .inr (.inr (.inl ⟨rfl, (Option.some.inj step).symm⟩))
  · obtain rfl := Option.some.inj step
    exact .inr (.inr (.inr (.inl ⟨_, .null, ⟨fun _ => nofun, fun _ => nofun⟩, rfl⟩)))
  · obtain rfl := Option.some.inj step
    exact .inr (.inr (.inr (.inl ⟨_, .bool true, ⟨fun _ => nofun, fun _ => nofun⟩, rfl⟩)))
  · obtain rfl := Option.some.inj step
    exact .inr (.inr (.inr (.inl ⟨_, .bool false, ⟨fun _ => nofun, fun _ => nofun⟩, rfl⟩)))
  · split at step
    · exact .inr (.inr (.inr (.inr ⟨_, (Option.some.inj step).symm⟩)))
    · cases step

namespace Within

variable {base stack : List Frame} {isArray : Bool} {lexeme : Lexeme} {place : Place}
  {reader next : Reader} {c : Char}

theorem openValue? (within : Within base isArray ⟨lexeme, place, stack⟩)
    (atValue : place = .value ∨ place = .firstItem)
    (step : Reader.openValue? ⟨lexeme, place, stack⟩ c = some next) :
    Within base isArray next := by
  have waits : place.isArray? = none := isArray?_atValue atValue
  obtain ⟨above, bottom, rfl, isArray'⟩ := within.holds.exists_frame waits
  rcases openValue?_cases step with
    ⟨-, rfl⟩ | ⟨-, rfl⟩ | ⟨-, rfl⟩ | ⟨missing, value, -, rfl⟩ | ⟨chars, rfl⟩
  · exact ⟨within.holds, atValue.imp_right .inl, within.first⟩
  · exact ⟨.inr ⟨.array [] :: above, bottom, rfl, isArray'⟩, fun _ => nofun,
      fun _ => ⟨[], _, rfl⟩⟩
  · exact ⟨.inr ⟨above, bottom, rfl, isArray'⟩, fun _ => nofun, nofun⟩
  · exact ⟨within.holds, atValue, within.first⟩
  · exact ⟨within.holds, atValue, within.first⟩

/-- A lexeme that starts between others does not get out of the container, unless it is the bracket
that closes it. -/
theorem stepGap? (within : Within base isArray reader) (between : reader.lexeme = .gap)
    (step : reader.stepGap? c = some next) : Next base isArray next := by
  obtain ⟨lexeme, place, stack⟩ := reader
  obtain rfl : lexeme = .gap := between
  unfold Reader.stepGap? at step
  split at step
  · obtain rfl := Option.some.inj step
    exact .inl within
  cases place with
  | value => exact .inl (within.openValue? (.inl rfl) step)
  | firstItem =>
      obtain ⟨items, rest, rfl⟩ : ∃ items rest, stack = .array items :: rest := within.first rfl
      dsimp only at step
      split at step
      · rename_i same _
        obtain ⟨-, rfl⟩ := List.cons.inj same
        obtain rfl := Option.some.inj step
        have inside : Holds base isArray (.afterItem []) rest := within.holds.pop rfl rfl
        exact inside.close rfl trivial
      · exact .inl (within.openValue? (.inr rfl) step)
  | firstKey =>
      dsimp only at step
      split at step
      · obtain rfl := Option.some.inj step
        exact .inl ⟨within.holds, .inr (.inr (.inl rfl)), nofun⟩
      · obtain rfl := Option.some.inj step
        exact within.holds.close rfl trivial
      · cases step
  | key entries =>
      dsimp only at step
      split at step
      · obtain rfl := Option.some.inj step
        exact .inl ⟨within.holds, .inr (.inr (.inr ⟨entries, rfl⟩)), nofun⟩
      · cases step
  | colon entries key =>
      dsimp only at step
      split at step
      · obtain rfl := Option.some.inj step
        exact .inl ⟨within.holds.push rfl _, fun _ => nofun, nofun⟩
      · cases step
  | afterItem items =>
      dsimp only at step
      split at step
      · obtain rfl := Option.some.inj step
        exact .inl ⟨within.holds.push rfl _, fun _ => nofun, nofun⟩
      · obtain rfl := Option.some.inj step
        exact within.holds.close rfl trivial
      · cases step
  | afterEntry entries =>
      dsimp only at step
      split at step
      · obtain rfl := Option.some.inj step
        exact .inl ⟨within.holds.congr rfl, fun _ => nofun, nofun⟩
      · obtain rfl := Option.some.inj step
        exact within.holds.close rfl trivial
      · cases step
  | done result => exact absurd rfl (within.fits result)

/-- One character leaves the reader inside of the container, or the container is closed and handed
over. -/
theorem step? (within : Within base isArray reader) (step : reader.step? c = some next) :
    Next base isArray next := by
  obtain ⟨lexeme, place, stack⟩ := reader
  have holds := within.holds
  have fits := within.fits
  have first := within.first
  dsimp only at holds fits first
  cases lexeme with
  | gap => exact within.stepGap? rfl step
  | word missing value =>
      cases missing with
      | nil => cases step
      | cons expected missing =>
          simp only [Reader.step?] at step
          split at step
          · cases step
          split at step
          · obtain rfl := Option.some.inj step
            exact .inl (holds.give (isArray?_atValue fits) value)
          · obtain rfl := Option.some.inj step
            exact .inl ⟨holds, fits, first⟩
  | numeral chars =>
      simp only [Reader.step?] at step
      split at step
      · obtain rfl := Option.some.inj step
        exact .inl ⟨holds, fits, first⟩
      · obtain ⟨closed, closes, step⟩ := Option.bind_eq_some_iff.1 step
        obtain ⟨numeral, -, rfl⟩ := Option.map_eq_some_iff.1 closes
        -- The character behind the numeral is taken too, and it may close the container.
        exact (holds.give (isArray?_atValue fits) _).stepGap? (Reader.lexeme_give _ _) step
  | string soFar =>
      simp only [Reader.step?] at step
      split at step
      · obtain rfl := Option.some.inj step
        rcases fits with rfl | rfl | rfl | ⟨entries, rfl⟩
        · exact .inl (holds.give rfl _)
        · exact .inl (holds.give rfl _)
        · exact .inl (holds.colon rfl _ _)
        · exact .inl (holds.colon rfl _ _)
      split at step
      · obtain rfl := Option.some.inj step
        exact .inl ⟨holds, fits, first⟩
      split at step
      · cases step
      · obtain rfl := Option.some.inj step
        exact .inl ⟨holds, fits, first⟩
  | escape soFar =>
      simp only [Reader.step?] at step
      split at step
      · obtain rfl := Option.some.inj step
        exact .inl ⟨holds, fits, first⟩
      · obtain ⟨escaped, -, rfl⟩ := Option.map_eq_some_iff.1 step
        exact .inl ⟨holds, fits, first⟩
  | unit soFar missing value =>
      obtain ⟨digit, -, rfl⟩ := Option.map_eq_some_iff.1 step
      dsimp only
      split
      · exact .inl ⟨holds, fits, first⟩
      · exact .inl ⟨holds, fits, first⟩

theorem result?_of_gap (within : Within base isArray reader) (between : reader.lexeme = .gap) :
    reader.result? = none := by
  obtain ⟨lexeme, place, stack⟩ := reader
  obtain rfl : lexeme = .gap := between
  cases place with
  | done result => exact absurd rfl (within.fits result)
  | _ => rfl

/-- The text does not end inside of a container. -/
theorem result? (within : Within base isArray reader) : reader.result? = none := by
  obtain ⟨lexeme, place, stack⟩ := reader
  cases lexeme with
  | gap => exact within.result?_of_gap rfl
  | numeral chars =>
      rw [Reader.result?_numeral, Option.bind_eq_none_iff]
      intro closed closes
      obtain ⟨numeral, -, rfl⟩ := Option.map_eq_some_iff.1 closes
      exact (within.holds.give (isArray?_atValue within.fits) _).result?_of_gap
        (Reader.lexeme_give _ _)
  | _ => rfl

/-- The container is closed at some time and is handed over, or nothing is read. -/
theorem exists_closed {text : List Char} {result : Parsed} (within : Within base isArray reader)
    (read : reader.read? text = some result) :
    ∃ value behind, OfContainer isArray value ∧ behind.length ≤ text.length ∧
      (Reader.give base value).read? behind = some result := by
  induction text generalizing reader with
  | nil => cases within.result?.symm.trans read
  | cons c rest ih =>
      rw [Reader.read?_cons] at read
      obtain ⟨next, step, read⟩ := Option.bind_eq_some_iff.1 read
      rcases within.step? step with within | ⟨value, form, rfl⟩
      · obtain ⟨value, behind, form, shorter, read⟩ := ih within read
        exact ⟨value, behind, form, Nat.le_succ_of_le shorter, read⟩
      · exact ⟨value, rest, form, Nat.le_succ _, read⟩

end Within

/-! ## Values -/

section

variable {place : Place} {stack : List Frame} {result value : Parsed} {text : List Char}

/-- A word is read to its end. -/
theorem exists_word {missing : List Char}
    (read : Reader.read? ⟨.word missing value, place, stack⟩ text = some result) :
    ∃ behind, behind.length ≤ text.length ∧
      (Reader.give stack value).read? behind = some result := by
  induction text generalizing missing with
  | nil => cases read
  | cons c rest ih =>
      rw [Reader.read?_cons] at read
      obtain ⟨next, step, read⟩ := Option.bind_eq_some_iff.1 read
      cases missing with
      | nil => cases step
      | cons expected missing =>
          simp only [Reader.step?] at step
          split at step
          · cases step
          split at step
          · obtain rfl := Option.some.inj step
            exact ⟨rest, Nat.le_succ _, read⟩
          · obtain rfl := Option.some.inj step
            obtain ⟨behind, shorter, read⟩ := ih read
            exact ⟨behind, Nat.le_succ_of_le shorter, read⟩

/-- A numeral is read until something else follows. It may turn out to be unreadable. -/
theorem exists_numeral {chars : List Char}
    (read : Reader.read? ⟨.numeral chars, place, stack⟩ text = some result) :
    ∃ value behind, Plain value ∧ behind.length ≤ text.length ∧
      (Reader.give stack value).read? behind = some result := by
  have plain (numeral : Numeral) : Plain ((numeral.value?.map .number).getD .unreadable) := by
    cases numeral.value? <;> exact ⟨fun _ => nofun, fun _ => nofun⟩
  induction text generalizing chars with
  | nil =>
      have ends : Reader.result? ⟨.numeral chars, place, stack⟩ = some result := read
      rw [Reader.result?_numeral] at ends
      obtain ⟨closed, closes, ends⟩ := Option.bind_eq_some_iff.1 ends
      obtain ⟨numeral, -, rfl⟩ := Option.map_eq_some_iff.1 closes
      exact ⟨_, [], plain numeral, Nat.le_refl _, ends⟩
  | cons c rest ih =>
      rw [Reader.read?_cons] at read
      obtain ⟨next, step, read⟩ := Option.bind_eq_some_iff.1 read
      simp only [Reader.step?] at step
      split at step
      · obtain rfl := Option.some.inj step
        obtain ⟨value, behind, plain', shorter, read⟩ := ih read
        exact ⟨value, behind, plain', Nat.le_succ_of_le shorter, read⟩
      · obtain ⟨closed, closes, step⟩ := Option.bind_eq_some_iff.1 step
        obtain ⟨numeral, -, rfl⟩ := Option.map_eq_some_iff.1 closes
        -- The character that ends the numeral is read again by what comes after it.
        refine ⟨_, c :: rest, plain numeral, Nat.le_refl _, ?_⟩
        rw [Reader.read?_cons, Reader.step?_of_gap (Reader.lexeme_give _ _), step, Option.bind_some,
          read]

/-- A value is handed over to what waits for it. If it is a string, it is between quotes, and if it
is an array, it starts with a bracket. -/
theorem exists_value {lexeme : Lexeme} {c : Char} {rest : List Char} {next : Reader}
    (atValue : place = .value ∨ place = .firstItem)
    (step : Reader.openValue? ⟨lexeme, place, stack⟩ c = some next)
    (read : next.read? rest = some result) :
    ∃ value behind, behind.length ≤ rest.length ∧
      (Reader.give stack value).read? behind = some result ∧
      (∀ text, value = .string text →
        ∃ body, c = '"' ∧ rest = body ++ '"' :: behind ∧ Spells body text.toList) ∧
      ∀ items, value = .array items → c = '[' := by
  rcases openValue?_cases step with
    ⟨rfl, rfl⟩ | ⟨rfl, rfl⟩ | ⟨-, rfl⟩ | ⟨missing, value, plain, rfl⟩ | ⟨chars, rfl⟩
  · obtain ⟨body, behind, value, rfl, read, spells, other⟩ := exists_quoted atValue read
    refine ⟨value, behind, by simp; omega, read, fun text same => ?_, fun items same => ?_⟩
    · exact ⟨body, rfl, rfl, spells text same⟩
    · exact absurd same (other items)
  · have within : Within stack true ⟨.gap, .firstItem, .array [] :: stack⟩ :=
      ⟨.inr ⟨[], .array [], rfl, rfl⟩, fun _ => nofun, fun _ => ⟨[], stack, rfl⟩⟩
    obtain ⟨value, behind, form, shorter, read⟩ := within.exists_closed read
    refine ⟨value, behind, shorter, read, ?_, fun _ _ => rfl⟩
    rintro text rfl
    exact form.elim
  · have within : Within stack false ⟨.gap, .firstKey, stack⟩ :=
      ⟨.inl ⟨rfl, rfl⟩, fun _ => nofun, nofun⟩
    obtain ⟨value, behind, form, shorter, read⟩ := within.exists_closed read
    refine ⟨value, behind, shorter, read, ?_, ?_⟩
    · rintro text rfl
      exact form.elim
    · rintro items rfl
      exact form.elim
  · obtain ⟨behind, shorter, read⟩ := exists_word read
    exact ⟨value, behind, shorter, read, fun text same => absurd same (plain.1 text),
      fun items same => absurd same (plain.2 items)⟩
  · obtain ⟨value, behind, plain, shorter, read⟩ := exists_numeral read
    exact ⟨value, behind, shorter, read, fun text same => absurd same (plain.1 text),
      fun items same => absurd same (plain.2 items)⟩

end

end TelemetryChannel.Json
