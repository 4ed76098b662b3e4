/-
# Ordered entries

An object is a list of entries in the order in which their keys were first
written, and that order is visible in every payload. Writing a key again keeps
its place. Removing a key moves the last entry into the gap, so the other
entries keep their places and at most one changes it.
-/

namespace TelemetryChannel.Json

/-- Entries in the order of first insertion. -/
abbrev Entries (α : Type) := List (String × α)

namespace Entries

variable {α : Type}

/-- The keys, in order. -/
def keys (entries : Entries α) : List String :=
  entries.map Prod.fst

/-- The value of a key. -/
def get? (entries : Entries α) (key : String) : Option α :=
  entries.lookup key

/-- Whether a key has a value. -/
def has (entries : Entries α) (key : String) : Bool :=
  entries.any fun entry => entry.1 == key

/-- Write a value: in the place of the key if it has one, otherwise at the
end. -/
def insert (entries : Entries α) (key : String) (value : α) : Entries α :=
  match entries with
  | [] => [(key, value)]
  | entry :: rest =>
    if entry.1 = key then (key, value) :: rest else entry :: insert rest key value

/-- Write entries one after the other. -/
def insertAll (entries added : Entries α) : Entries α :=
  added.foldl (fun written entry => written.insert entry.1 entry.2) entries

/-- Remove a key; the last entry takes its place. -/
def erase (entries : Entries α) (key : String) : Entries α :=
  match entries with
  | [] => []
  | entry :: rest =>
    if entry.1 = key then
      match rest.getLast? with
      | none => []
      | some last => last :: rest.dropLast
    else entry :: erase rest key

@[simp] theorem insert_nil (key : String) (value : α) :
    insert ([] : Entries α) key value = [(key, value)] := rfl

theorem keys_insert_of_mem {entries : Entries α} {key : String} (value : α)
    (h : key ∈ entries.keys) : (entries.insert key value).keys = entries.keys := by
  induction entries with
  | nil => simp [keys] at h
  | cons entry rest ih =>
      by_cases he : entry.1 = key
      · simp [insert, keys, he]
      · have hrest : key ∈ Entries.keys rest := by
          simp only [keys, List.map_cons, List.mem_cons] at h
          exact h.resolve_left fun hk => he hk.symm
        have := ih hrest
        simp only [keys] at this
        simp [insert, keys, he, this]

theorem keys_insert_of_not_mem {entries : Entries α} {key : String} (value : α)
    (h : key ∉ entries.keys) : (entries.insert key value).keys = entries.keys ++ [key] := by
  induction entries with
  | nil => simp [keys]
  | cons entry rest ih =>
      simp only [keys, List.map_cons, List.mem_cons, not_or] at h
      have := ih h.2
      simp only [keys] at this
      have he : ¬ entry.1 = key := fun hk => h.1 hk.symm
      simp [insert, keys, he, this]

@[simp] theorem get?_nil (wanted : String) : get? ([] : Entries α) wanted = none := rfl

theorem get?_cons (entry : String × α) (rest : Entries α) (wanted : String) :
    get? (entry :: rest) wanted = if wanted = entry.1 then some entry.2 else rest.get? wanted := by
  obtain ⟨key, value⟩ := entry
  simp only [get?, List.lookup_cons]
  by_cases hw : wanted = key
  · simp [hw]
  · have hk : (wanted == key) = false := by simp [hw]
    simp [hw, hk]

theorem get?_insert (entries : Entries α) (key wanted : String) (value : α) :
    (entries.insert key value).get? wanted =
      if wanted = key then some value else entries.get? wanted := by
  induction entries with
  | nil => simp [get?_cons]
  | cons entry rest ih =>
      by_cases he : entry.1 = key
      · by_cases hw : wanted = key <;> simp [insert, get?_cons, he, hw]
      · simp only [insert, he, if_false, get?_cons, ih]
        by_cases hw : wanted = entry.1
        · simp [hw, he]
        · simp [hw]

end Entries

end TelemetryChannel.Json
