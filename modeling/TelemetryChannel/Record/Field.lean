/-
# Records and their fields

What travels is a record: a list of named fields, some of which must not be
missing, some of which hold lists, and some of which are not written at all. A
field holds a value or refers to other records. The references are of any type;
whoever writes a record says how they are followed.
-/

import TelemetryChannel.Json.Basic

namespace TelemetryChannel.Record

open Json

/-- What a field holds, where `ρ` is the type of references to records. -/
inductive Value (ρ : Type) where
  | absent
  | null
  | bool (value : Bool)
  | int (value : Int)
  | float (value : Float)
  | text (value : String)
  | map (entries : Entries Json)
  | json (value : Json)
  | record (reference : ρ)
  | records (references : List ρ)

/-- What is known of a field apart from its value. -/
structure Role where
  required : Bool
  list : Bool
  hidden : Bool
  deriving DecidableEq, Repr

/-- A field that may be missing. -/
def Role.plain : Role := ⟨false, false, false⟩

/-- A field that must not be missing. -/
def Role.needed : Role := ⟨true, false, false⟩

/-- A field of a record. -/
structure Field (ρ : Type) where
  name : String
  role : Role
  value : Value ρ

namespace Value

variable {ρ : Type}

/-- Whether a field holds nothing. -/
def isAbsent : Value ρ → Bool
  | absent => true
  | _ => false

/-- A text that may be missing. -/
def ofText? (value : Option String) : Value ρ :=
  (value.map text).getD absent

/-- An integer that may be missing. -/
def ofInt? (value : Option Int) : Value ρ :=
  (value.map int).getD absent

/-- A number that may be missing. -/
def ofFloat? (value : Option Float) : Value ρ :=
  (value.map float).getD absent

/-- A truth value that may be missing. -/
def ofBool? (value : Option Bool) : Value ρ :=
  (value.map bool).getD absent

end Value

namespace Field

variable {ρ : Type}

/-- A field that may be missing. -/
def optional (name : String) (value : Value ρ) : Field ρ :=
  ⟨name, .plain, value⟩

/-- A field that must not be missing. -/
def required (name : String) (value : Value ρ) : Field ρ :=
  ⟨name, .needed, value⟩

end Field

end TelemetryChannel.Record
