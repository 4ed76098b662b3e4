/-
# Records in progress

What refers to itself would be written without end, so a record is not written again while
it is in progress. Records in progress are told apart by their types and their addresses,
because the first field of a record has the address of the record. An envelope holds no
record inside of another one of the same type, whatever its shape is and wherever its
parts are. So no record is ever taken for one in progress, and an envelope is written as
if nobody had looked.
-/

import TelemetryChannel.Envelope.Basic
import TelemetryChannel.Record.Table

namespace TelemetryChannel

open Json Record

namespace Record

/-- What tells a record in progress apart. -/
structure Identity where
  type : String
  address : Nat
  deriving DecidableEq

/-- The address of a record, by the records in progress around it and its name. -/
abbrev Addresses : Type := List Identity → String → Nat

variable {ρ : Type}

/-- Write a record of a type unless it is in progress. The records in progress are those of a
path, the innermost first. -/
def writeOnce (addresses : Addresses) (type : String)
    (follow : List Identity → String → ρ → Reported Json) (path : List Identity) (name : String)
    (fields : List (Field ρ)) : Reported Json :=
  let self : Identity := ⟨type, addresses path name⟩
  if self ∈ path then do
    report (circular name)
    return .object []
  else Record.write (follow (self :: path)) name fields

variable {addresses : Addresses} {type : String} {path : List Identity}
  {follow : List Identity → String → ρ → Reported Json} {plain : String → ρ → Reported Json}

/-- A record is written if no record of its type is in progress. -/
theorem writeOnce_eq (fresh : type ∉ path.map Identity.type)
    (followed : ∀ address name reference,
      follow (⟨type, address⟩ :: path) name reference = plain name reference)
    (name : String) (fields : List (Field ρ)) :
    writeOnce addresses type follow path name fields = Record.write plain name fields := by
  have absent (address : Nat) : (⟨type, address⟩ : Identity) ∉ path := fun member =>
    fresh (List.mem_map_of_mem (f := Identity.type) member)
  have same : follow (⟨type, addresses path name⟩ :: path) = plain := by
    funext name reference
    exact followed _ name reference
  simp only [writeOnce, if_neg (absent _), same]

end Record

namespace Exception

/-- Write a frame unless it is in progress. -/
def Frame.writeOnce (addresses : Addresses) (path : List Identity) (name : String)
    (frame : Frame) : Reported Json :=
  Record.writeOnce addresses "StackFrame" (fun _ _ => nofun) path name frame.fields

/-- Write the details of an exception unless they are in progress. -/
def Details.writeOnce (addresses : Addresses) (path : List Identity) (name : String)
    (details : Details) : Reported Json :=
  Record.writeOnce addresses "ExceptionDetails" (Frame.writeOnce addresses) path name
    details.fields

end Exception

namespace Envelope

open Exception

/-- Write a measured value unless it is in progress. -/
def Point.writeOnce (addresses : Addresses) (path : List Identity) (name : String)
    (point : Point) : Reported Json :=
  Record.writeOnce addresses "DataPoint" (fun _ _ => nofun) path name point.fields

/-- Write the record of a payload unless it is in progress. -/
def Payload.writeBaseOnce (addresses : Addresses) (path : List Identity) (name : String)
    (payload : Payload) : Reported Json :=
  let type := payload.baseType
  match payload with
  | .event p => Record.writeOnce addresses type (fun _ _ => nofun) path name p.fields
  | .exception p => Record.writeOnce addresses type (Details.writeOnce addresses) path name p.fields
  | .message p => Record.writeOnce addresses type (fun _ _ => nofun) path name p.fields
  | .metric p => Record.writeOnce addresses type (Point.writeOnce addresses) path name p.fields
  | .pageView p => Record.writeOnce addresses type (fun _ _ => nofun) path name p.fields
  | .pageTimings p => Record.writeOnce addresses type (fun _ _ => nofun) path name p.fields
  | .dependency p => Record.writeOnce addresses type (fun _ _ => nofun) path name p.fields

/-- Write a payload with its name unless it is in progress. -/
def Payload.writeOnce (addresses : Addresses) (path : List Identity) (name : String)
    (payload : Payload) : Reported Json :=
  Record.writeOnce addresses "Data" (Payload.writeBaseOnce addresses) path name payload.fields

/-- Write an envelope, where no record is written while it is in progress. -/
def writeOnce (addresses : Addresses) (envelope : Envelope) : Reported Json :=
  Record.writeOnce addresses "Envelope" (Payload.writeOnce addresses) [] rootName envelope.fields

variable {addresses : Addresses} {path : List Identity}

theorem writeOnce_frame (fresh : "StackFrame" ∉ path.map Identity.type) (name : String)
    (frame : Exception.Frame) : frame.writeOnce addresses path name = frame.write name :=
  writeOnce_eq fresh (fun _ _ => nofun) name frame.fields

theorem writeOnce_details (fresh : "ExceptionDetails" ∉ path.map Identity.type)
    (fresh' : "StackFrame" ∉ path.map Identity.type) (name : String) (details : Details) :
    details.writeOnce addresses path name = details.write name :=
  writeOnce_eq fresh (fun _ name frame => writeOnce_frame (by simpa using fresh') name frame) name
    details.fields

theorem writeOnce_point (fresh : "DataPoint" ∉ path.map Identity.type) (name : String)
    (point : Point) : point.writeOnce addresses path name = point.write name :=
  writeOnce_eq fresh (fun _ _ => nofun) name point.fields

theorem baseType_ne (payload : Payload) :
    payload.baseType ≠ "Data" ∧ payload.baseType ≠ "Envelope" := by
  cases payload <;> simp [Payload.baseType]

theorem writeBaseOnce_eq (outside : path.map Identity.type = ["Data", "Envelope"]) (name : String)
    (payload : Payload) :
    payload.writeBaseOnce addresses path name = payload.writeBase name := by
  have fresh : payload.baseType ∉ path.map Identity.type := by
    simpa [outside] using baseType_ne payload
  unfold Payload.writeBaseOnce Payload.writeBase
  cases payload with
  | event p | message p | pageView p | pageTimings p | dependency p =>
      exact writeOnce_eq fresh (fun _ _ => nofun) name p.fields
  | exception p =>
      refine writeOnce_eq fresh (fun address name details => ?_) name p.fields
      apply writeOnce_details <;> simp [outside, Payload.baseType]
  | metric p =>
      refine writeOnce_eq fresh (fun address name point => ?_) name p.fields
      apply writeOnce_point
      simp [outside, Payload.baseType]

/-- No record of an envelope is taken for one in progress, wherever the records are. -/
theorem writeOnce_eq_write (addresses : Addresses) (envelope : Envelope) :
    envelope.writeOnce addresses = envelope.write := by
  refine writeOnce_eq (by decide) (fun address name payload => ?_) rootName envelope.fields
  refine writeOnce_eq ?_ (fun address name payload => ?_) name payload.fields
  · simp
  · exact writeBaseOnce_eq rfl name payload

end Envelope

end TelemetryChannel
