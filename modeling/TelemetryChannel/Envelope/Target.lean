/-
# Targets of calls

The target of a call is the host and the port of its address, without the user
in front of them. A call that has no name is named after its method and the path
of its address, and the path is what was asked for.
-/

import TelemetryChannel.Limits
import TelemetryChannel.Uri

namespace TelemetryChannel.Envelope

/-- What the address and the name of a call say about it. -/
structure Target where
  target : Option String
  name : Option String
  data : Option String
  deriving DecidableEq, Repr

/-- The identifier that a text writes, if it has an authority. -/
def authorized? (url : String) : Option Uri :=
  (Uri.ofText url).toOption.filter fun uri => uri.authority != ""

/-- What an address and a name say about a call with a method. -/
def Target.of (url : Option String) (method : String) (name : Option String) :
    Reported Target :=
  match url.filter (· != "") with
  | none => pure ⟨name, name, name⟩
  | some url => do
    let uri := authorized? url
    let target := (uri.map fun uri => String.ofList uri.hostAndPort).getD url
    match name with
    | some name => return ⟨some target, some name, some name⟩
    | none =>
      let path := (uri.map Uri.path).getD ""
      let rooted := if path.startsWith "/" then path else "/" ++ path
      let name ← Limit.shortValue.apply (method ++ " " ++ rooted)
      return ⟨some target, some name, some path⟩

end TelemetryChannel.Envelope
