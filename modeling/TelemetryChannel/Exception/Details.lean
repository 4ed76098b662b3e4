/-
# Details of exceptions

An exception has the name of its type, a message and a stack. What is not known
of it says so; a missing stack is left out.
-/

import TelemetryChannel.Exception.Stack
import TelemetryChannel.Limits
import TelemetryChannel.Record.Writer

namespace TelemetryChannel.Exception

open Record

/-- What is known of an exception. The frames are those of the stack. -/
structure Details where
  typeName : String
  message : String
  stack : Option String
  frames : Option (List Frame)
  deriving DecidableEq, Repr

/-- What stands for a name or a message that is not known. -/
def notSpecified : String := "not_specified"

/-- A text, or that there is none. -/
def specified (text : Option String) : String :=
  (text.filter (· != "")).getD notSpecified

/-- A text that may be missing, as far as a limit allows. -/
def limited? (limit : Limit) : Option String → Reported (Option String)
  | none => pure none
  | some text => some <$> limit.apply text

/-- The details of an exception. The frames are read from the stack before it is
cut. -/
def Details.of (typeName message stack : Option String) : Reported Details := do
  let typeName ← limited? .shortValue typeName
  let message ← limited? .message message
  let cut ← limited? .exception stack
  return {
    typeName := specified typeName
    message := specified message
    stack := cut
    frames := stack.map parseStack }

/-- The fields of a frame, which refer to no other records. -/
def Frame.fields (frame : Frame) : List (Record.Field Empty) :=
  [.required "level" (.int frame.level), .required "method" (.text frame.method),
    .optional "assembly" (.text frame.assembly), .optional "fileName" (.text frame.fileName),
    .optional "line" (.int frame.line)]

/-- Write a frame. -/
def Frame.write (name : String) (frame : Frame) : Reported Json :=
  Record.write (fun _ => nofun) name frame.fields

/-- The fields of the details of an exception. -/
def Details.fields (details : Details) : List (Record.Field Frame) :=
  let full := match details.frames with
    | some (_ :: _) => true
    | _ => false
  let frames : Value Frame := (details.frames.map .records).getD .absent
  [.required "typeName" (.text details.typeName), .required "message" (.text details.message),
    .optional "hasFullStack" (.bool full), .optional "stack" (.ofText? details.stack),
    ⟨"parsedStack", ⟨false, true, false⟩, frames⟩]

/-- Write the details of an exception. -/
def Details.write (name : String) (details : Details) : Reported Json :=
  Record.write Frame.write name details.fields

end TelemetryChannel.Exception
