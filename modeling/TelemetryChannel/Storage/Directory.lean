/-
# Storage in a directory

Every slot is a file of its name in one directory, so its text survives the
host. A slot is written by writing a temporary file and renaming it over the
slot; the temporary file has the name of the slot with its extension replaced.
Only names that cannot lead out of the directory are used. Others may have put
files that are no text, or directories, in the place of slots.
-/

import TelemetryChannel.Json.Entries
import TelemetryChannel.Storage.Basic

namespace TelemetryChannel.Storage

open Json

/-- What has a name in a directory. -/
inductive Directory.Node where
  | file (bytes : ByteArray)
  | directory

/-- A directory. -/
structure Directory where
  nodes : Entries Directory.Node

namespace Directory

/-- A directory without files. -/
def empty : Directory := ⟨[]⟩

/-- The greatest length of a file name. -/
def maxNameLength : Nat := 255

/-- The characters of the names of slots. -/
def isNameChar (c : Char) : Bool :=
  ('a' ≤ c && c ≤ 'z') || ('A' ≤ c && c ≤ 'Z') || ('0' ≤ c && c ≤ '9') ||
    c == '_' || c == '-' || c == '.'

/-- Whether a slot can have a file of its name. -/
def isUsable (slot : String) : Bool :=
  slot.toList.all isNameChar && slot != "" && slot.toList.head? != some '.'

/-- Whether a file name is too long. -/
def isTooLong (name : String) : Bool :=
  decide (maxNameLength < name.toList.length)

/-- The name of the temporary file for a slot: what stands before the last point
of the name, and a new extension. -/
def temporary (slot : String) : String :=
  let reversed := slot.toList.reverse
  let stem :=
    match reversed.dropWhile (· != '.') with
    | [] => slot.toList
    | _ :: rest => rest.reverse
  String.ofList stem ++ ".tmp"

/-- The reason why a name cannot be used. -/
def unusable : String := "key is not usable as a file name"

/-- The reason that a name is too long. -/
def tooLong : String := "File name too long (os error 36)"

/-- The reason that a directory is no file. -/
def isDirectory : String := "Is a directory (os error 21)"

/-- The reason that bytes are no text. -/
def noText : String := "stream did not contain valid UTF-8"

/-- Put a file into the place of a name. -/
def put (directory : Directory) (name : String) (bytes : ByteArray) : Directory :=
  ⟨directory.nodes.insert name (.file bytes)⟩

/-- Remove a name. -/
def drop (directory : Directory) (name : String) : Directory :=
  ⟨directory.nodes.filter fun entry => entry.1 != name⟩

/-- Whether a name is that of a directory. -/
def hasDirectory (directory : Directory) (name : String) : Bool :=
  match directory.nodes.get? name with
  | some .directory => true
  | _ => false

/-- Read the file of a slot. -/
def read (directory : Directory) (slot : String) : Except Error (Option String) :=
  if !isUsable slot then .error (.write slot unusable)
  else if isTooLong slot then .error (.read slot tooLong)
  else
    match directory.nodes.get? slot with
    | none => .ok none
    | some .directory => .error (.read slot isDirectory)
    | some (.file bytes) =>
      match String.fromUTF8? bytes with
      | some text => .ok (some text)
      | none => .error (.read slot noText)

/-- Write the file of a slot. A temporary file that cannot be renamed stays. -/
def write (directory : Directory) (slot text : String) : Except Error Unit × Directory :=
  let name := temporary slot
  if !isUsable slot then (.error (.write slot unusable), directory)
  else if isTooLong name then (.error (.medium tooLong), directory)
  else if directory.hasDirectory name then (.error (.medium isDirectory), directory)
  else
    let written := directory.put name text.toUTF8
    if isTooLong slot then (.error (.medium tooLong), written)
    else if directory.hasDirectory slot then (.error (.medium isDirectory), written)
    else if name = slot then (.ok (), written)
    else (.ok (), (written.drop name).put slot text.toUTF8)

/-- Remove the file of a slot. -/
def erase (directory : Directory) (slot : String) : Except Error Unit × Directory :=
  if !isUsable slot then (.error (.write slot unusable), directory)
  else if isTooLong slot then (.error (.medium tooLong), directory)
  else if directory.hasDirectory slot then (.error (.medium isDirectory), directory)
  else (.ok (), directory.drop slot)

end Directory

instance : Storage Directory where
  get slot directory := (directory.read slot, directory)
  set slot text directory := directory.write slot text
  remove slot directory := directory.erase slot

example : Directory.temporary "AI_buffer" = "AI_buffer.tmp" := by decide +kernel
example : Directory.temporary "a.b.c" = "a.b.tmp" := by decide +kernel

end TelemetryChannel.Storage
