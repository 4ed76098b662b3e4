/-
# Resource identifiers

An identifier is a path, an authority alone, or a scheme with an authority, a
path and perhaps a query. A fragment is read over and forgotten. The authority
holds ASCII only; paths and queries may hold any character above the space but
a few delimiters. Colons and percent signs are only allowed where they cannot be
mistaken: a colon once in front of the port, or inside the brackets of an
address, or in the user information; a percent sign in the user information or
inside brackets.
-/

import TelemetryChannel.Text.Basic

namespace TelemetryChannel

open Text

/-- A resource identifier. An empty authority means that there is none. -/
structure Uri where
  scheme : Option String
  authority : String
  path : String
  query : Option String
  deriving DecidableEq, Repr

namespace Uri

/-- Why a text is not an identifier. -/
inductive Error where
  | tooLong
  | empty
  | schemeTooLong
  | invalidCharacter
  | invalidAuthority
  | invalidFormat
  deriving DecidableEq, Repr

/-- The wording of an error. -/
def Error.message : Error → String
  | .tooLong => "uri too long"
  | .empty => "empty string"
  | .schemeTooLong => "scheme too long"
  | .invalidCharacter => "invalid uri character"
  | .invalidAuthority => "invalid authority"
  | .invalidFormat => "invalid format"

/-- The greatest length of an identifier in bytes. -/
def maxLength : Nat := 65534

/-- The greatest length of a scheme. -/
def maxSchemeLength : Nat := 64

/-- Whether a character is an ASCII letter or digit. -/
def isAlphanumeric (c : Char) : Bool :=
  ('a' ≤ c && c ≤ 'z') || ('A' ≤ c && c ≤ 'Z') || ('0' ≤ c && c ≤ '9')

/-- The characters of a scheme. -/
def isSchemeChar (c : Char) : Bool :=
  isAlphanumeric c || "+.~-".toList.contains c

/-- The characters of an authority. -/
def isAuthorityChar (c : Char) : Bool :=
  isAlphanumeric c || "!$&'()*+,-.:;=@[]_~%".toList.contains c

/-- The characters that end an authority. -/
def endsAuthority (c : Char) : Bool :=
  c == '/' || c == '?' || c == '#'

/-- The characters of a path. -/
def isPathChar (c : Char) : Bool :=
  0x20 < c.toNat && c != '<' && c != '>' && c.toNat != 0x60 && c.toNat != 0x7F

/-- The characters of a query. -/
def isQueryChar (c : Char) : Bool :=
  0x20 < c.toNat && c != '"' && c != '<' && c != '>' && c.toNat != 0x7F

/-- What matters of the characters of an authority that were read: the colons
and whether there was a percent sign since the user information or the brackets
ended, whether a bracket was opened and closed, and whether the last character
ended the user information. -/
structure Scan where
  colons : Nat
  percent : Bool
  opened : Bool
  closed : Bool
  atEnd : Bool

/-- The scan before the first character. -/
def Scan.start : Scan := ⟨0, false, false, false, false⟩

/-- Read one character of an authority. -/
def Scan.step (scan : Scan) (c : Char) : Except Error Scan :=
  if !isAuthorityChar c then .error .invalidCharacter
  else
    match c with
    | ':' =>
      if 8 ≤ scan.colons then .error .invalidAuthority
      else .ok { scan with colons := scan.colons + 1, atEnd := false }
    | '[' =>
      if scan.percent || scan.opened then .error .invalidAuthority
      else .ok { scan with opened := true, atEnd := false }
    | ']' =>
      if !scan.opened || scan.closed then .error .invalidAuthority
      else .ok { scan with colons := 0, percent := false, closed := true, atEnd := false }
    | '@' => .ok { scan with colons := 0, percent := false, atEnd := true }
    | '%' => .ok { scan with percent := true, atEnd := false }
    | _ => .ok { scan with atEnd := false }

/-- Check an authority. -/
def checkAuthority (authority : List Char) : Except Error Unit := do
  let scan ← authority.foldlM Scan.step Scan.start
  if scan.opened != scan.closed || 1 < scan.colons || scan.atEnd || scan.percent then
    .error .invalidAuthority
  else .ok ()

/-- Take the scheme off the start of an identifier. -/
def takeScheme (text : List Char) : Except Error (Option (List Char) × List Char) :=
  match afterIgnoringCase? "http://".toList text, afterIgnoringCase? "https://".toList text with
  | some rest, _ => .ok (some "http".toList, rest)
  | none, some rest => .ok (some "https".toList, rest)
  | none, none =>
    let scheme := text.takeWhile isSchemeChar
    match text.dropWhile isSchemeChar with
    | ':' :: '/' :: '/' :: rest =>
      if text.length ≤ 3 then .ok (none, text)
      else if maxSchemeLength < scheme.length then .error .schemeTooLong
      else .ok (some scheme, rest)
    | _ => .ok (none, text)

/-- Read a path, a query and a fragment. A missing path of an identifier with a
scheme is the root. -/
def takePath (text : List Char) : Except Error (String × Option String) := do
  let path := text.takeWhile fun c => c != '?' && c != '#'
  if !path.all isPathChar then throw .invalidCharacter
  let pathText := if path = [] then "/" else String.ofList path
  match text.dropWhile fun c => c != '?' && c != '#' with
  | '?' :: rest =>
    let query := rest.takeWhile (· != '#')
    if query.all isQueryChar then return (pathText, some (String.ofList query))
    else throw .invalidCharacter
  | _ => return (pathText, none)

/-- Read an identifier. -/
def ofText (text : String) : Except Error Uri :=
  if maxLength < text.utf8ByteSize then .error .tooLong
  else
    match text.toList with
    | [] => .error .empty
    | ['*'] => .ok ⟨none, "", "*", none⟩
    | ['?'] | ['#'] => .error .invalidCharacter
    | '/' :: rest => do
      let (path, query) ← takePath ('/' :: rest)
      return ⟨none, "", path, query⟩
    | chars => do
      let (scheme, rest) ← takeScheme chars
      if rest = [] then throw .empty
      let authority := rest.takeWhile fun c => !endsAuthority c
      let afterAuthority := rest.dropWhile fun c => !endsAuthority c
      checkAuthority authority
      match scheme with
      | none =>
        if afterAuthority = [] then return ⟨none, String.ofList authority, "", none⟩
        else throw .invalidFormat
      | some scheme =>
        if authority = [] then throw .invalidFormat
        let (path, query) ← takePath afterAuthority
        return ⟨some (String.ofList scheme), String.ofList authority, path, query⟩

/-- The text of an identifier. -/
def text (uri : Uri) : String :=
  let scheme := (uri.scheme.map (· ++ "://")).getD ""
  let query := (uri.query.map ("?" ++ ·)).getD ""
  scheme ++ uri.authority ++ uri.path ++ query

/-- The authority without the user information in front of its last `@`. -/
def hostAndPort (uri : Uri) : List Char :=
  (split '@' uri.authority.toList).getLast (split_ne_nil _ _)

/-- The host: an address with its brackets, or what stands before the port. -/
def host (uri : Uri) : String :=
  match uri.hostAndPort with
  | '[' :: rest => String.ofList ('[' :: rest.takeWhile (· != ']') ++ [']'])
  | chars => String.ofList (chars.takeWhile (· != ':'))

example : (ofText "HTTP://me@Host:80?q#f").toOption.map text = some "http://me@Host:80/?q" := by
  decide +kernel
example : (ofText "http://[::1").toOption = none := by decide +kernel
example : (ofText "host/path").toOption = none := by decide +kernel

end Uri

end TelemetryChannel
