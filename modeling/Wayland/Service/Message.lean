import Wayland.Text.Bytes
import Wayland.Text.Number

/-!
Contract: requests and responses.

Owns:
- the division of a target into path and query, percent escapes in both directions, and the cleaned
  form of a path;
- header fields, their names in one spelling, and the parts of a message.

Does not own: what a path leads to, and what is answered.
-/

namespace Wayland.Service

open Wayland.Text (Bytes)

/-! ## Targets -/

/-- The byte that separates the components of a path. -/
def slash : UInt8 := 47

/-- What a request asks for: a path without escapes, and the query as it was written.  A target that
names the service has its scheme and host in front of the path. -/
structure Target where
  path : Bytes
  query? : Option Bytes := none
  origin : String := ""
deriving DecidableEq, Repr

namespace Target

/-- The value of a byte that is a hexadecimal digit. -/
def hexByte?
    (byte : UInt8) :
    Option Nat :=
  Text.hexValue? (Char.ofNat byte.toNat)

/-- The bytes that a text with percent escapes stands for; every percent sign needs two digits. -/
def unescape? : Bytes → Option Bytes
  | [] => some []
  | 37 :: high :: low :: rest => do
      let upper ← hexByte? high
      let lower ← hexByte? low
      return UInt8.ofNat (upper * 16 + lower) :: (← unescape? rest)
  | byte :: rest => if byte = 37 then none else (unescape? rest).map (byte :: ·)

/-- Whether a byte stands for itself in a written path: letters, digits, and a few marks. -/
def isPlain
    (byte : UInt8) :
    Bool :=
  let char := Char.ofNat byte.toNat
  byte < 128 && (char.isAlphanum || "-_.~$&+,/:;=@".toList.contains char)

def escapeByte
    (byte : UInt8) :
    List Char :=
  if isPlain byte then [Char.ofNat byte.toNat]
  else
    let digit (value : Nat) : Char :=
      Char.ofNat (if value < 10 then 48 + value else 55 + value)
    ['%', digit (byte.toNat / 16), digit (byte.toNat % 16)]

/-- A byte that no target may hold: a control character or a blank. -/
def isForbidden
    (byte : UInt8) :
    Bool :=
  byte ≤ 32 || byte = 127

def isSchemeChar
    (char : Char) :
    Bool :=
  char.isAlphanum || char == '+' || char == '-' || char == '.'

/-- Splits a scheme and a host off, if a text starts with them. -/
def splitOrigin?
    (chars : List Char) :
    Option (String × List Char) :=
  let scheme := chars.takeWhile isSchemeChar
  match chars.dropWhile isSchemeChar with
  | ':' :: '/' :: '/' :: rest =>
      let host := rest.takeWhile (· != '/')
      let path := rest.dropWhile (· != '/')
      if scheme.head?.any Char.isAlpha && host.all fun char =>
          char.isAlphanum || char == '.' || char == '-' || char == ':' then
        some (String.ofList (scheme.map Char.toLower) ++ "://" ++ String.ofList host, path)
      else none
  | _ => none

/-- Reads a target: a rooted path, perhaps with scheme and host in front of it, or the star that
stands for no path, and a query after the first question mark. -/
def ofBytes?
    (bytes : Bytes) :
    Option Target := do
  let written := bytes.takeWhile (· != 63)
  let query? :=
    if written.length < bytes.length then some (bytes.drop (written.length + 1)) else none
  if bytes.any isForbidden then none
  else if bytes.head? = some slash || bytes = [42] then
    return { path := ← unescape? written, query? }
  else
    let (origin, path) ← splitOrigin? (written.map fun byte => Char.ofNat byte.toNat)
    let path ← unescape? (path.map fun char => UInt8.ofNat char.toNat)
    return { path, query?, origin }

/-- Reads a target that is written as text. -/
def ofText?
    (text : String) :
    Option Target :=
  ofBytes? (Bytes.ofText text)

def text
    (target : Target) :
    String :=
  let query : String := match target.query? with
    | some query => "?" ++ Bytes.toText query
    | none => ""
  target.origin ++ String.ofList (target.path.flatMap escapeByte) ++ query

end Target

/-- The components of a path: what stands between its slashes. -/
def components
    (path : Bytes) :
    List Bytes :=
  let (last, others) := path.foldr
    (fun byte (current, done) =>
      if byte = slash then ([], current :: done) else (byte :: current, done))
    (([], []) : Bytes × List Bytes)
  last :: others

/-- Takes one component into a rooted path, whose components are kept latest first.  There is
nothing above the root. -/
def cleanComponent
    (kept : List Bytes)
    (component : Bytes) :
    List Bytes :=
  if component = [] || component = [46] then kept
  else if component = [46, 46] then kept.tail
  else component :: kept

/-- The rooted path without empty components and steps upward.  A slash at the end is kept. -/
def cleanPath
    (path : Bytes) :
    Bytes :=
  let kept := (components path).foldl cleanComponent []
  let cleaned := kept.reverse.flatMap (slash :: ·)
  if kept.isEmpty then [slash]
  else if path.getLast? = some slash then cleaned ++ [slash]
  else cleaned

/-! ## Messages -/

/-- Whether a character may stand in the name of a header field. -/
def isNameChar
    (char : Char) :
    Bool :=
  char.isAlphanum || "!#$%&'*+-.^_\x60|~".toList.contains char

/-- The name with a capital letter at the start of each part and small letters elsewhere. -/
def capitalizeParts
    (start : Bool) :
    List Char → List Char
  | [] => []
  | char :: rest =>
      (if start then char.toUpper else char.toLower) :: capitalizeParts (char == '-') rest

/-- The one spelling of the name of a header field.  A text that cannot be such a name is left as it
is. -/
def canonicalName
    (name : String) :
    String :=
  if name.toList.all isNameChar then String.ofList (capitalizeParts true name.toList) else name

/-- Header fields by name, each with its values. -/
structure Headers where
  fields : List (String × List String) := []
deriving DecidableEq, Repr

namespace Headers

def values
    (headers : Headers)
    (name : String) :
    List String :=
  (headers.fields.lookup (canonicalName name)).getD []

/-- The first value of a field; empty if there is none. -/
def value
    (headers : Headers)
    (name : String) :
    String :=
  (headers.values name).headD ""

def contains
    (headers : Headers)
    (name : String) :
    Bool :=
  headers.fields.any (·.1 == canonicalName name)

/-- The headers without a field. -/
def erase
    (headers : Headers)
    (name : String) :
    Headers :=
  ⟨headers.fields.filter (·.1 != canonicalName name)⟩

/-- The headers with one value for a field, in the place of any other. -/
def set
    (headers : Headers)
    (name value : String) :
    Headers :=
  ⟨(headers.erase name).fields ++ [(canonicalName name, [value])]⟩

def add
    (headers : Headers)
    (name value : String) :
    Headers :=
  ⟨(headers.erase name).fields ++ [(canonicalName name, headers.values name ++ [value])]⟩

/-- The headers that hold the given fields; of a field given twice, the later value. -/
def ofList
    (fields : List (String × String)) :
    Headers :=
  fields.foldl (fun headers (name, value) => headers.set name value) {}

end Headers

structure Request where
  method : String
  target : Target
  headers : Headers := {}
deriving DecidableEq, Repr

structure Response where
  status : Nat
  headers : Headers
  body : String := ""
deriving DecidableEq, Repr

end Wayland.Service
