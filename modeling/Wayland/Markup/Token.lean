import Wayland.Markup.Fault
import Wayland.Markup.Name
import Wayland.Text.Number

/-!
Contract: the tokens of a marked-up document.

Owns: tags, character data, entities, and the recognition of comments, declarations and processing
instructions, which leave no token.  Every token carries the line on which it ends.

Does not own: the nesting of tags.
-/

namespace Wayland.Markup

open Wayland.Text

/-- An attribute as it is written. -/
structure Attribute where
  name : Name
  value : String
deriving DecidableEq, Repr

/-- What a document consists of. -/
inductive Token where
  | startTag (name : Name) (attributes : List Attribute) (selfClosing : Bool)
  | endTag (name : Name)
  | text (content : String)
deriving DecidableEq, Repr

/-- What remains of a document, and the line it starts on. -/
structure Cursor where
  rest : Bytes
  line : Nat

def lineAfter
    (line : Nat)
    (byte : UInt8) :
    Nat :=
  if byte == 10 then line + 1 else line

def isTagBlank
    (byte : UInt8) :
    Bool :=
  byte == 32 || byte == 13 || byte == 10 || byte == 9

def skipBlanks
    (line : Nat) :
    Bytes → Cursor
  | [] => ⟨[], line⟩
  | byte :: rest =>
      if isTagBlank byte then skipBlanks (lineAfter line byte) rest else ⟨byte :: rest, line⟩

def Cursor.skipBlanks
    (cursor : Cursor) :
    Cursor :=
  Markup.skipBlanks cursor.line cursor.rest

/-- Reads the bytes of a name.  Nothing is read where no name starts; a name that the document ends
in is a failure. -/
def readNameBytes
    (line : Nat)
    (bytes : Bytes) :
    Except Failure (Option (Bytes × Bytes)) :=
  match bytes.span isNameByte with
  | ([], []) => .error ⟨line, .unexpectedEnd⟩
  | ([], _) => .ok none
  | (_, []) => .error ⟨line, .unexpectedEnd⟩
  | (name, rest) => .ok (some (name, rest))

def readName
    (line : Nat)
    (bytes : Bytes) :
    Except Failure (Option (String × Bytes)) :=
  match readNameBytes line bytes with
  | .error failure => .error failure
  | .ok none => .ok none
  | .ok (some (name, rest)) =>
      if isName name.decode then .ok (some (name.toText, rest))
      else .error ⟨line, .badName name.toText⟩

/-- Reads a name with an optional qualifier; `missing` is the fault where there is none. -/
def readQualifiedName
    (missing : Fault)
    (line : Nat)
    (bytes : Bytes) :
    Except Failure (Name × Bytes) :=
  match readName line bytes with
  | .error failure => .error failure
  | .ok none => .error ⟨line, missing⟩
  | .ok (some (text, rest)) =>
      match Name.ofText? text with
      | some name => .ok (name, rest)
      | none => .error ⟨line, missing⟩

/-! ## Character data -/

/-- Where character data ends. -/
inductive TextEnd where
  /-- Before the next tag. -/
  | atTag
  /-- After the given quote. -/
  | atQuote (quote : UInt8)
  /-- After the end of a literal section. -/
  | atSectionEnd
deriving DecidableEq

/-- An entity reference that is being read. -/
inductive Reference where
  /-- Only the ampersand was read. -/
  | opened
  /-- A numeric reference without a base so far. -/
  | numeric
  /-- Digits in a base, latest first. -/
  | digits (base : Nat) (latest : Bytes)
  /-- A name, latest byte first. -/
  | named (latest : Bytes)

def Reference.text : Reference → Bytes
  | .opened => Bytes.ofText "&"
  | .numeric => Bytes.ofText "&#"
  | .digits base latest =>
      Bytes.ofText (if base == 16 then "&#x" else "&#") ++ latest.reverse
  | .named latest => Bytes.ofText "&" ++ latest.reverse

/-- The character a number refers to; surrogates have none of their own. -/
def charOfCode?
    (code : Nat) :
    Option Char :=
  if code > 0x10FFFF then none
  else if 0xD800 ≤ code ∧ code ≤ 0xDFFF then some replacement
  else some (Char.ofNat code)

def Reference.value? : Reference → Option Char
  | .opened => none
  | .numeric => none
  | .digits base latest =>
      (natOfDigits? base (latest.reverse.map fun byte => Char.ofNat byte.toNat)).bind charOfCode?
  | .named latest =>
      match Bytes.toText latest.reverse with
      | "lt" => some '<'
      | "gt" => some '>'
      | "amp" => some '&'
      | "apos" => some '\''
      | "quot" => some '"'
      | _ => none

/-- The reference after one more byte, or nothing if the byte does not continue it. -/
def Reference.extend?
    (byte : UInt8) :
    Reference → Option Reference
  | .opened =>
      if byte == 35 then some .numeric
      else if isNameByte byte then some (.named [byte])
      else none
  | .numeric =>
      if byte == 120 then some (.digits 16 [])
      else if (digitValue? 10 (Char.ofNat byte.toNat)).isSome then some (.digits 10 [byte])
      else none
  | .digits base latest =>
      if (digitValue? base (Char.ofNat byte.toNat)).isSome then
        some (.digits base (byte :: latest))
      else none
  | .named latest => if isNameByte byte then some (.named (byte :: latest)) else none

/-- Reads character data.  `older` and `newer` are the two bytes read last, `written` is the
content so far with its last byte first, and `reference` is an entity being read.  A carriage
return, alone or before a line feed, is written as a line feed. -/
def readTextFrom
    (ending : TextEnd)
    (older newer : UInt8)
    (written : Bytes)
    (reference : Option Reference)
    (line : Nat) :
    Bytes → Except Failure (Bytes × Cursor)
  | [] =>
      if reference.isSome then .error ⟨line, .unexpectedEnd⟩
      else if ending = .atSectionEnd then .error ⟨line, .unexpectedEndOfSection⟩
      else .ok (written, ⟨[], line⟩)
  | byte :: rest =>
      match reference with
      | some reference =>
          match reference.extend? byte with
          | some longer =>
              readTextFrom ending older newer written (some longer) (lineAfter line byte) rest
          | none =>
              if byte == 59 then
                match reference.value? with
                | some char =>
                    readTextFrom ending 0 0 ((Bytes.ofText char.toString).reverse ++ written) none
                      line rest
                | none => .error ⟨line, .badEntity (Bytes.toText (reference.text ++ [59]))⟩
              else .error ⟨line, .badEntity (Bytes.toText reference.text ++ " (no semicolon)")⟩
      | none =>
          if older == 93 && newer == 93 && byte == 62 && ending = .atSectionEnd then
            .ok (written.drop 2, ⟨rest, line⟩)
          else if older == 93 && newer == 93 && byte == 62 && ending = .atTag then
            .error ⟨line, .bareSectionEnd⟩
          else if byte == 60 && ending = .atTag then .ok (written, ⟨byte :: rest, line⟩)
          else if byte == 60 && ending ≠ .atSectionEnd then .error ⟨line, .tagInQuotes⟩
          else if ending = .atQuote byte then .ok (written, ⟨rest, line⟩)
          else if byte == 38 && ending ≠ .atSectionEnd then
            readTextFrom ending older newer written (some .opened) line rest
          else
            let written :=
              if byte == 13 then 10 :: written
              else if newer == 13 && byte == 10 then written
              else byte :: written
            readTextFrom ending newer byte written none (lineAfter line byte) rest

def isDocumentChar
    (char : Char) :
    Bool :=
  let code := char.toNat
  code == 9 || code == 10 || code == 13 || (0x20 ≤ code && code ≤ 0xD7FF)
    || (0xE000 ≤ code && code ≤ 0xFFFD) || 0x10000 ≤ code

def textFault? : List Glyph → Option Fault
  | [] => none
  | .stray _ :: _ => some .strayByte
  | .char char :: rest =>
      if isDocumentChar char then textFault? rest else some (.illegalCharacter char.toNat)

/-- Reads character data and looks at its characters. -/
def readText
    (ending : TextEnd)
    (cursor : Cursor) :
    Except Failure (String × Cursor) :=
  match readTextFrom ending 0 0 [] none cursor.line cursor.rest with
  | .error failure => .error failure
  | .ok (written, after) =>
      let bytes : Bytes := written.reverse
      match textFault? bytes.decode with
      | some fault => .error ⟨after.line, fault⟩
      | none => .ok (bytes.toText, after)

/-! ## Comments, declarations and processing instructions -/

/-- Reads past the end of a comment.  `older` and `newer` are the two bytes read last; a strict
comment may hold two dashes only at its end. -/
def skipComment
    (strict : Bool)
    (older newer : UInt8)
    (line : Nat) :
    Bytes → Except Failure Cursor
  | [] => .error ⟨line, .unexpectedEnd⟩
  | byte :: rest =>
      if older == 45 && newer == 45 && byte == 62 then .ok ⟨rest, line⟩
      else if older == 45 && newer == 45 && strict then
        .error ⟨lineAfter line byte, .dashesInComment⟩
      else skipComment strict newer byte (lineAfter line byte) rest

/-- Reads the content of a processing instruction, latest byte first. -/
def readInstruction
    (latest : Bytes)
    (line : Nat) :
    Bytes → Except Failure (Bytes × Cursor)
  | [] => .error ⟨line, .unexpectedEnd⟩
  | byte :: rest =>
      match latest with
      | 63 :: content =>
          if byte == 62 then .ok (content, ⟨rest, line⟩)
          else readInstruction (byte :: latest) (lineAfter line byte) rest
      | _ => readInstruction (byte :: latest) (lineAfter line byte) rest

/-- What follows the first occurrence of a byte string. -/
def after?
    (wanted : Bytes) :
    Bytes → Option Bytes
  | [] => if wanted.isEmpty then some [] else none
  | byte :: rest =>
      if wanted.isPrefixOf (byte :: rest) then some ((byte :: rest).drop wanted.length)
      else after? wanted rest

/-- The quoted value that follows `parameter=` in a declaration; occurrences without a quote are
passed over. -/
def declaredFrom
    (parameter : Bytes) :
    (fuel : Nat) → Bytes → Bytes
  | 0, _ => []
  | fuel + 1, content =>
      match after? (parameter ++ [61]) content with
      | none => []
      | some [] => []
      | some (quote :: rest) =>
          if quote == 39 || quote == 34 then
            if rest.contains quote then rest.takeWhile (· != quote) else []
          else declaredFrom parameter fuel rest

/-- The value of a parameter of a declaration, empty where there is none. -/
def declared
    (parameter : String)
    (content : Bytes) :
    Bytes :=
  declaredFrom (Bytes.ofText parameter) (content.length + 1) content

/-- A declaration may state version 1.0 and the encoding UTF-8 only. -/
def declarationFault?
    (content : Bytes) :
    Option Fault :=
  let version := declared "version" content
  let encoding := declared "encoding" content
  if !version.isEmpty && version != Bytes.ofText "1.0" then some (.unsupportedVersion version)
  else if !encoding.isEmpty
      && (encoding.map fun byte => (Char.ofNat byte.toNat).toLower) != "utf-8".toList then
    some (.unsupportedEncoding encoding)
  else none

/-- Where a directive is being read. -/
structure DirectiveState where
  /-- The open quote, if any. -/
  quote : Option UInt8 := none
  /-- How many angle brackets are open. -/
  depth : Int := 0
  /-- How much of the start of a comment was read: 1 after `<`, up to 3 after `<!-`. -/
  lead : Nat := 0
  /-- Inside a comment, the two bytes read last. -/
  comment : Option (UInt8 × UInt8) := none

def DirectiveState.step
    (state : DirectiveState)
    (byte : UInt8) :
    DirectiveState :=
  match state.quote with
  | some quote => if byte == quote then { state with quote := none } else state
  | none =>
      if byte == 39 || byte == 34 then { state with quote := some byte }
      else if byte == 62 then { state with depth := state.depth - 1 }
      else if byte == 60 then { state with lead := 1 }
      else state

/-- Reads past the end of a directive.  Quoted brackets do not nest, and comments inside it are
skipped. -/
def skipDirective
    (state : DirectiveState)
    (line : Nat) :
    Bytes → Except Failure Cursor
  | [] => .error ⟨line, .unexpectedEnd⟩
  | byte :: rest =>
      let next := lineAfter line byte
      match state.comment with
      | some (older, newer) =>
          if older == 45 && newer == 45 && byte == 62 then
            skipDirective { state with comment := none } next rest
          else skipDirective { state with comment := some (newer, byte) } next rest
      | none =>
          match state.lead with
          | 0 =>
              if state.quote.isNone && byte == 62 && state.depth == 0 then .ok ⟨rest, next⟩
              else skipDirective (state.step byte) next rest
          | 1 =>
              if byte == 33 then skipDirective { state with lead := 2 } next rest
              else
                skipDirective
                  ({ state with lead := 0, depth := state.depth + 1 }.step byte) next rest
          | 2 =>
              if byte == 45 then skipDirective { state with lead := 3 } next rest
              else
                skipDirective
                  ({ state with lead := 0, depth := state.depth + 1 }.step byte) next rest
          | _ =>
              if byte == 45 then
                skipDirective { state with lead := 0, comment := some (0, 0) } next rest
              else
                skipDirective
                  ({ state with lead := 0, depth := state.depth + 1 }.step byte) next rest

/-! ## Tags -/

/-- Reads the value of an attribute after its equals sign. -/
def readValue
    (cursor : Cursor) :
    Except Failure (String × Cursor) :=
  match cursor.rest with
  | [] => .error ⟨cursor.line, .unexpectedEnd⟩
  | quote :: rest =>
      if quote == 34 || quote == 39 then readText (.atQuote quote) ⟨rest, cursor.line⟩
      else .error ⟨lineAfter cursor.line quote, .unquotedValue⟩

def readAttribute
    (cursor : Cursor) :
    Except Failure (Attribute × Cursor) := do
  let (name, rest) ← readQualifiedName .missingAttributeName cursor.line cursor.rest
  let afterName := skipBlanks cursor.line rest
  match afterName.rest with
  | [] => throw ⟨afterName.line, .unexpectedEnd⟩
  | 61 :: rest =>
      let (value, afterValue) ← readValue (skipBlanks afterName.line rest)
      return (⟨name, value⟩, afterValue)
  | byte :: _ => throw ⟨lineAfter afterName.line byte, .attributeWithoutValue⟩

/-- Reads the attributes and the end of a start tag, with one step of `fuel` per attribute. -/
def readAttributes
    (read : List Attribute) :
    (fuel : Nat) → Cursor → Except Failure (List Attribute × Bool × Cursor)
  | 0, cursor => .error ⟨cursor.line, .unexpectedEnd⟩
  | fuel + 1, cursor =>
      let cursor := cursor.skipBlanks
      match cursor.rest with
      | [] => .error ⟨cursor.line, .unexpectedEnd⟩
      | 62 :: rest => .ok (read.reverse, false, ⟨rest, cursor.line⟩)
      | 47 :: 62 :: rest => .ok (read.reverse, true, ⟨rest, cursor.line⟩)
      | [47] => .error ⟨cursor.line, .unexpectedEnd⟩
      | 47 :: byte :: _ => .error ⟨lineAfter cursor.line byte, .unfinishedEmptyTag⟩
      | _ =>
          match readAttribute cursor with
          | .error failure => .error failure
          | .ok (given, after) => readAttributes (given :: read) fuel after

def readStartTag
    (cursor : Cursor) :
    Except Failure (Option Token × Cursor) := do
  let (name, rest) ← readQualifiedName .missingElementName cursor.line cursor.rest
  let (attributes, selfClosing, after) ←
    readAttributes [] (rest.length + 1) ⟨rest, cursor.line⟩
  return (some (.startTag name attributes selfClosing), after)

def readEndTag
    (cursor : Cursor) :
    Except Failure (Option Token × Cursor) := do
  let (name, rest) ← readQualifiedName .missingEndName cursor.line cursor.rest
  let after := skipBlanks cursor.line rest
  match after.rest with
  | [] => throw ⟨after.line, .unexpectedEnd⟩
  | 62 :: rest => return (some (.endTag name), ⟨rest, after.line⟩)
  | byte :: _ => throw ⟨lineAfter after.line byte, .endTagJunk name.label⟩

/-- Reads a processing instruction after its opening; a declaration is looked at. -/
def readInstructionToken
    (cursor : Cursor) :
    Except Failure (Option Token × Cursor) := do
  match ← readName cursor.line cursor.rest with
  | none => throw ⟨cursor.line, .missingTarget⟩
  | some (target, rest) =>
      let start := skipBlanks cursor.line rest
      let (content, after) ← readInstruction [] start.line start.rest
      match if target == "xml" then declarationFault? content.reverse else none with
      | some fault => throw ⟨after.line, fault⟩
      | none => return (none, after)

/-- Reads on after `<![`, where only a literal section can follow. -/
def readSection
    (line : Nat)
    (expected : Bytes)
    (bytes : Bytes) :
    Except Failure (Option Token × Cursor) :=
  match expected, bytes with
  | [], rest => do
      let (content, after) ← readText .atSectionEnd ⟨rest, line⟩
      return (some (.text content), after)
  | _, [] => .error ⟨line, .unexpectedEnd⟩
  | wanted :: others, byte :: rest =>
      if byte == wanted then readSection line others rest
      else .error ⟨lineAfter line byte, .badSectionStart⟩

/-- Reads what stands after `<!`: a comment, a literal section or a directive. -/
def readBang
    (line : Nat) :
    Bytes → Except Failure (Option Token × Cursor)
  | [] => .error ⟨line, .unexpectedEnd⟩
  | [45] => .error ⟨line, .unexpectedEnd⟩
  | 45 :: 45 :: rest => do return (none, ← skipComment true 0 0 line rest)
  | 45 :: byte :: _ => .error ⟨lineAfter line byte, .badCommentStart⟩
  | 91 :: rest => readSection line (Bytes.ofText "CDATA[") rest
  | byte :: rest => do return (none, ← skipDirective {} (lineAfter line byte) rest)

/-- Reads the next token of a document that has not ended.  Comments, directives and instructions
leave none. -/
def readToken
    (cursor : Cursor) :
    Except Failure (Option Token × Cursor) :=
  match cursor.rest with
  | [60] => .error ⟨cursor.line, .unexpectedEnd⟩
  | 60 :: 47 :: rest => readEndTag ⟨rest, cursor.line⟩
  | 60 :: 63 :: rest => readInstructionToken ⟨rest, cursor.line⟩
  | 60 :: 33 :: rest => readBang cursor.line rest
  | 60 :: rest => readStartTag ⟨rest, cursor.line⟩
  | _ =>
      match readText .atTag cursor with
      | .ok (content, after) => .ok (some (.text content), after)
      | .error failure => .error failure

/-- A token and the line it ends on. -/
structure LocatedToken where
  token : Token
  line : Nat
deriving DecidableEq, Repr

/-- The tokens of a document up to its end or to its first failure, and the last line. -/
structure TokenStream where
  tokens : List LocatedToken
  failure : Option Failure
  lastLine : Nat

/-- Reads tokens, latest first, with one step of `fuel` per token. -/
def tokensFrom
    (read : List LocatedToken) :
    (fuel : Nat) → Cursor → TokenStream
  | 0, cursor => ⟨read.reverse, none, cursor.line⟩
  | fuel + 1, cursor =>
      if cursor.rest.isEmpty then ⟨read.reverse, none, cursor.line⟩
      else
        match readToken cursor with
        | .error failure => ⟨read.reverse, some failure, cursor.line⟩
        | .ok (some token, after) => tokensFrom (⟨token, after.line⟩ :: read) fuel after
        | .ok (none, after) => tokensFrom read fuel after

def tokens
    (document : Bytes) :
    TokenStream :=
  tokensFrom [] (document.length + 1) ⟨document, 1⟩

end Wayland.Markup
