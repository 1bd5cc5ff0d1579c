import Wayland.Text.Number
import Wayland.Yaml.Cursor
import Wayland.Yaml.Token

/-!
Contract: the scalars, anchors, tags and directives of a YAML text.

Owns: the characters of each of these, line folding, escapes, block indentation, and the faults
found inside them.  Every reader starts at the first character and returns the token with the
cursor after it.

Does not own: where each of these may stand.
-/

namespace Wayland.Yaml

open Wayland.Text (hexValue? hold)

def tokenFault
    {α : Type}
    (context : Mark)
    (cursor : Cursor)
    (text : String) :
    Except Fault α :=
  .error { stage := .token, context, problem := cursor.mark, text }

/-! ## Folding -/

/-- The white space that stands between two parts of a scalar.  Texts are kept latest first. -/
structure Gap where
  /-- Blanks on one line. -/
  blanks : List Char := []
  /-- The first break. -/
  first : List Char := []
  /-- The further breaks. -/
  further : List Char := []
  /-- Whether a break was read. -/
  broken : Bool := false

namespace Gap

/-- What a gap contributes to a scalar, latest first: a single line feed folds into a blank. -/
def folded
    (gap : Gap) :
    List Char :=
  if gap.broken then
    if gap.first == ['\n'] then
      if gap.further.isEmpty then [' '] else gap.further
    else gap.further ++ gap.first
  else gap.blanks

def addBreak
    (gap : Gap)
    (cursor : Cursor) :
    Gap :=
  if gap.broken then { gap with further := cursor.breakText ++ gap.further }
  else { gap with blanks := [], first := cursor.breakText, broken := true }

end Gap

/-! ## Plain scalars -/

/-- Whether a character ends a plain scalar, by the one that follows it. -/
def endsPlain
    (inFlow : Bool)
    (char next : Char) :
    Bool :=
  (char == ':' && isBlankOrEnd next)
    || (inFlow && (char == ',' || char == '?' || char == '[' || char == ']' || char == '\x7b'
      || char == '\x7d'))

/-- The characters of a plain scalar up to white space or its end, with what follows them and the
position there. -/
def plainWord
    (inFlow : Bool)
    (taken : List Char)
    (mark : Mark) :
    List Char → List Char × List Char × Mark
  | [] => (taken, [], mark)
  | char :: rest =>
      if isBlankOrEnd char || endsPlain inFlow char (rest.headD endChar) then
        (taken, char :: rest, mark)
      else
        plainWord inFlow (char :: taken)
          { mark with index := mark.index + 1, column := mark.column + 1 } rest

/-- Reads the white space inside a plain scalar.  A tab may not stand in for indentation. -/
def plainGap
    (start : Mark)
    (indent : Int)
    (gap : Gap)
    (cursor : Cursor) :
    (fuel : Nat) → Except Fault (Gap × Cursor)
  | 0 => .ok (gap, cursor)
  | fuel + 1 => do
      let cursor ← cursor.need 1
      let char := cursor.current
      if isBlankChar char then
        if gap.broken && decide ((cursor.mark.column : Int) < indent) && char == '\t' then
          tokenFault start cursor "found a tab character that violates indentation"
        else
          let gap := if gap.broken then gap else { gap with blanks := char :: gap.blanks }
          plainGap start indent gap cursor.skip fuel
      else if isBreakChar char then
        let after ← cursor.skipBreak
        plainGap start indent (gap.addBreak cursor) after fuel
      else return (gap, cursor)

/-- Reads a plain scalar after what was `taken` and a gap; also tells whether a break ends it. -/
def plainFrom
    (start : Mark)
    (inFlow : Bool)
    (indent : Int)
    (taken : List Char)
    (gap : Gap)
    (stop : Mark)
    (cursor : Cursor) :
    (fuel : Nat) → Except Fault (Token × Bool × Cursor)
  | 0 => .ok (⟨.scalar (hold taken.reverse) .plain, start, stop⟩, gap.broken, cursor)
  | fuel + 1 => do
      let finish (taken : List Char) (gap : Gap) (stop : Mark) (cursor : Cursor) :=
        Except.ok (⟨.scalar (hold taken.reverse) .plain, start, stop⟩, gap.broken, cursor)
      let cursor ← cursor.need 4
      if cursor.atMarker || cursor.current == '#' then finish taken gap stop cursor
      else
        let (word, rest, mark) := plainWord inFlow [] cursor.mark cursor.rest
        let after ← { cursor with rest, mark }.need (if word.isEmpty then 0 else 2)
        let (taken, gap, stop) :=
          if word.isEmpty then (taken, gap, stop)
          else (word ++ gap.folded ++ taken, ({} : Gap), after.mark)
        if !(isBlankChar after.current || isBreakChar after.current) then
          finish taken gap stop after
        else
          let (gap, next) ← plainGap start indent gap after (fuel + 1)
          if !inFlow && decide ((next.mark.column : Int) < indent) then
            finish taken gap stop next
          else plainFrom start inFlow indent taken gap stop next fuel

/-! ## Quoted scalars -/

def escaped?
    (char : Char) :
    Option Char :=
  match char with
  | '0' => some (Char.ofNat 0)
  | 'a' => some (Char.ofNat 7)
  | 'b' => some (Char.ofNat 8)
  | 't' => some '\t'
  | '\t' => some '\t'
  | 'n' => some '\n'
  | 'v' => some (Char.ofNat 11)
  | 'f' => some (Char.ofNat 12)
  | 'r' => some '\r'
  | 'e' => some (Char.ofNat 27)
  | ' ' => some ' '
  | '"' => some '"'
  | '\'' => some '\''
  | '\\' => some '\\'
  | 'N' => some (Char.ofNat 0x85)
  | '_' => some (Char.ofNat 0xA0)
  | 'L' => some (Char.ofNat 0x2028)
  | 'P' => some (Char.ofNat 0x2029)
  | _ => none

def escapeLength?
    (char : Char) :
    Option Nat :=
  match char with
  | 'x' => some 2
  | 'u' => some 4
  | 'U' => some 8
  | _ => none

def readEscape
    (start : Mark)
    (cursor : Cursor) :
    Except Fault (Char × Cursor) :=
  match escaped? (cursor.peek 1), escapeLength? (cursor.peek 1) with
  | some char, _ => .ok (char, cursor.skipMany 2)
  | none, none => tokenFault start cursor "found unknown escape character"
  | none, some length => do
      let digits ← (cursor.skipMany 2).need length
      match (List.range length).mapM fun place => hexValue? (digits.peek place) with
      | none => tokenFault start digits "did not find expected hexdecimal number"
      | some values =>
          let code := values.foldl (fun code value => code * 16 + value) 0
          if (0xD800 ≤ code ∧ code ≤ 0xDFFF) ∨ code > 0x10FFFF then
            tokenFault start digits "found invalid Unicode character escape code"
          else return (Char.ofNat code, digits.skipMany length)

/-- Reads the characters of a quoted scalar up to white space or its end; also tells whether an
escaped break was read. -/
def quotedWord
    (start : Mark)
    (single : Bool)
    (taken : List Char)
    (cursor : Cursor) :
    (fuel : Nat) → Except Fault (List Char × Bool × Cursor)
  | 0 => .ok (taken, false, cursor)
  | fuel + 1 => do
      let char := cursor.current
      if isBlankOrEnd char then return (taken, false, cursor)
      else if single && char == '\'' && cursor.peek 1 == '\'' then
        quotedWord start single ('\'' :: taken) (← (cursor.skipMany 2).need 2) fuel
      else if char == (if single then '\'' else '"') then return (taken, false, cursor)
      else if !single && char == '\\' && isBreakChar (cursor.peek 1) then
        let cursor ← cursor.need 3
        return (taken, true, cursor.skip.passBreak)
      else if !single && char == '\\' then
        let (char, after) ← readEscape start cursor
        quotedWord start single (char :: taken) (← after.need 2) fuel
      else quotedWord start single (char :: taken) (← cursor.skip.need 2) fuel

def quotedGap
    (gap : Gap)
    (cursor : Cursor) :
    (fuel : Nat) → Except Fault (Gap × Cursor)
  | 0 => .ok (gap, cursor)
  | fuel + 1 => do
      let cursor ← cursor.need 1
      let char := cursor.current
      if isBlankChar char then
        let gap := if gap.broken then gap else { gap with blanks := char :: gap.blanks }
        quotedGap gap cursor.skip fuel
      else if isBreakChar char then
        let after ← cursor.skipBreak
        quotedGap (gap.addBreak cursor) after fuel
      else return (gap, cursor)

/-- Reads a quoted scalar after its opening quote and what was `taken`. -/
def quotedFrom
    (start : Mark)
    (single : Bool)
    (taken : List Char)
    (cursor : Cursor) :
    (fuel : Nat) → Except Fault (Token × Cursor)
  | 0 => tokenFault start cursor "found unexpected end of stream"
  | fuel + 1 => do
      let cursor ← cursor.need 4
      if cursor.atMarker then tokenFault start cursor "found unexpected document indicator"
      else if cursor.rest.isEmpty then tokenFault start cursor "found unexpected end of stream"
      else
        let (taken, escapedBreak, after) ← quotedWord start single taken cursor (fuel + 1)
        let after ← after.need 1
        if after.current == (if single then '\'' else '"') then
          let style := if single then Style.singleQuoted else Style.doubleQuoted
          let closed := after.skip
          return (⟨.scalar (hold taken.reverse) style, start, closed.mark⟩, closed)
        else
          let (gap, next) ← quotedGap { broken := escapedBreak } after (fuel + 1)
          quotedFrom start single (gap.folded ++ taken) next fuel

/-! ## Block scalars -/

/-- What becomes of the breaks at the end of a block scalar. -/
inductive Chomping where
  | strip
  | clip
  | keep
deriving DecidableEq

def chomping?
    (char : Char) :
    Option Chomping :=
  if char == '+' then some .keep
  else if char == '-' then some .strip
  else none

/-- Reads an indentation digit, 0 where there is none. -/
def readIncrement
    (start : Mark)
    (cursor : Cursor) :
    Except Fault (Nat × Cursor) := do
  let cursor ← cursor.need 1
  if cursor.current == '0' then
    tokenFault start cursor "found an indentation indicator equal to 0"
  else if cursor.current.isDigit then return (cursor.current.toNat - '0'.toNat, cursor.skip)
  else return (0, cursor)

/-- Reads the indicators of a block scalar: chomping and indentation in either order. -/
def readIndicators
    (start : Mark)
    (cursor : Cursor) :
    Except Fault (Chomping × Nat × Cursor) := do
  let cursor ← cursor.need 1
  match chomping? cursor.current with
  | some chomping =>
      let (increment, after) ← readIncrement start cursor.skip
      return (chomping, increment, after)
  | none =>
      let (increment, after) ← readIncrement start cursor
      if increment = 0 then return (.clip, 0, after)
      let after ← after.need 1
      match chomping? after.current with
      | some chomping => return (chomping, increment, after.skip)
      | none => return (.clip, increment, after)

/-- What follows the blanks up to a column, or all of them if the indentation is still open, and the
position there. -/
def indentFrom
    (indent : Nat)
    (mark : Mark) :
    List Char → List Char × Mark
  | ' ' :: rest =>
      if indent = 0 ∨ mark.column < indent then
        indentFrom indent { mark with index := mark.index + 1, column := mark.column + 1 } rest
      else (' ' :: rest, mark)
  | rest => (rest, mark)

/-- Reads indentation and empty lines inside a block scalar.  Breaks are kept latest first; `widest`
is the greatest column reached. -/
def blockBreaks
    (start : Mark)
    (indent widest : Nat)
    (breaks : List Char)
    (cursor : Cursor) :
    (fuel : Nat) → Except Fault (Nat × List Char × Cursor)
  | 0 => .ok (widest, breaks, cursor)
  | fuel + 1 => do
      let (rest, mark) := indentFrom indent cursor.mark cursor.rest
      let cursor ← { cursor with rest, mark }.need 1
      let widest := max widest cursor.mark.column
      if (indent = 0 ∨ cursor.mark.column < indent) ∧ cursor.current = '\t' then
        tokenFault start cursor "found a tab character where an indentation space is expected"
      else if isBreakChar cursor.current then
        let after ← cursor.skipBreak
        blockBreaks start indent widest (cursor.breakText ++ breaks) after fuel
      else return (widest, breaks, cursor)

/-- The indentation of a block scalar: the given one, or the widest before its first line, which is
deeper than what surrounds it. -/
def blockIndent
    (given widest : Nat)
    (parent : Int) :
    Nat :=
  if given = 0 then max (max widest (parent + 1).toNat) 1 else given

/-- Reads the lines of a block scalar.  All texts are kept latest first: `breaks` after the break
`last` of the previous line, which started with a blank if `blank`. -/
def blockLines
    (start : Mark)
    (folding : Bool)
    (indent : Nat)
    (taken last breaks : List Char)
    (blank : Bool)
    (cursor : Cursor) :
    (fuel : Nat) → Except Fault (List Char × List Char × List Char × Cursor)
  | 0 => .ok (taken, last, breaks, cursor)
  | fuel + 1 => do
      if cursor.mark.column != indent || cursor.rest.isEmpty then
        return (taken, last, breaks, cursor)
      else
        let startsBlank := isBlankChar cursor.current
        let joint :=
          if folding && !blank && !startsBlank && last == ['\n'] then
            if breaks.isEmpty then [' '] else []
          else last
        let (line, atBreak) ←
          cursor.takeAfter (fun char => !isBreakOrEnd char) (breaks ++ joint ++ taken)
        let below ← atBreak.skipBreak
        let (_, breaks, next) ← blockBreaks start indent 0 [] below (fuel + 1)
        blockLines start folding indent line atBreak.breakText breaks startsBlank next fuel

def readBlockScalar
    (fuel : Nat)
    (folding : Bool)
    (parent : Int)
    (cursor : Cursor) :
    Except Fault (Token × Cursor) := do
  let start := cursor.mark
  let (chomping, increment, afterIndicators) ← readIndicators start cursor.skip
  let afterBlanks ← afterIndicators.skipRun isBlankChar
  let atBreak ←
    if afterBlanks.current == '#' then afterBlanks.skipToBreak else pure afterBlanks
  if !isBreakOrEnd atBreak.current then
    tokenFault start atBreak "did not find expected comment or line break"
  let below ← if isBreakChar atBreak.current then atBreak.skipBreak else pure atBreak
  let given := if increment = 0 then 0 else (max parent 0).toNat + increment
  let (widest, breaks, first) ← blockBreaks start given 0 [] below fuel
  let indent := blockIndent given widest parent
  let (taken, last, breaks, after) ←
    blockLines start folding indent [] [] breaks false first fuel
  let content :=
    match chomping with
    | .strip => taken
    | .clip => last ++ taken
    | .keep => breaks ++ last ++ taken
  let style := if folding then Style.folded else Style.literal
  return (⟨.scalar (hold content.reverse) style, start, after.mark⟩, after)

/-! ## Anchors, tags and directives -/

def endsAnchor
    (char : Char) :
    Bool :=
  isBlankOrEnd char || ['?', ':', ',', ']', '\x7d', '%', '@', '\x60'].contains char

/-- Reads the name of an anchor or an alias after its indicator. -/
def readAnchor
    (make : String → TokenKind)
    (cursor : Cursor) :
    Except Fault (Token × Cursor) := do
  let (name, after) ← cursor.skip.takeRun isWordChar
  if name.isEmpty || !endsAnchor after.current then
    tokenFault cursor.mark after "did not find expected alphabetic or numeric character"
  else return (⟨make name, cursor.mark, after.mark⟩, after)

def isTagChar
    (char : Char) :
    Bool :=
  isWordChar char || [';', '/', '?', ':', '@', '&', '=', '+', '$', '.', '!', '~', '*', '\'', '(',
    ')', '%', ',', '[', ']'].contains char

def readOctet
    (start : Mark)
    (cursor : Cursor) :
    Except Fault (Nat × Cursor) := do
  let cursor ← cursor.need 3
  match cursor.current, hexValue? (cursor.peek 1), hexValue? (cursor.peek 2) with
  | '%', some high, some low => return (high * 16 + low, cursor.skipMany 3)
  | _, _, _ => tokenFault start cursor "did not find URI escaped octet"

/-- Reads the escaped bytes after the first of a character. -/
def readTrailing
    (start : Mark)
    (taken : List UInt8)
    (cursor : Cursor) :
    (count : Nat) → Except Fault (List UInt8 × Cursor)
  | 0 => .ok (taken.reverse, cursor)
  | count + 1 => do
      let (octet, after) ← readOctet start cursor
      if octet < 0x80 ∨ 0xC0 ≤ octet then
        tokenFault start cursor "found an incorrect trailing UTF-8 octet"
      readTrailing start (UInt8.ofNat octet :: taken) after count

def readEscaped
    (start : Mark)
    (cursor : Cursor) :
    Except Fault (List Char × Cursor) := do
  let (octet, after) ← readOctet start cursor
  if octetCount octet = 0 then
    tokenFault start cursor "found an incorrect leading UTF-8 octet"
  let (octets, after) ← readTrailing start [UInt8.ofNat octet] after (octetCount octet - 1)
  return ((Text.Bytes.toText octets).toList, after)

/-- Reads the text of a tag; escapes are undone. -/
def readTagText
    (start : Mark)
    (taken : List Char)
    (cursor : Cursor) :
    (fuel : Nat) → Except Fault (List Char × Cursor)
  | 0 => .ok (taken, cursor)
  | fuel + 1 => do
      let cursor ← cursor.need 1
      if cursor.current == '%' then
        let (chars, after) ← readEscaped start cursor
        readTagText start (chars.reverse ++ taken) after fuel
      else if isTagChar cursor.current then
        readTagText start (cursor.current :: taken) cursor.skip fuel
      else return (taken, cursor)

/-- Reads the rest of a tag after what its handle already holds. -/
def readTagSuffix
    (fuel : Nat)
    (start : Mark)
    (head : List Char)
    (cursor : Cursor) :
    Except Fault (String × Cursor) := do
  let (taken, after) ← readTagText start (head.drop 1).reverse cursor fuel
  if head.isEmpty && taken.isEmpty then
    tokenFault start after "did not find expected tag URI"
  return (String.ofList taken.reverse, after)

/-- Reads a tag handle: an exclamation mark, a word, and perhaps another exclamation mark. -/
def readHandle
    (start : Mark)
    (inDirective : Bool)
    (cursor : Cursor) :
    Except Fault (List Char × Cursor) := do
  let cursor ← cursor.need 1
  if cursor.current != '!' then tokenFault start cursor "did not find expected '!'"
  let (word, after) ← cursor.skip.takeRun isWordChar
  if after.current == '!' then return ('!' :: word.toList ++ ['!'], after.skip)
  if inDirective && !word.isEmpty then tokenFault start after "did not find expected '!'"
  return ('!' :: word.toList, after)

def readTag
    (fuel : Nat)
    (cursor : Cursor) :
    Except Fault (Token × Cursor) := do
  let start := cursor.mark
  let cursor ← cursor.need 2
  let (handle, suffix, after) ←
    if cursor.peek 1 == '<' then do
      let (suffix, after) ← readTagSuffix fuel start [] (cursor.skipMany 2)
      if after.current != '>' then tokenFault start after "did not find the expected '>'"
      pure ("", suffix, after.skip)
    else do
      let (handle, afterHandle) ← readHandle start false cursor
      if handle.length > 1 && handle.getLast? == some '!' then
        let (suffix, after) ← readTagSuffix fuel start [] afterHandle
        pure (String.ofList handle, suffix, after)
      else
        let (suffix, after) ← readTagSuffix fuel start handle afterHandle
        if suffix.isEmpty then pure ("", "!", after) else pure ("!", suffix, after)
  let after ← after.need 1
  if !isBlankOrEnd after.current then
    tokenFault start after "did not find expected whitespace or line break"
  return (⟨.tag handle suffix, start, after.mark⟩, after)

def readVersionNumber
    (start : Mark)
    (cursor : Cursor) :
    Except Fault (Nat × Cursor) := do
  let digits := (cursor.rest.take 3).takeWhile Char.isDigit
  let count := digits.length
  let after ← (cursor.skipMany (min count 2)).need 1
  if count > 2 then tokenFault start after "found extremely long version number"
  if count = 0 then tokenFault start cursor "did not find expected version number"
  return (digits.foldl (fun value digit => value * 10 + (digit.toNat - 48)) 0, after)

def readVersion
    (start : Mark)
    (cursor : Cursor) :
    Except Fault (TokenKind × Cursor) := do
  let (major, afterMajor) ← readVersionNumber start (← cursor.skipRun isBlankChar)
  if afterMajor.current != '.' then
    tokenFault start afterMajor "did not find expected digit or '.' character"
  let (minor, after) ← readVersionNumber start afterMajor.skip
  return (.versionDirective major minor, after)

def readTagDirective
    (fuel : Nat)
    (start : Mark)
    (cursor : Cursor) :
    Except Fault (TokenKind × Cursor) := do
  let (handle, afterHandle) ← readHandle start true (← cursor.skipRun isBlankChar)
  let afterHandle ← afterHandle.need 1
  if !isBlankChar afterHandle.current then
    tokenFault start afterHandle "did not find expected whitespace"
  let (expansion, after) ← readTagSuffix fuel start [] (← afterHandle.skipRun isBlankChar)
  if !isBlankOrEnd after.current then
    tokenFault start after "did not find expected whitespace or line break"
  return (.tagDirective (String.ofList handle) expansion, after)

def readDirective
    (fuel : Nat)
    (cursor : Cursor) :
    Except Fault (Token × Cursor) := do
  let start := cursor.mark
  let (name, afterName) ← cursor.skip.takeRun isWordChar
  if name.isEmpty then tokenFault start afterName "could not find expected directive name"
  if !isBlankOrEnd afterName.current then
    tokenFault start afterName "found unexpected non-alphabetical character"
  let (kind, afterValue) ←
    if name == "YAML" then readVersion start afterName
    else if name == "TAG" then readTagDirective fuel start afterName
    else tokenFault start afterName "found unknown directive name"
  let afterBlanks ← afterValue.skipRun isBlankChar
  let atBreak ←
    if afterBlanks.current == '#' then afterBlanks.skipToBreak else pure afterBlanks
  if !isBreakOrEnd atBreak.current then
    tokenFault start atBreak "did not find expected comment or line break"
  let below ← if isBreakChar atBreak.current then atBreak.skipBreak else pure atBreak
  return (⟨kind, start, afterValue.mark⟩, below)

end Wayland.Yaml
