import Wayland.Yaml.Input

/-!
Contract: moving through the characters of a YAML text.

Owns: the classes of blanks and breaks, steps over characters and lines with their marks, runs of
characters, and which characters are at hand: a fault of the text is noticed when characters of its
block are needed.

Does not own: what the characters mean.
-/

namespace Wayland.Yaml

/-- Stands for the end of a text; no text holds it. -/
def endChar : Char := Char.ofNat 0

/-- A blank or a tab. -/
def isBlankChar
    (char : Char) :
    Bool :=
  char == ' ' || char == '\t'

def isBreakChar
    (char : Char) :
    Bool :=
  char == '\n' || char == '\r' || char.toNat == 0x85 || char.toNat == 0x2028
    || char.toNat == 0x2029

/-- A line break or the end. -/
def isBreakOrEnd
    (char : Char) :
    Bool :=
  isBreakChar char || char == endChar

/-- A blank, a line break or the end. -/
def isBlankOrEnd
    (char : Char) :
    Bool :=
  isBlankChar char || isBreakOrEnd char

/-- A character of names of anchors, directives and tag handles. -/
def isWordChar
    (char : Char) :
    Bool :=
  char.isAlphanum || char == '_' || char == '-'

/-- The characters that are at hand, in whole blocks. -/
structure Window where
  /-- How many characters of the text are at hand or were passed. -/
  filled : Nat := 0
  /-- The counts of characters up to the end of each block that is not at hand. -/
  blocks : List Nat
  /-- How many characters the text has before its fault. -/
  size : Nat
  fault : Option String
  /-- Whether the characters at hand begin with a byte order mark. -/
  marked : Bool := false

/-- How many characters are at hand once `wanted` are, and which blocks then remain. -/
def Window.fillFrom
    (filled wanted : Nat) :
    List Nat → Nat × List Nat
  | [] => (filled, [])
  | next :: rest => if wanted ≤ next then (next, rest) else fillFrom next wanted rest

/-- What remains of a text, and the position it starts at. -/
structure Cursor where
  rest : List Char
  mark : Mark
  window : Window

namespace Cursor

def ofInput
    (input : Input) :
    Cursor :=
  ⟨input.chars, {}, { blocks := input.blocks, size := input.size, fault := input.fault }⟩

def peek
    (cursor : Cursor)
    (ahead : Nat) :
    Char :=
  cursor.rest.getD ahead endChar

def current
    (cursor : Cursor) :
    Char :=
  match cursor.rest with
  | [] => endChar
  | char :: _ => char

/-- Makes a number of characters available.  Behind the end of a text there is always enough. -/
def need
    (cursor : Cursor)
    (ahead : Nat) :
    Except Fault Cursor :=
  let window := cursor.window
  let wanted := cursor.mark.index + ahead
  if wanted ≤ window.filled then .ok cursor
  else
    let (filled, blocks) := Window.fillFrom window.filled wanted window.blocks
    match window.fault with
    | some text =>
        if wanted ≤ filled then
          .ok { cursor with
            window := { window with filled, blocks, marked := cursor.current.toNat == 0xFEFF } }
        else .error (.plain text)
    | none =>
        .ok { cursor with
          window := { window with filled, blocks, marked := cursor.current.toNat == 0xFEFF } }

/-- Tries to make a number of characters available.  Where that fails all characters before the
fault are at hand, and the fault is returned. -/
def tryNeed
    (cursor : Cursor)
    (ahead : Nat) :
    Cursor × Option Fault :=
  match cursor.need ahead with
  | .ok cursor => (cursor, none)
  | .error fault =>
      let window := { cursor.window with filled := cursor.window.size, blocks := [] }
      ({ cursor with window }, some fault)

/-- Moves over one character that is no break. -/
def skip
    (cursor : Cursor) :
    Cursor :=
  { cursor with
    rest := cursor.rest.drop 1
    mark :=
      { cursor.mark with index := cursor.mark.index + 1, column := cursor.mark.column + 1 } }

/-- Moves over several characters of one line. -/
def skipMany
    (cursor : Cursor)
    (count : Nat) :
    Cursor :=
  { cursor with
    rest := cursor.rest.drop count
    mark :=
      { cursor.mark with
        index := cursor.mark.index + count, column := cursor.mark.column + count } }

def afterBreak
    (mark : Mark)
    (length : Nat) :
    Mark :=
  ⟨mark.index + length, mark.line + 1, 0⟩

/-- Moves over a break at hand, if there is one. -/
def passBreak
    (cursor : Cursor) :
    Cursor :=
  match cursor.rest with
  | '\r' :: '\n' :: rest => { cursor with rest, mark := afterBreak cursor.mark 2 }
  | char :: rest =>
      if isBreakChar char then { cursor with rest, mark := afterBreak cursor.mark 1 } else cursor
  | [] => cursor

/-- Moves over a break, if there is one, which may be of two characters. -/
def skipBreak
    (cursor : Cursor) :
    Except Fault Cursor :=
  match cursor.need 2 with
  | .error fault => .error fault
  | .ok cursor => .ok cursor.passBreak

/-- The text a break contributes to a scalar: the two separators stand for themselves, every other
break for a line feed. -/
def breakText
    (cursor : Cursor) :
    List Char :=
  let char := cursor.current
  if char.toNat == 0x2028 || char.toNat == 0x2029 then [char]
  else if isBreakChar char then ['\n']
  else []

/-- Whether a document marker stands here: three dashes or dots at the start of a line. -/
def atMarker
    (cursor : Cursor) :
    Bool :=
  cursor.mark.column == 0
    && (match cursor.rest with
      | '-' :: '-' :: '-' :: rest => isBlankOrEnd (rest.headD endChar)
      | '.' :: '.' :: '.' :: rest => isBlankOrEnd (rest.headD endChar)
      | _ => false)

/-- The longest run of characters of a class that holds no breaks, after the characters already
`taken`, latest first; with it what follows the run and the position there. -/
def takeFrom
    (accepts : Char → Bool)
    (taken : List Char)
    (mark : Mark) :
    List Char → List Char × List Char × Mark
  | [] => (taken, [], mark)
  | char :: rest =>
      if accepts char then
        takeFrom accepts (char :: taken)
          { mark with index := mark.index + 1, column := mark.column + 1 } rest
      else (taken, char :: rest, mark)

/-- Moves over the longest run of characters of a class and to the character that ends it.  Returns
the run after the characters already `taken`, latest first. -/
def takeAfter
    (accepts : Char → Bool)
    (taken : List Char)
    (cursor : Cursor) :
    Except Fault (List Char × Cursor) :=
  let (taken, rest, mark) := takeFrom accepts taken cursor.mark cursor.rest
  match { cursor with rest, mark }.need 1 with
  | .error fault => .error fault
  | .ok after => .ok (taken, after)

/-- Moves over the longest run of characters of a class and returns the run. -/
def takeRun
    (accepts : Char → Bool)
    (cursor : Cursor) :
    Except Fault (String × Cursor) :=
  match cursor.takeAfter accepts [] with
  | .error fault => .error fault
  | .ok (taken, after) => .ok (String.ofList taken.reverse, after)

/-- Moves over the longest run of characters of a class. -/
def skipRun
    (accepts : Char → Bool)
    (cursor : Cursor) :
    Except Fault Cursor :=
  match cursor.takeAfter accepts [] with
  | .error fault => .error fault
  | .ok (_, after) => .ok after

def skipToBreak
    (cursor : Cursor) :
    Except Fault Cursor :=
  cursor.skipRun fun char => !isBreakOrEnd char

/-- How many of the next characters, at most `limit`, are of a class. -/
def runLength
    (accepts : Char → Bool)
    (limit : Nat)
    (cursor : Cursor) :
    Nat :=
  ((cursor.rest.take limit).takeWhile accepts).length

def passBlanks
    (cursor : Cursor) :
    (count : Nat) → Cursor
  | 0 => cursor
  | 1 => if isBlankChar cursor.current then cursor.skip else cursor.passBreak
  | count + 2 =>
      if isBlankChar cursor.current then cursor.skip.passBlanks (count + 1)
      else if cursor.current == '\r' && cursor.peek 1 == '\n' then
        cursor.passBreak.passBlanks count
      else cursor.passBreak.passBlanks (count + 1)

/-- How far ahead of a token or a comment another comment is looked for. -/
def commentReach : Nat := 512

/-- Moves over a comment and over all comments that only blanks and breaks part from it.  A fault
noticed while a further comment is looked for ends the search and is returned. -/
def skipComments
    (cursor : Cursor) :
    (fuel : Nat) → Except Fault (Cursor × Option Fault)
  | 0 => .ok (cursor, none)
  | fuel + 1 => do
      let atEnd ← cursor.skipToBreak
      let gap := atEnd.runLength
        (fun char => isBlankChar char || char == '\n' || char == '\r') commentReach
      match atEnd.tryNeed (min (max gap 1 + 1) commentReach) with
      | (atEnd, some fault) => return (atEnd, some fault)
      | (atEnd, none) =>
          if gap < commentReach && atEnd.peek gap == '#' then
            (atEnd.passBlanks gap).skipComments fuel
          else return (atEnd, none)

end Cursor

end Wayland.Yaml
