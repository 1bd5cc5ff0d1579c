import Wayland.Yaml.Scalar

/-!
Contract: the token stream of a YAML text.

Owns:
- the tokens that no character stands for: starts and ends of block collections, which indentation
  decides, and key tokens, which a later colon puts before what was already read;
- how far ahead of its reader the stream runs: two tokens, and as far as a possible key reaches.

Does not own: what sequences of tokens mean.
-/

namespace Wayland.Yaml

/-- A token that may turn out to start a key. -/
structure KeyCandidate where
  possible : Bool := false
  /-- Whether only a key can stand there. -/
  required : Bool := false
  /-- The number of the token, counted from the start of the text. -/
  number : Nat := 0
  mark : Mark := {}
deriving Repr

/-- A token stream part of which has been read. -/
structure Stream where
  cursor : Cursor
  /-- A bound on the number of characters. -/
  size : Nat
  /-- A fault that was noticed while comments were looked for. -/
  flaw : Option Fault := none
  started : Bool := false
  /-- How many flow collections are open. -/
  flow : Nat := 0
  /-- The indentation of the innermost block collection, and those around it. -/
  indent : Int := -1
  indents : List Int := []
  keyAllowed : Bool := false
  /-- The key candidate of each open flow level, innermost first. -/
  candidates : List KeyCandidate := []
  /-- Tokens that were found and not yet taken. -/
  queue : List Token := []
  /-- How many tokens were taken. -/
  taken : Nat := 0

namespace Stream

def ofInput
    (input : Input) :
    Stream :=
  { cursor := .ofInput input, size := input.size + 8 }

def push
    (stream : Stream)
    (token : Token) :
    Stream :=
  { stream with queue := stream.queue ++ [token] }

/-- Inserts a token before the one with the given number. -/
def insert
    (stream : Stream)
    (number : Nat)
    (token : Token) :
    Stream :=
  let place := number - stream.taken
  { stream with queue := stream.queue.take place ++ token :: stream.queue.drop place }

def nextNumber
    (stream : Stream) :
    Nat :=
  stream.taken + stream.queue.length

def unfinishedKey
    {α : Type}
    (stream : Stream)
    (candidate : KeyCandidate) :
    Except Fault α :=
  tokenFault candidate.mark stream.cursor "could not find expected ':'"

/-- Whether a candidate can still become a key: a key is on one line and at most 1024 characters
long. -/
def inReach
    (stream : Stream)
    (candidate : KeyCandidate) :
    Bool :=
  decide (stream.cursor.mark.line ≤ candidate.mark.line)
    && decide (stream.cursor.mark.index ≤ candidate.mark.index + 1024)

def dropCandidate
    (stream : Stream) :
    Except Fault Stream :=
  match stream.candidates with
  | [] => .ok stream
  | candidate :: others =>
      if candidate.possible && candidate.required then stream.unfinishedKey candidate
      else .ok { stream with candidates := { candidate with possible := false } :: others }

/-- Notes that the next token may start a key. -/
def noteCandidate
    (stream : Stream) :
    Except Fault Stream := do
  if !stream.keyAllowed then return stream
  let required := stream.flow == 0 && stream.indent == (stream.cursor.mark.column : Int)
  let cleared ← stream.dropCandidate
  let candidate : KeyCandidate := ⟨true, required, stream.nextNumber, stream.cursor.mark⟩
  return { cleared with candidates := candidate :: cleared.candidates.drop 1 }

/-- Opens a block collection at a column, if the column is deeper than the innermost one.  The
start token is put before the token with the given number, or at the end. -/
def openBlock
    (stream : Stream)
    (column : Nat)
    (number : Option Nat)
    (kind : TokenKind)
    (mark : Mark) :
    Except Fault Stream :=
  if stream.flow = 0 ∧ stream.indent < column then
    let deeper := { stream with indent := column, indents := stream.indent :: stream.indents }
    if deeper.indents.length > 10000 then
      tokenFault ((stream.candidates.head?.map (·.mark)).getD {}) stream.cursor
        "exceeded max depth of 10000"
    else
      let token : Token := ⟨kind, mark, mark⟩
      match number with
      | some number => .ok (deeper.insert number token)
      | none => .ok (deeper.push token)
  else .ok stream

def closeBlocksFrom
    (stream : Stream)
    (column : Int)
    (mark : Mark) :
    List Int → Stream
  | [] => stream
  | outer :: others =>
      if stream.flow = 0 ∧ column < stream.indent then
        closeBlocksFrom
          ({ stream with indent := outer, indents := others }.push ⟨.blockEnd, mark, mark⟩)
          column mark others
      else stream

def closeBlocks
    (stream : Stream)
    (column : Int)
    (mark : Mark) :
    Stream :=
  stream.closeBlocksFrom column mark stream.indents

/-- Moves over blanks, breaks and comments.  A break outside flow collections allows a key.  Tabs
count as blanks except where a key may stand in a block.  At the start of a line one character is
passed over if the characters at hand begin with a byte order mark. -/
def skipBlanksFrom
    (stream : Stream) :
    (fuel : Nat) → Except Fault Stream
  | 0 => .ok stream
  | fuel + 1 => do
      let cursor ← stream.cursor.need 1
      let cursor :=
        if cursor.mark.column == 0 && cursor.window.marked then cursor.skip else cursor
      let tabs := stream.flow > 0 || !stream.keyAllowed
      let cursor ← cursor.skipRun fun char => char == ' ' || (tabs && char == '\t')
      let (cursor, flaw) ←
        if cursor.current == '#' then cursor.skipComments stream.size else pure (cursor, none)
      let stream := { stream with cursor, flaw := stream.flaw <|> flaw }
      if isBreakChar cursor.current then
        let below ← cursor.skipBreak
        skipBlanksFrom
          { stream with
            cursor := below
            keyAllowed := stream.keyAllowed || decide (stream.flow = 0) }
          fuel
      else return stream

def pushIndicator
    (stream : Stream)
    (kind : TokenKind)
    (length : Nat) :
    Stream :=
  let after := stream.cursor.skipMany length
  { stream with cursor := after }.push ⟨kind, stream.cursor.mark, after.mark⟩

/-- Ends the text: closes all blocks on a new line. -/
def fetchEnd
    (stream : Stream) :
    Except Fault Stream := do
  let mark := stream.cursor.mark
  let mark := if mark.column = 0 then mark else { mark with line := mark.line + 1, column := 0 }
  let stream := { stream with cursor := { stream.cursor with mark } }.closeBlocks (-1) mark
  let stream ← stream.dropCandidate
  return { stream with keyAllowed := false }.push ⟨.streamEnd, mark, mark⟩

def fetchDirective
    (stream : Stream) :
    Except Fault Stream := do
  let stream ← (stream.closeBlocks (-1) stream.cursor.mark).dropCandidate
  let (token, after) ← readDirective stream.size stream.cursor
  return { stream with keyAllowed := false, cursor := after }.push token

def fetchMarker
    (stream : Stream)
    (kind : TokenKind) :
    Except Fault Stream := do
  let stream ← (stream.closeBlocks (-1) stream.cursor.mark).dropCandidate
  return { stream with keyAllowed := false }.pushIndicator kind 3

/-- Fetches the start of a flow collection, which may itself be a key. -/
def fetchFlowStart
    (stream : Stream)
    (kind : TokenKind) :
    Except Fault Stream := do
  let stream ← stream.noteCandidate
  let candidate : KeyCandidate := ⟨false, false, stream.nextNumber, stream.cursor.mark⟩
  if stream.flow ≥ 10000 then
    tokenFault stream.cursor.mark stream.cursor "exceeded max depth of 10000"
  return { stream with
    flow := stream.flow + 1
    candidates := candidate :: stream.candidates
    keyAllowed := true }.pushIndicator kind 1

def fetchFlowEnd
    (stream : Stream)
    (kind : TokenKind) :
    Except Fault Stream := do
  let stream ← stream.dropCandidate
  return { stream with
    flow := stream.flow - 1
    candidates := if stream.flow = 0 then stream.candidates else stream.candidates.drop 1
    keyAllowed := false }.pushIndicator kind 1

def fetchFlowEntry
    (stream : Stream) :
    Except Fault Stream := do
  let stream ← stream.dropCandidate
  return { stream with keyAllowed := true }.pushIndicator .flowEntry 1

/-- Opens a block collection at the cursor, where a key must be allowed. -/
def openHere
    (stream : Stream)
    (kind : TokenKind)
    (refusal : String) :
    Except Fault Stream :=
  let mark := stream.cursor.mark
  if stream.flow > 0 then .ok stream
  else if !stream.keyAllowed then tokenFault mark stream.cursor refusal
  else stream.openBlock mark.column none kind mark

def fetchBlockEntry
    (stream : Stream) :
    Except Fault Stream := do
  let stream ← stream.openHere .blockSequenceStart
    "block sequence entries are not allowed in this context"
  let stream ← stream.dropCandidate
  return { stream with keyAllowed := true }.pushIndicator .blockEntry 1

def fetchKey
    (stream : Stream) :
    Except Fault Stream := do
  let stream ← stream.openHere .blockMappingStart "mapping keys are not allowed in this context"
  let stream ← stream.dropCandidate
  return { stream with keyAllowed := decide (stream.flow = 0) }.pushIndicator .key 1

/-- Fetches the indicator of a value.  A candidate in reach becomes a key: a key token and, in a
block, a start token are put before it. -/
def fetchValue
    (stream : Stream) :
    Except Fault Stream := do
  match stream.candidates with
  | [] => return stream.pushIndicator .value 1
  | candidate :: others =>
      if candidate.possible && !stream.inReach candidate && candidate.required then
        stream.unfinishedKey candidate
      if candidate.possible && stream.inReach candidate then
        let keyed := stream.insert candidate.number ⟨.key, candidate.mark, candidate.mark⟩
        let opened ← keyed.openBlock candidate.mark.column (some candidate.number)
          .blockMappingStart candidate.mark
        return { opened with
          candidates := { candidate with possible := false } :: others
          keyAllowed := false }.pushIndicator .value 1
      else
        let stream :=
          { stream with candidates := { candidate with possible := false } :: others }
        let opened ← stream.openHere .blockMappingStart
          "mapping values are not allowed in this context"
        return { opened with keyAllowed := decide (opened.flow = 0) }.pushIndicator .value 1

/-- Fetches a token that may start a key and is read by `read`. -/
def fetchWith
    (stream : Stream)
    (read : Cursor → Except Fault (Token × Cursor)) :
    Except Fault Stream := do
  let stream ← stream.noteCandidate
  let (token, after) ← read stream.cursor
  return { stream with keyAllowed := false, cursor := after }.push token

/-- Fetches a block scalar, after which a key may stand. -/
def fetchBlockScalar
    (stream : Stream)
    (folding : Bool) :
    Except Fault Stream := do
  let stream ← stream.dropCandidate
  let (token, after) ← readBlockScalar stream.size folding stream.indent stream.cursor
  return { stream with keyAllowed := true, cursor := after }.push token

/-- Fetches a plain scalar, after which a key may stand if a break ended it. -/
def fetchPlain
    (stream : Stream) :
    Except Fault Stream := do
  let stream ← stream.noteCandidate
  let start := stream.cursor.mark
  let (token, broken, after) ←
    plainFrom start (stream.flow > 0) (stream.indent + 1) [] {} start stream.cursor stream.size
  return { stream with keyAllowed := broken, cursor := after }.push token

/-- Whether a plain scalar may start with the next characters. -/
def startsPlain
    (stream : Stream) :
    Bool :=
  let char := stream.cursor.current
  let next := stream.cursor.peek 1
  let indicators :=
    ['-', '?', ':', ',', '[', ']', '\x7b', '\x7d', '#', '&', '*', '!', '|', '>', '\'', '"', '%',
      '@', '\x60']
  !(isBlankOrEnd char || indicators.contains char)
    || (char == '-' && !isBlankChar next)
    || (stream.flow == 0 && (char == '?' || char == ':') && !isBlankOrEnd next)

def fetchToken
    (stream : Stream) :
    Except Fault Stream :=
  let cursor := stream.cursor
  let char := cursor.current
  let blankNext := isBlankOrEnd (cursor.peek 1)
  if char == '[' then stream.fetchFlowStart .flowSequenceStart
  else if char == '\x7b' then stream.fetchFlowStart .flowMappingStart
  else if char == ']' then stream.fetchFlowEnd .flowSequenceEnd
  else if char == '\x7d' then stream.fetchFlowEnd .flowMappingEnd
  else if char == ',' then stream.fetchFlowEntry
  else if char == '-' && blankNext then stream.fetchBlockEntry
  else if char == '?' && (stream.flow > 0 || blankNext) then stream.fetchKey
  else if char == ':' && (stream.flow > 0 || blankNext) then stream.fetchValue
  else if char == '*' then stream.fetchWith (readAnchor .alias)
  else if char == '&' then stream.fetchWith (readAnchor .anchor)
  else if char == '!' then stream.fetchWith (readTag stream.size)
  else if char == '|' && stream.flow == 0 then stream.fetchBlockScalar false
  else if char == '>' && stream.flow == 0 then stream.fetchBlockScalar true
  else if char == '\'' then
    stream.fetchWith fun cursor => quotedFrom cursor.mark true [] cursor.skip stream.size
  else if char == '"' then
    stream.fetchWith fun cursor => quotedFrom cursor.mark false [] cursor.skip stream.size
  else if stream.startsPlain then stream.fetchPlain
  else tokenFault cursor.mark cursor "found character that cannot start any token"

/-- Whether a comment on the line of the latest token is looked for right behind it: not after the
indicator of a sequence entry, nor where the token ended in a later line. -/
def seeksComment
    (stream : Stream) :
    Bool :=
  match stream.queue.getLast?.map Token.kind with
  | some .blockEntry => false
  | some (.scalar _ .plain) => !stream.keyAllowed
  | some (.scalar _ .literal) => false
  | some (.scalar _ .folded) => false
  | _ => true

/-- Moves over the comment on the line of the latest token. -/
def skipLineComment
    (stream : Stream) :
    Except Fault Stream :=
  let gap := stream.cursor.runLength isBlankChar Cursor.commentReach
  match stream.cursor.tryNeed (min (gap + 1) Cursor.commentReach) with
  | (cursor, some fault) => .ok { stream with cursor, flaw := stream.flaw <|> some fault }
  | (cursor, none) =>
      if gap < Cursor.commentReach && cursor.peek gap == '#' then
        match cursor.skipToBreak with
        | .error fault => .error fault
        | .ok cursor => .ok { stream with cursor }
      else .ok { stream with cursor }

def fetchHere
    (stream : Stream) :
    Except Fault Stream :=
  let cursor := stream.cursor
  if cursor.rest.isEmpty then stream.fetchEnd
  else if cursor.mark.column == 0 && cursor.current == '%' then stream.fetchDirective
  else if cursor.atMarker then
    stream.fetchMarker (if cursor.current == '-' then .documentStart else .documentEnd)
  else
    match stream.fetchToken with
    | .error fault => .error fault
    | .ok after => if after.seeksComment then after.skipLineComment else .ok after

/-- Fetches one more token, and with it the ends of blocks that it closes. -/
def fetch
    (stream : Stream) :
    Except Fault Stream := do
  let cursor ← stream.cursor.need 1
  let stream := { stream with cursor }
  if !stream.started then
    return { stream with
      started := true
      keyAllowed := true
      candidates := [{}] }.push ⟨.streamStart, {}, {}⟩
  else
    let before := cursor.mark
    let stream ← stream.skipBlanksFrom stream.size
    let stream := stream.closeBlocks stream.cursor.mark.column before
    let cursor ← stream.cursor.need 4
    { stream with cursor }.fetchHere

/-- Whether the next token may still turn out to start a key.  A candidate out of reach is given
up, and is a fault where only a key can stand. -/
def headIsCandidate
    (stream : Stream) :
    Except Fault Bool :=
  match stream.candidates.find? fun candidate =>
      candidate.possible && candidate.number == stream.taken with
  | none => .ok false
  | some candidate =>
      if stream.inReach candidate then .ok true
      else if candidate.required then stream.unfinishedKey candidate
      else .ok false

/-- Fetches until two tokens stand behind the next one and it cannot become a key any more. -/
def fill
    (stream : Stream) :
    (fuel : Nat) → Except Fault Stream
  | 0 => .ok stream
  | fuel + 1 =>
      match stream.queue with
      | _ :: _ :: _ :: _ =>
          match stream.headIsCandidate with
          | .error fault => .error fault
          | .ok false => .ok stream
          | .ok true =>
              match stream.fetch with
              | .error fault => .error fault
              | .ok more => more.fill fuel
      | _ =>
          match stream.fetch with
          | .error fault => .error fault
          | .ok more => more.fill fuel

/-- The next token, and the stream with enough fetched behind it. -/
def peek
    (stream : Stream) :
    Except Fault (Token × Stream) :=
  match stream.fill stream.size with
  | .error fault => .error fault
  | .ok filled =>
      match filled.queue with
      | token :: _ => .ok (token, filled)
      | [] => .ok (⟨.streamEnd, filled.cursor.mark, filled.cursor.mark⟩, filled)

/-- The stream without its next token. -/
def advance
    (stream : Stream) :
    Stream :=
  { stream with queue := stream.queue.drop 1, taken := stream.taken + 1 }

end Stream

end Wayland.Yaml
