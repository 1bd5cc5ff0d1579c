import Wayland.Yaml.Stream

/-!
Contract: the events of a YAML text.

Owns: the grammar of documents, block and flow collections, node properties and empty nodes, and
the faults of token sequences that do not follow it.

Does not own: the tree that events describe.
-/

namespace Wayland.Yaml

/-- What happens next in a text. -/
inductive EventKind where
  | streamEnd
  | documentStart
  | documentEnd
  | alias (name : String)
  | scalar (anchor tag value : String) (style : Style)
  | sequenceStart (anchor tag : String)
  | sequenceEnd
  | mappingStart (anchor tag : String)
  | mappingEnd
deriving DecidableEq, Repr

/-- An event and where it starts. -/
structure Event where
  kind : EventKind
  start : Mark
deriving DecidableEq, Repr

/-- What the grammar expects next. -/
inductive Expectation where
  | implicitDocument
  | document
  | documentContent
  | documentEnd
  | blockNode
  | blockSequenceFirst
  | blockSequenceEntry
  | indentlessEntry
  | blockMappingFirst
  | blockMappingKey
  | blockMappingValue
  | flowSequenceFirst
  | flowSequenceEntry
  | flowPairKey
  | flowPairValue
  | flowPairEnd
  | flowMappingFirst
  | flowMappingKey
  | flowMappingValue
  | flowMappingEmptyValue
  | nothing
deriving DecidableEq, Repr

structure Reader where
  stream : Stream
  expected : Expectation := .implicitDocument
  /-- What is expected after the current construct, innermost first. -/
  pending : List Expectation := []
  /-- Where the open collections started, innermost first. -/
  opened : List Mark := []
  /-- The tag handles of the current document. -/
  handles : List (String × String) := []

namespace Reader

def peek
    (reader : Reader) :
    Except Fault (Token × Reader) :=
  match reader.stream.peek with
  | .error fault => .error fault
  | .ok (token, stream) => .ok (token, { reader with stream })

/-- The reader without its next token. -/
def advance
    (reader : Reader) :
    Reader :=
  { reader with stream := reader.stream.advance }

def resume
    (reader : Reader) :
    Reader :=
  { reader with
    expected := reader.pending.headD .nothing
    pending := reader.pending.drop 1 }

/-- Puts off what is expected after the current construct. -/
def putOff
    (reader : Reader)
    (expectation : Expectation) :
    Reader :=
  { reader with pending := expectation :: reader.pending }

/-- A fault of the grammar inside the innermost open collection. -/
def unexpected
    {α : Type}
    (reader : Reader)
    (token : Token)
    (text : String) :
    Except Fault α :=
  .error { stage := .composition, context := reader.opened.headD {}, problem := token.start, text }

def misplaced
    {α : Type}
    (token : Token)
    (text : String) :
    Except Fault α :=
  .error { stage := .composition, problem := token.start, text }

/-- The event of a node without content. -/
def empty
    (mark : Mark) :
    Event :=
  ⟨.scalar "" "" "" .plain, mark⟩

/-- The tag handles every document has. -/
def standardHandles : List (String × String) :=
  [("!", "!"), ("!!", "tag:yaml.org,2002:")]

/-- Reads the directives before a document.  `version` tells whether a version was stated. -/
def directives
    (reader : Reader)
    (version : Bool) :
    (fuel : Nat) → Except Fault Reader
  | 0 => .ok reader
  | fuel + 1 => do
      let (token, reader) ← reader.peek
      match token.kind with
      | .versionDirective major minor =>
          if version then misplaced token "found duplicate %YAML directive"
          if major != 1 || minor != 1 then misplaced token "found incompatible YAML document"
          directives reader.advance true fuel
      | .tagDirective handle expansion =>
          if reader.handles.any (·.1 == handle) then
            misplaced token "found duplicate %TAG directive"
          directives { reader.advance with handles := reader.handles ++ [(handle, expansion)] }
            version fuel
      | _ => return { reader with handles := reader.handles ++ standardHandles }

def skipEndMarkers
    (reader : Reader) :
    (fuel : Nat) → Except Fault Reader
  | 0 => .ok reader
  | fuel + 1 => do
      let (token, reader) ← reader.peek
      if token.kind = .documentEnd then skipEndMarkers reader.advance fuel else return reader

/-- Whether a token may only stand before an explicit document. -/
def startsExplicitDocument : TokenKind → Bool
  | .versionDirective _ _ => true
  | .tagDirective _ _ => true
  | .documentStart => true
  | _ => false

def documentStart
    (reader : Reader)
    (implicitAllowed : Bool) :
    Except Fault (Event × Reader) := do
  let reader ←
    if implicitAllowed then pure reader else reader.skipEndMarkers reader.stream.size
  let (token, reader) ← reader.peek
  if token.kind = .streamEnd then
    return (⟨.streamEnd, token.start⟩, { reader.advance with expected := .nothing })
  else if implicitAllowed && !startsExplicitDocument token.kind then
    let reader ← reader.directives false reader.stream.size
    return (⟨.documentStart, token.start⟩,
      { reader.putOff .documentEnd with expected := .blockNode })
  else
    let reader ← reader.directives false reader.stream.size
    let (marker, reader) ← reader.peek
    if marker.kind ≠ .documentStart then
      misplaced marker "did not find expected <document start>"
    return (⟨.documentStart, token.start⟩,
      { (reader.putOff .documentEnd).advance with expected := .documentContent })

/-- Node properties: an anchor, a tag and where they start. -/
structure Properties where
  anchor : String := ""
  handle : String := ""
  suffix : String := ""
  tagged : Bool := false
  tagMark : Mark := {}
  start : Option Mark := none

def properties
    (reader : Reader) :
    Except Fault (Properties × Token × Reader) := do
  let (token, reader) ← reader.peek
  match token.kind with
  | .anchor name =>
      let (next, reader) ← reader.advance.peek
      match next.kind with
      | .tag handle suffix =>
          let (last, reader) ← reader.advance.peek
          return (⟨name, handle, suffix, true, next.start, some token.start⟩, last, reader)
      | _ => return ({ anchor := name, start := some token.start }, next, reader)
  | .tag handle suffix =>
      let (next, reader) ← reader.advance.peek
      match next.kind with
      | .anchor name =>
          let (last, reader) ← reader.advance.peek
          return (⟨name, handle, suffix, true, token.start, some token.start⟩, last, reader)
      | _ =>
          return (⟨"", handle, suffix, true, token.start, some token.start⟩, next, reader)
  | _ => return ({}, token, reader)

def tagText
    (reader : Reader)
    (found : Properties)
    (start : Mark) :
    Except Fault String :=
  if !found.tagged then .ok ""
  else if found.handle.isEmpty then .ok found.suffix
  else
    match reader.handles.lookup found.handle with
    | some expansion => .ok (expansion ++ found.suffix)
    | none =>
        .error {
          stage := .composition
          context := start
          problem := found.tagMark
          text := "found undefined tag handle" }

/-- Reads a node.  Block collections are allowed if `block`, and sequences at the indentation of
their key if `indentless`. -/
def node
    (reader : Reader)
    (block indentless : Bool) :
    Except Fault (Event × Reader) := do
  let (first, reader) ← reader.peek
  match first.kind with
  | .alias name => return (⟨.alias name, first.start⟩, reader.resume.advance)
  | _ =>
      let (found, token, reader) ← reader.properties
      let start := found.start.getD token.start
      let tag ← reader.tagText found start
      let anchor := found.anchor
      match token.kind with
      | .scalar value style =>
          return (⟨.scalar anchor tag value style, start⟩, reader.resume.advance)
      | .flowSequenceStart =>
          return (⟨.sequenceStart anchor tag, start⟩,
            { reader with expected := .flowSequenceFirst })
      | .flowMappingStart =>
          return (⟨.mappingStart anchor tag, start⟩, { reader with expected := .flowMappingFirst })
      | kind =>
          if indentless && kind = .blockEntry then
            return (⟨.sequenceStart anchor tag, start⟩,
              { reader with expected := .indentlessEntry })
          else if block && kind = .blockSequenceStart then
            return (⟨.sequenceStart anchor tag, start⟩,
              { reader with expected := .blockSequenceFirst })
          else if block && kind = .blockMappingStart then
            return (⟨.mappingStart anchor tag, start⟩,
              { reader with expected := .blockMappingFirst })
          else if !anchor.isEmpty || !tag.isEmpty then
            return (⟨.scalar anchor tag "" .plain, start⟩, reader.resume)
          else
            .error {
              stage := .composition
              context := start
              problem := token.start
              text := "did not find expected node content" }

/-- Ends the innermost collection with its last token. -/
def close
    (reader : Reader)
    (token : Token)
    (kind : EventKind) :
    Event × Reader :=
  (⟨kind, token.start⟩, { reader.resume.advance with opened := reader.opened.drop 1 })

/-- Opens a collection at its first token. -/
def enter
    (reader : Reader) :
    Except Fault Reader := do
  let (token, reader) ← reader.peek
  return { reader.advance with opened := token.start :: reader.opened }

def blockSequenceEntry
    (reader : Reader) :
    Except Fault (Event × Reader) := do
  let (token, reader) ← reader.peek
  if token.kind = .blockEntry then
    let (next, reader) ← reader.advance.peek
    if next.kind ≠ .blockEntry ∧ next.kind ≠ .blockEnd then
      (reader.putOff .blockSequenceEntry).node true false
    else return (empty token.stop, { reader with expected := .blockSequenceEntry })
  else if token.kind = .blockEnd then return reader.close token .sequenceEnd
  else reader.unexpected token "did not find expected '-' indicator"

def indentlessEntry
    (reader : Reader) :
    Except Fault (Event × Reader) := do
  let (token, reader) ← reader.peek
  if token.kind = .blockEntry then
    let (next, reader) ← reader.advance.peek
    if next.kind ≠ .blockEntry ∧ next.kind ≠ .key ∧ next.kind ≠ .value ∧ next.kind ≠ .blockEnd then
      (reader.putOff .indentlessEntry).node true false
    else return (empty token.stop, { reader with expected := .indentlessEntry })
  else return (⟨.sequenceEnd, token.start⟩, reader.resume)

/-- Whether a block mapping goes on without a node. -/
def endsBlockNode
    (kind : TokenKind) :
    Bool :=
  kind == .key || kind == .value || kind == .blockEnd

def blockMappingKey
    (reader : Reader) :
    Except Fault (Event × Reader) := do
  let (token, reader) ← reader.peek
  if token.kind = .key then
    let (next, reader) ← reader.advance.peek
    if !endsBlockNode next.kind then (reader.putOff .blockMappingValue).node true true
    else return (empty token.stop, { reader with expected := .blockMappingValue })
  else if token.kind = .blockEnd then return reader.close token .mappingEnd
  else reader.unexpected token "did not find expected key"

def blockMappingValue
    (reader : Reader) :
    Except Fault (Event × Reader) := do
  let (token, reader) ← reader.peek
  if token.kind = .value then
    let (next, reader) ← reader.advance.peek
    if !endsBlockNode next.kind then (reader.putOff .blockMappingKey).node true true
    else return (empty token.stop, { reader with expected := .blockMappingKey })
  else return (empty token.start, { reader with expected := .blockMappingKey })

/-- Moves over the separator before an entry of a flow collection that is not the first. -/
def separator
    (reader : Reader)
    (first : Bool)
    (ending : TokenKind)
    (text : String) :
    Except Fault (Token × Reader) := do
  let (token, reader) ← reader.peek
  if first || token.kind = ending then return (token, reader)
  else if token.kind = .flowEntry then reader.advance.peek
  else reader.unexpected token text

def flowSequenceEntry
    (reader : Reader)
    (first : Bool) :
    Except Fault (Event × Reader) := do
  let (token, reader) ← reader.separator first .flowSequenceEnd "did not find expected ',' or ']'"
  if token.kind = .key then
    return (⟨.mappingStart "" "", token.start⟩, { reader.advance with expected := .flowPairKey })
  else if token.kind ≠ .flowSequenceEnd then (reader.putOff .flowSequenceEntry).node false false
  else return reader.close token .sequenceEnd

def flowPairKey
    (reader : Reader) :
    Except Fault (Event × Reader) := do
  let (token, reader) ← reader.peek
  if token.kind ≠ .value ∧ token.kind ≠ .flowEntry ∧ token.kind ≠ .flowSequenceEnd then
    (reader.putOff .flowPairValue).node false false
  else return (empty token.stop, { reader.advance with expected := .flowPairValue })

def flowPairValue
    (reader : Reader) :
    Except Fault (Event × Reader) := do
  let (token, reader) ← reader.peek
  if token.kind = .value then
    let (next, reader) ← reader.advance.peek
    if next.kind ≠ .flowEntry ∧ next.kind ≠ .flowSequenceEnd then
      (reader.putOff .flowPairEnd).node false false
    else return (empty token.start, { reader with expected := .flowPairEnd })
  else return (empty token.start, { reader with expected := .flowPairEnd })

def flowPairEnd
    (reader : Reader) :
    Except Fault (Event × Reader) := do
  let (token, reader) ← reader.peek
  return (⟨.mappingEnd, token.start⟩, { reader with expected := .flowSequenceEntry })

def flowMappingKey
    (reader : Reader)
    (first : Bool) :
    Except Fault (Event × Reader) := do
  let (token, reader) ← reader.separator first .flowMappingEnd
    "did not find expected ',' or '\x7d'"
  if token.kind = .key then
    let (next, reader) ← reader.advance.peek
    if next.kind ≠ .value ∧ next.kind ≠ .flowEntry ∧ next.kind ≠ .flowMappingEnd then
      (reader.putOff .flowMappingValue).node false false
    else return (empty next.start, { reader with expected := .flowMappingValue })
  else if token.kind ≠ .flowMappingEnd then (reader.putOff .flowMappingEmptyValue).node false false
  else return reader.close token .mappingEnd

def flowMappingValue
    (reader : Reader) :
    Except Fault (Event × Reader) := do
  let (token, reader) ← reader.peek
  if token.kind = .value then
    let (next, reader) ← reader.advance.peek
    if next.kind ≠ .flowEntry ∧ next.kind ≠ .flowMappingEnd then
      (reader.putOff .flowMappingKey).node false false
    else return (empty next.start, { reader with expected := .flowMappingKey })
  else return (empty token.start, { reader with expected := .flowMappingKey })

def nextEvent
    (reader : Reader) :
    Except Fault (Event × Reader) := do
  match reader.expected with
  | .implicitDocument => reader.documentStart true
  | .document => reader.documentStart false
  | .documentContent =>
      let (token, reader) ← reader.peek
      if startsExplicitDocument token.kind || token.kind = .documentEnd
          || token.kind = .streamEnd then
        return (empty token.start, reader.resume)
      else reader.node true false
  | .documentEnd =>
      let (token, reader) ← reader.peek
      let reader := if token.kind = .documentEnd then reader.advance else reader
      return (⟨.documentEnd, token.start⟩, { reader with expected := .document, handles := [] })
  | .blockNode => reader.node true false
  | .blockSequenceFirst => (← reader.enter).blockSequenceEntry
  | .blockSequenceEntry => reader.blockSequenceEntry
  | .indentlessEntry => reader.indentlessEntry
  | .blockMappingFirst => (← reader.enter).blockMappingKey
  | .blockMappingKey => reader.blockMappingKey
  | .blockMappingValue => reader.blockMappingValue
  | .flowSequenceFirst => (← reader.enter).flowSequenceEntry true
  | .flowSequenceEntry => reader.flowSequenceEntry false
  | .flowPairKey => reader.flowPairKey
  | .flowPairValue => reader.flowPairValue
  | .flowPairEnd => reader.flowPairEnd
  | .flowMappingFirst => (← reader.enter).flowMappingKey true
  | .flowMappingKey => reader.flowMappingKey false
  | .flowMappingValue => reader.flowMappingValue
  | .flowMappingEmptyValue =>
      let (token, reader) ← reader.peek
      return (empty token.start, { reader with expected := .flowMappingKey })
  | .nothing => return (⟨.streamEnd, reader.stream.cursor.mark⟩, reader)

/-- Reads the next event, unless a fault was noticed while its tokens were looked for. -/
def next
    (reader : Reader) :
    Except Fault (Event × Reader) :=
  match reader.nextEvent with
  | .error fault => .error fault
  | .ok (event, reader) =>
      match reader.stream.flaw with
      | some fault => .error fault
      | none => .ok (event, reader)

/-- The reader at the start of a text, before which the start token is taken. -/
def ofInput
    (input : Input) :
    Except Fault Reader := do
  let reader : Reader := { stream := .ofInput input }
  let (_, reader) ← reader.peek
  return reader.advance

end Reader

end Wayland.Yaml
