import Wayland.Text.Blank
import Wayland.Text.Bytes

/-!
Contract: one record of values separated by commas.

Owns: plain and quoted fields in both directions, and the place of a quote that is out of place.

Does not own: what the values mean.
-/

namespace Wayland.Text.Separated

/-- Why a text is no record. -/
inductive Fault where
  /-- There is nothing but empty lines. -/
  | empty
  /-- A quote in a plain field. -/
  | bareQuote (startLine line column : Nat)
  /-- A quoted field that does not end, or ends too early. -/
  | quote (startLine line column : Nat)
deriving DecidableEq, Repr

/-- The place of a fault, in front of its text. -/
def placed
    (startLine line column : Nat)
    (text : String) :
    String :=
  let place := "parse error on line " ++ toString line ++ ", column " ++ toString column ++ ": "
  if startLine = line then place ++ text
  else "record on line " ++ toString startLine ++ "; " ++ place ++ text

def Fault.message : Fault → String
  | .empty => "EOF"
  | .bareQuote startLine line column =>
      placed startLine line column "bare \" in non-quoted-field"
  | .quote startLine line column =>
      placed startLine line column "extraneous or missing \" in quoted-field"

/-- What is being read. -/
inductive State where
  /-- The start of a field. -/
  | start
  | plain
  | quoted
  /-- Behind a quote within a quoted field. -/
  | closing
deriving DecidableEq, Repr

/-- The place that is reached. -/
structure Place where
  startLine : Nat
  line : Nat
  column : Nat
deriving DecidableEq, Repr

def Place.after
    (place : Place)
    (char : Char) :
    Place :=
  { place with column := place.column + char.utf8Size }

/-- Reads the rest of a record.  Fields, and the characters of the current one, are kept latest
first. -/
def recordFrom
    (state : State)
    (fields : List (List Char))
    (latest : List Char)
    (place : Place) :
    List Char → Except Fault (List (List Char))
  | [] =>
      match state with
      | .quoted => .error (.quote place.startLine place.line place.column)
      | _ => .ok ((latest.reverse :: fields).reverse)
  | char :: rest =>
      let next := place.after char
      match state with
      | .quoted =>
          if char == '"' then recordFrom .closing fields latest next rest
          else if char == '\n' then
            let below : Place :=
              if rest.isEmpty then next else ⟨place.startLine, place.line + 1, 1⟩
            recordFrom .quoted fields (char :: latest) below rest
          else recordFrom .quoted fields (char :: latest) next rest
      | .closing =>
          if char == '"' then recordFrom .quoted fields ('"' :: latest) next rest
          else if char == ',' then recordFrom .start (latest.reverse :: fields) [] next rest
          else if char == '\n' then .ok ((latest.reverse :: fields).reverse)
          else .error (.quote place.startLine place.line (place.column - 1))
      | state =>
          if char == '"' then
            if state == .start then recordFrom .quoted fields [] next rest
            else .error (.bareQuote place.startLine place.line place.column)
          else if char == ',' then recordFrom .start (latest.reverse :: fields) [] next rest
          else if char == '\n' then .ok ((latest.reverse :: fields).reverse)
          else recordFrom .plain fields (char :: latest) next rest

/-- A text whose lines end in line feeds alone, also the last one. -/
def plainLines : List Char → List Char
  | [] => []
  | ['\r'] => []
  | '\r' :: '\n' :: rest => '\n' :: plainLines rest
  | char :: rest => char :: plainLines rest

/-- The values of the first line that is not empty. -/
def values
    (text : String) :
    Except Fault (List String) :=
  let chars := plainLines text.toList
  let skipped := (chars.takeWhile (· == '\n')).length
  let rest := chars.drop skipped
  if rest.isEmpty then .error .empty
  else
    (recordFrom .start [] [] ⟨skipped + 1, skipped + 1, 1⟩ rest).map
      (·.map String.ofList)

/-- Whether a value can only be written as a quoted field. -/
def needsQuotes
    (value : List Char) :
    Bool :=
  value == ['\\', '.'] || value.head?.any isBlank
    || value.any fun char => char == ',' || char == '"' || char == '\n' || char == '\r'

/-- The field of a value; a quote inside a quoted field is written twice. -/
def field
    (value : List Char) :
    List Char :=
  if needsQuotes value then
    '"' :: (value.flatMap fun char => if char == '"' then ['"', '"'] else [char]) ++ ['"']
  else value

def record
    (values : List String) :
    String :=
  String.intercalate "," (values.map fun value => String.ofList (field value.toList))

/-- The values of a record; an empty one has none. -/
def ofRecord
    (text : String) :
    List String :=
  if text.isEmpty then [] else (values text).toOption.getD []

end Wayland.Text.Separated
