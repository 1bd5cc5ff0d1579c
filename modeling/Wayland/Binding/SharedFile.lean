import Wayland.Binding.Documentation
import Wayland.Binding.Plan

/-!
Contract: the text of the shared package.

Owns: the descriptor table, the constants, the enumeration types and the file around them.

Does not own: which names are declared.
-/

namespace Wayland.Binding

open Wayland.Text (quote)

def generatedMark : String := "// Code generated by wlscanner. DO NOT EDIT."

def slotLine
    (slot : SlotPlan) :
    String :=
  "\x7bName: " ++ quote slot.name ++ ", Kind: " ++ slot.kind.getD ""
    ++ (if slot.nullable then ", Nullable: true" else "")
    ++ (if slot.interface.isEmpty then "" else ", Interface: " ++ quote slot.interface) ++ "\x7d,"

def messageLines
    (plan : MessagePlan) :
    Lines :=
  let head :=
    "\x7bName: " ++ quote plan.message.name ++ ", Since: " ++ toString plan.message.since.toNat
      ++ (if plan.message.destructor then ", Destructor: true" else "")
  if plan.slots.isEmpty then [head ++ "\x7d,"]
  else [head ++ ", Args: []wire.ArgSpec\x7b"] ++ indent 1 (plan.slots.map slotLine) ++ ["\x7d\x7d,"]

def directionLines
    (field : String)
    (messages : List MessagePlan) :
    Lines :=
  if messages.isEmpty then []
  else
    [field ++ ": []wire.MessageSpec\x7b"] ++ indent 1 (messages.flatMap messageLines) ++ ["\x7d,"]

def descriptorLines
    (interface : InterfacePlan) :
    Lines :=
  documentation
      ((interface.descriptorName ++ " describes " ++ interface.name ++ " at version "
          ++ toString interface.version.toNat ++ ".")
        :: if interface.summary.isEmpty then [] else [interface.summary ++ "."])
    ++ ["var " ++ interface.descriptorName ++ " = &wire.Interface\x7b"]
    ++ indent 1
      (alignRows
          [("Name:", quote interface.name ++ ","),
            ("Version:", toString interface.version.toNat ++ ",")]
        ++ directionLines "Requests" interface.requests
        ++ directionLines "Events" interface.events)
    ++ ["\x7d"]

/-- A block of constants; rows between comments are aligned with each other. -/
def constantBlock
    (lines : Lines) :
    Lines :=
  if lines.isEmpty then ["const ()"] else ["const ("] ++ indent 1 lines ++ [")"]

def opcodeLines
    (interface : InterfacePlan) :
    Lines :=
  let rows := (interface.requests ++ interface.events).flatMap fun plan =>
    [(plan.opcodeName, "uint16 = " ++ toString plan.opcode.toNat),
      (plan.sinceName, "uint32 = " ++ toString plan.message.since.toNat)]
  if rows.isEmpty then []
  else
    [""]
      ++ documentation ["Opcodes and minimum versions of the " ++ interface.name ++ " messages."]
      ++ constantBlock (alignRows rows)

/-- The constants of entries.  A comment ends the rows that are aligned with each other; `rows`
holds those since the last comment, latest first. -/
def entryLinesFrom
    (typeName : String)
    (rows : List (String × String)) :
    List EntryPlan → Lines
  | [] => alignRows rows.reverse
  | entry :: rest =>
      let row := (entry.constant, typeName ++ " = " ++ entry.value)
      if entry.summary.isEmpty then entryLinesFrom typeName (row :: rows) rest
      else
        alignRows rows.reverse ++ [commentLine entry.summary] ++ entryLinesFrom typeName [row] rest

/-- The body of the function that prints an enumeration value. -/
def enumerationTextLines
    (enumeration : EnumerationPlan) :
    Lines :=
  let distinct := enumeration.distinct
  if enumeration.bitfield then
    ["return formatBits(uint32(e), []uint32\x7b" ++ commaList (distinct.map (·.value))
      ++ "\x7d, []string\x7b" ++ commaList (distinct.map fun entry => quote entry.name) ++ "\x7d)"]
  else
    ["switch e \x7b"]
      ++ distinct.flatMap (fun entry =>
        ["case " ++ entry.constant ++ ":", "\treturn " ++ quote entry.name])
      ++ ["\x7d",
        "return fmt.Sprintf(\"" ++ enumeration.typeName ++ "(%d)\", uint32(e))"]

def enumerationLines
    (interface : InterfacePlan)
    (enumeration : EnumerationPlan) :
    Lines :=
  [""]
    ++ documentation
      [enumeration.typeName ++ " is the " ++ enumeration.name ++ " enum of " ++ interface.name
        ++ (if enumeration.summary.isEmpty then "" else ": " ++ enumeration.summary) ++ "."]
    ++ ["type " ++ enumeration.typeName ++ " uint32", ""]
    ++ constantBlock (entryLinesFrom enumeration.typeName [] enumeration.entries)
    ++ ["", "func (e " ++ enumeration.typeName ++ ") String() string \x7b"]
    ++ indent 1 (enumerationTextLines enumeration) ++ ["\x7d"]

def interfaceLines
    (interface : InterfacePlan) :
    Lines :=
  [""] ++ descriptorLines interface ++ opcodeLines interface
    ++ interface.enumerations.flatMap (enumerationLines interface)

def formatBitsLines : Lines :=
  ["",
    "// formatBits renders a bitfield as names joined by \"|\". Unknown bits are",
    "// printed in hex.",
    "func formatBits(v uint32, values []uint32, names []string) string \x7b",
    "\tvar parts []string",
    "\trest := v",
    "\tfor i, bit := range values \x7b",
    "\t\tif bit == 0 \x7b",
    "\t\t\tif v == 0 \x7b",
    "\t\t\t\treturn names[i]",
    "\t\t\t\x7d",
    "\t\t\tcontinue",
    "\t\t\x7d",
    "\t\tif rest&bit == bit \x7b",
    "\t\t\tparts = append(parts, names[i])",
    "\t\t\trest &^= bit",
    "\t\t\x7d",
    "\t\x7d",
    "\tif rest != 0 || len(parts) == 0 \x7b",
    "\t\tparts = append(parts, fmt.Sprintf(\"0x%x\", rest))",
    "\t\x7d",
    "\treturn strings.Join(parts, \"|\")",
    "\x7d"]

def sharedLines
    (runtime : String)
    (protocol : ProtocolPlan) :
    Lines :=
  let standard :=
    (if protocol.hasEnumerations then ["\t\"fmt\""] else [])
      ++ (if protocol.hasBitfields then ["\t\"strings\""] else [])
  [generatedMark, commentLine ("Source: " ++ protocol.name), ""]
    ++ documentation
      (("Package " ++ protocol.package ++ " holds the wire descriptors of the " ++ protocol.name
          ++ " protocol.")
        :: if protocol.summary.isEmpty then [] else ["", protocol.summary ++ "."])
    ++ ["package " ++ protocol.package, "", "import ("]
    ++ (if standard.isEmpty then [] else standard ++ [""])
    ++ ["\t\"" ++ runtime ++ "/wire\"", ")", ""]
    ++ documentation ["Interfaces lists every interface of the " ++ protocol.name ++ " protocol."]
    ++ ["var Interfaces = []*wire.Interface\x7b"]
    ++ protocol.interfaces.map (fun interface => "\t" ++ interface.descriptorName ++ ",")
    ++ ["\x7d"]
    ++ protocol.interfaces.flatMap interfaceLines
    ++ (if protocol.hasBitfields then formatBitsLines else [])

/-- Whether the shared package can be written: every declared name is an identifier, every argument
has a kind, and the texts that stand unquoted fit their places. -/
def sharedIsValid
    (runtime : String)
    (protocol : ProtocolPlan) :
    Bool :=
  protocol.declarations.all (fun declaration => isIdentifier declaration.name)
    && protocol.interfaces.all (fun interface =>
      (interface.requests ++ interface.events).all fun message =>
        message.slots.all (·.kind.isSome))
    && isCommentText protocol.name && isStringBody runtime

def sharedText?
    (runtime : String)
    (protocol : ProtocolPlan) :
    Option String :=
  let text := fileText (sharedLines runtime protocol)
  if sharedIsValid runtime protocol && hasOnlySourceChars text then some text else none

end Wayland.Binding
