import Wayland.Text.Quoted

/-!
Contract: the ways in which markup is malformed.

Owns: the faults, their place and their texts.

Does not own: when a fault arises.
-/

namespace Wayland.Markup

open Wayland.Text

/-- What is wrong with a piece of markup. -/
inductive Fault where
  | unexpectedEnd
  | unexpectedEndOfSection
  | missingElementName
  | missingEndName
  | missingTarget
  | endTagJunk (name : String)
  | badCommentStart
  | dashesInComment
  | badSectionStart
  | unfinishedEmptyTag
  | missingAttributeName
  | attributeWithoutValue
  | unquotedValue
  | bareSectionEnd
  | tagInQuotes
  | badEntity (reference : String)
  | strayByte
  | illegalCharacter (code : Nat)
  | badName (name : String)
  | unmatchedEnd (name : String)
  | crossedTags (opened closed : String)
  | crossedSpaces (name openSpace closed closedSpace : String)
  /-- A declaration of another version than 1.0. -/
  | unsupportedVersion (version : Bytes)
  /-- A declaration of another encoding than UTF-8. -/
  | unsupportedEncoding (encoding : Bytes)
deriving DecidableEq, Repr

namespace Fault

/-- Faults of the declaration are no faults of the grammar. -/
def isGrammatical : Fault → Bool
  | .unsupportedVersion _ => false
  | .unsupportedEncoding _ => false
  | _ => true

/-- The upper-case code point notation with at least four digits. -/
def codePoint
    (code : Nat) :
    String :=
  "U+" ++ String.ofList ((hexDigits 4 code).map Char.toUpper)

/-- The text of a fault, without its place. -/
def text : Fault → String
  | .unexpectedEnd => "unexpected EOF"
  | .unexpectedEndOfSection => "unexpected EOF in CDATA section"
  | .missingElementName => "expected element name after <"
  | .missingEndName => "expected element name after </"
  | .missingTarget => "expected target name after <?"
  | .endTagJunk name => "invalid characters between </" ++ name ++ " and >"
  | .badCommentStart => "invalid sequence <!- not part of <!--"
  | .dashesInComment => "invalid sequence \"--\" not allowed in comments"
  | .badSectionStart => "invalid <![ sequence"
  | .unfinishedEmptyTag => "expected /> in element"
  | .missingAttributeName => "expected attribute name in element"
  | .attributeWithoutValue => "attribute name without = in element"
  | .unquotedValue => "unquoted or missing attribute value in element"
  | .bareSectionEnd => "unescaped ]]> not in CDATA section"
  | .tagInQuotes => "unescaped < inside quoted string"
  | .badEntity reference => "invalid character entity " ++ reference
  | .strayByte => "invalid UTF-8"
  | .illegalCharacter code => "illegal character code " ++ codePoint code
  | .badName name => "invalid XML name: " ++ name
  | .unmatchedEnd name => "unexpected end element </" ++ name ++ ">"
  | .crossedTags opened closed => "element <" ++ opened ++ "> closed by </" ++ closed ++ ">"
  | .crossedSpaces name openSpace closed closedSpace =>
      "element <" ++ name ++ "> in space " ++ openSpace ++ " closed by </" ++ closed
        ++ "> in space " ++ (if closedSpace.isEmpty then "\"\"" else closedSpace)
  | .unsupportedVersion version =>
      "xml: unsupported version " ++ quoteBytes version ++ "; only version 1.0 is supported"
  | .unsupportedEncoding encoding =>
      "xml: encoding " ++ quoteBytes encoding ++ " declared but Decoder.CharsetReader is nil"

end Fault

/-- A fault and the line on which it was noticed. -/
structure Failure where
  line : Nat
  fault : Fault
deriving DecidableEq, Repr

def Failure.message
    (failure : Failure) :
    String :=
  if failure.fault.isGrammatical then
    "XML syntax error on line " ++ toString failure.line ++ ": " ++ failure.fault.text
  else failure.fault.text

end Wayland.Markup
