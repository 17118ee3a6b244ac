import RunConditions.Text.Numeral

/-!
# Faults of XML documents

A document can be broken at three levels: in its markup, in the attributes of
one tag, and in the references inside one attribute value. Places are counted
in bytes of the text that the fault is about.
-/

set_option autoImplicit false

namespace RunConditions.Xml

inductive Fault where
  | unknownMarkup
  | unclosedTag
  | unclosedComment
  | unclosedCData
  | unclosedDoctype
  | unclosedInstruction
  | unclosedReference
  | namelessDoctype
  | unmatchedClose (name : String)
  | mismatchedClose (expected found : String)
  deriving DecidableEq, Repr

namespace Fault

def detail : Fault → String
  | unknownMarkup => "unknown or missed symbol in markup"
  | unclosedTag => "tag not closed: `>` not found before end of input"
  | unclosedComment => "comment not closed: `-->` not found before end of input"
  | unclosedCData => "CDATA not closed: `]]>` not found before end of input"
  | unclosedDoctype => "DOCTYPE not closed: `>` not found before end of input"
  | unclosedInstruction =>
    "processing instruction or xml declaration not closed: `?>` not found before end of input"
  | unclosedReference =>
    "entity or character reference not closed: `;` not found before end of input"
  | namelessDoctype =>
    "`<!DOCTYPE>` declaration does not contain a name of a document type"
  | unmatchedClose name => "close tag `</" ++ name ++ ">` does not match any open tag"
  | mismatchedClose expected found =>
    "expected `</" ++ expected ++ ">`, but `</" ++ found ++ ">` was found"

/-- Whether each piece of markup is whole and only their order is wrong. -/
def isIllFormed : Fault → Bool
  | unclosedReference | namelessDoctype | unmatchedClose _ | mismatchedClose .. => true
  | _ => false

def message (f : Fault) : String :=
  (if f.isIllFormed then "ill-formed document: " else "syntax error: ") ++ f.detail

end Fault

inductive AttributeFault where
  | expectedEquals (place : Nat)
  | duplicated (place previous : Nat)
  | expectedValue (place : Nat)
  | unquotedValue (place : Nat)
  | unclosedQuote (place : Nat) (quote : Char)
  deriving DecidableEq, Repr

def AttributeFault.message : AttributeFault → String
  | expectedEquals p =>
    "position " ++ toString p ++ ": attribute key must be directly followed by `=` or space"
  | duplicated p q =>
    "position " ++ toString p ++ ": duplicated attribute, previous declaration at position " ++
      toString q
  | expectedValue p =>
    "position " ++ toString p ++ ": `=` must be followed by an attribute value"
  | unquotedValue p =>
    "position " ++ toString p ++ ": attribute value must be enclosed in `\"` or `'`"
  | unclosedQuote p quote =>
    "position " ++ toString p ++ ": missing closing quote `" ++ String.ofList [quote] ++
      "` in attribute value"

inductive ReferenceFault where
  | unterminated (first last : Nat)
  | unknownEntity (first last : Nat) (name : String)
  | signedNumber
  | badNumber (fault : Numeral.Fault)
  | zeroCharacter
  | noCharacter (code : Nat)
  deriving DecidableEq, Repr

def ReferenceFault.message : ReferenceFault → String
  | unterminated a b =>
    "Error while escaping character at range " ++ toString a ++ ".." ++ toString b ++
      ": Cannot find ';' after '&'"
  | unknownEntity a b name =>
    "at " ++ toString a ++ ".." ++ toString b ++ ": unrecognized entity `" ++ name ++ "`"
  | signedNumber => "invalid character reference: unexpected number sign"
  | badNumber fault => "invalid character reference: " ++ fault.message
  | zeroCharacter => "invalid character reference: 0x0 character is not permitted in XML"
  | noCharacter code =>
    "invalid character reference: `" ++ toString code ++ "` is not a valid codepoint"

end RunConditions.Xml
