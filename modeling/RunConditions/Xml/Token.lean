import RunConditions.Text.Break
import RunConditions.Xml.Fault

/-!
# Markup of XML documents

A document is read as a row of tokens from left to right. Text, references,
comments, instructions, declarations and CDATA are passed over once their ends
are found. What is left are the tags, as opening, empty and closing ones. A
fault of the markup ends the row, so that everything before it is still there.
Whether tags nest is not decided here.
-/

set_option autoImplicit false

namespace RunConditions.Xml
open Text

def isSpace (c : Char) : Bool :=
  c == ' ' || c == '\t' || c == '\r' || c == '\n'

/-- What stands between the brackets of an opening or empty tag. The name runs
to the first space, and the attributes are left unread. -/
structure Tag where
  content : List Char
  deriving DecidableEq, Repr

def Tag.name (t : Tag) : String :=
  String.ofList (t.content.takeWhile (!isSpace ·))

inductive Token where
  | opening (tag : Tag)
  | empty (tag : Tag)
  | closing (name : String)
  deriving DecidableEq, Repr

/-- The content of a tag and what follows it. A `>` between quotes, of which
either sort may stand anywhere in a tag, does not end it. -/
def breakTag : Option Char → List Char → Option (List Char × List Char)
  | _, [] => none
  | none, '>' :: rest => some ([], rest)
  | none, c :: rest =>
    (breakTag (if c = '"' ∨ c = '\'' then some c else none) rest).map
      fun (content, after) => (c :: content, after)
  | some quote, c :: rest =>
    (breakTag (if c = quote then none else some quote) rest).map
      fun (content, after) => (c :: content, after)

def bracketDepth (depth : Nat) (c : Char) : Nat :=
  if c = '<' then depth + 1 else if c = '>' then depth - 1 else depth

/-- What stands before the `>` that balances the brackets inside a declaration,
and what follows it. -/
def breakDoctype : Nat → List Char → Option (List Char × List Char)
  | _, [] => none
  | 0, '>' :: rest => some ([], rest)
  | depth, c :: rest =>
    (breakDoctype (bracketDepth depth c) rest).map fun (content, after) => (c :: content, after)

theorem breakTag_shorter {quote : Option Char} {cs content after : List Char}
    (h : breakTag quote cs = some (content, after)) : after.length < cs.length := by
  fun_induction breakTag quote cs generalizing content with
  | case1 => simp at h
  | case2 rest => simp_all
  | case3 c rest hc ih =>
    obtain ⟨⟨b, a⟩, hb, hp⟩ := Option.map_eq_some_iff.1 h
    simp only [Prod.mk.injEq] at hp
    have := ih (hp.2 ▸ hb)
    simp; omega
  | case4 quote c rest ih =>
    obtain ⟨⟨b, a⟩, hb, hp⟩ := Option.map_eq_some_iff.1 h
    simp only [Prod.mk.injEq] at hp
    have := ih (hp.2 ▸ hb)
    simp; omega

theorem breakDoctype_shorter {depth : Nat} {cs content after : List Char}
    (h : breakDoctype depth cs = some (content, after)) : after.length < cs.length := by
  fun_induction breakDoctype depth cs generalizing content with
  | case1 => simp at h
  | case2 rest => simp_all
  | case3 depth c rest hc ih =>
    obtain ⟨⟨b, a⟩, hb, hp⟩ := Option.map_eq_some_iff.1 h
    simp only [Prod.mk.injEq] at hp
    have := ih (hp.2 ▸ hb)
    simp; omega

def skipDoctype (cs : List Char) : Except Fault (List Char) :=
  if (cs.take 6).map Char.toUpper = ['O', 'C', 'T', 'Y', 'P', 'E'] then
    match breakDoctype 0 (cs.drop 6) with
    | none => .error .unclosedDoctype
    | some (content, after) =>
      if content.all isSpace then .error .namelessDoctype else .ok after
  else .error .unclosedDoctype

/-- A comment, a CDATA section or a declaration, from behind `<!`. A comment
needs two dashes of its own at both ends. -/
def skipDeclaration : List Char → Except Fault (List Char)
  | '[' :: rest =>
    if ['C', 'D', 'A', 'T', 'A', '['].isPrefixOf rest then
      match breakOn [']', ']', '>'] (rest.drop 6) with
      | some (_, after) => .ok after
      | none => .error .unclosedCData
    else .error .unclosedCData
  | '-' :: '-' :: rest =>
    match breakOn ['-', '-', '>'] rest with
    | some (_, after) => .ok after
    | none => .error .unclosedComment
  | '-' :: _ => .error .unclosedComment
  | 'D' :: rest | 'd' :: rest => skipDoctype rest
  | _ => .error .unknownMarkup

/-- An instruction, from behind `<?`. It ends at the first `?>`, and one that
is only a question mark does not end. -/
def skipInstruction : List Char → Except Fault (List Char)
  | '>' :: _ => .error .unclosedInstruction
  | cs =>
    match breakOn ['?', '>'] cs with
    | some (_, after) => .ok after
    | none => .error .unclosedInstruction

def skipReference (cs : List Char) : Except Fault (List Char) :=
  match cs.dropWhile fun c => !(c == ';' || c == '&' || c == '<') with
  | ';' :: rest => .ok rest
  | _ => .error .unclosedReference

/-- The name of a closing tag from its content. Spaces at the end do not
count, unless there is nothing else. -/
def closingName (content : List Char) : String :=
  if content.all isSpace then String.ofList content
  else String.ofList ((content.reverse.dropWhile isSpace).reverse)

def tagOfContent (content : List Char) : Token :=
  if content.getLast? = some '/' then .empty ⟨content.dropLast⟩ else .opening ⟨content⟩

def readTag : List Char → Except Fault (Token × List Char)
  | '/' :: cs =>
    match breakTag none cs with
    | some (content, after) => .ok (.closing (closingName content), after)
    | none => .error .unclosedTag
  | cs =>
    match breakTag none cs with
    | some (content, after) => .ok (tagOfContent content, after)
    | none => .error .unclosedTag

def step : List Char → Except Fault (Option Token × List Char)
  | [] => .ok (none, [])
  | '<' :: '!' :: rest => (skipDeclaration rest).map fun after => (none, after)
  | '<' :: '?' :: rest => (skipInstruction rest).map fun after => (none, after)
  | '<' :: rest => (readTag rest).map fun (token, after) => (some token, after)
  | '&' :: rest => (skipReference rest).map fun after => (none, after)
  | _ :: rest => .ok (none, rest)

end RunConditions.Xml
