import RunConditions.Xml.Reference
import RunConditions.Xml.Token

/-!
# Attributes of a tag

The attributes are read from left to right until the wanted one is found, so
a fault behind it is not noticed. A key is one character and all that follow it
up to `=` or a space. It must differ from every key before it, and its value
stands between two quotes of one sort.
-/

set_option autoImplicit false

namespace RunConditions.Xml
open Text

def readValue (total : Nat) (cs : List Char) :
    Except AttributeFault (List Char × List Char) :=
  match cs.dropWhile isSpace with
  | [] => .error (.expectedValue total)
  | quote :: rest =>
    if quote = '"' ∨ quote = '\'' then
      match breakOn [quote] rest with
      | some found => .ok found
      | none => .error (.unclosedQuote total quote)
    else .error (.unquotedValue (total - byteLength (quote :: rest)))

def afterEquals (total : Nat) (cs : List Char) : Except AttributeFault (List Char) :=
  match cs.dropWhile isSpace with
  | '=' :: rest => .ok rest
  | other => .error (.expectedEquals (total - byteLength other))

def isKeyChar (c : Char) : Bool :=
  !(c == '=' || isSpace c)

theorem readValue_shorter {total : Nat} {cs value rest : List Char}
    (h : readValue total cs = .ok (value, rest)) : rest.length ≤ cs.length := by
  unfold readValue at h
  have hd := length_dropWhile_le isSpace cs
  split at h
  · simp at h
  · rename_i quote tail hq
    split at h
    · split at h
      · rename_i found hb
        simp only [Except.ok.injEq] at h
        subst h
        have := breakOn_shorter hb
        simp_all; omega
      · simp at h
    · simp at h

theorem afterEquals_shorter {total : Nat} {cs rest : List Char}
    (h : afterEquals total cs = .ok rest) : rest.length < cs.length + 1 := by
  unfold afterEquals at h
  have hd := length_dropWhile_le isSpace cs
  split at h
  · rename_i hq
    simp_all; omega
  · simp at h

/-- The raw value of the wanted attribute, among those still to be read. The
earlier keys come with their places. -/
def findAttribute (total : Nat) (wanted : List Char) (earlier : List (List Char × Nat))
    (cs : List Char) : Except AttributeFault (Option (List Char)) :=
  match _ : cs.dropWhile isSpace with
  | [] => .ok none
  | first :: tail =>
    let key := first :: tail.takeWhile isKeyChar
    let place := total - byteLength (first :: tail)
    match _ : afterEquals total (tail.dropWhile isKeyChar) with
    | .error fault => .error fault
    | .ok behind =>
      match earlier.lookup key with
      | some previous => .error (.duplicated place previous)
      | none =>
        match _ : readValue total behind with
        | .error fault => .error fault
        | .ok (value, rest) =>
          if key = wanted then .ok (some value)
          else findAttribute total wanted ((key, place) :: earlier) rest
termination_by cs.length
decreasing_by
  have h1 := readValue_shorter (by assumption)
  have h2 := afterEquals_shorter (by assumption)
  have h3 := length_dropWhile_le isKeyChar tail
  have h4 := length_dropWhile_le isSpace cs
  simp_all; omega

def Tag.attribute? (t : Tag) (name : String) : Except AttributeFault (Option (List Char)) :=
  findAttribute (byteLength t.content) name.toList [] (t.content.dropWhile (!isSpace ·))

end RunConditions.Xml
