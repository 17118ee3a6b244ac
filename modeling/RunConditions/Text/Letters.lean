/-!
# Letter case

Column names are compared without regard to the case of the letters A to Z.
Names of log levels are compared by their capital form over all of Unicode,
where a few letters outside A to Z have capitals inside it.
-/

set_option autoImplicit false

namespace RunConditions.Text

/-- Equality up to the case of the letters A to Z, and of those only. -/
def sameLetters (a b : String) : Bool :=
  a.toList.map Char.toLower == b.toList.map Char.toLower

/-- The letters beyond ASCII whose capital form is ASCII. -/
def foreignCapitals : List (Char × List Char) :=
  [('ß', ['S', 'S']), ('ı', ['I']), ('ſ', ['S']), ('ﬀ', ['F', 'F']), ('ﬁ', ['F', 'I']),
   ('ﬂ', ['F', 'L']), ('ﬃ', ['F', 'F', 'I']), ('ﬄ', ['F', 'F', 'L']), ('ﬅ', ['S', 'T']),
   ('ﬆ', ['S', 'T'])]

def capital? (c : Char) : Option (List Char) :=
  if c.toNat < 128 then some [c.toUpper] else foreignCapitals.lookup c

def capitals? (cs : List Char) : Option (List Char) :=
  (cs.mapM capital?).map List.flatten

end RunConditions.Text
