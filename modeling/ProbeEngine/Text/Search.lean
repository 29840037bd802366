/-!
# Texts within texts

Whether a text starts with, ends with or holds another one.
-/

namespace ProbeEngine.Text

/-- Whether a text starts with another one. -/
def startsWith (s start : String) : Bool := start.toList.isPrefixOf s.toList

/-- Whether a text ends with another one. -/
def endsWith (s ending : String) : Bool := ending.toList.isSuffixOf s.toList

/-- Whether a list of characters holds another one. -/
def holdsChars (part : List Char) : List Char → Bool
  | [] => part.isEmpty
  | c :: cs => part.isPrefixOf (c :: cs) || holdsChars part cs

/-- Whether a text holds another one. -/
def holds (s part : String) : Bool := holdsChars part.toList s.toList

/-- The first characters of a text, at most so many. -/
def firstChars (n : Nat) (s : String) : String := String.ofList (s.toList.take n)

/-- The number of characters of a text. -/
def charCount (s : String) : Nat := s.toList.length

/-- Some texts with another one between them. -/
def joinWith (separator : String) : List String → String
  | [] => ""
  | [s] => s
  | s :: ss => s ++ separator ++ joinWith separator ss

end ProbeEngine.Text
