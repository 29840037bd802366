import ProbeEngine.Unicode.Classes

/-!
# Identifiers

The names that an expression may use for variables and constructors: those of
the host's grammar that are no reserved words.
-/

namespace ProbeEngine.Identifier

/-- A character that starts an identifier. -/
def isStart (c : Char) : Bool := Unicode.isIdentifierStart c || c == '$' || c == '_'

/-- A character that continues an identifier; the two joiners may. -/
def isContinue (c : Char) : Bool :=
  Unicode.isIdentifierContinue c || c == '$' || c.toNat == 0x200C || c.toNat == 0x200D

/-- Whether characters spell an identifier. -/
def isIdentifierChars : List Char → Bool
  | [] => false
  | c :: cs => isStart c && cs.all isContinue

/-- Whether a text is an identifier. -/
def isIdentifier (name : String) : Bool := isIdentifierChars name.toList

/-- The words that are no identifiers in the host's strict mode. -/
def reservedWords : List String :=
  ["arguments", "await", "break", "case", "catch", "class", "const", "continue", "debugger",
   "default", "delete", "do", "else", "enum", "eval", "export", "extends", "false", "finally",
   "for", "function", "if", "implements", "import", "in", "instanceof", "interface", "let",
   "new", "null", "package", "private", "protected", "public", "return", "static", "super",
   "switch", "this", "throw", "true", "try", "typeof", "var", "void", "while", "with", "yield"]

/-- Whether a text is a reserved word. -/
def isReserved (name : String) : Bool := reservedWords.contains name

end ProbeEngine.Identifier
