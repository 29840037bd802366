/-!
# Quoted texts

A text between single quotes, in which a quote and a backslash each follow a
backslash. `decode` reads such a text off the front of a longer one; it takes
back exactly what `encode` wrote, whatever follows (`decode_encode_append`).
-/

namespace ProbeEngine.Text.Quoted

/-- The characters of a text with a backslash before each quote and backslash. -/
def escape : List Char → List Char
  | [] => []
  | c :: cs => if c = '\'' ∨ c = '\\' then '\\' :: c :: escape cs else c :: escape cs

/-- A text between quotes. -/
def encode (cs : List Char) : List Char := '\'' :: (escape cs ++ ['\''])

/-- Reads up to the closing quote: the text, and what follows the quote. -/
def unescape : List Char → Option (List Char × List Char)
  | [] => none
  | '\'' :: cs => some ([], cs)
  | '\\' :: '\'' :: cs => (unescape cs).map fun p => ('\'' :: p.1, p.2)
  | '\\' :: '\\' :: cs => (unescape cs).map fun p => ('\\' :: p.1, p.2)
  | c :: cs => if c = '\\' then none else (unescape cs).map fun p => (c :: p.1, p.2)

/-- Reads a quoted text: the text, and what follows it. -/
def decode : List Char → Option (List Char × List Char)
  | [] => none
  | c :: cs => if c = '\'' then unescape cs else none

/-- A string between quotes. -/
def quote (s : String) : String := String.ofList (encode s.toList)

/-! ## Reading back -/

theorem unescape_escape_append (cs rest : List Char) :
    unescape (escape cs ++ '\'' :: rest) = some (cs, rest) := by
  induction cs with
  | nil => simp [escape, unescape]
  | cons c cs ih =>
    by_cases h : c = '\''
    · simp [escape, h, unescape, ih]
    · by_cases h' : c = '\\'
      · simp [escape, h', unescape, ih]
      · simp [escape, h, h', unescape, ih]

theorem decode_encode_append (cs rest : List Char) :
    decode (encode cs ++ rest) = some (cs, rest) := by
  have := unescape_escape_append cs rest
  simpa [decode, encode] using this

end ProbeEngine.Text.Quoted
