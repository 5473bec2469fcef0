import CatalogGraph.Json.Numeral

/-!
# JSON tokens

A document is first taken apart into tokens: punctuation, strings and other scalars.  White space
between tokens does not count.
-/

namespace CatalogGraph.Json

/-- A token.  A string that stands for no text has none. -/
inductive Token
  | openArray
  | closeArray
  | openObject
  | closeObject
  | comma
  | colon
  | string (s : Option String)
  | scalar (value : Json)

/-- Whether a character is white space between tokens. -/
def isBlankChar (c : Char) : Bool :=
  c == ' ' || c == '\t' || c == '\n' || c == '\r'

/-- The token that one character makes. -/
def punctuation? : Char → Option Token
  | '[' => some .openArray
  | ']' => some .closeArray
  | '\x7b' => some .openObject
  | '\x7d' => some .closeObject
  | ',' => some .comma
  | ':' => some .colon
  | _ => none

/-- The names of values. -/
def names : List (List Char × Json) :=
  [("null".toList, .null), ("true".toList, .bool true), ("false".toList, .bool false)]

/-- The named value at the start of a text. -/
def readName? (cs : List Char) : Option (Json × List Char) :=
  names.findSome? fun n =>
    if n.1.isPrefixOf cs then some (n.2, cs.drop n.1.length) else none

/-- The scalar at the start of a text, strings apart. -/
def readScalar? (cs : List Char) : Option (Json × List Char) :=
  (readName? cs).or ((Numeral.read? cs).map fun p => (p.1.value, p.2))

/-- The token at the start of a text that does not start with white space, and what is after it. -/
def readToken? (c : Char) (rest : List Char) : Option (Token × List Char) :=
  if c == '"' then
    (readUnits? rest).map fun p => (.string ((unitsText? p.1).map String.ofList), p.2)
  else
    match punctuation? c with
    | some t => some (t, rest)
    | none => (readScalar? (c :: rest)).map fun p => (.scalar p.1, p.2)

/-- The tokens of a text.  Every round reads a character at least, so as many rounds as there are
characters are enough. -/
def tokensIn? : Nat → List Char → Option (List Token)
  | _, [] => some []
  | 0, _ :: _ => none
  | rounds + 1, c :: cs =>
    if isBlankChar c then tokensIn? rounds cs
    else do
      let (token, rest) ← readToken? c cs
      (token :: ·) <$> tokensIn? rounds rest

/-- The tokens of a text, if it consists of tokens. -/
def tokens? (cs : List Char) : Option (List Token) := tokensIn? cs.length cs

end CatalogGraph.Json
