import CatalogGraph.Vocabulary

/-!
# Statements

A statement has a subject, a predicate and an object.  Subject and predicate are IRIs; an object is an IRI
or a literal, and a literal is plain, in a language, or of a datatype.  A statement is displayed as one
line: IRIs and language tags as they are, and literals in quotes.
-/

namespace CatalogGraph.Rdf

/-- The object of a statement. -/
inductive Object
  | iri (text : String)
  | plain (value : String)
  | tagged (value language : String)
  | typed (value datatype : String)
  deriving DecidableEq, Repr

namespace Object

/-- Whether the object is a literal. -/
def isLiteral : Object → Bool
  | iri _ => false
  | _ => true

/-- The IRI, if the object is one. -/
def iri? : Object → Option String
  | iri text => some text
  | _ => none

theorem iri?_eq_some_iff {o : Object} {text : String} : o.iri? = some text ↔ o = .iri text := by
  cases o with
  | iri text' => rw [iri?, Option.some.injEq, iri.injEq]
  | plain value => simp [iri?]
  | tagged value language => simp [iri?]
  | typed value datatype => simp [iri?]

/-- A literal, in a language if one is given. -/
def literal (value : String) (language : Option String) : Object :=
  match language with
  | some l => tagged value l
  | none => plain value

end Object

/-- A subject, a predicate and an object. -/
structure Statement where
  subject : String
  predicate : String
  object : Object
  deriving DecidableEq, Repr

/-! ## Display -/

/-- A hexadecimal digit in capitals. -/
def hexCapital (n : Nat) : Char :=
  if n < 10 then Char.ofNat ('0'.toNat + n) else Char.ofNat ('A'.toNat + n - 10)

/-- A code point below 2¹⁶ in four hexadecimal digits. -/
def fourDigits (n : Nat) : List Char :=
  [hexCapital (n / 4096 % 16), hexCapital (n / 256 % 16), hexCapital (n / 16 % 16), hexCapital (n % 16)]

/-- A character as it is written in a quoted text. -/
def escapeChar (c : Char) : List Char :=
  if c == '\t' then ['\\', 't']
  else if c.toNat == 0x08 then ['\\', 'b']
  else if c == '\n' then ['\\', 'n']
  else if c == '\r' then ['\\', 'r']
  else if c.toNat == 0x0C then ['\\', 'f']
  else if c == '"' then ['\\', '"']
  else if c == '\\' then ['\\', '\\']
  else if c.toNat < 0x20 || c.toNat == 0x7F || c.toNat == 0xFFFE || c.toNat == 0xFFFF then
    '\\' :: 'u' :: fourDigits c.toNat
  else [c]

/-- The characters of a text in quotes. -/
def quotedChars (cs : List Char) : List Char :=
  '"' :: cs.flatMap escapeChar ++ ['"']

/-- A text in quotes. -/
def quoted (s : String) : String :=
  String.ofList (quotedChars s.toList)

/-- An IRI between angle brackets. -/
def bracketed (iri : String) : String := "<" ++ iri ++ ">"

namespace Object

/-- The object as it is displayed.  A literal of the datatype of plain texts is displayed as one. -/
def display : Object → String
  | iri text => bracketed text
  | plain value => quoted value
  | tagged value language => quoted value ++ "@" ++ language
  | typed value datatype =>
    if datatype = Vocabulary.xsd "string" then quoted value
    else quoted value ++ "^^" ++ bracketed datatype

end Object

/-- The statement as one line, without the line end. -/
def Statement.display (s : Statement) : String :=
  bracketed s.subject ++ " " ++ bracketed s.predicate ++ " " ++ s.object.display ++ " ."

end CatalogGraph.Rdf
