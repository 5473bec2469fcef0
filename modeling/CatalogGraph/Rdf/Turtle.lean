import CatalogGraph.Rdf.Layout

/-!
# Turtle

Statements that follow each other share their subject, or their subject and predicate, where these are
the same.  No labels for namespaces are used, and `rdf:type` is written as `a`.  Numbers and truth values
in their usual forms are written without quotes.
-/

namespace CatalogGraph.Rdf

/-- Characters without a sign at the start. -/
def dropSign : List Char → List Char
  | '+' :: cs => cs
  | '-' :: cs => cs
  | cs => cs

/-- Whether characters are digits, at least one. -/
def isDigits (cs : List Char) : Bool :=
  !cs.isEmpty && cs.all Char.isDigit

/-- Whether a text is written as a bare integer: an optional sign and digits. -/
def isBareInteger (cs : List Char) : Bool :=
  isDigits (dropSign cs)

/-- Whether a text is written as a bare decimal: an optional sign, perhaps digits, a full stop and
digits. -/
def isBareDecimal (cs : List Char) : Bool :=
  match (dropSign cs).dropWhile Char.isDigit with
  | '.' :: fraction => isDigits fraction
  | _ => false

/-- Whether a text is an exponent: the letter, an optional sign and digits. -/
def isExponent : List Char → Bool
  | 'e' :: cs => isDigits (dropSign cs)
  | 'E' :: cs => isDigits (dropSign cs)
  | _ => false

/-- Whether a text is written as a bare double: an optional sign, digits with or without a full stop
among them, and an exponent. -/
def isBareDouble (cs : List Char) : Bool :=
  let whole := (dropSign cs).takeWhile Char.isDigit
  match (dropSign cs).drop whole.length with
  | '.' :: rest =>
    let fraction := rest.takeWhile Char.isDigit
    (!whole.isEmpty || !fraction.isEmpty) && isExponent (rest.drop fraction.length)
  | rest => !whole.isEmpty && isExponent rest

/-- Whether a literal of a datatype is written without quotes. -/
def isBare (value datatype : String) : Bool :=
  if datatype = Vocabulary.xsd "boolean" then value == "true" || value == "false"
  else if datatype = Vocabulary.xsd "integer" then isBareInteger value.toList
  else if datatype = Vocabulary.xsd "decimal" then isBareDecimal value.toList
  else if datatype = Vocabulary.xsd "double" then isBareDouble value.toList
  else false

namespace Turtle

/-- An object in Turtle. -/
def object : Object → String
  | .typed value datatype =>
    if isBare value datatype then value else Object.display (.typed value datatype)
  | o => o.display

/-- A predicate in Turtle. -/
def predicate (iri : String) : String :=
  if iri = Vocabulary.rdfType then "a" else bracketed iri

/-- What stands before the object of a statement: as much as the last subject and predicate do not
say. -/
def opening (last : Option (String × String)) (s : Statement) : String :=
  match last with
  | none => bracketed s.subject ++ " " ++ predicate s.predicate ++ " "
  | some (subject, lastPredicate) =>
    if s.subject = subject then
      if s.predicate = lastPredicate then " , " else " ;\n\t" ++ predicate s.predicate ++ " "
    else " .\n" ++ bracketed s.subject ++ " " ++ predicate s.predicate ++ " "

end Turtle

/-- The layout of Turtle.  The subject and the predicate of the last statement are remembered. -/
def turtle : Layout (Option (String × String)) where
  start := none
  add last s :=
    .ok (Turtle.opening last s ++ Turtle.object s.object, some (s.subject, s.predicate))
  finish
    | none => ""
    | some _ => " .\n"

end CatalogGraph.Rdf
