import CatalogGraph.Rdf.Serialization

/-!
# Statements as they are given

Whoever gives a literal may give it a language and a datatype at once.  The language counts then: the
literal is displayed and written as one in that language, and nobody looks at the datatype.
-/

namespace CatalogGraph.Rdf

/-- An object as it is given. -/
inductive GivenObject
  | iri (text : String)
  | literal (value : String) (language datatype : Option String)
  deriving DecidableEq, Repr

namespace GivenObject

/-- The object that is written. -/
def object : GivenObject → Object
  | iri text => .iri text
  | literal value (some language) _ => .tagged value language
  | literal value none (some datatype) => .typed value datatype
  | literal value none none => .plain value

/-- The object as it is displayed.  A literal of the datatype of plain texts is displayed as one. -/
def display : GivenObject → String
  | iri text => bracketed text
  | literal value (some language) _ => quoted value ++ "@" ++ language
  | literal value none (some datatype) =>
    if datatype = Vocabulary.xsd "string" then quoted value
    else quoted value ++ "^^" ++ bracketed datatype
  | literal value none none => quoted value

end GivenObject

/-- A statement as it is given. -/
structure GivenStatement where
  subject : String
  predicate : String
  object : GivenObject
  deriving DecidableEq, Repr

namespace GivenStatement

/-- The statement that is written. -/
def statement (s : GivenStatement) : Statement := ⟨s.subject, s.predicate, s.object.object⟩

/-- The statement as one line, without the line end. -/
def display (s : GivenStatement) : String :=
  bracketed s.subject ++ " " ++ bracketed s.predicate ++ " " ++ s.object.display ++ " ."

end GivenStatement

/-- The document of some statements as they are given. -/
def serializeGiven (format : Format) (statements : List GivenStatement) : Outcome String :=
  serialize format (statements.map GivenStatement.statement)

end CatalogGraph.Rdf
