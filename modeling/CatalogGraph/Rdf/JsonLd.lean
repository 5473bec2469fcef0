import CatalogGraph.Json.Quoted
import CatalogGraph.Rdf.Layout

/-!
# JSON-LD

An array of node objects in expanded form and without white space.  Statements that follow each other
share a node object while the subject stays the same and no predicate comes back that another one has
interrupted.
-/

namespace CatalogGraph.Rdf

namespace JsonLd

/-- A JSON object of members with string values. -/
def strings (members : List (String × String)) : String :=
  "\x7b" ++ ",".intercalate (members.map fun m => Json.quoted m.1 ++ ":" ++ Json.quoted m.2) ++ "\x7d"

/-- An object of a statement. -/
def object : Object → String
  | .iri text => strings [("@id", text)]
  | .plain value => strings [("@value", value)]
  | .tagged value language => strings [("@language", language), ("@value", value)]
  | .typed value datatype =>
    if datatype = Vocabulary.xsd "string" then strings [("@value", value)]
    else strings [("@type", datatype), ("@value", value)]

/-- The node object that is being written: its subject, the predicate whose array is open, and the
predicates whose arrays are closed. -/
structure Node where
  subject : String
  predicate : String
  closed : List String
  deriving DecidableEq

/-- The opening of a node object up to its first object. -/
def openNode (s : Statement) : String :=
  "\x7b" ++ Json.quoted "@id" ++ ":" ++ Json.quoted s.subject ++ "," ++ Json.quoted s.predicate ++ ":["

/-- What stands before the object of a statement, and the node object that is open then. -/
def opening (last : Option Node) (s : Statement) : String × Node :=
  match last with
  | none => ("[" ++ openNode s, ⟨s.subject, s.predicate, []⟩)
  | some node =>
    if s.subject = node.subject then
      if s.predicate = node.predicate then (",", node)
      else if s.predicate ∈ node.closed then
        ("]\x7d," ++ openNode s, ⟨s.subject, s.predicate, []⟩)
      else
        ("]," ++ Json.quoted s.predicate ++ ":[",
          ⟨node.subject, s.predicate, node.predicate :: node.closed⟩)
    else ("]\x7d," ++ openNode s, ⟨s.subject, s.predicate, []⟩)

end JsonLd

/-- The layout of JSON-LD. -/
def jsonLd : Layout (Option JsonLd.Node) where
  start := none
  add last s :=
    let (text, node) := JsonLd.opening last s
    .ok (text ++ JsonLd.object s.object, some node)
  finish
    | none => "[]"
    | some _ => "]\x7d]"

end CatalogGraph.Rdf
