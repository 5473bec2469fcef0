import CatalogGraph.Fault
import CatalogGraph.OrderedMap
import CatalogGraph.Text.Lowercase
import CatalogGraph.Text.Uppercase
import CatalogGraph.Text.White

/-!
# Vocabularies and terms

A mapping names a predicate or a class as `LABEL.localName` or as an absolute IRI.  A vocabulary binds
labels to namespaces; the case of ASCII letters in a label does not count, so labels are kept in lower
case.  Every vocabulary starts with the five core labels.
-/

namespace CatalogGraph

open Text

/-- A predicate or class as a mapping names it. -/
inductive Term
  /-- A name in the namespace of a label; the label is in lower case. -/
  | qualified (label name : String)
  /-- An IRI, written out. -/
  | iri (text : String)
  deriving DecidableEq, Repr

namespace Term

/-- Whether a list of characters has another one as a part. -/
def hasPart (part : List Char) : List Char → Bool
  | [] => part.isEmpty
  | c :: cs => part.isPrefixOf (c :: cs) || hasPart part cs

/-- Whether a character may stand in a label. -/
def isLabelChar (c : Char) : Bool :=
  c.isAlphanum || c == '_' || c == '-'

/-- The term that trimmed characters write.  Whatever holds `://` is an IRI; anything else is a label and
a name, parted by the first full stop. -/
def ofChars? (cs : List Char) : Option Term :=
  if hasPart [':', '/', '/'] cs then some (.iri (String.ofList cs))
  else
    let label := cs.takeWhile (· != '.')
    match cs.drop label.length with
    | '.' :: first :: name =>
      if label.isEmpty || !label.all isLabelChar then none
      else some (.qualified (String.ofList (label.map lowerAscii)) (String.ofList (first :: name)))
    | _ => none

/-- Reads a term; white space around it does not count. -/
def read (s : String) : Outcome Term :=
  match ofChars? (trimChars s.toList) with
  | some t => .ok t
  | none => .error (Cause.invalidTerm (trim s))

/-- The written form of a term, with the label in capitals. -/
def display : Term → String
  | qualified label name => uppercase label ++ "." ++ name
  | iri text => text

end Term

/-- A table of labels and the namespaces they stand for. -/
structure Vocabulary where
  bindings : OrderedMap String
  deriving DecidableEq

namespace Vocabulary

/-- The namespaces of RDF itself and of the core vocabularies. -/
def coreBindings : List (String × String) := [
  ("rdf", "http://www.w3.org/1999/02/22-rdf-syntax-ns#"),
  ("rdfs", "http://www.w3.org/2000/01/rdf-schema#"),
  ("xsd", "http://www.w3.org/2001/XMLSchema#"),
  ("dc", "http://purl.org/dc/terms/"),
  ("bibo", "http://purl.org/ontology/bibo/")]

/-- The namespaces of the catalogue that the mapping format was made for. -/
def catalogueBindings : List (String × String) := [
  ("duo", "http://data.deichman.no/duo#"),
  ("ontology", "http://placeholder.com/ontology#"),
  ("raw", "http://placeholder.com/raw#"),
  ("placeholder", "http://placeholder.com/"),
  ("lvont", "http://lexvo.org/ontology#"),
  ("itemsubfield", "http://placeholder.com/itemSubfieldCode/"),
  ("role", "http://data.deichman.no/role#"),
  ("migration", "http://migration.deichman.no/")]

/-- Binds a label to a namespace; a label that is bound already keeps its place. -/
def bind (v : Vocabulary) (label iri : String) : Vocabulary :=
  ⟨v.bindings.insert (lowercaseAscii label) iri⟩

/-- Binds several labels one after the other. -/
def bindAll (v : Vocabulary) (pairs : List (String × String)) : Vocabulary :=
  pairs.foldl (fun v p => v.bind p.1 p.2) v

/-- The labels and namespaces in the order in which the labels were first bound. -/
def toList (v : Vocabulary) : List (String × String) := v.bindings.entries

/-- The core vocabulary. -/
def core : Vocabulary := ⟨.ofList coreBindings⟩

/-- Adds the bindings of another vocabulary. -/
def extend (v other : Vocabulary) : Vocabulary := v.bindAll other.toList

/-- The core vocabulary and the labels of the catalogue. -/
def standard : Vocabulary := core.bindAll catalogueBindings

/-- The namespace of a label, whatever the case of its ASCII letters. -/
def namespace? (v : Vocabulary) (label : String) : Option String :=
  v.bindings.find? (lowercaseAscii label)

/-- The number of labels. -/
def size (v : Vocabulary) : Nat := v.bindings.size

/-- Whether two vocabularies bind the same labels to the same namespaces, in any order. -/
def agrees (v w : Vocabulary) : Bool :=
  v.size == w.size && v.toList.all fun p => w.bindings.find? p.1 == some p.2

/-- The IRI of a term. -/
def resolve (v : Vocabulary) : Term → Outcome String
  | .qualified label name =>
    match v.namespace? label with
    | some iri => .ok (iri ++ name)
    | none => .error (Cause.unknownVocabulary label)
  | .iri text => .ok text

/-- Fails as `resolve` does. -/
def check (v : Vocabulary) : Term → Outcome Unit
  | .qualified label _ =>
    if (v.namespace? label).isNone then .error (Cause.unknownVocabulary label) else .ok ()
  | .iri _ => .ok ()

/-- The IRI of `rdf:type`. -/
def rdfType : String := "http://www.w3.org/1999/02/22-rdf-syntax-ns#type"

/-- The IRI of a datatype of XML Schema. -/
def xsd (name : String) : String := "http://www.w3.org/2001/XMLSchema#" ++ name

end Vocabulary

end CatalogGraph
