import CatalogGraph.Rdf.Layout
import CatalogGraph.Text.XmlName

/-!
# RDF/XML

Statements that follow each other share an element while the subject stays the same.  If the first of
them gives the subject a class, the element is named after the class; otherwise it is a description.
The name of an element is the end of its IRI that can be an XML name, in the namespace of what is before
it.
-/

namespace CatalogGraph.Rdf

namespace RdfXml

/-- The namespace of RDF. -/
def rdfNamespace : String := "http://www.w3.org/1999/02/22-rdf-syntax-ns#"

/-- The namespace that only declares namespaces. -/
def xmlnsNamespace : String := "http://www.w3.org/2000/xmlns/"

/-- The names of the format itself, which neither a property nor a class may have. -/
def reservedNames : List String :=
  ["Description", "li", "RDF", "ID", "about", "parseType", "resource", "nodeID", "datatype"]

/-- Whether an IRI is a name of the format itself. -/
def isReserved (iri : String) : Bool :=
  reservedNames.any fun name => iri == rdfNamespace ++ name

/-- A character as it is written in text and attributes. -/
def escapeChar (c : Char) : List Char :=
  if c == '<' then ['&', 'l', 't', ';']
  else if c == '>' then ['&', 'g', 't', ';']
  else if c == '&' then ['&', 'a', 'm', 'p', ';']
  else if c == '\x27' then ['&', 'a', 'p', 'o', 's', ';']
  else if c == '"' then ['&', 'q', 'u', 'o', 't', ';']
  else [c]

/-- A text as it is written in text and attributes. -/
def escape (s : String) : String :=
  String.ofList (s.toList.flatMap escapeChar)

/-- An attribute after a blank. -/
def attr (name value : String) : String :=
  " " ++ name ++ "=\"" ++ escape value ++ "\""

/-- Splits an IRI before the first character that can start a name after the last one that cannot stand
in a name or is a colon.  The second part is empty if there is no such character. -/
def splitIri (iri : String) : String × String :=
  let ending := (iri.toList.reverse.takeWhile fun c => Text.isXmlNameChar c && c != ':').reverse
  let name := ending.dropWhile fun c => !Text.isXmlNameStart c
  (String.ofList (iri.toList.take (iri.length - name.length)), String.ofList name)

/-- The name of the element for an IRI, and the attribute that declares its namespace. -/
def elementName (iri : String) : String × String :=
  let (space, name) := splitIri iri
  if space = rdfNamespace then ("rdf:" ++ name, "")
  else if space = xmlnsNamespace then ("xmlns:" ++ name, "")
  else if name.isEmpty then ("oxprefix:", attr "xmlns:oxprefix" space)
  else (name, attr "xmlns" space)

/-- The property element of a statement. -/
def property (s : Statement) : String :=
  let (name, space) := elementName s.predicate
  let withText (attrs value : String) : String :=
    "\n\t\t<" ++ name ++ space ++ attrs ++ ">" ++ escape value ++ "</" ++ name ++ ">"
  match s.object with
  | .iri text => "\n\t\t<" ++ name ++ space ++ attr "rdf:resource" text ++ "/>"
  | .plain value => withText "" value
  | .tagged value language => withText (attr "xml:lang" language) value
  | .typed value datatype =>
    if datatype = Vocabulary.xsd "string" then withText "" value
    else withText (attr "rdf:datatype" datatype) value

/-- The class that a statement gives its subject, if an element can be named after it. -/
def classOf? (s : Statement) : Option String :=
  if s.predicate = Vocabulary.rdfType then
    match s.object with
    | .iri text => if isReserved text then none else some text
    | _ => none
  else none

/-- What a statement adds inside the element of its subject. -/
def addProperty (s : Statement) : Except Unwritable String :=
  if isReserved s.predicate then .error .reservedPredicate else .ok (property s)

/-- The element that is open: its subject and its name. -/
structure Node where
  subject : String
  name : String
  deriving DecidableEq

/-- The opening of the element for the subject of a statement, with the statement if the name of the
element does not say it, and the name of the element. -/
def openNode (s : Statement) : Except Unwritable (String × Node) :=
  match classOf? s with
  | some iri =>
    let (name, space) := elementName iri
    .ok ("\n\t<" ++ name ++ space ++ attr "rdf:about" s.subject ++ ">", ⟨s.subject, name⟩)
  | none => do
    let text ← addProperty s
    .ok ("\n\t<rdf:Description" ++ attr "rdf:about" s.subject ++ ">" ++ text,
      ⟨s.subject, "rdf:Description"⟩)

/-- The end of an element. -/
def closeNode (node : Node) : String := "\n\t</" ++ node.name ++ ">"

/-- The start of a document. -/
def header : String :=
  "<?xml version=\"1.0\" encoding=\"UTF-8\"?>\n<rdf:RDF xmlns:rdf=\"" ++ rdfNamespace ++
  "\" xmlns:its=\"http://www.w3.org/2005/11/its\">"

/-- The end of a document. -/
def footer : String := "\n</rdf:RDF>"

end RdfXml

open RdfXml in
/-- The layout of RDF/XML. -/
def rdfXml : Layout (Option RdfXml.Node) where
  start := none
  add last s :=
    match last with
    | none => do
      let (text, node) ← openNode s
      .ok (header ++ text, some node)
    | some node =>
      if s.subject = node.subject then do
        let text ← addProperty s
        .ok (text, some node)
      else do
        let (text, next) ← openNode s
        .ok (closeNode node ++ text, some next)
  finish
    | none => header ++ footer
    | some node => closeNode node ++ footer

end CatalogGraph.Rdf
