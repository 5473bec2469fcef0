import CatalogGraph.Fault
import CatalogGraph.Marc.NamespaceFree
import CatalogGraph.Marc.Record
import CatalogGraph.Xml.Element

/-!
# MARCXML

A collection holds records, a record holds control fields and data fields, and a data field holds
subfields.  Unknown elements and attributes do not count, and neither does the name of the root element.
Elements of one name have to follow each other without anything between them, in whatever order the names
come.  All control fields of a record stand before its data fields.
-/

namespace CatalogGraph.Marc

open CatalogGraph.Xml

/-! ## Elements by name -/

/-- Whether an unknown element can be passed over.  Only the text at its start is looked at. -/
def isSkippable : List Node → Bool
  | .text none :: _ => false
  | _ => true

/-- Whether the elements with some names come in runs: elements of one name follow each other, and there
is no text next after one of them.  `seen` are the names of earlier runs and `run` is the full name of
the elements of the run that is going on. -/
def inRuns (names seen : List (List Char)) (run : Option (List Char)) : List Node → Bool
  | [] => true
  | .text content :: rest => content.isSome && run.isNone && inRuns names seen none rest
  | .element name _ content :: rest =>
    if run = some name then inRuns names seen run rest
    else if names.contains (localName name) then
      !seen.contains (localName name) &&
      inRuns names (localName name :: seen) (some name) rest
    else isSkippable content && inRuns names seen none rest

/-- The elements of a name: their attributes and content. -/
def elementsOf (name : List Char) (content : List Node) :
    List (List Char × List Node) :=
  content.filterMap fun node => match node with
    | .element n attrs inner => if localName n = name then some (attrs, inner) else none
    | .text _ => none

/-- The values of some attributes, each of which may be there once. -/
def attrValues? (names : List (List Char)) (attrs : List Char) :
    Option (List (Option String)) := do
  let attrs ← attrs? attrs
  let named := attrs.filter fun a => !isNamespaceName a.1
  names.mapM fun name =>
    match named.filter fun a => localName a.1 = name with
    | [] => some none
    | [a] => (resolve? a.2).map fun cs => some (String.ofList cs)
    | _ => none

/-- The text of an element without other content. -/
def textOnly? : List Node → Option String
  | [] => some ""
  | [.text content] => content
  | _ => none

/-! ## Fields -/

/-- A subfield as it is given; its code may have any length. -/
structure GivenSubfield where
  code : String
  value : String
  deriving DecidableEq, Repr

/-- A data field as it is given; its indicators may have any length. -/
structure GivenField where
  tag : String
  indicator1 : String
  indicator2 : String
  subfields : List GivenSubfield
  deriving DecidableEq, Repr

/-- A record as it is given. -/
structure GivenRecord where
  controls : List ControlField
  fields : List GivenField
  deriving DecidableEq, Repr

/-- Reads a control field. -/
def controlField? (attrs : List Char) (content : List Node) : Option ControlField := do
  match ← attrValues? ["tag".toList] attrs with
  | [some tag] => some ⟨tag, ← textOnly? content⟩
  | _ => none

/-- Reads a subfield. -/
def givenSubfield? (attrs : List Char) (content : List Node) : Option GivenSubfield := do
  match ← attrValues? ["code".toList] attrs with
  | [some code] => some ⟨code, ← textOnly? content⟩
  | _ => none

/-- Reads a data field. -/
def givenField? (attrs : List Char) (content : List Node) : Option GivenField := do
  match ← attrValues? ["tag".toList, "ind1".toList, "ind2".toList] attrs with
  | [some tag, i1, i2] =>
    if inRuns ["subfield".toList] [] none content then
      let subfields ← (elementsOf "subfield".toList content).mapM fun e => givenSubfield? e.1 e.2
      some ⟨tag, i1.getD "", i2.getD "", subfields⟩
    else none
  | _ => none

/-- Reads a record. -/
def givenRecord? (attrs : List Char) (content : List Node) : Option GivenRecord := do
  let _ ← attrs? attrs
  if inRuns ["controlfield".toList, "datafield".toList] [] none content then
    let controls ← (elementsOf "controlfield".toList content).mapM fun e => controlField? e.1 e.2
    let fields ← (elementsOf "datafield".toList content).mapM fun e => givenField? e.1 e.2
    some ⟨controls, fields⟩
  else none

/-- Reads a collection of records. -/
def givenRecords? (attrs : List Char) (content : List Node) : Option (List GivenRecord) := do
  let _ ← attrs? attrs
  if inRuns ["record".toList] [] none content then
    (elementsOf "record".toList content).mapM fun e => givenRecord? e.1 e.2
  else none

/-! ## Records -/

namespace GivenField

/-- The subfields with codes of one character: the first of what is given. -/
def coded (tag : String) : List GivenSubfield → Outcome (List Subfield)
  | [] => .ok []
  | s :: rest =>
    match s.code.toList with
    | [] => .error (Cause.unreadable (.subfieldWithoutCode tag))
    | code :: _ => (coded tag rest).map (⟨code, s.value⟩ :: ·)

/-- The field with indicators of one character: the first of what is given, or a blank. -/
def dataField (f : GivenField) : Outcome DataField :=
  (coded f.tag f.subfields).map fun subfields =>
    ⟨f.tag, f.indicator1.toList.head?.getD ' ', f.indicator2.toList.head?.getD ' ', subfields⟩

end GivenField

/-- The record that is given. -/
def GivenRecord.record (r : GivenRecord) : Outcome Record :=
  (r.fields.mapM GivenField.dataField).map fun fields =>
    .ofFields (r.controls.map .control ++ fields.map .data)

/-- The root element of a document without its namespaces, unless it cannot be read. -/
def rootOf? {α : Type} (decode? : List Char → List Node → Option α) (xml : String) : Option α :=
  match Xml.read? (withoutNamespaces xml.toList) with
  | some (.element _ attrs content) => decode? attrs content
  | _ => none

/-- Reads the record of a document whose root is a record. -/
def recordOfXml (xml : String) : Outcome Record :=
  match rootOf? givenRecord? xml with
  | some r => r.record
  | none => .error (Cause.unreadable .record)

/-- Reads the records of a document whose root is a collection. -/
def recordsOfXml (xml : String) : Outcome (List Record) :=
  match rootOf? givenRecords? xml with
  | some records => records.mapM GivenRecord.record
  | none => .error (Cause.unreadable .collection)

/-! ## Either kind of document -/

/-- The kind of a document. -/
inductive RootKind
  | collection
  | record
  deriving DecidableEq, Repr

/-- Whether a name in a tag may end before these characters. -/
def endsTagName : List Char → Bool
  | c :: _ => Text.isWhite c || c == '>' || c == '/'
  | [] => false

/-- The kind of document that a tag makes; the characters are those after its bracket. -/
def rootKindAt? (cs : List Char) : Option RootKind :=
  if (dropText? "collection".toList cs).any endsTagName then some .collection
  else if (dropText? "record".toList cs).any endsTagName then some .record
  else none

/-- The kind of a document: the first start tag of a collection or a record anywhere in its text. -/
def rootKind? : List Char → Option RootKind
  | [] => none
  | '<' :: cs => (rootKindAt? cs).or (rootKind? cs)
  | _ :: cs => rootKind? cs

/-- Reads the records of a document of either kind. -/
def readXml (xml : String) : Outcome (List Record) :=
  match rootKind? (withoutNamespaces xml.toList) with
  | some .collection => recordsOfXml xml
  | some .record => (recordOfXml xml).map fun r => [r]
  | none => .error (Cause.unreadable .noRecords)

end CatalogGraph.Marc
