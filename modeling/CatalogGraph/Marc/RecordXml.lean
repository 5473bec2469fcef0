import CatalogGraph.Marc.Record
import CatalogGraph.Xml.Written

/-!
# Records as MARCXML

A collection holds its records in their order, a record its fields, and a data field its subfields, without
anything between them.  The elements are in no namespace, in one that is declared as the default of the root,
or in one that has a label, which then stands before every name.
-/

namespace CatalogGraph.Marc

open CatalogGraph.Xml

/-- How the elements of a document are put into a namespace. -/
inductive NamespaceForm
  | bare
  | default (iri : String)
  | labelled (label iri : String)
  deriving DecidableEq, Repr

namespace NamespaceForm

/-- What stands before the name of every element. -/
def label : NamespaceForm → List Char
  | labelled label _ => label.toList ++ [':']
  | _ => []

/-- Whether the label, if there is one, is made of letters and digits. -/
def hasPlainLabel : NamespaceForm → Bool
  | labelled label _ => isPlainName label
  | _ => true

/-- The attributes of the root. -/
def declaration : NamespaceForm → List (String × String)
  | bare => []
  | default iri => [("xmlns", iri)]
  | labelled label iri => [("xmlns:" ++ label, iri)]

end NamespaceForm

/-! ## Subfields and fields -/

/-- The attributes of a subfield. -/
def Subfield.attributes (s : Subfield) : List (String × String) := [("code", String.singleton s.code)]

/-- A subfield as an element. -/
def Subfield.toXml (label : List Char) (s : Subfield) : List Char :=
  elementText label "subfield" s.attributes (escape s.value.toList)

/-- The attributes of a control field. -/
def ControlField.attributes (f : ControlField) : List (String × String) := [("tag", f.tag)]

/-- A control field as an element. -/
def ControlField.toXml (label : List Char) (f : ControlField) : List Char :=
  elementText label "controlfield" f.attributes (escape f.value.toList)

/-- The attributes of a data field. -/
def DataField.attributes (f : DataField) : List (String × String) :=
  [("tag", f.tag), ("ind1", String.singleton f.indicator1), ("ind2", String.singleton f.indicator2)]

/-- A data field as an element. -/
def DataField.toXml (label : List Char) (f : DataField) : List Char :=
  elementText label "datafield" f.attributes (f.subfields.flatMap (Subfield.toXml label))

/-- A field as an element. -/
def Field.toXml (label : List Char) : Field → List Char
  | .control f => f.toXml label
  | .data f => f.toXml label

/-! ## Records -/

/-- A record as an element. -/
def Record.toXml (label : List Char) (r : Record) : List Char :=
  elementText label "record" [] (r.fields.flatMap (Field.toXml label))

/-- The collection of some records. -/
def collectionXml (form : NamespaceForm) (records : List Record) : String :=
  String.ofList (elementText form.label "collection" form.declaration
    (records.flatMap (Record.toXml form.label)))

end CatalogGraph.Marc
