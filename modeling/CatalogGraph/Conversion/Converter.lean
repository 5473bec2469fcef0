import CatalogGraph.Conversion.FieldStatements
import CatalogGraph.Conversion.SubjectUri
import CatalogGraph.Mapping.TermCheck

/-!
# Converting records

A converter is a mapping with a vocabulary that binds all its labels, and with the classes that every
record gets.  The statements about a record are the classes of the record and then, tag by tag in the
order of the record, what the rules for the tag say about the fields with it: rule by rule, and for each
rule field by field.
-/

namespace CatalogGraph.Conversion

open CatalogGraph.Mapping CatalogGraph.Marc CatalogGraph.Rdf

/-- What may be set for a conversion. -/
structure Settings where
  /-- The host of the URIs of records. -/
  host : String := "placeholder.com"
  /-- The classes of every record, as terms. -/
  recordTypes : List String := []
  deriving DecidableEq, Repr

/-- What is needed to convert records. -/
structure Converter where
  mapping : Spec
  vocabulary : Vocabulary
  host : String
  /-- The IRIs of the classes of every record. -/
  recordTypes : List String

/-- The IRIs of terms. -/
def resolveAll (v : Vocabulary) : List String → Outcome (List String)
  | [] => .ok []
  | text :: rest => do
    let term ← Term.read text
    let iri ← v.resolve term
    let iris ← resolveAll v rest
    .ok (iri :: iris)

namespace Converter

/-- A converter, if the vocabulary binds all labels. -/
def create (mapping : Spec) (vocabulary : Vocabulary) (settings : Settings) : Outcome Converter := do
  mapping.check vocabulary
  let recordTypes ← resolveAll vocabulary settings.recordTypes
  .ok ⟨mapping, vocabulary, settings.host, recordTypes⟩

/-- The URI of a record.  A record without an identifier has the one of an empty identifier. -/
def subjectOf (c : Converter) (r : Record) : String :=
  subjectUri c.host (r.controlNumber?.getD "")

/-- The classes of a record. -/
def typeStatements (c : Converter) (r : Record) : List Statement :=
  c.recordTypes.map (typeStatement (c.subjectOf r))

/-- What the mapping says about the fields of a record with a tag, block by block and for each block
field by field.  A tag without a block is passed over. -/
def tagAssertions (c : Converter) (r : Record) (tag : String) : Assertions :=
  if c.mapping.hasTag tag then
    .each (fun (rule : TagRule) =>
      .each (bodyAssertions c.vocabulary (c.subjectOf r) tag rule.body) (r.fieldsOf tag))
      (c.mapping.rulesFor tag)
  else .nothing

/-- What is said about a record: its classes, and then tag by tag what the mapping says. -/
def recordAssertions (c : Converter) (r : Record) : Assertions :=
  Assertions.andThen (.each .one (c.typeStatements r)) (.each (c.tagAssertions r) r.tags)

/-- The statements about a record.  A fault leaves none of them. -/
def convert (c : Converter) (r : Record) : Outcome (List Statement) :=
  (c.recordAssertions r).outcome

end Converter

end CatalogGraph.Conversion
