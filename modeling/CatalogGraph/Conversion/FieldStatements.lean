import CatalogGraph.Conversion.Assertions
import CatalogGraph.Conversion.ObjectUri
import CatalogGraph.Conversion.Pipeline
import CatalogGraph.Conversion.PredicateChoice

/-!
# Statements about a field

A rule makes statements from the values of a field.  A subfield rule with a relation makes each object a
node: the node gets its class, and then the nested rules are applied to the same field with the node as
subject.  A nested rule with the code of the rule that made the node reads only the subfield that the
node was made from; any other nested rule reads all subfields with its code.

Rules for a field pass over its subfields and take what their code names; nested rules first select
what they read.  A text that becomes no URI stays a literal, and nothing more is said about it.
-/

namespace CatalogGraph.Conversion

open CatalogGraph.Mapping CatalogGraph.Marc CatalogGraph.Rdf

/-! ## Nodes -/

/-- A subfield that a node was made from: the code of the rule, and the place in the field. -/
structure Occurrence where
  code : String
  index : Nat
  deriving DecidableEq, Repr

/-- A value at its place in a field. -/
structure PlacedValue where
  index : Nat
  value : String
  deriving DecidableEq, Repr

/-- The values of the subfields that a code names, at their places. -/
def placedValues (code : String) (f : DataField) : List PlacedValue :=
  (f.subfields.zipIdx.filter fun p => codeMatches code p.1.code).map fun p => ⟨p.2, p.1.value⟩

/-- The value at a place. -/
def valueAt (index : Nat) (f : DataField) : List PlacedValue :=
  (f.subfields[index]?.map fun s => ⟨index, s.value⟩).toList

/-- The values that a nested rule with a code reads below a node. -/
def selectValues (code : String) (origin : Occurrence) (f : DataField) : List PlacedValue :=
  if code = origin.code then valueAt origin.index f else placedValues code f

/-- The IRI of the predicate of a rule for a field. -/
def predicateIri (v : Vocabulary) (p : Predicate) (f : DataField) : Outcome String := do
  v.resolve (← choosePredicate p f)

/-- The statement that a node has a class. -/
def typeStatement (node type : String) : Statement := ⟨node, Vocabulary.rdfType, .iri type⟩

/-- The class of a node that was made from `origin`. -/
def typeAssertion (v : Vocabulary) (f : DataField) (origin : Occurrence) (node : String)
    (type : Term) : Assertions :=
  .after ((v.resolve type).inRule f.tag (some origin.code)) fun iri =>
    .one (typeStatement node iri)

mutual
/-- What a nested rule says about the node that was made from `origin`. -/
def nestedAssertions (v : Vocabulary) (f : DataField) (origin : Occurrence) (node : String) :
    SubfieldRule → Assertions
  | .plain head =>
    .after (predicateIri v head.predicate f) fun predicate =>
      .each (fun (p : PlacedValue) =>
        if p.value = "" then .nothing
        else .after (generate p.value (some f) head.object.pipeline) fun objects =>
          .each (fun o => .one ⟨node, predicate, objectOf head.object o⟩) objects)
        (selectValues head.code origin f)
  | .related head type nested =>
    .after (predicateIri v head.predicate f) fun predicate =>
      .each (fun (p : PlacedValue) =>
        if p.value = "" then .nothing
        else .after (generate p.value (some f) head.object.pipeline) fun objects =>
          .each (fun o =>
            let term := objectUri o head.object.base
            Assertions.andThen (.one ⟨node, predicate, term⟩)
              (match term.iri? with
              | some uri =>
                let here := ⟨head.code, p.index⟩
                (typeAssertion v f here uri type).andThen (allNestedAssertions v f here uri nested)
              | none => .nothing)) objects)
        (selectValues head.code origin f)

/-- What several nested rules say about a node, one after the other. -/
def allNestedAssertions (v : Vocabulary) (f : DataField) (origin : Occurrence) (node : String) :
    List SubfieldRule → Assertions
  | [] => .nothing
  | r :: rest =>
    ((nestedAssertions v f origin node r).inRule f.tag (some r.code)).andThen
      (allNestedAssertions v f origin node rest)
end

/-- What a relation says about a node: its class, and then what its nested rules say. -/
def relationAssertions (v : Vocabulary) (f : DataField) (origin : Occurrence) (node : String)
    (type : Term) (nested : List SubfieldRule) : Assertions :=
  (typeAssertion v f origin node type).andThen (allNestedAssertions v f origin node nested)

/-! ## Data fields -/

/-- What a rule says about a subject because of one object text from the subfield at a place. -/
def objectAssertions (v : Vocabulary) (f : DataField) (subject predicate : String)
    (r : SubfieldRule) (index : Nat) (object : String) : Assertions :=
  match r with
  | .plain head => .one ⟨subject, predicate, objectOf head.object object⟩
  | .related head type nested =>
    match objectUri object head.object.base with
    | .iri node =>
      Assertions.andThen (.one ⟨subject, predicate, .iri node⟩)
        (relationAssertions v f ⟨head.code, index⟩ node type nested)
    | literal => .one ⟨subject, predicate, literal⟩

/-- What a rule says about a subject because of the subfield at a place: nothing unless its code names
the subfield, and nothing about an empty value. -/
def subfieldAssertions (v : Vocabulary) (f : DataField) (subject predicate : String)
    (r : SubfieldRule) (index : Nat) (s : Subfield) : Assertions :=
  if !r.matchesCode s.code || s.value = "" then .nothing
  else .after (generate s.value (some f) r.head.object.pipeline) fun objects =>
    .each (objectAssertions v f subject predicate r index) objects

/-- What a rule says about the subject of a record, subfield by subfield. -/
def ruleAssertions (v : Vocabulary) (f : DataField) (subject : String) (r : SubfieldRule) :
    Assertions :=
  .after (predicateIri v r.head.predicate f) fun predicate =>
    .each (fun p => subfieldAssertions v f subject predicate r p.2 p.1) f.subfields.zipIdx

/-- What several rules say about the subject of a record, one after the other. -/
def rulesAssertions (v : Vocabulary) (f : DataField) (subject : String)
    (rules : List SubfieldRule) : Assertions :=
  .each (fun r => (ruleAssertions v f subject r).inRule f.tag (some r.code)) rules

/-! ## Control fields -/

/-- What an entry says because of one object text of a control field.  Only a literal by name is one;
without a datatype, and with any other, the object may become a node. -/
def entryObject (v : Vocabulary) (subject predicate : String) (e : ControlEntry)
    (object : String) : Assertions :=
  if e.object.datatype = some .literal then
    .one ⟨subject, predicate, .literal object e.object.language⟩
  else
    let term := objectUri object e.object.base
    Assertions.andThen (.one ⟨subject, predicate, term⟩)
      (match term.iri?, e.type with
      | some node, some type => .after (v.resolve type) fun iri => .one (typeStatement node iri)
      | _, _ => .nothing)

/-- What an entry says about a field. -/
def entryAssertions (v : Vocabulary) (subject : String) (field : Field) (e : ControlEntry) :
    Assertions :=
  .after (v.resolve e.predicate) fun predicate =>
    .after (generate field.value field.data? e.object.pipeline) fun objects =>
      .each (entryObject v subject predicate e) objects

/-! ## Fields -/

/-- What the rules of a block for a tag say about a field with it.  Entries for control fields take a
data field by its joined value; subfield rules have nothing to say about a control field. -/
def bodyAssertions (v : Vocabulary) (subject tag : String) (body : RuleBody) (field : Field) :
    Assertions :=
  match body with
  | .control entries =>
    if Text.isBlank field.value then .nothing
    else (Assertions.each (entryAssertions v subject field) entries).inRule tag none
  | .data rules =>
    match field with
    | .control _ => .nothing
    | .data f => rulesAssertions v f subject rules

end CatalogGraph.Conversion
