import CatalogGraph.Proofs.Accounts
import CatalogGraph.Proofs.SubjectIris
import CatalogGraph.Proofs.WritableStatements

/-!
# Records cannot make statements that cannot be written

What may be wrong with a statement is an IRI or a language tag.  Some of these come from the converter: the
URI of the record by its host, the predicates and classes, and the language tags.  If they are as they must
be (`Converter.HasWritableParts`), every statement of every conversion can be written.

All else comes from the record, and passes one gate: a text becomes an IRI only after the check of
`Uri.isHostedIri`, which is stricter than the check that a statement has to pass (`isWritable_objectUri`).
What fails it stays a literal.  So the nodes that are made on the way down a relation may be subjects
(`Account.isWritable`, by induction on the account of the record).  The identifier of the record does not
matter for its URI (`isIri_subjectUri`).
-/

namespace CatalogGraph.Conversion

open CatalogGraph.Mapping CatalogGraph.Marc CatalogGraph.Rdf

/-! ## Objects -/

/-- What became an IRI from a text is absolute. -/
theorem isIri_of_objectUri {text base uri : String} (h : objectUri text base = .iri uri) :
    Uri.isIri uri = true := by
  unfold objectUri at h
  split at h
  · next hHosted =>
      obtain rfl := Object.iri.inj h
      unfold Uri.isHostedIri at hHosted
      exact (Bool.and_eq_true_iff.mp hHosted).1
  · exact absurd h (by simp)

/-- A text that was to be a URI can be written, as an IRI or else as a literal. -/
theorem isWritable_objectUri (text base : String) : (objectUri text base).IsWritable := by
  cases hObject : objectUri text base with
  | iri uri => exact isIri_of_objectUri hObject
  | plain value => exact trivial
  | tagged value language =>
      unfold objectUri at hObject
      split at hObject <;> exact absurd hObject (by simp)
  | typed value datatype =>
      unfold objectUri at hObject
      split at hObject <;> exact absurd hObject (by simp)

/-- The language tag of some objects is well-formed, if they have one. -/
def HasLanguageTag (spec : ObjectSpec) : Prop :=
  ∀ language, spec.language = some language → isLanguageTag language = true

/-- An object of any datatype can be written. -/
theorem isWritable_objectOf {spec : ObjectSpec} (h : HasLanguageTag spec) (text : String) :
    (objectOf spec text).IsWritable := by
  have hLiteral : (Object.literal text spec.language).IsWritable := by
    cases hLanguage : spec.language with
    | none => exact trivial
    | some language => exact h language hLanguage
  have hXsd : ∀ name ∈ ["integer", "float", "gYear"], Uri.isIri (Vocabulary.xsd name) = true := by
    decide
  unfold objectOf
  cases spec.datatype with
  | none => exact hLiteral
  | some datatype =>
      cases datatype with
      | uri => exact isWritable_objectUri text spec.base
      | integer => exact hXsd "integer" (by simp)
      | float => exact hXsd "float" (by simp)
      | gYear => exact hXsd "gYear" (by simp)
      | literal => exact hLiteral

/-! ## Accounts -/

theorem isIri_rdfType : Uri.isIri Vocabulary.rdfType = true := by decide

theorem isWritable_typeStatement {node type : String} (hNode : Uri.isIri node = true)
    (hType : Uri.isIri type = true) : (typeStatement node type).IsWritable :=
  ⟨hNode, isIri_rdfType, hType⟩

/-- Every statement of an account can be written, if the node that it is of is an IRI and the terms and
languages that it draws on are as they must be. -/
theorem Account.isWritable {v : Vocabulary} {terms : List Term} {specs : List ObjectSpec}
    (hTerms : ∀ iri, v.Names terms iri → Uri.isIri iri = true)
    (hSpecs : ∀ spec ∈ specs, HasLanguageTag spec) {node : String} {statements : List Statement}
    (h : Account v terms specs node statements) (hNode : Uri.isIri node = true) :
    ∀ t ∈ statements, t.IsWritable := by
  induction h with
  | nothing node => simp
  | append _ _ iha ihb => exact List.forall_mem_append.mpr ⟨iha hNode, ihb hNode⟩
  | value hStated =>
      have hObject := isWritable_objectOf (hSpecs _ hStated.spec_mem)
      exact List.forall_mem_singleton.mpr ⟨hNode, hTerms _ hStated.predicate, hObject _⟩
  | link hStated =>
      have hObject := isWritable_objectUri
      exact List.forall_mem_singleton.mpr ⟨hNode, hTerms _ hStated.predicate, hObject _ _⟩
  | @described node predicate uri type spec text rest hStated hUri hType _ ih =>
      -- the new node went through the gate, so it may be the subject of all that follows
      have hNew : Uri.isIri uri = true := isIri_of_objectUri hUri
      refine List.forall_mem_cons.mpr ⟨⟨hNode, hTerms _ hStated.predicate, hNew⟩, ?_⟩
      exact List.forall_mem_cons.mpr ⟨isWritable_typeStatement hNew (hTerms type hType), ih hNew⟩

/-! ## Conversions -/

namespace Converter

/-- What a converter brings into statements by itself can be written. -/
structure HasWritableParts (c : Converter) : Prop where
  /-- The host makes an IRI of some identifier, and so of all. -/
  host : ∃ identifier, Uri.isIri (subjectUri c.host identifier) = true
  /-- The predicates and classes of the mapping, at any depth. -/
  terms : ∀ iri, c.vocabulary.Names c.mapping.terms iri → Uri.isIri iri = true
  recordTypes : ∀ type ∈ c.recordTypes, Uri.isIri type = true
  languages : ∀ spec ∈ c.mapping.objects, HasLanguageTag spec

theorem HasWritableParts.isIri_subjectOf {c : Converter} (h : c.HasWritableParts) (r : Record) :
    Uri.isIri (c.subjectOf r) = true := by
  obtain ⟨identifier, hIri⟩ := h.host
  rw [isIri_subjectUri] at hIri
  rw [subjectOf, isIri_subjectUri, hIri]

/-- **A record cannot make statements that cannot be written.**  Let the host, the predicates, the classes,
the classes of records and the language tags of a converter be as they must be.  Then every statement of every
conversion that succeeds passes the check, and all together make a document in N-Triples, one line for
each. -/
theorem serialize_convert {c : Converter} (h : c.HasWritableParts) {r : Record}
    {statements : List Statement} (hConvert : c.convert r = .ok statements) :
    (∀ t ∈ statements, ∃ checked, t.checked = .ok checked) ∧
      serialize .nTriples statements = .ok (String.join (statements.map nTriplesLine)) := by
  obtain ⟨rest, rfl, hAccount⟩ := account_of_convert hConvert
  have hSubject := h.isIri_subjectOf r
  have hTypes : ∀ t ∈ c.typeStatements r, t.IsWritable := by
    intro t ht
    obtain ⟨type, hType, rfl⟩ := List.mem_map.mp ht
    exact isWritable_typeStatement hSubject (h.recordTypes type hType)
  have hAll : ∀ t ∈ c.typeStatements r ++ rest, t.IsWritable :=
    List.forall_mem_append.mpr ⟨hTypes, hAccount.isWritable h.terms h.languages hSubject⟩
  have hNone : (c.typeStatements r ++ rest).findSome? Format.nTriples.obstacle? = none := by
    rw [List.findSome?_eq_none_iff]
    exact fun t ht => obstacle?_nTriples_eq_none_iff.mpr (hAll t ht)
  constructor
  · exact fun t ht => ⟨t.written, Statement.checked_eq_ok_iff.mpr ⟨hAll t ht, rfl⟩⟩
  · rw [serialize_eq_ok_iff, text_write_nTriples, leading_of_findSome?_eq_none hNone]
    exact ⟨hNone, rfl⟩

/-- A title in quotation marks, a topic that becomes a node, and one that cannot become one for its white
space. -/
theorem serialize_convert_topics :
    let title : SubfieldRule := .plain ⟨"a", .fixed (.iri "urn:title"), { language := some "EN" }⟩
    let label : SubfieldRule := .plain ⟨"x", .fixed (.iri "urn:label"), {}⟩
    let topic : SubfieldRule := .related ⟨"x", .fixed (.iri "urn:topic"), { base := "urn://topics/" }⟩
      (.iri "urn:Topic") [label]
    let mapping : Spec := ⟨[⟨"245", .data [title]⟩, ⟨"650", .data [topic]⟩]⟩
    let c : Converter := ⟨mapping, .core, "placeholder.com", ["urn:Book"]⟩
    let r := Record.ofFields [.data ⟨"245", '1', '0', [⟨'a', "\"No\""⟩]⟩,
      .data ⟨"650", ' ', '0', [⟨'x', "cats"⟩, ⟨'x', "wet newts"⟩]⟩]
    let statements : List Statement := [typeStatement (c.subjectOf r) "urn:Book",
      ⟨c.subjectOf r, "urn:title", .tagged "\"No\"" "EN"⟩,
      ⟨c.subjectOf r, "urn:topic", .iri "urn://topics/cats"⟩,
      typeStatement "urn://topics/cats" "urn:Topic", ⟨"urn://topics/cats", "urn:label", .plain "cats"⟩,
      ⟨c.subjectOf r, "urn:topic", .plain "urn://topics/wet newts"⟩]
    let subject := "<" ++ c.subjectOf r ++ ">"
    let type := "<" ++ Vocabulary.rdfType ++ ">"
    c.HasWritableParts ∧ c.convert r = .ok statements ∧
      serialize .nTriples statements = .ok (String.join [
        subject, " ", type, " <urn:Book> .\n",
        subject, " <urn:title> \"\\\"No\\\"\"@en .\n",
        subject, " <urn:topic> <urn://topics/cats> .\n",
        "<urn://topics/cats> ", type, " <urn:Topic> .\n",
        "<urn://topics/cats> <urn:label> \"cats\" .\n",
        subject, " <urn:topic> \"urn://topics/wet newts\" .\n"]) := by
  intro title label topic mapping c r statements subject type
  have hParts : c.HasWritableParts := by
    have hTerms : ∀ term ∈ mapping.terms, (c.vocabulary.resolve term).toOption.all Uri.isIri = true := by
      decide
    have hTags : ∀ spec ∈ mapping.objects, spec.language.all isLanguageTag = true := by decide
    refine ⟨⟨"", by decide +kernel⟩, ?_, List.forall_mem_singleton.mpr (by decide), ?_⟩
    · rintro iri ⟨term, hTerm, hResolve⟩
      have hIri := hTerms term hTerm
      rwa [hResolve] at hIri
    · intro spec hSpec language hLanguage
      have hTag := hTags spec hSpec
      rwa [hLanguage] at hTag
  have hConvert : c.convert r = .ok statements := by
    rw [convert, Assertions.outcome_eq_ok_iff]
    decide +kernel
  refine ⟨hParts, hConvert, ?_⟩
  refine (serialize_convert hParts hConvert).2.trans (congrArg Except.ok ?_)
  decide +kernel

end Converter

end CatalogGraph.Conversion
