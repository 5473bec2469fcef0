import CatalogGraph.Proofs.MissingKeys
import CatalogGraph.Proofs.RecordFields
import CatalogGraph.Proofs.RuleApplication

/-!
# Faults of a conversion

Once a converter is made, a conversion can fail in one way only: a key is missing from a table.  The check
of the mapping and the conversion walk over the rules separately; what makes them fit is that every term
that is resolved, in relations at any depth, is among the terms that were checked (`RuleBody.terms`).

The fault names one rule.  Below a relation it is the innermost rule that gets its name on the fault, the
rules around it leave it alone, so the code it names may be of a rule nested at any depth
(`RuleBody.Blames`).
-/

namespace CatalogGraph

/-- A property of the fault of some assertions, if they end with one. -/
def Conversion.Assertions.FaultsIn (a : Conversion.Assertions) (P : Fault → Prop) : Prop :=
  ∀ e, a.fault = some e → P e

namespace Conversion.Assertions.FaultsIn

variable {α : Type} {P Q : Fault → Prop} {a b : Assertions}

theorem of_fault_eq_none (h : a.fault = none) : a.FaultsIn P := by
  intro e he
  rw [h] at he
  exact absurd he (by simp)

theorem mono (h : a.FaultsIn P) (hImp : ∀ e, P e → Q e) : a.FaultsIn Q :=
  fun e he => hImp e (h e he)

theorem andThen (ha : a.FaultsIn P) (hb : b.FaultsIn P) : (a.andThen b).FaultsIn P := by
  intro e he
  rw [andThen_fault, Option.or_eq_some_iff] at he
  rcases he with hFirst | ⟨-, hSecond⟩
  · exact ha e hFirst
  · exact hb e hSecond

theorem after {o : Outcome α} {next : α → Assertions} (hError : ∀ e, o = .error e → P e)
    (hNext : ∀ x, o = .ok x → (next x).FaultsIn P) : (Assertions.after o next).FaultsIn P := by
  cases o with
  | ok x => exact hNext x rfl
  | error e =>
      intro e' he
      obtain rfl := Option.some.inj he
      exact hError e rfl

theorem each {f : α → Assertions} {xs : List α} (h : ∀ x ∈ xs, (f x).FaultsIn P) :
    (Assertions.each f xs).FaultsIn P := by
  intro e he
  obtain ⟨earlier, x, later, rfl, -, hx⟩ := each_fault_eq_some_iff.mp he
  exact h x (by simp) e hx

theorem inRule {tag : String} {subfield : Option String}
    (h : a.FaultsIn fun e => P (e.inRule tag subfield)) : (a.inRule tag subfield).FaultsIn P := by
  intro e he
  obtain ⟨e', he', rfl⟩ := Option.map_eq_some_iff.mp he
  exact h e' he'

end Conversion.Assertions.FaultsIn

/-- The subfield that a fault may name if a block is to blame: none for a block of control entries, and the
code of a rule at any depth for a block of subfield rules. -/
def Mapping.RuleBody.Blames (body : Mapping.RuleBody) (subfield : Option String) : Prop :=
  match body with
  | .control _ => subfield = none
  | .data rules => ∃ q ∈ Mapping.SubfieldRule.forest rules, subfield = some q.code

namespace Conversion

open CatalogGraph.Mapping CatalogGraph.Marc CatalogGraph.Rdf

variable {v : Vocabulary} {f : DataField}

/-! ## Subfield rules -/

/-- A missing key that was met in applying a rule: in the rule itself, which is not on the fault yet, or
in a rule nested in it, which is. -/
def FaultWithin (tag : String) (r : SubfieldRule) (e : Fault) : Prop :=
  e.IsMissingKey none ∨ ∃ q ∈ r.descendants, e.IsMissingKey (some ⟨tag, some q.code⟩)

/-- Once the rule gets its name on the fault, the fault names the rule or one nested in it. -/
theorem FaultWithin.inRule {tag : String} {r : SubfieldRule} {e : Fault} (h : FaultWithin tag r e) :
    ∃ q, (q = r ∨ q ∈ r.descendants) ∧
      (e.inRule tag (some r.code)).IsMissingKey (some ⟨tag, some q.code⟩) := by
  rcases h with hOwn | ⟨q, hq, hNested⟩
  · exact ⟨r, Or.inl rfl, hOwn.inRule tag (some r.code)⟩
  · exact ⟨q, Or.inr hq, hNested.inRule_of_some tag (some r.code)⟩

/-- A bound class has an IRI, so the statement about it is made. -/
theorem typeAssertion_fault {type : Term} (h : ∃ iri, v.resolve type = .ok iri) (origin : Occurrence)
    (node : String) : (typeAssertion v f origin node type).fault = none := by
  obtain ⟨iri, hIri⟩ := h
  unfold typeAssertion
  rw [hIri]
  rfl

/-- A value leads to faults within the rule, if each of its objects does. -/
theorem FaultWithin.of_objects {r : SubfieldRule} {node predicate : String} {p : PlacedValue}
    (hObjects : ∀ object, (objectAssertions v f node predicate r p.index object).FaultsIn
      (FaultWithin f.tag r)) :
    (valueAssertions v f node predicate r p).FaultsIn (FaultWithin f.tag r) := by
  unfold valueAssertions
  split
  · exact .of_fault_eq_none rfl
  · apply Assertions.FaultsIn.after
    · intro e he
      exact Or.inl (generate_error he)
    · intro objects _
      apply Assertions.FaultsIn.each
      intro object _
      exact hObjects object

/-- A rule whose predicate is bound fails within itself, if each of its values leads to faults within it. -/
theorem FaultWithin.of_values {r : SubfieldRule} (hTerms : v.Binds r.terms) {node : String}
    (hValues : ∀ predicate p, (valueAssertions v f node predicate r p).FaultsIn (FaultWithin f.tag r))
    (values : List PlacedValue) :
    (Assertions.after (predicateIri v r.head.predicate f) fun predicate =>
      .each (valueAssertions v f node predicate r) values).FaultsIn (FaultWithin f.tag r) := by
  have hPredicate : v.Binds r.head.predicate.terms :=
    hTerms.mono fun _ => SubfieldRule.mem_terms_of_mem_predicate
  apply Assertions.FaultsIn.after
  · intro e he
    exact Or.inl (predicateIri_error hPredicate he)
  · intro predicate _
    apply Assertions.FaultsIn.each
    intro p _
    exact hValues predicate p

/-- What one value leads to fails within the rule.  The induction is on the rule: a fault of a nested rule is
one within it, and once the nested rule has put its name on it, it names a rule of the tree. -/
theorem valueAssertions_faultsIn {r : SubfieldRule} (hTerms : v.Binds r.terms)
    (node predicate : String) (p : PlacedValue) :
    (valueAssertions v f node predicate r p).FaultsIn (FaultWithin f.tag r) := by
  induction r generalizing node predicate p with
  | plain head => exact .of_objects fun object => .of_fault_eq_none rfl
  | related head type nested ih =>
      apply FaultWithin.of_objects
      intro object
      rw [objectAssertions_related]
      refine .andThen (.of_fault_eq_none rfl) ?_
      cases (objectUri object head.object.base).iri? with
      | none => exact .of_fault_eq_none rfl
      | some uri =>
          have hType := hTerms type (SubfieldRule.class_mem_terms head type nested)
          refine .andThen (.of_fault_eq_none (typeAssertion_fault hType _ _)) ?_
          rw [allNestedAssertions_eq]
          apply Assertions.FaultsIn.each
          intro q hq
          have hNested : v.Binds q.terms :=
            hTerms.mono fun _ => SubfieldRule.mem_terms_of_mem_nested hq
          have hWithin : (nestedAssertions v f ⟨head.code, p.index⟩ uri q).FaultsIn
              (FaultWithin f.tag q) := by
            rw [nestedAssertions_eq]
            exact .of_values hNested (ih q hq hNested uri) _
          apply Assertions.FaultsIn.inRule
          refine hWithin.mono fun e he => ?_
          obtain ⟨p, hp, hKey⟩ := he.inRule
          exact Or.inr ⟨p, SubfieldRule.mem_forest_iff.mpr ⟨q, hq, hp⟩, hKey⟩

/-- What a rule says about the subject of a record fails within the rule. -/
theorem ruleAssertions_faultsIn {r : SubfieldRule} (hTerms : v.Binds r.terms) (subject : String) :
    (ruleAssertions v f subject r).FaultsIn (FaultWithin f.tag r) := by
  rw [ruleAssertions_eq]
  exact .of_values hTerms (valueAssertions_faultsIn hTerms subject) _

/-- What several rules say fails with the name of one of them, or of a rule nested in one. -/
theorem rulesAssertions_faultsIn {rules : List SubfieldRule}
    (hTerms : v.Binds (SubfieldRule.allTerms rules)) (subject : String) :
    (rulesAssertions v f subject rules).FaultsIn fun e =>
      ∃ q ∈ SubfieldRule.forest rules, e.IsMissingKey (some ⟨f.tag, some q.code⟩) := by
  apply Assertions.FaultsIn.each
  intro r hr
  have hRule : v.Binds r.terms :=
    hTerms.mono fun term h => SubfieldRule.mem_allTerms_iff.mpr ⟨r, hr, h⟩
  apply Assertions.FaultsIn.inRule
  refine (ruleAssertions_faultsIn hRule subject).mono fun e he => ?_
  obtain ⟨q, hq, hKey⟩ := he.inRule
  exact ⟨q, SubfieldRule.mem_forest_iff.mpr ⟨r, hr, hq⟩, hKey⟩

/-! ## Control entries -/

/-- The statements of an entry about an object are made, if its class is bound. -/
theorem entryObject_fault {entry : ControlEntry} (hTerms : v.Binds entry.terms)
    (subject predicate object : String) :
    (entryObject v subject predicate entry object).fault = none := by
  unfold entryObject
  split
  · rfl
  rw [Assertions.andThen_fault]
  cases (objectUri object entry.object.base).iri? with
  | none => rfl
  | some node =>
      cases hType : entry.type with
      | none => rfl
      | some type =>
          obtain ⟨iri, hIri⟩ := hTerms type (by simp [ControlEntry.terms, hType])
          simp only [hIri]
          rfl

theorem entryAssertions_faultsIn {entry : ControlEntry} (hTerms : v.Binds entry.terms)
    (subject : String) (field : Field) :
    (entryAssertions v subject field entry).FaultsIn (·.IsMissingKey none) := by
  obtain ⟨iri, hIri⟩ := hTerms entry.predicate List.mem_cons_self
  unfold entryAssertions
  rw [hIri, Assertions.after_ok]
  apply Assertions.FaultsIn.after
  · intro e he
    exact generate_error he
  · intro objects _
    apply Assertions.FaultsIn.each
    intro object _
    exact .of_fault_eq_none (entryObject_fault hTerms subject iri object)

/-! ## Records -/

/-- What a block says about a field fails with a missing key, in a rule that is in the block. -/
theorem bodyAssertions_faultsIn {body : RuleBody} (hTerms : v.Binds body.terms)
    (subject tag : String) (field : Field) :
    (bodyAssertions v subject tag body field).FaultsIn fun e =>
      ∃ place, e.IsMissingKey (some place) ∧ (place.tag = tag ∨ place.tag = field.tag) ∧
        body.Blames place.subfield := by
  cases body with
  | control entries =>
      rw [bodyAssertions]
      split
      · exact .of_fault_eq_none rfl
      apply Assertions.FaultsIn.inRule
      apply Assertions.FaultsIn.each
      intro entry hEntry
      have hEntryTerms : v.Binds entry.terms :=
        hTerms.mono fun term h => List.mem_flatMap.mpr ⟨entry, hEntry, h⟩
      refine (entryAssertions_faultsIn hEntryTerms subject field).mono fun e he => ?_
      exact ⟨⟨tag, none⟩, he.inRule tag none, Or.inl rfl, rfl⟩
  | data rules =>
      cases field with
      | control f => exact .of_fault_eq_none rfl
      | data f =>
          -- rules for data fields put the tag of the field on the fault, not the tag of the block
          refine (rulesAssertions_faultsIn hTerms subject).mono ?_
          rintro e ⟨q, hq, hKey⟩
          exact ⟨⟨f.tag, some q.code⟩, hKey, Or.inr rfl, q, hq, rfl⟩

namespace Converter

/-- What is said about a record fails with a missing key, in a rule of a block for a tag of the record. -/
theorem recordAssertions_faultsIn {c : Converter} (hCheck : c.mapping.check c.vocabulary = .ok ())
    (r : Record) :
    (c.recordAssertions r).FaultsIn fun e =>
      ∃ tag, ∃ rule ∈ c.mapping.rulesFor tag, ∃ field ∈ r.fieldsOf tag, ∃ place,
        e.IsMissingKey (some place) ∧ (place.tag = tag ∨ place.tag = field.tag) ∧
          rule.body.Blames place.subfield := by
  have hTypes : (Assertions.each .one (c.typeStatements r)).fault = none := by
    rw [Assertions.each_one]
  refine .andThen (.of_fault_eq_none hTypes) ?_
  apply Assertions.FaultsIn.each
  intro tag _
  unfold tagAssertions
  split
  · apply Assertions.FaultsIn.each
    intro rule hRule
    apply Assertions.FaultsIn.each
    intro field hField
    have hTerms : c.vocabulary.Binds rule.body.terms :=
      Spec.check_eq_ok_iff.mp hCheck rule (List.mem_filter.mp hRule).1
    refine (bodyAssertions_faultsIn hTerms (c.subjectOf r) tag field).mono fun e he => ?_
    exact ⟨tag, rule, hRule, field, hField, he⟩
  · exact .of_fault_eq_none rfl

/-- **A conversion fails with a missing key or not at all.**  A converter that could be made converts every
record, or fails with one missing key in one rule; no term of its mapping is unbound later.  If the record
is made by adding fields to it, the fault names the tag of one of them and of a block, and what the block
lets it name: no subfield, or the code of one of its rules at any depth. -/
theorem convert_eq_ok_or_missingKey {m : Spec} {v : Vocabulary} {settings : Settings} {c : Converter}
    (h : create m v settings = .ok c) :
    (∀ r : Record, (∃ statements, c.convert r = .ok statements) ∨
      ∃ key place, c.convert r = .error { cause := .missingSubstitution key, place := some place }) ∧
    ∀ (fields : List Field) (key : String) (place : RulePlace),
      c.convert (Record.ofFields fields) =
          .error { cause := .missingSubstitution key, place := some place } →
        (∃ field ∈ (Record.ofFields fields).fields, field.tag = place.tag) ∧
        ∃ rule ∈ m.rules, rule.tag = place.tag ∧ rule.body.Blames place.subfield := by
  obtain ⟨hCheck, types, -, rfl⟩ := create_eq_ok_iff.mp h
  constructor
  · intro r
    cases hOutcome : convert ⟨m, v, settings.host, types⟩ r with
    | ok statements => exact Or.inl ⟨statements, rfl⟩
    | error e =>
        obtain ⟨-, -, -, -, -, place, ⟨key, rfl⟩, -, -⟩ :=
          recordAssertions_faultsIn hCheck r e (Assertions.outcome_eq_error_iff.mp hOutcome)
        exact Or.inr ⟨key, place, rfl⟩
  · intro fields key place hOutcome
    obtain ⟨tag, rule, hRule, field, hField, place', ⟨key', hFault⟩, hTag, hBlames⟩ :=
      recordAssertions_faultsIn hCheck _ _ (Assertions.outcome_eq_error_iff.mp hOutcome)
    obtain rfl : place = place' := by simpa using congrArg Fault.place hFault
    -- the fields of the record stand under their own tags, so the two tags are one
    have hFieldTag : field.tag = tag := Record.tag_of_mem_fieldsOf_ofFields hField
    have hPlaceTag : place.tag = tag := by
      rcases hTag with hOuter | hInner
      · exact hOuter
      · rw [hInner, hFieldTag]
    obtain ⟨hRuleMem, hRuleTag⟩ := List.mem_filter.mp hRule
    refine ⟨⟨field, Record.mem_fields_of_mem_fieldsOf hField, hFieldTag.trans hPlaceTag.symm⟩, ?_⟩
    exact ⟨rule, hRuleMem, (eq_of_beq hRuleTag).trans hPlaceTag.symm, hBlames⟩

/-- A relation whose nested rule looks up a name that its table lacks: the nested rule is blamed. -/
theorem convert_eq_ok_or_missingKey_lovelace :
    let names : Substitutions String := ⟨(Regex.compile? ".+").get (by decide +kernel), .empty⟩
    let name : SubfieldRule :=
      .plain ⟨"b", .fixed (.iri "urn:name"), { pipeline := { substitute := some ⟨names, none⟩ } }⟩
    let person : SubfieldRule :=
      .related ⟨"a", .fixed (.iri "urn:creator"), { base := "urn://people/" }⟩ (.iri "urn:Person") [name]
    let m : Spec := ⟨[⟨"100", .data [person]⟩]⟩
    let c : Converter := ⟨m, .core, "placeholder.com", []⟩
    let fields : List Field := [.data ⟨"100", '1', ' ', [⟨'a', "ada"⟩, ⟨'b', "Lovelace"⟩]⟩]
    create m .core {} = .ok c ∧
      c.convert (Record.ofFields fields) =
        .error { cause := .missingSubstitution "lovelace", place := some ⟨"100", some "b"⟩ } ∧
      (∃ field ∈ (Record.ofFields fields).fields, field.tag = "100") ∧
      ∃ rule ∈ m.rules, rule.tag = "100" ∧ rule.body.Blames (some "b") := by
  intro names name person m c fields
  have hCreate : create m .core {} = .ok c := rfl
  have hConvert : c.convert (Record.ofFields fields) =
      .error { cause := .missingSubstitution "lovelace", place := some ⟨"100", some "b"⟩ } := by
    rw [convert, Assertions.outcome_eq_error_iff]
    decide +kernel
  exact ⟨hCreate, hConvert, (convert_eq_ok_or_missingKey hCreate).2 fields _ _ hConvert⟩

end Converter

end Conversion

end CatalogGraph
