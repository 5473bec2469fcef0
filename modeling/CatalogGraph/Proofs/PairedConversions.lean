import CatalogGraph.Proofs.RecordFields
import CatalogGraph.Proofs.RuleApplication
import CatalogGraph.Proofs.MissingKeys
import CatalogGraph.Proofs.TagLocality
import Mathlib.Data.List.Forall2

/-!
# Conversions side by side

Two conversions with one mapping, under two vocabularies and for two subjects, go the same way.  Which
values are read, which nodes are made and which key is missing does not depend on the IRIs of terms, nor on
the subject of the record.

* `Assertions.Alike` — the same fault or none, and statements that are related one by one; it is kept by
  every way of putting assertions together;
* `Counterparts` — how the statements of two such conversions are related: the IRIs of terms and the subject
  of the record may differ, in places that belong to each other;
* `valueAssertions_alike` — one value leads to counterparts.  This is the induction over a rule and the rules
  nested in it: a node that is made has the same IRI on both sides;
* `convert_under_vocabularies` — with one record, only the IRIs of terms differ;
* `convert_setControlNumber` — with one vocabulary, and an identifier that no rule is for, only the subject
  differs.

Both vocabularies have to bind all terms.  One that lacks a label makes no converter.
-/

namespace CatalogGraph

/-- Two IRIs that one of some terms stands for, each in its vocabulary. -/
def Vocabulary.NamesBoth (v w : Vocabulary) (terms : List Term) (iri iri' : String) : Prop :=
  ∃ term ∈ terms, v.resolve term = .ok iri ∧ w.resolve term = .ok iri'

/-- A term that both vocabularies bind has two IRIs. -/
theorem Vocabulary.Binds.namesBoth {v w : Vocabulary} {terms : List Term} (hv : v.Binds terms)
    (hw : w.Binds terms) {term : Term} (h : term ∈ terms) :
    ∃ iri iri', v.resolve term = .ok iri ∧ w.resolve term = .ok iri' ∧ v.NamesBoth w terms iri iri' := by
  obtain ⟨iri, hIri⟩ := hv term h
  obtain ⟨iri', hIri'⟩ := hw term h
  exact ⟨iri, iri', hIri, hIri', term, h, hIri, hIri'⟩

namespace Mapping

/-! ## Terms by their use -/

/-- The class of the nodes that a rule makes. -/
def SubfieldRule.class? : SubfieldRule → Option Term
  | .plain _ => none
  | .related _ type _ => some type

/-- The terms that the predicates of a block may come to, in rules at any depth. -/
def RuleBody.predicates : RuleBody → List Term
  | .control entries => entries.map (·.predicate)
  | .data rules => (SubfieldRule.forest rules).flatMap (·.head.predicate.terms)

/-- The classes of a block, in rules at any depth. -/
def RuleBody.classes : RuleBody → List Term
  | .control entries => entries.filterMap (·.type)
  | .data rules => (SubfieldRule.forest rules).filterMap (·.class?)

/-- The terms that the predicates of a mapping may come to. -/
def Spec.predicates (m : Spec) : List Term := m.rules.flatMap (·.body.predicates)

/-- The classes of a mapping. -/
def Spec.classes (m : Spec) : List Term := m.rules.flatMap (·.body.classes)

/-- The terms of a rule that is nested in another one are among the terms of that one. -/
theorem SubfieldRule.terms_subset_of_mem_descendants {r q : SubfieldRule} (h : q ∈ r.descendants) :
    q.terms ⊆ r.terms := by
  induction r with
  | plain head => exact absurd h (by simp [descendants])
  | related head type nested ih =>
      rw [descendants, mem_forest_iff] at h
      obtain ⟨p, hp, hq⟩ := h
      intro term hTerm
      refine mem_terms_of_mem_nested hp ?_
      -- the rule is nested right here, or further down
      rcases hq with rfl | hq
      · exact hTerm
      · exact ih p hp hq hTerm

theorem SubfieldRule.terms_subset_of_mem_forest {rules : List SubfieldRule} {q : SubfieldRule}
    (h : q ∈ forest rules) : q.terms ⊆ allTerms rules := by
  obtain ⟨r, hr, hq⟩ := mem_forest_iff.mp h
  intro term hTerm
  refine mem_allTerms_iff.mpr ⟨r, hr, ?_⟩
  rcases hq with rfl | hq
  · exact hTerm
  · exact terms_subset_of_mem_descendants hq hTerm

theorem SubfieldRule.mem_terms_of_class? {r : SubfieldRule} {type : Term} (h : r.class? = some type) :
    type ∈ r.terms := by
  cases r with
  | plain head => exact absurd h (by simp [class?])
  | related head type' nested =>
      obtain rfl := Option.some.inj h
      exact class_mem_terms head type' nested

theorem RuleBody.predicates_subset (body : RuleBody) : body.predicates ⊆ body.terms := by
  intro term h
  cases body with
  | control entries =>
      obtain ⟨entry, hEntry, rfl⟩ := List.mem_map.mp h
      exact List.mem_flatMap.mpr ⟨entry, hEntry, List.mem_cons_self⟩
  | data rules =>
      obtain ⟨q, hq, hTerm⟩ := List.mem_flatMap.mp h
      exact SubfieldRule.terms_subset_of_mem_forest hq (SubfieldRule.mem_terms_of_mem_predicate hTerm)

theorem RuleBody.classes_subset (body : RuleBody) : body.classes ⊆ body.terms := by
  intro term h
  cases body with
  | control entries =>
      obtain ⟨entry, hEntry, hType⟩ := List.mem_filterMap.mp h
      exact List.mem_flatMap.mpr ⟨entry, hEntry, by simp [ControlEntry.terms, hType]⟩
  | data rules =>
      obtain ⟨q, hq, hType⟩ := List.mem_filterMap.mp h
      exact SubfieldRule.terms_subset_of_mem_forest hq (SubfieldRule.mem_terms_of_class? hType)

theorem Spec.predicates_subset (m : Spec) : m.predicates ⊆ m.terms := by
  intro term h
  obtain ⟨rule, hRule, hTerm⟩ := List.mem_flatMap.mp h
  exact List.mem_flatMap.mpr ⟨rule, hRule, rule.body.predicates_subset hTerm⟩

theorem Spec.classes_subset (m : Spec) : m.classes ⊆ m.terms := by
  intro term h
  obtain ⟨rule, hRule, hTerm⟩ := List.mem_flatMap.mp h
  exact List.mem_flatMap.mpr ⟨rule, hRule, rule.body.classes_subset hTerm⟩

end Mapping

namespace Conversion

open CatalogGraph.Mapping CatalogGraph.Marc CatalogGraph.Rdf

/-! ## Assertions that go the same way -/

/-- The same fault or none, and statements that are related one by one. -/
structure Assertions.Alike (R : Statement → Statement → Prop) (a b : Assertions) : Prop where
  fault : a.fault = b.fault
  statements : List.Forall₂ R a.statements b.statements

/-- The same fault, or statements that are related one by one. -/
def OutcomesAlike (R : Statement → Statement → Prop) :
    Outcome (List Statement) → Outcome (List Statement) → Prop
  | .ok statements, .ok statements' => List.Forall₂ R statements statements'
  | .error e, .error e' => e = e'
  | _, _ => False

/-- Outcomes that are alike are alike for every weaker relation. -/
theorem OutcomesAlike.mono {R S : Statement → Statement → Prop} {o o' : Outcome (List Statement)}
    (h : OutcomesAlike R o o') (hImp : ∀ a b, R a b → S a b) : OutcomesAlike S o o' := by
  cases o with
  | error e =>
      cases o' with
      | error e' => exact h
      | ok statements' => exact h
  | ok statements =>
      cases o' with
      | error e' => exact h
      | ok statements' => exact List.Forall₂.imp hImp h

/-- Outcomes that are alike for equality are the same. -/
theorem OutcomesAlike.eq {o o' : Outcome (List Statement)} (h : OutcomesAlike Eq o o') : o = o' := by
  cases o with
  | error e =>
      cases o' with
      | error e' => exact congrArg Except.error h
      | ok statements' => exact h.elim
  | ok statements =>
      cases o' with
      | error e' => exact h.elim
      | ok statements' => exact congrArg Except.ok (List.forall₂_eq_eq_eq ▸ h)

namespace Assertions.Alike

variable {α β : Type} {R : Statement → Statement → Prop} {a b a' b' : Assertions}

theorem nothing : Alike R .nothing .nothing := ⟨rfl, .nil⟩

theorem one {s t : Statement} (h : R s t) : Alike R (.one s) (.one t) := ⟨rfl, .cons h .nil⟩

theorem andThen (ha : Alike R a a') (hb : Alike R b b') : Alike R (a.andThen b) (a'.andThen b') := by
  cases h : a.fault with
  | none =>
      have h' : a'.fault = none := ha.fault ▸ h
      rw [andThen_of_fault_eq_none h, andThen_of_fault_eq_none h']
      exact ⟨hb.fault, List.rel_append ha.statements hb.statements⟩
  | some e =>
      have h' : a'.fault = some e := ha.fault ▸ h
      rw [andThen_of_fault_eq_some h, andThen_of_fault_eq_some h']
      exact ha

/-- What comes after two outcomes, if both have the same fault, or values with alike assertions. -/
theorem after {o : Outcome α} {o' : Outcome β} {next : α → Assertions} {next' : β → Assertions}
    (hError : ∀ e, o = .error e → o' = .error e)
    (hOk : ∀ x, o = .ok x → ∃ y, o' = .ok y ∧ Alike R (next x) (next' y)) :
    Alike R (Assertions.after o next) (Assertions.after o' next') := by
  cases o with
  | error e =>
      rw [hError e rfl]
      exact ⟨rfl, .nil⟩
  | ok x =>
      obtain ⟨y, hy, hNext⟩ := hOk x rfl
      rw [hy]
      exact hNext

/-- What comes after one outcome. -/
theorem after_same {o : Outcome α} {next next' : α → Assertions}
    (h : ∀ x, o = .ok x → Alike R (next x) (next' x)) :
    Alike R (Assertions.after o next) (Assertions.after o next') :=
  after (fun _ he => he) fun x hx => ⟨x, hx, h x hx⟩

theorem each {f g : α → Assertions} {xs : List α} (h : ∀ x ∈ xs, Alike R (f x) (g x)) :
    Alike R (Assertions.each f xs) (Assertions.each g xs) := by
  induction xs with
  | nil => exact nothing
  | cons x xs ih =>
      obtain ⟨hHead, hRest⟩ := List.forall_mem_cons.mp h
      exact hHead.andThen (ih hRest)

theorem inRule (h : Alike R a b) (tag : String) (subfield : Option String) :
    Alike R (a.inRule tag subfield) (b.inRule tag subfield) :=
  ⟨congrArg (Option.map fun e : Fault => e.inRule tag subfield) h.fault, h.statements⟩

theorem outcome (h : Alike R a b) : OutcomesAlike R a.outcome b.outcome := by
  unfold Assertions.outcome
  rw [← h.fault]
  cases a.fault with
  | none => exact h.statements
  | some e => exact rfl

end Assertions.Alike

/-! ## Counterparts -/

/-- Two vocabularies that bind the same terms, and the subjects of two records. -/
structure Pairing where
  left : Vocabulary
  right : Vocabulary
  predicates : List Term
  classes : List Term
  subject : String
  subject' : String
  left_binds : left.Binds (predicates ++ classes)
  right_binds : right.Binds (predicates ++ classes)

namespace Pairing

/-- The same node, or the two subjects. -/
def Nodes (P : Pairing) (node node' : String) : Prop :=
  node = node' ∨ node = P.subject ∧ node' = P.subject'

/-- Two IRIs of a predicate. -/
def Predicates (P : Pairing) (iri iri' : String) : Prop := P.left.NamesBoth P.right P.predicates iri iri'

/-- Two IRIs of a class. -/
def Classes (P : Pairing) (iri iri' : String) : Prop := P.left.NamesBoth P.right P.classes iri iri'

/-- Two statements that differ in the IRIs of terms and in the subject of the record. -/
inductive Counterparts (P : Pairing) : Statement → Statement → Prop
  | said {node node' predicate predicate' : String} (object : Object) :
    P.Nodes node node' → P.Predicates predicate predicate' →
      Counterparts P ⟨node, predicate, object⟩ ⟨node', predicate', object⟩
  | typed {node node' iri iri' : String} :
    P.Nodes node node' → P.Classes iri iri' →
      Counterparts P (typeStatement node iri) (typeStatement node' iri')

/-- What a rule may come to, at any depth, is among the predicates and the classes. -/
structure Covers (P : Pairing) (r : SubfieldRule) : Prop where
  predicates : ∀ q, q = r ∨ q ∈ r.descendants → q.head.predicate.terms ⊆ P.predicates
  classes : ∀ q, q = r ∨ q ∈ r.descendants → ∀ type, q.class? = some type → type ∈ P.classes

variable {P : Pairing} {f : DataField}

theorem Covers.nested {head : RuleHead} {type : Term} {rules : List SubfieldRule} {q : SubfieldRule}
    (h : P.Covers (.related head type rules)) (hq : q ∈ rules) : P.Covers q where
  predicates := fun p hp => h.predicates p (Or.inr (SubfieldRule.mem_forest_iff.mpr ⟨q, hq, hp⟩))
  classes := fun p hp => h.classes p (Or.inr (SubfieldRule.mem_forest_iff.mpr ⟨q, hq, hp⟩))

theorem exists_predicates (P : Pairing) {term : Term} (h : term ∈ P.predicates) :
    ∃ iri iri', P.left.resolve term = .ok iri ∧ P.right.resolve term = .ok iri' ∧
      P.Predicates iri iri' :=
  (Vocabulary.binds_append_iff.mp P.left_binds).1.namesBoth
    (Vocabulary.binds_append_iff.mp P.right_binds).1 h

theorem exists_classes (P : Pairing) {term : Term} (h : term ∈ P.classes) :
    ∃ iri iri', P.left.resolve term = .ok iri ∧ P.right.resolve term = .ok iri' ∧ P.Classes iri iri' :=
  (Vocabulary.binds_append_iff.mp P.left_binds).2.namesBoth
    (Vocabulary.binds_append_iff.mp P.right_binds).2 h

/-! ## Subfield rules -/

/-- A predicate is chosen without a vocabulary, so it is the same term on both sides, or the same key that
is missing. -/
theorem after_predicateIri {p : Predicate} (hTerms : p.terms ⊆ P.predicates)
    {next next' : String → Assertions}
    (h : ∀ predicate predicate', P.Predicates predicate predicate' →
      Assertions.Alike P.Counterparts (next predicate) (next' predicate')) :
    Assertions.Alike P.Counterparts (Assertions.after (predicateIri P.left p f) next)
      (Assertions.after (predicateIri P.right p f) next') := by
  unfold predicateIri
  cases hChoice : choosePredicate p f with
  | error e => exact ⟨rfl, .nil⟩
  | ok term =>
      obtain ⟨iri, iri', hIri, hIri', hBoth⟩ :=
        P.exists_predicates (hTerms (mem_terms_of_choosePredicate hChoice))
      change Assertions.Alike P.Counterparts (Assertions.after (P.left.resolve term) next)
        (Assertions.after (P.right.resolve term) next')
      rw [hIri, hIri']
      exact h iri iri' hBoth

theorem typeAssertion_alike {type : Term} (h : type ∈ P.classes) (origin : Occurrence) (node : String) :
    Assertions.Alike P.Counterparts (typeAssertion P.left f origin node type)
      (typeAssertion P.right f origin node type) := by
  obtain ⟨iri, iri', hIri, hIri', hBoth⟩ := P.exists_classes h
  unfold typeAssertion
  rw [hIri, hIri']
  exact .one (.typed (Or.inl rfl) hBoth)

/-- What one value leads to.  The induction is on the rule: below a new node, which is the same on both
sides, each nested rule leads to counterparts. -/
theorem valueAssertions_alike {r : SubfieldRule} (hCovers : P.Covers r) {node node' : String}
    (hNode : P.Nodes node node') {predicate predicate' : String}
    (hPredicate : P.Predicates predicate predicate') (p : PlacedValue) :
    Assertions.Alike P.Counterparts (valueAssertions P.left f node predicate r p)
      (valueAssertions P.right f node' predicate' r p) := by
  induction r generalizing node node' predicate predicate' p with
  | plain head =>
      unfold valueAssertions
      split
      · exact .nothing
      refine .after_same fun objects _ => .each fun object _ => ?_
      exact .one (.said _ hNode hPredicate)
  | related head type rules ih =>
      unfold valueAssertions
      split
      · exact .nothing
      refine .after_same fun objects _ => .each fun object _ => ?_
      rw [objectAssertions_related, objectAssertions_related]
      refine .andThen (.one (.said _ hNode hPredicate)) ?_
      -- the new node comes from the object alone, and from there on both sides speak of the same node
      cases (objectUri object head.object.base).iri? with
      | none => exact .nothing
      | some uri =>
          refine .andThen (typeAssertion_alike (hCovers.classes _ (Or.inl rfl) type rfl) _ _) ?_
          rw [allNestedAssertions_eq, allNestedAssertions_eq]
          refine .each fun q hq => .inRule ?_ _ _
          rw [nestedAssertions_eq, nestedAssertions_eq]
          have hQ : P.Covers q := hCovers.nested hq
          refine after_predicateIri (hQ.predicates q (Or.inl rfl)) fun _ _ hBoth => ?_
          exact .each fun p' _ => ih q hq hQ (Or.inl rfl) hBoth p'

/-- What several rules say about the subjects of two records. -/
theorem rulesAssertions_alike {rules : List SubfieldRule} (hCovers : ∀ r ∈ rules, P.Covers r) :
    Assertions.Alike P.Counterparts (rulesAssertions P.left f P.subject rules)
      (rulesAssertions P.right f P.subject' rules) := by
  refine .each fun r hr => .inRule ?_ _ _
  rw [ruleAssertions_eq, ruleAssertions_eq]
  refine after_predicateIri ((hCovers r hr).predicates r (Or.inl rfl)) fun _ _ hBoth => ?_
  exact .each fun p _ => valueAssertions_alike (hCovers r hr) (Or.inr ⟨rfl, rfl⟩) hBoth p

/-! ## Control entries -/

theorem entryObject_alike {entry : ControlEntry} (hClass : ∀ type ∈ entry.type, type ∈ P.classes)
    {predicate predicate' : String} (hPredicate : P.Predicates predicate predicate')
    (object : String) :
    Assertions.Alike P.Counterparts (entryObject P.left P.subject predicate entry object)
      (entryObject P.right P.subject' predicate' entry object) := by
  have hSubject : P.Nodes P.subject P.subject' := Or.inr ⟨rfl, rfl⟩
  unfold entryObject
  split
  · exact .one (.said _ hSubject hPredicate)
  refine .andThen (.one (.said _ hSubject hPredicate)) ?_
  cases (objectUri object entry.object.base).iri? with
  | none => exact .nothing
  | some node =>
      cases hType : entry.type with
      | none => exact .nothing
      | some type =>
          obtain ⟨iri, iri', hIri, hIri', hBoth⟩ := P.exists_classes (hClass type hType)
          simp only [hIri, hIri', Assertions.after_ok]
          exact .one (.typed (Or.inl rfl) hBoth)

theorem entryAssertions_alike {entry : ControlEntry} (hPredicate : entry.predicate ∈ P.predicates)
    (hClass : ∀ type ∈ entry.type, type ∈ P.classes) (field : Field) :
    Assertions.Alike P.Counterparts (entryAssertions P.left P.subject field entry)
      (entryAssertions P.right P.subject' field entry) := by
  obtain ⟨iri, iri', hIri, hIri', hBoth⟩ := P.exists_predicates hPredicate
  unfold entryAssertions
  rw [hIri, hIri', Assertions.after_ok, Assertions.after_ok]
  exact .after_same fun objects _ => .each fun object _ => entryObject_alike hClass hBoth object

/-! ## Records -/

/-- What a block says about a field. -/
theorem bodyAssertions_alike {body : RuleBody} (hPredicates : body.predicates ⊆ P.predicates)
    (hClasses : body.classes ⊆ P.classes) (tag : String) (field : Field) :
    Assertions.Alike P.Counterparts (bodyAssertions P.left P.subject tag body field)
      (bodyAssertions P.right P.subject' tag body field) := by
  cases body with
  | control entries =>
      rw [bodyAssertions, bodyAssertions]
      split
      · exact .nothing
      refine .inRule (.each fun entry hEntry => ?_) _ _
      refine entryAssertions_alike (hPredicates (List.mem_map_of_mem hEntry)) (fun type hType => ?_) field
      exact hClasses (List.mem_filterMap.mpr ⟨entry, hEntry, hType⟩)
  | data rules =>
      cases field with
      | control f => exact .nothing
      | data f =>
          refine rulesAssertions_alike fun r hr => ⟨fun q hq term hTerm => ?_, fun q hq type hType => ?_⟩
          · exact hPredicates
              (List.mem_flatMap.mpr ⟨q, SubfieldRule.mem_forest_iff.mpr ⟨r, hr, hq⟩, hTerm⟩)
          · exact hClasses
              (List.mem_filterMap.mpr ⟨q, SubfieldRule.mem_forest_iff.mpr ⟨r, hr, hq⟩, hType⟩)

end Pairing

/-! ## Classes of records -/

/-- The terms of the classes of every record, where they can be read. -/
def Settings.types (settings : Settings) : List Term :=
  settings.recordTypes.filterMap fun text => (Term.read text).toOption

/-- Classes that have IRIs are terms, each with its IRI. -/
theorem forall₂_of_resolveAll {v : Vocabulary} {texts iris : List String}
    (h : resolveAll v texts = .ok iris) :
    List.Forall₂ (fun term iri => v.resolve term = .ok iri)
      (texts.filterMap fun text => (Term.read text).toOption) iris := by
  induction texts generalizing iris with
  | nil =>
      obtain rfl := Except.ok.inj h
      exact .nil
  | cons text rest ih =>
      obtain ⟨term, hTerm, h⟩ := Outcome.bind_eq_ok_iff.mp h
      obtain ⟨iri, hIri, h⟩ := Outcome.bind_eq_ok_iff.mp h
      obtain ⟨later, hLater, h⟩ := Outcome.bind_eq_ok_iff.mp h
      obtain rfl := Except.ok.inj h
      rw [List.filterMap_cons_some (by rw [hTerm]; rfl)]
      exact .cons hIri (ih hLater)

theorem binds_of_forall₂ {v : Vocabulary} {terms : List Term} {iris : List String}
    (h : List.Forall₂ (fun term iri => v.resolve term = .ok iri) terms iris) : v.Binds terms := by
  induction h with
  | nil => exact fun _ hTerm => absurd hTerm List.not_mem_nil
  | cons hIri _ ih => exact Vocabulary.binds_cons_iff.mpr ⟨⟨_, hIri⟩, ih⟩

/-- The IRIs of the same terms in two vocabularies. -/
theorem namesBoth_of_forall₂ {v w : Vocabulary} {terms all : List Term} {iris iris' : List String}
    (hAll : terms ⊆ all) (h : List.Forall₂ (fun term iri => v.resolve term = .ok iri) terms iris)
    (h' : List.Forall₂ (fun term iri => w.resolve term = .ok iri) terms iris') :
    List.Forall₂ (v.NamesBoth w all) iris iris' := by
  induction h generalizing iris' with
  | nil =>
      cases h'
      exact .nil
  | cons hIri _ ih =>
      cases h' with
      | cons hIri' hRest' =>
          obtain ⟨hTerm, hRest⟩ := List.cons_subset.mp hAll
          exact .cons ⟨_, hTerm, hIri, hIri'⟩ (ih hRest hRest')

namespace Converter

variable {m : Spec} {v w : Vocabulary} {settings : Settings} {c c' : Converter} {r r' : Record}

/-- A converter can be made where the vocabulary binds all predicates and classes. -/
theorem binds_of_create (h : create m v settings = .ok c) :
    v.Binds (m.predicates ++ (m.classes ++ settings.types)) := by
  obtain ⟨hCheck, types, hTypes, -⟩ := create_eq_ok_iff.mp h
  have hTerms : v.Binds m.terms := Spec.check_eq_ok_iff_binds.mp hCheck
  rw [Vocabulary.binds_append_iff, Vocabulary.binds_append_iff]
  exact ⟨hTerms.mono m.predicates_subset, hTerms.mono m.classes_subset,
    binds_of_forall₂ (forall₂_of_resolveAll hTypes)⟩

/-- The vocabularies of two converters for one mapping, and the subjects of two records. -/
def pairing (h : create m v settings = .ok c) (h' : create m w settings = .ok c')
    (subject subject' : String) : Pairing where
  left := v
  right := w
  predicates := m.predicates
  classes := m.classes ++ settings.types
  subject := subject
  subject' := subject'
  left_binds := binds_of_create h
  right_binds := binds_of_create h'

/-- Two converters for one mapping and two records, with the same fields under every tag that has rules:
the conversions fail in the same way, or succeed with counterparts. -/
theorem convert_alike (h : create m v settings = .ok c) (h' : create m w settings = .ok c')
    (hTags : r.tags = r'.tags)
    (hFields : ∀ tag, m.rulesFor tag ≠ [] → r.fieldsOf tag = r'.fieldsOf tag) :
    OutcomesAlike (pairing h h' (c.subjectOf r) (c'.subjectOf r')).Counterparts
      (c.convert r) (c'.convert r') := by
  obtain ⟨-, types, hTypes, rfl⟩ := create_eq_ok_iff.mp h
  obtain ⟨-, types', hTypes', rfl⟩ := create_eq_ok_iff.mp h'
  set P := pairing h h' (subjectOf ⟨m, v, settings.host, types⟩ r)
    (subjectOf ⟨m, w, settings.host, types'⟩ r')
  have hSubjects : P.Nodes P.subject P.subject' := Or.inr ⟨rfl, rfl⟩
  have hClasses : List.Forall₂ P.Classes types types' :=
    namesBoth_of_forall₂ (List.subset_append_right _ _) (forall₂_of_resolveAll hTypes)
      (forall₂_of_resolveAll hTypes')
  -- the classes of the record come first, then the tags of both records in one order
  refine Assertions.Alike.outcome (.andThen ?_ ?_)
  · rw [Assertions.each_one, Assertions.each_one]
    refine ⟨rfl, ?_⟩
    exact List.rel_map (fun _ _ hBoth => .typed hSubjects hBoth) hClasses
  · rw [← hTags]
    refine .each fun tag _ => ?_
    rw [tagAssertions_eq, tagAssertions_eq]
    refine .each fun rule hRule => ?_
    rw [← hFields tag (List.ne_nil_of_mem hRule)]
    have hMem : rule ∈ m.rules := (List.mem_filter.mp hRule).1
    refine .each fun field _ => P.bodyAssertions_alike (fun term h => ?_) (fun term h => ?_) tag field
    · exact List.mem_flatMap.mpr ⟨rule, hMem, h⟩
    · exact List.mem_append_left _ (List.mem_flatMap.mpr ⟨rule, hMem, h⟩)

/-! ## Other vocabularies -/

/-- Two statements that differ only in the IRIs of terms: of one predicate or, where a class is stated, of
one class. -/
structure SameTerms (v w : Vocabulary) (predicates classes : List Term) (a b : Statement) : Prop where
  subject : a.subject = b.subject
  predicate : a.predicate = Vocabulary.rdfType ∧ b.predicate = Vocabulary.rdfType ∨
    v.NamesBoth w predicates a.predicate b.predicate
  object : a.object = b.object ∨
    (a.predicate = Vocabulary.rdfType ∧ b.predicate = Vocabulary.rdfType) ∧
      ∃ iri iri', v.NamesBoth w classes iri iri' ∧ a.object = .iri iri ∧ b.object = .iri iri'

/-- **A vocabulary decides nothing but the IRIs of terms.**  Two converters that differ in their vocabulary
alone fail for a record with the same fault, or make as many statements about it: one by one with the same
subject, with IRIs of the same term as predicates, and with the same object or IRIs of the same class. -/
theorem convert_under_vocabularies (h : create m v settings = .ok c) (h' : create m w settings = .ok c')
    (r : Record) :
    OutcomesAlike (SameTerms v w m.predicates (m.classes ++ settings.types))
      (c.convert r) (c'.convert r) := by
  have hSubject : c.subjectOf r = c'.subjectOf r := by
    obtain ⟨-, types, -, rfl⟩ := create_eq_ok_iff.mp h
    obtain ⟨-, types', -, rfl⟩ := create_eq_ok_iff.mp h'
    rfl
  refine (convert_alike h h' rfl fun _ _ => rfl).mono fun a b hAlike => ?_
  have hNode : ∀ {node node' : String}, (pairing h h' (c.subjectOf r) (c'.subjectOf r)).Nodes node node' →
      node = node' := by
    rintro node node' (hSame | ⟨rfl, rfl⟩)
    · exact hSame
    · exact hSubject
  cases hAlike with
  | said object hNodes hPredicates =>
      exact ⟨hNode hNodes, Or.inr hPredicates, Or.inl rfl⟩
  | typed hNodes hClasses =>
      exact ⟨hNode hNodes, Or.inl ⟨rfl, rfl⟩, Or.inr ⟨⟨rfl, rfl⟩, _, _, hClasses, rfl, rfl⟩⟩

/-- Topics as nodes, under two vocabularies for the label `ex`. -/
theorem convert_under_vocabularies_topics :
    let label : SubfieldRule := .plain ⟨"a", .fixed (.qualified "ex" "label"), {}⟩
    let topic : SubfieldRule :=
      .related ⟨"a", .fixed (.qualified "ex" "topic"), { base := "urn://topics/" }⟩
        (.qualified "ex" "Topic") [label]
    let m : Spec := ⟨[⟨"650", .data [topic]⟩]⟩
    let v := Vocabulary.core.bind "ex" "urn:one:"
    let w := Vocabulary.core.bind "EX" "urn:two:"
    let settings : Settings := { recordTypes := ["ex.Book"] }
    let c : Converter := ⟨m, v, "placeholder.com", ["urn:one:Book"]⟩
    let c' : Converter := ⟨m, w, "placeholder.com", ["urn:two:Book"]⟩
    let r := Record.ofFields [.data ⟨"650", ' ', '0', [⟨'a', "cats"⟩]⟩]
    (create m v settings = .ok c ∧ create m w settings = .ok c') ∧
      c'.convert r = .ok [typeStatement (c.subjectOf r) "urn:two:Book",
        ⟨c.subjectOf r, "urn:two:topic", .iri "urn://topics/cats"⟩,
        typeStatement "urn://topics/cats" "urn:two:Topic",
        ⟨"urn://topics/cats", "urn:two:label", .plain "cats"⟩] ∧
      OutcomesAlike (SameTerms v w m.predicates (m.classes ++ settings.types))
        (c.convert r) (c'.convert r) := by
  intro label topic m v w settings c c' r
  have hCreate : create m v settings = .ok c := rfl
  have hCreate' : create m w settings = .ok c' := rfl
  refine ⟨⟨hCreate, hCreate'⟩, ?_, convert_under_vocabularies hCreate hCreate' r⟩
  rw [convert, Assertions.outcome_eq_ok_iff]
  decide +kernel

/-! ## Other identifiers -/

/-- Two statements that are the same, but for the subjects of two records. -/
structure SameBut (subject subject' : String) (a b : Statement) : Prop where
  subject : a.subject = b.subject ∨ a.subject = subject ∧ b.subject = subject'
  predicate : a.predicate = b.predicate
  object : a.object = b.object

/-- In one vocabulary a term has one IRI. -/
theorem eq_of_namesBoth {terms : List Term} {iri iri' : String} (h : v.NamesBoth v terms iri iri') :
    iri = iri' := by
  obtain ⟨term, -, hIri, hIri'⟩ := h
  exact Except.ok.inj (hIri.symm.trans hIri')

/-- Identifiers that are read as the same integer make the same subject. -/
theorem subjectOf_eq_of_integerReading_eq {number number' : String} (c : Converter)
    (h : r.controlNumber? = some number) (h' : r'.controlNumber? = some number')
    (hReading : integerReading number = integerReading number') : c.subjectOf r = c.subjectOf r' := by
  unfold subjectOf subjectUri
  rw [h, h', Option.getD_some, Option.getD_some, hReading]

/-- **The identifier of a record decides nothing but its subject.**  Where no rule is for the tag 001,
another value in the first control field 001 leaves the fault of a conversion as it is, or the number of
statements with their predicates and objects; a subject stays too, or it is that of the one record and
becomes that of the other.  If both values are read as the same integer nothing changes. -/
theorem convert_setControlNumber (h : create m v settings = .ok c) (hRules : m.hasTag "001" = false)
    {number : String} (hNumber : r.controlValue? "001" = some number) (value : String) :
    OutcomesAlike (SameBut (c.subjectOf r) (c.subjectOf (r.setControlNumber value)))
        (c.convert r) (c.convert (r.setControlNumber value)) ∧
      (integerReading number = integerReading value →
        c.convert r = c.convert (r.setControlNumber value)) := by
  have hTags : r.tags = (r.setControlNumber value).tags := (Record.tags_setControlNumber hNumber value).symm
  have hFields : ∀ tag, m.rulesFor tag ≠ [] →
      r.fieldsOf tag = (r.setControlNumber value).fieldsOf tag := by
    intro tag hTag
    rw [Record.fieldsOf_setControlNumber, if_neg]
    rintro rfl
    exact hTag (Spec.rulesFor_of_hasTag_eq_false hRules)
  have hAlike : OutcomesAlike (SameBut (c.subjectOf r) (c.subjectOf (r.setControlNumber value)))
      (c.convert r) (c.convert (r.setControlNumber value)) := by
    refine (convert_alike h h hTags hFields).mono fun a b hCounterparts => ?_
    cases hCounterparts with
    | said object hNodes hPredicates => exact ⟨hNodes, eq_of_namesBoth hPredicates, rfl⟩
    | typed hNodes hClasses => exact ⟨hNodes, rfl, congrArg Object.iri (eq_of_namesBoth hClasses)⟩
  refine ⟨hAlike, fun hReading => (hAlike.mono fun a b hSame => ?_).eq⟩
  have hSubjects : c.subjectOf r = c.subjectOf (r.setControlNumber value) :=
    subjectOf_eq_of_integerReading_eq c (Record.controlNumber?_of_controlValue? hNumber)
      (Record.controlNumber?_setControlNumber hNumber value) hReading
  have hSubject : a.subject = b.subject := by
    rcases hSame.subject with hEq | ⟨ha, hb⟩
    · exact hEq
    · rw [ha, hb, hSubjects]
  cases a
  cases b
  rw [Statement.mk.injEq]
  exact ⟨hSubject, hSame.predicate, hSame.object⟩

/-- The numbers 7 and 8 for a record with a topic, and 7 written as `007`. -/
theorem convert_setControlNumber_seven :
    let topic : SubfieldRule :=
      .related ⟨"a", .fixed (.iri "urn:topic"), { base := "urn://topics/" }⟩ (.iri "urn:Topic") []
    let m : Spec := ⟨[⟨"650", .data [topic]⟩]⟩
    let c : Converter := ⟨m, .core, "placeholder.com", []⟩
    let r := Record.ofFields
      [.control ⟨"001", "7"⟩, .data ⟨"650", ' ', '0', [⟨'a', "cats"⟩]⟩]
    (create m .core {} = .ok c ∧ m.hasTag "001" = false ∧ r.controlValue? "001" = some "7" ∧
      integerReading "7" = integerReading "007") ∧
      c.convert (r.setControlNumber "8") =
        .ok [⟨subjectUri "placeholder.com" "8", "urn:topic", .iri "urn://topics/cats"⟩,
          typeStatement "urn://topics/cats" "urn:Topic"] ∧
      OutcomesAlike (SameBut (c.subjectOf r) (c.subjectOf (r.setControlNumber "8")))
        (c.convert r) (c.convert (r.setControlNumber "8")) ∧
      c.convert r = c.convert (r.setControlNumber "007") := by
  intro topic m c r
  have hCreate : create m .core {} = .ok c := rfl
  have hRules : m.hasTag "001" = false := by decide
  have hNumber : r.controlValue? "001" = some "7" := by decide +kernel
  have hReading : integerReading "7" = integerReading "007" := by decide +kernel
  refine ⟨⟨hCreate, hRules, hNumber, hReading⟩, ?_, ?_, ?_⟩
  · rw [convert, Assertions.outcome_eq_ok_iff]
    decide +kernel
  · exact (convert_setControlNumber hCreate hRules hNumber "8").1
  · exact (convert_setControlNumber hCreate hRules hNumber "007").2 hReading

end Converter

end Conversion

end CatalogGraph
