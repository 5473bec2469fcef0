import CatalogGraph.Conversion.Converter
import CatalogGraph.Proofs.RuleApplication

/-!
# Where nodes are made from

A conversion expands a relation when an object has become a node: it says the class of the node, and applies the
nested rules to the field once more.  A nested rule with the code of the rule that made the node reads the
subfield at the place it is given, and does not look at the code of this subfield again.

The conversion is repeated here with a record of the expansions it begins (`Traced`); without them it says what it
says otherwise (`Converter.traced_assertions`).  One invariant goes through all of it: an expansion is begun for
a subfield of the field that has a value and that the code of the rule names (`Occurrence.IsIn`).

* for a record it holds because a rule looks at the code of every subfield;
* below a node it holds because it held for this node: what a nested rule selects is then always under its code
  (`mem_placedValues_of_mem_selectValues`).

No expansion is left out of the trace: whatever a conversion says about another node than the record is said in an
expansion about its node, or is a class that an entry for control fields gives (`Converter.covers_traced`).  What holds
of every step holds of steps put together (`Traced.IsHereditary`).
-/

namespace CatalogGraph.Conversion

open CatalogGraph.Mapping CatalogGraph.Marc CatalogGraph.Rdf

/-! ## Traces -/

/-- The expansion of a relation: what a node is made from, the node, and what the relation has for it. -/
structure Expansion where
  field : DataField
  origin : Occurrence
  node : String
  type : Term
  nested : List SubfieldRule

/-- What is said when a relation is expanded. -/
def Expansion.assertions (v : Vocabulary) (e : Expansion) : Assertions :=
  relationAssertions v e.field e.origin e.node e.type e.nested

/-- What a step of a conversion comes to, with the expansions that it begins, in order. -/
structure Traced where
  assertions : Assertions
  expansions : List Expansion

namespace Traced

variable {α : Type}

/-- A step that expands nothing. -/
def plain (a : Assertions) : Traced := ⟨a, []⟩

/-- A step that begins an expansion and goes on. -/
def begin (e : Expansion) (a : Traced) : Traced := { a with expansions := e :: a.expansions }

/-- A step and then, unless a fault ended it, another one. -/
def andThen (a b : Traced) : Traced :=
  match a.assertions.fault with
  | none => ⟨a.assertions.andThen b.assertions, a.expansions ++ b.expansions⟩
  | some _ => a

/-- What follows from the value of an outcome, or its fault. -/
def after (o : Outcome α) (next : α → Traced) : Traced :=
  match o with
  | .ok a => next a
  | .error e => plain (.failed e)

/-- The steps for the elements of a list, one after the other. -/
def each (f : α → Traced) : List α → Traced
  | [] => plain .nothing
  | a :: rest => (f a).andThen (each f rest)

/-- A step with its fault, if there is one, met in a rule. -/
def inRule (a : Traced) (tag : String) (subfield : Option String) : Traced :=
  { a with assertions := a.assertions.inRule tag subfield }

/-! Without the expansions the steps are those of a conversion. -/

@[simp] theorem plain_assertions (a : Assertions) : (plain a).assertions = a := rfl

@[simp] theorem begin_assertions (e : Expansion) (a : Traced) : (begin e a).assertions = a.assertions := rfl

@[simp] theorem inRule_assertions (a : Traced) (tag : String) (subfield : Option String) :
    (a.inRule tag subfield).assertions = a.assertions.inRule tag subfield := rfl

@[simp] theorem andThen_assertions (a b : Traced) :
    (a.andThen b).assertions = a.assertions.andThen b.assertions := by
  unfold andThen
  split
  · rfl
  · next h => exact (Assertions.andThen_of_fault_eq_some h _).symm

@[simp] theorem after_assertions (o : Outcome α) (next : α → Traced) :
    (after o next).assertions = .after o fun a => (next a).assertions := by
  cases o with
  | ok a => rfl
  | error e => rfl

@[simp] theorem each_assertions (f : α → Traced) (xs : List α) :
    (each f xs).assertions = .each (fun a => (f a).assertions) xs := by
  induction xs with
  | nil => rfl
  | cons x xs ih => rw [each, andThen_assertions, ih, Assertions.each_cons]

/-! What holds of every step and then of all steps together. -/

/-- A property that steps have together if each of them has it. -/
structure IsHereditary (P : Traced → Prop) : Prop where
  nothing : P (plain .nothing)
  failed : ∀ e, P (plain (.failed e))
  andThen : ∀ {a b : Traced}, P a → P b → P (a.andThen b)

namespace IsHereditary

variable {P : Traced → Prop}

theorem after (h : IsHereditary P) {o : Outcome α} {next : α → Traced} (hNext : ∀ a, P (next a)) :
    P (Traced.after o next) := by
  cases o with
  | ok a => exact hNext a
  | error e => exact h.failed e

theorem each (h : IsHereditary P) {f : α → Traced} {xs : List α} (hEach : ∀ x ∈ xs, P (f x)) :
    P (Traced.each f xs) := by
  induction xs with
  | nil => exact h.nothing
  | cons x xs ih =>
      obtain ⟨hFirst, hRest⟩ := List.forall_mem_cons.mp hEach
      exact h.andThen hFirst (ih hRest)

end IsHereditary

/-- Something holds for all expansions of a step. -/
def All (P : Expansion → Prop) (a : Traced) : Prop := ∀ e ∈ a.expansions, P e

theorem all_plain {P : Expansion → Prop} (a : Assertions) : All P (plain a) :=
  fun _ he => absurd he List.not_mem_nil

theorem all_begin {P : Expansion → Prop} {e : Expansion} {a : Traced} (he : P e) (ha : All P a) :
    All P (begin e a) :=
  List.forall_mem_cons.mpr ⟨he, ha⟩

theorem isHereditary_all (P : Expansion → Prop) : IsHereditary (All P) where
  nothing := all_plain _
  failed _ := all_plain _
  andThen {a b} ha hb := by
    unfold Traced.andThen
    split
    · exact List.forall_mem_append.mpr ⟨ha, hb⟩
    · exact ha

/-- Everything that a step says is of some kind, or is said about the node of an expansion that it begins, and said
when this is expanded. -/
def Covers (v : Vocabulary) (own : Statement → Prop) (a : Traced) : Prop :=
  ∀ t ∈ a.assertions.statements,
    own t ∨ ∃ e ∈ a.expansions, t.subject = e.node ∧ t ∈ (e.assertions v).statements

variable {v : Vocabulary} {own : Statement → Prop}

theorem covers_plain {a : Assertions} (h : ∀ t ∈ a.statements, own t) : Covers v own (plain a) :=
  fun t ht => Or.inl (h t ht)

theorem covers_one {s : Statement} (h : own s) : Covers v own (plain (.one s)) :=
  covers_plain fun t ht => by rwa [List.mem_singleton.mp ht]

theorem Covers.mono {a : Traced} {wider : Statement → Prop} (h : Covers v own a) (hOwn : ∀ t, own t → wider t) :
    Covers v wider a :=
  fun t ht => (h t ht).imp_left (hOwn t)

/-- What is said in an expansion is about its node, or about the node of another expansion inside of it. -/
theorem covers_begin {e : Expansion} {a : Traced} (hSaid : a.assertions = e.assertions v)
    (h : Covers v (·.subject = e.node) a) : Covers v own (begin e a) := by
  intro t ht
  refine Or.inr ?_
  rcases h t ht with hSubject | ⟨inner, hMem, hInner⟩
  · exact ⟨e, List.mem_cons_self, hSubject, hSaid ▸ ht⟩
  · exact ⟨inner, List.mem_cons_of_mem _ hMem, hInner⟩

theorem isHereditary_covers (v : Vocabulary) (own : Statement → Prop) : IsHereditary (Covers v own) where
  nothing _ ht := absurd ht List.not_mem_nil
  failed _ _ ht := absurd ht List.not_mem_nil
  andThen {a b} ha hb t ht := by
    unfold Traced.andThen at ht ⊢
    split at ht
    · rcases Assertions.mem_statements_andThen ht with ht | ht
      · exact (ha t ht).imp_right fun ⟨e, he, hSaid⟩ => ⟨e, List.mem_append_left _ he, hSaid⟩
      · exact (hb t ht).imp_right fun ⟨e, he, hSaid⟩ => ⟨e, List.mem_append_right _ he, hSaid⟩
    · exact ha t ht

end Traced

/-! ## Rules -/

mutual
/-- What a rule says about a node because of the value at a place, with the expansions. -/
def tracedValue (v : Vocabulary) (f : DataField) (node predicate : String) (p : PlacedValue) :
    SubfieldRule → Traced
  | .plain head =>
    if p.value = "" then .plain .nothing
    else .after (generate p.value (some f) head.object.pipeline) (.each fun object =>
      .plain (.one ⟨node, predicate, objectOf head.object object⟩))
  | .related head type nested =>
    if p.value = "" then .plain .nothing
    else .after (generate p.value (some f) head.object.pipeline) (.each fun object =>
      (Traced.plain (.one ⟨node, predicate, objectUri object head.object.base⟩)).andThen
        (match (objectUri object head.object.base).iri? with
        | some uri =>
          let here := ⟨head.code, p.index⟩
          .begin ⟨f, here, uri, type, nested⟩
            ((Traced.plain (typeAssertion v f here uri type)).andThen (tracedNested v f here uri nested))
        | none => .plain .nothing))

/-- What several nested rules say about the node that was made from `origin`, with the expansions. -/
def tracedNested (v : Vocabulary) (f : DataField) (origin : Occurrence) (node : String) :
    List SubfieldRule → Traced
  | [] => .plain .nothing
  | q :: rest =>
    ((Traced.after (predicateIri v q.head.predicate f) fun predicate =>
        .each (fun p => tracedValue v f node predicate p q) (selectValues q.code origin f)).inRule
      f.tag (some q.code)).andThen (tracedNested v f origin node rest)
end

/-- What several rules say about the subject of a record, with the expansions. -/
def tracedRules (v : Vocabulary) (f : DataField) (subject : String) (rules : List SubfieldRule) : Traced :=
  .each (fun r => (Traced.after (predicateIri v r.head.predicate f) fun predicate =>
    .each (fun p => tracedValue v f subject predicate p r) (placedValues r.code f)).inRule
      f.tag (some r.code)) rules

variable {v : Vocabulary} {f : DataField}

theorem tracedNested_assertions {nested : List SubfieldRule}
    (h : ∀ q ∈ nested, ∀ node predicate p,
      (tracedValue v f node predicate p q).assertions = valueAssertions v f node predicate q p)
    (origin : Occurrence) (node : String) :
    (tracedNested v f origin node nested).assertions = allNestedAssertions v f origin node nested := by
  induction nested with
  | nil => rfl
  | cons q rest ih =>
      obtain ⟨hFirst, hRest⟩ := List.forall_mem_cons.mp h
      rw [tracedNested, allNestedAssertions, nestedAssertions_eq]
      simp only [Traced.andThen_assertions, Traced.inRule_assertions, Traced.after_assertions,
        Traced.each_assertions, hFirst, ih hRest]

theorem tracedValue_assertions (r : SubfieldRule) (node predicate : String) (p : PlacedValue) :
    (tracedValue v f node predicate p r).assertions = valueAssertions v f node predicate r p := by
  induction r generalizing node predicate p with
  | plain head =>
      rw [tracedValue, valueAssertions]
      split
      · rfl
      · simp only [Traced.after_assertions, Traced.each_assertions, Traced.plain_assertions]
        rfl
  | related head type nested ih =>
      rw [tracedValue, valueAssertions]
      split
      · rfl
      -- object by object: the link to the node, then the relation with its nested rules by induction
      · rw [Traced.after_assertions]
        congr 1
        funext objects
        rw [Traced.each_assertions]
        refine Assertions.each_congr fun object _ => ?_
        rw [objectAssertions_related, Traced.andThen_assertions, Traced.plain_assertions]
        congr 1
        cases (objectUri object head.object.base).iri? with
        | none => rfl
        | some uri =>
            simp only [Traced.begin_assertions, Traced.andThen_assertions, Traced.plain_assertions,
              tracedNested_assertions ih, relationAssertions]

/-- Without the expansions, what rules say is what they say in a conversion. -/
theorem tracedRules_assertions (subject : String) (rules : List SubfieldRule) :
    (tracedRules v f subject rules).assertions = rulesAssertions v f subject rules := by
  unfold tracedRules rulesAssertions
  simp only [Traced.each_assertions, Traced.inRule_assertions, Traced.after_assertions, ruleAssertions_eq,
    tracedValue_assertions]

/-- An expansion that is begun says what its relation says. -/
theorem tracedRelation_assertions (origin : Occurrence) (node : String) (type : Term) (nested : List SubfieldRule) :
    ((Traced.plain (typeAssertion v f origin node type)).andThen (tracedNested v f origin node nested)).assertions =
      Expansion.assertions v ⟨f, origin, node, type, nested⟩ := by
  rw [Traced.andThen_assertions, Traced.plain_assertions,
    tracedNested_assertions fun q _ => tracedValue_assertions q]
  rfl

theorem covers_typeAssertion (origin : Occurrence) (node : String) (type : Term) :
    (Traced.plain (typeAssertion v f origin node type)).Covers v (·.subject = node) := by
  refine Traced.covers_plain fun t ht => ?_
  obtain ⟨iri, -, ht⟩ := Assertions.mem_statements_after ht
  rw [List.mem_singleton.mp ht]
  rfl

theorem covers_tracedNested {nested : List SubfieldRule}
    (h : ∀ q ∈ nested, ∀ node predicate p, (tracedValue v f node predicate p q).Covers v (·.subject = node))
    (origin : Occurrence) (node : String) :
    (tracedNested v f origin node nested).Covers v (·.subject = node) := by
  have hSteps := Traced.isHereditary_covers v (·.subject = node)
  induction nested with
  | nil => exact hSteps.nothing
  | cons q rest ih =>
      obtain ⟨hFirst, hRest⟩ := List.forall_mem_cons.mp h
      rw [tracedNested]
      refine hSteps.andThen (hSteps.after fun predicate => hSteps.each fun p _ => ?_) (ih hRest)
      exact hFirst node predicate p

theorem covers_tracedValue (r : SubfieldRule) (node predicate : String) (p : PlacedValue) :
    (tracedValue v f node predicate p r).Covers v (·.subject = node) := by
  induction r generalizing node predicate p with
  | plain head =>
      have hSteps := Traced.isHereditary_covers v (·.subject = node)
      rw [tracedValue]
      split
      · exact hSteps.nothing
      · exact hSteps.after fun objects => hSteps.each fun object _ => Traced.covers_one rfl
  | related head type nested ih =>
      have hSteps := Traced.isHereditary_covers v (·.subject = node)
      rw [tracedValue]
      split
      · exact hSteps.nothing
      · refine hSteps.after fun objects => hSteps.each fun object _ => ?_
        refine hSteps.andThen (Traced.covers_one rfl) ?_
        split
        · next uri _ =>
            refine Traced.covers_begin (tracedRelation_assertions _ uri type nested) ?_
            exact (Traced.isHereditary_covers v (·.subject = uri)).andThen (covers_typeAssertion _ _ _)
              (covers_tracedNested ih _ _)
        · exact hSteps.nothing

/-- Whatever rules say that is not about the subject of the record is said in an expansion. -/
theorem covers_tracedRules (subject : String) (rules : List SubfieldRule) :
    (tracedRules v f subject rules).Covers v (·.subject = subject) := by
  have hSteps := Traced.isHereditary_covers v (·.subject = subject)
  refine hSteps.each fun r _ => hSteps.after fun predicate => hSteps.each fun p _ => ?_
  exact covers_tracedValue r subject predicate p

/-! ## Origins -/

/-- A place in a field where there is a value under a code. -/
def Occurrence.IsIn (o : Occurrence) (f : DataField) : Prop :=
  ∃ s, f.subfields[o.index]? = some s ∧ s.value ≠ "" ∧ codeMatches o.code s.code = true

/-- What is selected below a node is under the code of the nested rule, if the node was made from a subfield under
its own code. -/
theorem mem_placedValues_of_mem_selectValues {origin : Occurrence} (h : origin.IsIn f) {code : String}
    {p : PlacedValue} (hp : p ∈ selectValues code origin f) : p ∈ placedValues code f := by
  by_cases hCode : origin.code = code
  -- here the code of the subfield is not looked at again; it is known from the origin
  · obtain ⟨s, hAt, -, hMatch⟩ := h
    rw [selectValues_of_code_eq hCode, valueAt, hAt, Option.map_some, Option.toList_some, List.mem_singleton] at hp
    subst hp
    exact mem_placedValues_iff.mpr ⟨s, hAt, hCode ▸ hMatch, rfl⟩
  · rwa [selectValues_of_code_ne hCode] at hp

/-- Below a node a rule with the code of its rule selects the subfield that the node is from, and no other. -/
theorem selectValues_self {origin : Occurrence} {s : Subfield} (h : f.subfields[origin.index]? = some s) :
    selectValues origin.code origin f = [⟨origin.index, s.value⟩] := by
  rw [selectValues_of_code_eq rfl, valueAt, h]
  rfl

/-- An expansion for a field, begun for one of its subfields that has a value under the code of the rule. -/
def IsBegunIn (f : DataField) (e : Expansion) : Prop := e.field = f ∧ e.origin.IsIn f

theorem all_tracedNested {nested : List SubfieldRule}
    (h : ∀ q ∈ nested, ∀ node predicate p, p ∈ placedValues q.code f →
      (tracedValue v f node predicate p q).All (IsBegunIn f))
    {origin : Occurrence} (hOrigin : origin.IsIn f) (node : String) :
    (tracedNested v f origin node nested).All (IsBegunIn f) := by
  have hSteps := Traced.isHereditary_all (IsBegunIn f)
  induction nested with
  | nil => exact Traced.all_plain _
  | cons q rest ih =>
      obtain ⟨hFirst, hRest⟩ := List.forall_mem_cons.mp h
      rw [tracedNested]
      refine hSteps.andThen (hSteps.after fun predicate => hSteps.each fun p hp => ?_) (ih hRest)
      exact hFirst node predicate p (mem_placedValues_of_mem_selectValues hOrigin hp)

/-- A rule that is given a value under its code hands on only places with a value under its code. -/
theorem all_tracedValue (r : SubfieldRule) (node predicate : String) (p : PlacedValue)
    (hp : p ∈ placedValues r.code f) : (tracedValue v f node predicate p r).All (IsBegunIn f) := by
  have hSteps := Traced.isHereditary_all (IsBegunIn f)
  induction r generalizing node predicate p with
  | plain head =>
      rw [tracedValue]
      split
      · exact Traced.all_plain _
      · exact hSteps.after fun objects => hSteps.each fun object _ => Traced.all_plain _
  | related head type nested ih =>
      rw [tracedValue]
      split
      · exact Traced.all_plain _
      · next hValue =>
          -- the value is not empty and is under the code of this rule: so its place may be handed on
          obtain ⟨s, hAt, hMatch, hSame⟩ := mem_placedValues_iff.mp hp
          have hHere : Occurrence.IsIn ⟨head.code, p.index⟩ f := ⟨s, hAt, hSame ▸ hValue, hMatch⟩
          refine hSteps.after fun objects => hSteps.each fun object _ => ?_
          refine hSteps.andThen (Traced.all_plain _) ?_
          split
          · refine Traced.all_begin ⟨rfl, hHere⟩ ?_
            exact hSteps.andThen (Traced.all_plain _) (all_tracedNested ih hHere _)
          · exact Traced.all_plain _

theorem all_tracedRules (subject : String) (rules : List SubfieldRule) :
    (tracedRules v f subject rules).All (IsBegunIn f) := by
  have hSteps := Traced.isHereditary_all (IsBegunIn f)
  refine hSteps.each fun r _ => hSteps.after fun predicate => hSteps.each fun p hp => ?_
  exact all_tracedValue r subject predicate p hp

/-! ## Records -/

/-- What the rules of a block say about a field, with the expansions.  Entries for control fields expand
nothing. -/
def tracedBody (v : Vocabulary) (subject tag : String) (body : RuleBody) (field : Field) : Traced :=
  match body, field with
  | .data rules, .data f => tracedRules v f subject rules
  | _, _ => .plain (bodyAssertions v subject tag body field)

theorem tracedBody_assertions (subject tag : String) (body : RuleBody) (field : Field) :
    (tracedBody v subject tag body field).assertions = bodyAssertions v subject tag body field := by
  unfold tracedBody
  split
  · exact tracedRules_assertions subject _
  · rfl

/-- A statement is the class that an entry for control fields gives to a node. -/
def IsEntryClass (v : Vocabulary) (body : RuleBody) (t : Statement) : Prop :=
  ∃ entries, body = .control entries ∧ ∃ e ∈ entries, ∃ type iri node,
    e.type = some type ∧ v.resolve type = .ok iri ∧ t = typeStatement node iri

/-- An entry says something about the subject of the record, and gives its objects their class. -/
theorem subject_or_class_of_mem_entryAssertions {subject : String} {field : Field} {e : ControlEntry} {t : Statement}
    (h : t ∈ (entryAssertions v subject field e).statements) :
    t.subject = subject ∨
      ∃ type iri node, e.type = some type ∧ v.resolve type = .ok iri ∧ t = typeStatement node iri := by
  obtain ⟨predicate, -, h⟩ := Assertions.mem_statements_after h
  obtain ⟨objects, -, h⟩ := Assertions.mem_statements_after h
  obtain ⟨object, -, h⟩ := Assertions.mem_statements_each h
  unfold entryObject at h
  split at h
  · rw [List.mem_singleton.mp h]
    exact Or.inl rfl
  · rcases Assertions.mem_statements_andThen h with hLink | hClass
    · rw [List.mem_singleton.mp hLink]
      exact Or.inl rfl
    · split at hClass
      · next node type _ hType =>
          obtain ⟨iri, hIri, hClass⟩ := Assertions.mem_statements_after hClass
          exact Or.inr ⟨type, iri, node, hType, hIri, List.mem_singleton.mp hClass⟩
      · exact absurd hClass List.not_mem_nil

theorem subject_or_isEntryClass_of_mem_bodyAssertions {subject tag : String} {entries : List ControlEntry}
    {field : Field} {t : Statement} (h : t ∈ (bodyAssertions v subject tag (.control entries) field).statements) :
    t.subject = subject ∨ IsEntryClass v (.control entries) t := by
  rw [bodyAssertions] at h
  split at h
  · exact absurd h List.not_mem_nil
  · obtain ⟨e, he, ht⟩ := Assertions.mem_statements_each h
    exact (subject_or_class_of_mem_entryAssertions ht).imp_right fun hClass => ⟨entries, rfl, e, he, hClass⟩

theorem covers_tracedBody (subject tag : String) (body : RuleBody) (field : Field) :
    (tracedBody v subject tag body field).Covers v fun t => t.subject = subject ∨ IsEntryClass v body t := by
  cases body with
  | control entries => exact Traced.covers_plain fun t => subject_or_isEntryClass_of_mem_bodyAssertions
  | data rules =>
      cases field with
      | control f => exact (Traced.isHereditary_covers v _).nothing
      | data f => exact (covers_tracedRules subject rules).mono fun _ => Or.inl

theorem all_tracedBody (subject tag : String) (body : RuleBody) (field : Field) :
    (tracedBody v subject tag body field).All fun e => field = .data e.field ∧ e.origin.IsIn e.field := by
  unfold tracedBody
  split
  · next rules f =>
      intro e he
      obtain ⟨rfl, hOrigin⟩ := all_tracedRules subject rules e he
      exact ⟨rfl, hOrigin⟩
  · exact Traced.all_plain _

namespace Converter

/-- What the mapping says about the fields of a record with a tag, with the expansions. -/
def tracedTag (c : Converter) (r : Record) (tag : String) : Traced :=
  if c.mapping.hasTag tag then
    .each (fun (rule : TagRule) =>
      .each (tracedBody c.vocabulary (c.subjectOf r) tag rule.body) (r.fieldsOf tag)) (c.mapping.rulesFor tag)
  else .plain .nothing

/-- What is said about a record, with the expansions. -/
def traced (c : Converter) (r : Record) : Traced :=
  (Traced.plain (.each .one (c.typeStatements r))).andThen (.each (c.tracedTag r) r.tags)

theorem tracedTag_assertions (c : Converter) (r : Record) (tag : String) :
    (c.tracedTag r tag).assertions = c.tagAssertions r tag := by
  unfold tracedTag tagAssertions
  split
  · simp only [Traced.each_assertions, tracedBody_assertions]
  · rfl

/-- Without the expansions, what is said about a record is what a conversion says about it. -/
theorem traced_assertions (c : Converter) (r : Record) : (c.traced r).assertions = c.recordAssertions r := by
  simp only [traced, Traced.andThen_assertions, Traced.plain_assertions, Traced.each_assertions,
    tracedTag_assertions, recordAssertions]

theorem all_traced (c : Converter) (r : Record) :
    (c.traced r).All fun e => (∃ tag ∈ r.tags, .data e.field ∈ r.fieldsOf tag) ∧ e.origin.IsIn e.field := by
  have hSteps := Traced.isHereditary_all fun e =>
    (∃ tag ∈ r.tags, .data e.field ∈ r.fieldsOf tag) ∧ e.origin.IsIn e.field
  refine hSteps.andThen (Traced.all_plain _) (hSteps.each fun tag hTag => ?_)
  unfold tracedTag
  split
  · refine hSteps.each fun rule _ => hSteps.each fun field hField e he => ?_
    obtain ⟨rfl, hOrigin⟩ := all_tracedBody _ _ _ _ e he
    exact ⟨⟨tag, hTag, hField⟩, hOrigin⟩
  · exact Traced.all_plain _

theorem covers_traced (c : Converter) (r : Record) :
    (c.traced r).Covers c.vocabulary fun t =>
      t.subject = c.subjectOf r ∨ ∃ rule ∈ c.mapping.rules, IsEntryClass c.vocabulary rule.body t := by
  have hSteps := Traced.isHereditary_covers c.vocabulary fun t =>
    t.subject = c.subjectOf r ∨ ∃ rule ∈ c.mapping.rules, IsEntryClass c.vocabulary rule.body t
  refine hSteps.andThen (Traced.covers_plain fun t ht => Or.inl ?_) (hSteps.each fun tag _ => ?_)
  · rw [Assertions.each_one] at ht
    obtain ⟨type, -, rfl⟩ := List.mem_map.mp ht
    rfl
  · unfold tracedTag
    split
    · refine hSteps.each fun rule hRule => hSteps.each fun field _ => ?_
      have hMem : rule ∈ c.mapping.rules := (List.mem_filter.mp hRule).1
      exact (covers_tracedBody _ tag rule.body field).mono fun t ht => ht.imp_right fun hClass => ⟨rule, hMem, hClass⟩
    · exact hSteps.nothing

/-- **Every expansion stands at a subfield of its own.**  The trace of a conversion says what the conversion says.  It
leaves no expansion out: what a statement says about another node than the record is said in an expansion of the
trace about its node, except for the classes that entries for control fields give.

In a conversion of any record with any mapping and vocabulary, at any depth, a relation is expanded for a data field
of the record and for a place of it with a value that the code of the rule names.  So a nested rule with this code
selects the value at this place and nothing else, and whatever a nested rule selects is the value of a subfield that
its code names. -/
theorem expansions_have_origins (c : Converter) (r : Record) :
    (c.traced r).assertions = c.recordAssertions r ∧
      (∀ t ∈ (c.recordAssertions r).statements,
        (t.subject = c.subjectOf r ∨ ∃ rule ∈ c.mapping.rules, IsEntryClass c.vocabulary rule.body t) ∨
          ∃ e ∈ (c.traced r).expansions, t.subject = e.node ∧ t ∈ (e.assertions c.vocabulary).statements) ∧
      ∀ e ∈ (c.traced r).expansions, (∃ tag ∈ r.tags, .data e.field ∈ r.fieldsOf tag) ∧
        ∃ s, e.field.subfields[e.origin.index]? = some s ∧ s.value ≠ "" ∧
          codeMatches e.origin.code s.code = true ∧
          ∀ q ∈ e.nested,
            (q.code = e.origin.code → selectValues q.code e.origin e.field = [⟨e.origin.index, s.value⟩]) ∧
            ∀ p ∈ selectValues q.code e.origin e.field,
              ∃ t, e.field.subfields[p.index]? = some t ∧ p.value = t.value ∧ q.matchesCode t.code = true := by
  refine ⟨c.traced_assertions r, fun t ht => ?_, fun e he => ?_⟩
  · rw [← c.traced_assertions r] at ht
    exact c.covers_traced r t ht
  · obtain ⟨hField, s, hAt, hValue, hMatch⟩ := c.all_traced r e he
    refine ⟨hField, s, hAt, hValue, hMatch, fun q _ => ⟨fun hSame => ?_, fun p hp => ?_⟩⟩
    · rw [hSame, selectValues_self hAt]
    · have hPlaced := mem_placedValues_of_mem_selectValues ⟨s, hAt, hValue, hMatch⟩ hp
      obtain ⟨t, hPlace, hCode, hText⟩ := mem_placedValues_iff.mp hPlaced
      exact ⟨t, hPlace, hText, hCode⟩

/-- Two topics, each with a broader one that is made from another subfield: below a topic a rule with its code
reads this topic only, below the broader one it reads both. -/
theorem expansions_have_origins_topics :
    let label : SubfieldRule := .plain ⟨"x", .fixed (.iri "urn:label"), {}⟩
    let broader : SubfieldRule :=
      .related ⟨"a", .fixed (.iri "urn:broader"), { base := "urn://topics/" }⟩ (.iri "urn:Topic") [label]
    let topic : SubfieldRule :=
      .related ⟨"x", .fixed (.iri "urn:topic"), { base := "urn://topics/" }⟩ (.iri "urn:Topic") [label, broader]
    let c : Converter := ⟨⟨[⟨"650", .data [topic]⟩]⟩, .core, "placeholder.com", []⟩
    let r := Record.ofFields
      [.data ⟨"650", ' ', '0', [⟨'a', "animals"⟩, ⟨'x', "cats"⟩, ⟨'x', "dogs"⟩]⟩]
    (c.traced r).expansions.map (fun e => (e.node, e.origin)) =
        [("urn://topics/cats", ⟨"x", 1⟩), ("urn://topics/animals", ⟨"a", 0⟩),
          ("urn://topics/dogs", ⟨"x", 2⟩), ("urn://topics/animals", ⟨"a", 0⟩)] ∧
      ∀ e ∈ (c.traced r).expansions, ∀ q ∈ e.nested, q.code = e.origin.code →
        (selectValues q.code e.origin e.field).length = 1 := by
  intro label broader topic c r
  refine ⟨by decide +kernel, fun e he q hq hSame => ?_⟩
  obtain ⟨-, -, hOrigins⟩ := expansions_have_origins c r
  obtain ⟨-, s, -, -, -, hNested⟩ := hOrigins e he
  rw [(hNested q hq).1 hSame, List.length_singleton]

end Converter

end CatalogGraph.Conversion
