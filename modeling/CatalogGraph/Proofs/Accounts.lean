import CatalogGraph.Proofs.MissingKeys
import CatalogGraph.Proofs.RuleApplication
import CatalogGraph.Proofs.TagLocality

/-!
# Accounts

What is said about a node comes in a certain form, whatever the mapping and the record are.  `Account` is a
grammar of this form: statements about the node itself, and where one of them makes a new node, the class
of that node and an account of it right behind.  It also says what the statements are made from: the
predicates and classes are terms of the mapping, and the objects are texts that a pipeline has made.

* `valueAssertions_account` — one value of a subfield leads to an account.  This is the induction over a
  rule and the rules nested in it; all else is put together from it;
* `recordAssertions_account` — after the classes of the record, a conversion is an account of its subject.

So what holds of all statements of a conversion is proved by induction over `Account`, without another look
at rules.  An account that a fault ends is an account too.
-/

namespace CatalogGraph

/-- An IRI that one of some terms stands for. -/
def Vocabulary.Names (v : Vocabulary) (terms : List Term) (iri : String) : Prop :=
  ∃ term ∈ terms, v.resolve term = .ok iri

namespace Mapping

/-- What a block says about objects, in rules at any depth. -/
def RuleBody.objects : RuleBody → List ObjectSpec
  | .control entries => entries.map (·.object)
  | .data rules => (SubfieldRule.forest rules).map (·.head.object)

/-- What a mapping says about objects. -/
def Spec.objects (m : Spec) : List ObjectSpec := m.rules.flatMap (·.body.objects)

end Mapping

namespace Conversion

open CatalogGraph.Mapping CatalogGraph.Marc CatalogGraph.Rdf

/-! ## The grammar -/

/-- A predicate from some terms, and a text that the pipeline of one of some specifications has made. -/
structure Stated (v : Vocabulary) (terms : List Term) (specs : List ObjectSpec) (predicate : String)
    (spec : ObjectSpec) (text : String) : Prop where
  predicate : v.Names terms predicate
  spec_mem : spec ∈ specs
  text : ∃ value field objects, generate value field spec.pipeline = .ok objects ∧ text ∈ objects

/-- What is said about a node. -/
inductive Account (v : Vocabulary) (terms : List Term) (specs : List ObjectSpec) :
    String → List Statement → Prop
  | nothing (node : String) : Account v terms specs node []
  | append {node : String} {a b : List Statement} :
    Account v terms specs node a → Account v terms specs node b → Account v terms specs node (a ++ b)
  /-- An object according to its datatype. -/
  | value {node predicate : String} {spec : ObjectSpec} {text : String} :
    Stated v terms specs predicate spec text →
      Account v terms specs node [⟨node, predicate, objectOf spec text⟩]
  /-- An object that was to be a node, and of which nothing more is said. -/
  | link {node predicate : String} {spec : ObjectSpec} {text : String} :
    Stated v terms specs predicate spec text →
      Account v terms specs node [⟨node, predicate, objectUri text spec.base⟩]
  /-- An object that is a node, its class, and an account of it. -/
  | described {node predicate uri type : String} {spec : ObjectSpec} {text : String}
      {rest : List Statement} :
    Stated v terms specs predicate spec text → objectUri text spec.base = .iri uri →
      v.Names terms type → Account v terms specs uri rest →
        Account v terms specs node (⟨node, predicate, .iri uri⟩ :: typeStatement uri type :: rest)

namespace Account

variable {α : Type} {v : Vocabulary} {terms : List Term} {specs : List ObjectSpec} {node : String}

theorem andThen {a b : Assertions} (ha : Account v terms specs node a.statements)
    (hb : Account v terms specs node b.statements) :
    Account v terms specs node (a.andThen b).statements := by
  cases h : a.fault with
  | none =>
      rw [Assertions.andThen_of_fault_eq_none h]
      exact .append ha hb
  | some e =>
      rw [Assertions.andThen_of_fault_eq_some h]
      exact ha

theorem after {o : Outcome α} {next : α → Assertions}
    (h : ∀ x, o = .ok x → Account v terms specs node (next x).statements) :
    Account v terms specs node (Assertions.after o next).statements := by
  cases o with
  | ok x => exact h x rfl
  | error e => exact .nothing node

theorem each {f : α → Assertions} {xs : List α}
    (h : ∀ x ∈ xs, Account v terms specs node (f x).statements) :
    Account v terms specs node (Assertions.each f xs).statements := by
  induction xs with
  | nil => exact .nothing node
  | cons x xs ih =>
      obtain ⟨hHead, hRest⟩ := List.forall_mem_cons.mp h
      rw [Assertions.each_cons]
      exact .andThen hHead (ih hRest)

end Account

variable {v : Vocabulary} {f : DataField} {terms : List Term} {specs : List ObjectSpec}

/-- An object that is a node, as it is stated: if its class is found, then with the class and with what
follows. -/
theorem Account.of_type {node predicate uri : String} {spec : ObjectSpec} {text : String}
    {type : Outcome String} {rest : Assertions} (h : Stated v terms specs predicate spec text)
    (hUri : objectUri text spec.base = .iri uri) (hType : ∀ iri, type = .ok iri → v.Names terms iri)
    (hRest : Account v terms specs uri rest.statements) :
    Account v terms specs node ((Assertions.one ⟨node, predicate, .iri uri⟩).andThen
      ((Assertions.after type fun iri => .one (typeStatement uri iri)).andThen rest)).statements := by
  cases type with
  | error e =>
      rw [Assertions.after_error, Assertions.failed_andThen, ← hUri]
      exact .link h
  | ok iri =>
      rw [Assertions.after_ok, Assertions.andThen_of_fault_eq_none rfl,
        Assertions.andThen_of_fault_eq_none rfl]
      exact .described h hUri (hType iri rfl) hRest

/-! ## Subfield rules -/

/-- A predicate that a rule chooses is one of its terms. -/
theorem names_of_predicateIri {p : Predicate} {predicate : String} (hTerms : p.terms ⊆ terms)
    (h : predicateIri v p f = .ok predicate) : v.Names terms predicate := by
  obtain ⟨term, hTerm, hIri⟩ := Outcome.bind_eq_ok_iff.mp h
  exact ⟨term, hTerms (mem_terms_of_choosePredicate hTerm), hIri⟩

/-- The terms of a rule and what it says about objects, at any depth, are among some others. -/
structure Draws (terms : List Term) (specs : List ObjectSpec) (r : SubfieldRule) : Prop where
  terms : r.terms ⊆ terms
  objects : ∀ q, q = r ∨ q ∈ r.descendants → q.head.object ∈ specs

namespace Draws

theorem object {r : SubfieldRule} (h : Draws terms specs r) : r.head.object ∈ specs :=
  h.objects r (Or.inl rfl)

theorem predicate {r : SubfieldRule} (h : Draws terms specs r) : r.head.predicate.terms ⊆ terms :=
  fun _ hTerm => h.terms (SubfieldRule.mem_terms_of_mem_predicate hTerm)

theorem nested {head : RuleHead} {type : Term} {rules : List SubfieldRule} {q : SubfieldRule}
    (h : Draws terms specs (.related head type rules)) (hq : q ∈ rules) : Draws terms specs q where
  terms := fun _ hTerm => h.terms (SubfieldRule.mem_terms_of_mem_nested hq hTerm)
  objects := fun p hp => h.objects p (Or.inr (SubfieldRule.mem_forest_iff.mpr ⟨q, hq, hp⟩))

end Draws

/-- A value leads to an account, if each object that is made of it does. -/
theorem Account.of_objects {r : SubfieldRule} {node predicate : String} {p : PlacedValue}
    (hSpec : r.head.object ∈ specs) (hPredicate : v.Names terms predicate)
    (hObject : ∀ object, Stated v terms specs predicate r.head.object object →
      Account v terms specs node (objectAssertions v f node predicate r p.index object).statements) :
    Account v terms specs node (valueAssertions v f node predicate r p).statements := by
  unfold valueAssertions
  split
  · exact .nothing node
  · apply Account.after
    intro objects hObjects
    apply Account.each
    intro object hMem
    exact hObject object ⟨hPredicate, hSpec, _, _, _, hObjects, hMem⟩

/-- A rule leads to an account, if each value that it reads does. -/
theorem Account.of_values {r : SubfieldRule} {node : String} (hTerms : r.head.predicate.terms ⊆ terms)
    (hValues : ∀ predicate p, v.Names terms predicate →
      Account v terms specs node (valueAssertions v f node predicate r p).statements)
    (values : List PlacedValue) :
    Account v terms specs node (Assertions.after (predicateIri v r.head.predicate f) fun predicate =>
      .each (valueAssertions v f node predicate r) values).statements := by
  apply Account.after
  intro predicate hPredicate
  apply Account.each
  intro p _
  exact hValues predicate p (names_of_predicateIri hTerms hPredicate)

/-- What one value leads to is an account of the node at hand.  The induction is on the rule: below a new
node each nested rule gives an account of that node. -/
theorem valueAssertions_account {r : SubfieldRule} (hDraws : Draws terms specs r)
    (node predicate : String) (p : PlacedValue) (hPredicate : v.Names terms predicate) :
    Account v terms specs node (valueAssertions v f node predicate r p).statements := by
  induction r generalizing node predicate p with
  | plain head => exact .of_objects hDraws.object hPredicate fun object hObject => .value hObject
  | related head type rules ih =>
      refine .of_objects hDraws.object hPredicate fun object hObject => ?_
      rw [objectAssertions_related]
      cases hIri : (objectUri object head.object.base).iri? with
      | none =>
          rw [Assertions.andThen_nothing]
          exact .link hObject
      | some uri =>
          have hUri := Object.iri?_eq_some_iff.mp hIri
          rw [hUri]
          refine .of_type hObject hUri (fun iri hType => ?_) ?_
          · have hResolve := Outcome.inRule_eq_ok_iff.mp hType
            exact ⟨type, hDraws.terms (SubfieldRule.class_mem_terms head type rules), hResolve⟩
          · rw [allNestedAssertions_eq]
            apply Account.each
            intro q hq
            have hQ : Draws terms specs q := hDraws.nested hq
            -- a fault that gets the name of the rule leaves the statements before it alone
            change Account v terms specs uri (nestedAssertions v f _ uri q).statements
            rw [nestedAssertions_eq]
            exact .of_values hQ.predicate (ih q hq hQ uri) _

/-- What several rules say about the subject of a record is an account of it. -/
theorem rulesAssertions_account {rules : List SubfieldRule}
    (hDraws : ∀ r ∈ rules, Draws terms specs r) (subject : String) :
    Account v terms specs subject (rulesAssertions v f subject rules).statements := by
  apply Account.each
  intro r hr
  change Account v terms specs subject (ruleAssertions v f subject r).statements
  rw [ruleAssertions_eq]
  exact .of_values (hDraws r hr).predicate (valueAssertions_account (hDraws r hr) subject) _

/-! ## Control entries -/

/-- What an entry says because of an object is an account of the subject. -/
theorem entryObject_account {entry : ControlEntry} (hTerms : entry.terms ⊆ terms)
    {predicate object : String} (h : Stated v terms specs predicate entry.object object)
    (subject : String) :
    Account v terms specs subject (entryObject v subject predicate entry object).statements := by
  unfold entryObject
  split
  · next hLiteral =>
      have hObject : objectOf entry.object object = .literal object entry.object.language := by
        rw [objectOf, hLiteral]
      rw [← hObject]
      exact .value h
  · cases hIri : (objectUri object entry.object.base).iri? with
    | none =>
        simp only [hIri, Assertions.andThen_nothing]
        exact .link h
    | some uri =>
        have hUri := Object.iri?_eq_some_iff.mp hIri
        cases hType : entry.type with
        | none =>
            simp only [hIri, Assertions.andThen_nothing]
            exact .link h
        | some type =>
            have hMem : type ∈ terms := hTerms (by simp [ControlEntry.terms, hType])
            simp only [hUri, Object.iri?]
            rw [← Assertions.andThen_nothing (Assertions.after _ _)]
            exact .of_type h hUri (fun iri hResolve => ⟨type, hMem, hResolve⟩) (.nothing uri)

theorem entryAssertions_account {entry : ControlEntry} (hTerms : entry.terms ⊆ terms)
    (hSpec : entry.object ∈ specs) (subject : String) (field : Field) :
    Account v terms specs subject (entryAssertions v subject field entry).statements := by
  apply Account.after
  intro predicate hPredicate
  apply Account.after
  intro objects hObjects
  apply Account.each
  intro object hMem
  have hNames : v.Names terms predicate := ⟨_, hTerms List.mem_cons_self, hPredicate⟩
  exact entryObject_account hTerms ⟨hNames, hSpec, _, _, _, hObjects, hMem⟩ subject

/-! ## Records -/

/-- What a block says about a field is an account of the subject, made from what the block holds. -/
theorem bodyAssertions_account {body : RuleBody} (hTerms : body.terms ⊆ terms)
    (hSpecs : body.objects ⊆ specs) (subject tag : String) (field : Field) :
    Account v terms specs subject (bodyAssertions v subject tag body field).statements := by
  cases body with
  | control entries =>
      rw [bodyAssertions]
      split
      · exact .nothing subject
      · apply Account.each
        intro entry hEntry
        have hEntryTerms : entry.terms ⊆ terms :=
          fun term h => hTerms (List.mem_flatMap.mpr ⟨entry, hEntry, h⟩)
        exact entryAssertions_account hEntryTerms (hSpecs (List.mem_map_of_mem hEntry)) subject field
  | data rules =>
      cases field with
      | control f => exact .nothing subject
      | data f =>
          refine rulesAssertions_account (fun r hr => ⟨?_, ?_⟩) subject
          · exact fun term h => hTerms (SubfieldRule.mem_allTerms_iff.mpr ⟨r, hr, h⟩)
          · exact fun q hq => hSpecs (List.mem_map_of_mem (SubfieldRule.mem_forest_iff.mpr ⟨r, hr, hq⟩))

namespace Converter

/-- What is said about a record are its classes and then an account of its subject, made from the terms
of the mapping and from what the mapping says about objects. -/
theorem recordAssertions_account (c : Converter) (r : Record) :
    ∃ rest, (c.recordAssertions r).statements = c.typeStatements r ++ rest ∧
      Account c.vocabulary c.mapping.terms c.mapping.objects (c.subjectOf r) rest := by
  refine ⟨_, by rw [recordAssertions_eq], ?_⟩
  apply Account.each
  intro tag _
  rw [tagAssertions_eq]
  apply Account.each
  intro rule hRule
  apply Account.each
  intro field _
  have hMem : rule ∈ c.mapping.rules := (List.mem_filter.mp hRule).1
  refine bodyAssertions_account (fun term h => ?_) (fun spec h => ?_) _ _ _
  · exact List.mem_flatMap.mpr ⟨rule, hMem, h⟩
  · exact List.mem_flatMap.mpr ⟨rule, hMem, h⟩

/-- The statements of a conversion. -/
theorem account_of_convert {c : Converter} {r : Record} {statements : List Statement}
    (h : c.convert r = .ok statements) :
    ∃ rest, statements = c.typeStatements r ++ rest ∧
      Account c.vocabulary c.mapping.terms c.mapping.objects (c.subjectOf r) rest := by
  obtain ⟨-, rfl⟩ := Assertions.outcome_eq_ok_iff.mp h
  exact recordAssertions_account c r

end Converter

end Conversion

end CatalogGraph
