import CatalogGraph.Proofs.BoundTerms
import CatalogGraph.Proofs.CompilationFaults

/-!
# What is checked when a document is compiled

Some texts of a mapping document have to be patterns, and others have to be terms with a bound label.  In some places
a text has to stand.  `Document.requirements` lists all this, place by place, for all rules at any depth.

Not every requirement is in force.  What is written may be masked by something else that is written: of the ways to
take objects from a value one counts, a condition on a subfield masks one on the indicators, conditions mask the
predicate, and the pattern for a slug counts where a slug is made.  Rules in the relation of an entry for control fields
never count.

A document compiles exactly if the requirements in force are met (`Document.exists_compile_iff_areMet`).  So a masked
text may be anything (`Document.compile_passes_over_masked`).
-/

namespace CatalogGraph.Mapping

open Outcome (fault?)

/-! ## Requirements -/

/-- What a document has to fulfil. -/
inductive Demand
  /-- The text is a pattern. -/
  | pattern (text : String)
  /-- The text is a term with a bound label. -/
  | term (text : String)
  /-- Something stands where nothing does. -/
  | lacking (defect : MappingDefect)
  deriving DecidableEq, Repr

/-- Whether a demand is met, for a vocabulary. -/
def Demand.IsMet (v : Vocabulary) : Demand → Prop
  | pattern text => ∃ re, Regex.compile? text = some re
  | term text => ∃ term, Term.read text = .ok term ∧ v.Binds [term]
  | lacking _ => False

/-- A demand, and whether it is in force in its place. -/
structure Requirement where
  demand : Demand
  inForce : Bool
  deriving DecidableEq, Repr

/-- All requirements that are in force are met. -/
def AreMet (v : Vocabulary) (requirements : List Requirement) : Prop :=
  ∀ r ∈ requirements, r.inForce = true → r.demand.IsMet v

/-- The requirement of a place where a text may stand. -/
def allowed (demand : String → Demand) (inForce : Bool) (text : Option String) : List Requirement :=
  text.toList.map fun s => ⟨demand s, inForce⟩

/-- The requirement of a place where a text has to stand. -/
def needed (demand : String → Demand) (defect : MappingDefect) (inForce : Bool) (text : Option String) :
    List Requirement :=
  [⟨(text.map demand).getD (.lacking defect), inForce⟩]

/-! ### Objects -/

/-- The requirements of an extraction.  Where an offset or a length is given no pattern is used, and a pattern that
splits masks one that is searched. -/
def ObjectSource.extractionRequirements (o : ObjectSource) : List Requirement :=
  let bySubstring := o.offset.isSome || o.length.isSome
  (if o.offset.isSome = o.length.isSome then [] else [⟨.lacking .substringHalfGiven, true⟩]) ++
    allowed .pattern (!bySubstring) o.split ++
    allowed .pattern (!bySubstring && o.split.isNone) o.search

/-- The requirements of an object.  The pattern for a slug is used where a slug is made. -/
def ObjectSource.requirements (o : ObjectSource) : List Requirement :=
  o.extractionRequirements ++
    (o.substitute.toList.flatMap fun t => needed .pattern .tableWithoutPattern true t.pattern) ++
    allowed .pattern o.slug o.slugStrip ++
    allowed .pattern true o.strip

/-! ### Predicates -/

/-- The requirements of a table of terms. -/
def TableSource.requirements (inForce : Bool) (t : TableSource) : List Requirement :=
  (t.replacements.values.map fun s => ⟨.term s, inForce⟩) ++ needed .pattern .tableWithoutPattern inForce t.pattern

/-- The requirements of a condition on a subfield. -/
def subfieldRequirements (tables : OrderedMap TableSource) : List Requirement :=
  (if tables.entries.length = 1 then [] else [⟨.lacking .notOneConditionSubfield, true⟩]) ++
    tables.values.flatMap fun t =>
      t.requirements true ++ needed .term .conditionWithoutDefault true t.fallback

/-- The requirements of a condition on the indicators.  A table for one indicator has no fallback of its own. -/
def IndicatorSource.requirements (inForce : Bool) (i : IndicatorSource) : List Requirement :=
  ((i.first.toList ++ i.second.toList).flatMap fun t =>
      t.requirements inForce ++ allowed .term false t.fallback) ++
    needed .term .conditionWithoutDefault inForce i.fallback

/-- The requirements of conditions.  A condition on a subfield masks one on the indicators. -/
def ConditionSource.requirements (c : ConditionSource) : List Requirement :=
  c.bySubfield.toList.flatMap subfieldRequirements ++
    c.byIndicators.toList.flatMap (IndicatorSource.requirements c.bySubfield.isNone)

/-- Whether there is a condition among what is written. -/
def ConditionSource.holdsAny (c : ConditionSource) : Bool := c.bySubfield.isSome || c.byIndicators.isSome

/-- Whether the predicate of a rule depends on a condition. -/
def RuleHeadSource.isConditional (r : RuleHeadSource) : Bool := r.conditions.any ConditionSource.holdsAny

/-- The requirement of the predicate that is written.  It has to be written unless there is a condition, which masks
it. -/
def RuleHeadSource.fixedRequirements (r : RuleHeadSource) : List Requirement :=
  if r.isConditional then allowed .term false r.predicate
  else needed .term .ruleWithoutPredicate true r.predicate

/-- The requirements of the predicate of a rule. -/
def RuleHeadSource.predicateRequirements (r : RuleHeadSource) : List Requirement :=
  r.conditions.toList.flatMap ConditionSource.requirements ++ r.fixedRequirements

/-! ### Rules, entries and documents -/

/-- The requirements of a part of a rule. -/
def RuleSource.requirements (source : RuleSource) : Part → List Requirement
  | .predicate => source.head.predicateRequirements
  | .type =>
    match source with
    | .plain _ => []
    | .related _ text _ => needed .term .relationWithoutClass true text
  | .object => source.head.object.requirements

/-- The requirements of groups of rules, with all rules nested in them. -/
def rulesRequirements (groups : List (List RuleSource)) : List Requirement :=
  (RuleSource.walkGroups groups).flatMap fun p => p.1.requirements p.2

/-- The requirements of an entry for control fields.  Those of the rules in its relation are not in force. -/
def EntrySource.requirements (e : EntrySource) : List Requirement :=
  needed .term (.entryWithoutPredicate e.name) true e.predicate ++
    (e.relation.toList.flatMap fun r =>
      needed .term .relationWithoutClass true r.type ++
        (rulesRequirements r.groups).map fun q => { q with inForce := false }) ++
    e.object.requirements

/-- The requirements of what a block holds. -/
def BlockBody.requirements : BlockBody → List Requirement
  | .control entries => entries.flatMap EntrySource.requirements
  | .data groups => rulesRequirements groups

/-- The requirements of a document. -/
def Document.requirements (d : Document) : List Requirement := d.blocks.flatMap (·.body.requirements)

variable {v : Vocabulary}

/-! ## Meeting several requirements -/

@[simp] theorem areMet_nil : AreMet v [] := fun _ h => absurd h List.not_mem_nil

@[simp] theorem areMet_append_iff {rs rs' : List Requirement} :
    AreMet v (rs ++ rs') ↔ AreMet v rs ∧ AreMet v rs' :=
  List.forall_mem_append

@[simp] theorem areMet_cons_iff {r : Requirement} {rs : List Requirement} :
    AreMet v (r :: rs) ↔ (r.inForce = true → r.demand.IsMet v) ∧ AreMet v rs :=
  List.forall_mem_cons

@[simp] theorem areMet_flatMap_iff {α : Type} {xs : List α} {requirements : α → List Requirement} :
    AreMet v (xs.flatMap requirements) ↔ ∀ x ∈ xs, AreMet v (requirements x) :=
  List.forall_mem_flatMap

/-- What is not in force needs nothing. -/
@[simp] theorem areMet_map_not_inForce (rs : List Requirement) :
    AreMet v (rs.map fun r => { r with inForce := false }) := by
  intro r hr hForce
  obtain ⟨q, -, rfl⟩ := List.mem_map.mp hr
  cases hForce

/-- Texts in places of one kind. -/
@[simp] theorem areMet_map_iff {demand : String → Demand} {inForce : Bool} {texts : List String} :
    AreMet v (texts.map fun s => ⟨demand s, inForce⟩) ↔ (inForce = true → ∀ s ∈ texts, (demand s).IsMet v) := by
  rw [AreMet, List.forall_mem_map]
  exact ⟨fun h hForce s hs => h s hs hForce, fun h s hs hForce => h hForce s hs⟩

@[simp] theorem areMet_allowed_iff {demand : String → Demand} {inForce : Bool} {text : Option String} :
    AreMet v (allowed demand inForce text) ↔ (inForce = true → ∀ s, text = some s → (demand s).IsMet v) := by
  cases text with
  | none => simp [allowed]
  | some s => simp [allowed]

@[simp] theorem areMet_needed_iff {demand : String → Demand} {defect : MappingDefect} {inForce : Bool}
    {text : Option String} : AreMet v (needed demand defect inForce text) ↔
      (inForce = true → ∃ s, text = some s ∧ (demand s).IsMet v) := by
  cases text with
  | none => simp [needed, Demand.IsMet]
  | some s => simp [needed]

/-! ## Steps that succeed -/

section Steps

variable {α β : Type}

/-- A step, and another one whose success does not depend on which value the first has. -/
theorem exists_bind_iff {o : Outcome α} {next : α → Outcome β} {p : Prop}
    (h : ∀ a, o = .ok a → ((∃ b, next a = .ok b) ↔ p)) : (∃ b, (o >>= next) = .ok b) ↔ (∃ a, o = .ok a) ∧ p := by
  cases o with
  | ok a => exact (h a rfl).trans ⟨fun hp => ⟨⟨a, rfl⟩, hp⟩, And.right⟩
  | error e =>
      refine iff_of_false ?_ ?_
      · rintro ⟨b, hb⟩
        cases hb
      · rintro ⟨⟨a, ha⟩, -⟩
        cases ha

/-- What is made of a value does not fail any more. -/
theorem exists_bind_ok_iff {o : Outcome α} (f : α → β) :
    (∃ b, (o >>= fun a => .ok (f a)) = .ok b) ↔ ∃ a, o = .ok a :=
  (exists_bind_iff fun a _ => iff_true_intro ⟨f a, rfl⟩).trans (and_iff_left trivial)

theorem exists_map_iff {o : Outcome α} (f : α → β) : (∃ b, o.map f = .ok b) ↔ ∃ a, o = .ok a :=
  exists_bind_ok_iff f

/-- A step for a text that has to stand in a place. -/
theorem exists_required_iff {step : String → Outcome β} {demand : String → Demand}
    (h : ∀ s, (∃ b, step s = .ok b) ↔ (demand s).IsMet v) (text : Option String) (defect : MappingDefect) :
    (∃ b, (required text defect >>= step) = .ok b) ↔ AreMet v (needed demand defect true text) := by
  cases text with
  | none => simp [required, bind, Except.bind]
  | some s => simpa [required, bind, Except.bind] using h s

end Steps

/-! ## Patterns, terms and tables -/

theorem exists_compileRegex_iff (s : String) : (∃ re, compileRegex s = .ok re) ↔ (Demand.pattern s).IsMet v := by
  unfold compileRegex Demand.IsMet
  cases hCompile : Regex.compile? s with
  | none => simp [hCompile]
  | some re => simp [hCompile]

theorem exists_compileOptionalRegex_iff (text : Option String) :
    (∃ re, compileOptionalRegex text = .ok re) ↔ AreMet v (allowed .pattern true text) := by
  cases text with
  | none => simp [compileOptionalRegex]
  | some s => simpa [compileOptionalRegex, exists_map_iff] using exists_compileRegex_iff s

theorem exists_compileTerm_iff (s : String) : (∃ term, compileTerm v s = .ok term) ↔ (Demand.term s).IsMet v := by
  simp only [Demand.IsMet, Vocabulary.Binds, List.forall_mem_singleton, ← Vocabulary.check_eq_ok_iff]
  constructor
  · rintro ⟨result, h⟩
    obtain ⟨term, hRead, hAfterRead⟩ := Outcome.bind_eq_ok_iff.mp h
    exact ⟨term, hRead, (Outcome.check_bind_eq_ok_iff.mp hAfterRead).1⟩
  · rintro ⟨term, hRead, hBound⟩
    exact ⟨term, Outcome.bind_eq_ok_iff.mpr ⟨term, hRead, Outcome.check_bind_eq_ok_iff.mpr ⟨hBound, rfl⟩⟩⟩

theorem exists_compilePattern_iff (t : TableSource) :
    (∃ re, compilePattern t = .ok re) ↔ AreMet v (needed .pattern .tableWithoutPattern true t.pattern) :=
  exists_required_iff exists_compileRegex_iff _ _

theorem exists_compileTerms_iff (entries : List (String × String)) :
    (∃ terms, compileTerms v entries = .ok terms) ↔ ∀ s ∈ entries.map Prod.snd, (Demand.term s).IsMet v := by
  induction entries with
  | nil => exact iff_of_true ⟨[], rfl⟩ fun _ h => absurd h List.not_mem_nil
  | cons entry rest ih =>
      rw [List.map_cons, List.forall_mem_cons, ← exists_compileTerm_iff, ← ih]
      exact exists_bind_iff fun term _ => exists_bind_ok_iff _

theorem exists_compileTermTable_iff (t : TableSource) :
    (∃ table, compileTermTable v t = .ok table) ↔ AreMet v (t.requirements true) := by
  rw [TableSource.requirements, areMet_append_iff, areMet_map_iff, imp_iff_right rfl, ← exists_compilePattern_iff]
  exact (exists_bind_iff fun terms _ => exists_bind_ok_iff _).trans (and_congr_left' (exists_compileTerms_iff _))

/-- A table that is masked needs nothing. -/
@[simp] theorem areMet_table_masked (t : TableSource) : AreMet v (t.requirements false) := by
  simp [TableSource.requirements]

theorem exists_compileOptionalTable_iff (t : Option TableSource) :
    (∃ table, compileOptionalTable v t = .ok table) ↔ ∀ table ∈ t.toList, AreMet v (table.requirements true) := by
  cases t with
  | none => simp [compileOptionalTable]
  | some t => simpa [compileOptionalTable, exists_map_iff] using exists_compileTermTable_iff t

/-- A fallback has to stand, and it has to be a term. -/
theorem exists_compileFallback_iff (text : Option String) :
    (∃ term, compileFallback v text = .ok term) ↔ AreMet v (needed .term .conditionWithoutDefault true text) :=
  exists_required_iff exists_compileTerm_iff _ _

/-! ## Predicates -/

/-- A condition on a subfield is a single table with its fallback. -/
theorem exists_compileSubfield_iff (tables : OrderedMap TableSource) (byIndicators : Option IndicatorSource) :
    (∃ condition, compileConditions v ⟨some tables, byIndicators⟩ = .ok condition) ↔
      AreMet v (subfieldRequirements tables) := by
  obtain ⟨entries, hNodup⟩ := tables
  match entries with
  | [] => simp [compileConditions, subfieldRequirements, Demand.IsMet]
  | [(code, t)] =>
      have hOne : subfieldRequirements ⟨[(code, t)], hNodup⟩ =
          t.requirements true ++ needed .term .conditionWithoutDefault true t.fallback :=
        List.append_nil _
      rw [hOne, areMet_append_iff, ← exists_compileTermTable_iff, ← exists_compileFallback_iff]
      exact exists_bind_iff fun table _ => exists_bind_ok_iff _
  | first :: second :: rest => simp [compileConditions, subfieldRequirements, Demand.IsMet]

theorem exists_compileIndicators_iff (i : IndicatorSource) :
    (∃ condition, compileConditions v ⟨none, some i⟩ = .ok condition) ↔ AreMet v (i.requirements true) := by
  have hSteps : (∃ condition, compileConditions v ⟨none, some i⟩ = .ok condition) ↔
      (∃ first, compileOptionalTable v i.first = .ok first) ∧ (∃ second, compileOptionalTable v i.second = .ok second) ∧
        ∃ fallback, compileFallback v i.fallback = .ok fallback :=
    exists_bind_iff fun first _ => exists_bind_iff fun second _ => exists_bind_ok_iff _
  rw [hSteps, exists_compileOptionalTable_iff, exists_compileOptionalTable_iff, exists_compileFallback_iff, ← and_assoc,
    ← List.forall_mem_append, IndicatorSource.requirements, areMet_append_iff, areMet_flatMap_iff]
  simp

theorem exists_compileConditions_iff (c : ConditionSource) :
    (∃ condition, compileConditions v c = .ok condition) ↔ AreMet v c.requirements := by
  obtain ⟨bySubfield, byIndicators⟩ := c
  cases bySubfield with
  | some tables =>
      have hMasked : AreMet v (byIndicators.toList.flatMap (IndicatorSource.requirements false)) := by
        simp [IndicatorSource.requirements]
      rw [exists_compileSubfield_iff]
      simpa [ConditionSource.requirements] using fun _ => hMasked
  | none =>
      cases byIndicators with
      | some i => simpa [ConditionSource.requirements] using exists_compileIndicators_iff i
      | none => simp [compileConditions, ConditionSource.requirements]

/-- Conditions that compile are a condition if there is one among what is written. -/
theorem isSome_of_compileConditions {c : ConditionSource} {condition : Option Condition}
    (h : compileConditions v c = .ok condition) : condition.isSome = c.holdsAny := by
  unfold compileConditions at h
  split at h
  · next tables hSubfield =>
      split at h
      · obtain ⟨table, -, hAfterTable⟩ := Outcome.bind_eq_ok_iff.mp h
        obtain ⟨fallback, -, hResult⟩ := Outcome.bind_eq_ok_iff.mp hAfterTable
        obtain rfl := Except.ok.inj hResult
        simp [ConditionSource.holdsAny, hSubfield]
      · cases h
  · next hSubfield =>
      split at h
      · next i hIndicators =>
          obtain ⟨first, -, hAfterFirst⟩ := Outcome.bind_eq_ok_iff.mp h
          obtain ⟨second, -, hAfterSecond⟩ := Outcome.bind_eq_ok_iff.mp hAfterFirst
          obtain ⟨fallback, -, hResult⟩ := Outcome.bind_eq_ok_iff.mp hAfterSecond
          obtain rfl := Except.ok.inj hResult
          simp [ConditionSource.holdsAny, hIndicators]
      · next hIndicators =>
          obtain rfl := Except.ok.inj h
          simp [ConditionSource.holdsAny, hSubfield, hIndicators]

/-- A predicate that does not depend on conditions has to be written. -/
theorem exists_compileFixed_iff (text : Option String) :
    (∃ predicate,
        (required text .ruleWithoutPredicate >>= fun s => Predicate.fixed <$> compileTerm v s) = .ok predicate) ↔
      AreMet v (needed .term .ruleWithoutPredicate true text) :=
  exists_required_iff (fun s => (exists_map_iff Predicate.fixed).trans (exists_compileTerm_iff s)) _ _

theorem exists_compilePredicate_iff (r : RuleHeadSource) :
    (∃ predicate, compilePredicate v r = .ok predicate) ↔ AreMet v r.predicateRequirements := by
  obtain ⟨code, text, conditions, object⟩ := r
  cases conditions with
  | none => exact exists_compileFixed_iff text
  | some c =>
      rw [RuleHeadSource.predicateRequirements, areMet_append_iff, areMet_flatMap_iff]
      simp only [Option.toList_some, List.forall_mem_singleton, ← exists_compileConditions_iff]
      -- whether the written predicate counts is known from what the conditions compile to
      refine exists_bind_iff fun condition hCondition => ?_
      have hSome : condition.isSome = RuleHeadSource.isConditional ⟨code, text, some c, object⟩ :=
        isSome_of_compileConditions hCondition
      rw [RuleHeadSource.fixedRequirements, ← hSome]
      cases condition with
      | some condition => exact iff_of_true ⟨_, rfl⟩ (areMet_allowed_iff.mpr fun h => by cases h)
      | none => exact exists_compileFixed_iff text

/-! ## Objects -/

theorem exists_compileExtraction_iff (o : ObjectSource) :
    (∃ extraction, compileExtraction o = .ok extraction) ↔ AreMet v o.extractionRequirements := by
  unfold compileExtraction ObjectSource.extractionRequirements
  cases o.offset with
  | some offset =>
      cases o.length with
      | some length => simp
      | none => simp [Demand.IsMet]
  | none =>
      cases o.length with
      | some length => simp [Demand.IsMet]
      | none =>
          cases o.split with
          | some s => simpa [exists_map_iff] using exists_compileRegex_iff s
          | none =>
              cases o.search with
              | some s => simpa [exists_map_iff] using exists_compileRegex_iff s
              | none => simp

theorem exists_compileOptionalReplacement_iff (t : Option TableSource) :
    (∃ replacement, compileOptionalReplacement t = .ok replacement) ↔
      AreMet v (t.toList.flatMap fun t => needed .pattern .tableWithoutPattern true t.pattern) := by
  cases t with
  | none => simp [compileOptionalReplacement]
  | some t =>
      rw [Option.toList_some, List.flatMap_singleton, ← exists_compilePattern_iff]
      exact (exists_map_iff some).trans (exists_bind_ok_iff _)

theorem exists_compileSlug_iff (o : ObjectSource) :
    (∃ slug, compileSlug o = .ok slug) ↔ AreMet v (allowed .pattern o.slug o.slugStrip) := by
  unfold compileSlug
  cases o.slug with
  | true => exact (exists_bind_ok_iff _).trans (exists_compileOptionalRegex_iff _)
  | false => simp

theorem exists_compileObject_iff (o : ObjectSource) :
    (∃ spec, compileObject o = .ok spec) ↔ AreMet v o.requirements := by
  rw [ObjectSource.requirements, areMet_append_iff, areMet_append_iff, areMet_append_iff, and_assoc, and_assoc,
    ← exists_compileExtraction_iff, ← exists_compileOptionalReplacement_iff, ← exists_compileSlug_iff,
    ← exists_compileOptionalRegex_iff]
  exact exists_bind_iff fun _ _ => exists_bind_iff fun _ _ => exists_bind_iff fun _ _ => exists_bind_ok_iff _

/-! ## Rules, entries and documents -/

theorem exists_compileType_iff (text : Option String) :
    (∃ type, compileType v text = .ok type) ↔ AreMet v (needed .term .relationWithoutClass true text) :=
  exists_required_iff exists_compileTerm_iff _ _

/-- Nothing is wrong with a part of a rule exactly if its requirements are met. -/
theorem RuleSource.fault?_eq_none_iff (source : RuleSource) (part : Part) :
    source.fault? v part = none ↔ AreMet v (source.requirements part) := by
  cases part with
  | predicate => exact Outcome.fault?_eq_none_iff.trans (exists_compilePredicate_iff _)
  | object => exact Outcome.fault?_eq_none_iff.trans (exists_compileObject_iff _)
  | type =>
      cases source with
      | plain head => exact iff_of_true rfl areMet_nil
      | related head text groups => exact Outcome.fault?_eq_none_iff.trans (exists_compileType_iff text)

/-- Rules compile if each part of each rule does, at any depth. -/
theorem exists_compileGroups_iff (tag : String) (groups : List (List RuleSource)) :
    (∃ rules, compileGroups v tag groups = .ok rules) ↔ AreMet v (rulesRequirements groups) := by
  rw [← Outcome.fault?_eq_none_iff, compileGroups_fault?, List.findSome?_eq_none_iff, rulesRequirements,
    areMet_flatMap_iff]
  refine forall₂_congr fun p _ => ?_
  rw [RuleSource.blame?, Option.map_eq_none_iff, RuleSource.fault?_eq_none_iff]

theorem exists_compileEntryType_iff (relation : Option EntryRelation) :
    (∃ type, compileEntryType v relation = .ok type) ↔
      ∀ r ∈ relation.toList, AreMet v (needed .term .relationWithoutClass true r.type) := by
  cases relation with
  | none => simp [compileEntryType]
  | some r =>
      rw [Option.toList_some, List.forall_mem_singleton, ← exists_compileType_iff]
      exact exists_map_iff some

theorem exists_compileEntry_iff (e : EntrySource) :
    (∃ entry, compileEntry v e = .ok entry) ↔ AreMet v e.requirements := by
  have hRelation : (∃ type, compileEntryType v e.relation = .ok type) ↔
      AreMet v (e.relation.toList.flatMap fun r => needed .term .relationWithoutClass true r.type ++
        (rulesRequirements r.groups).map fun q => { q with inForce := false }) := by
    rw [exists_compileEntryType_iff, areMet_flatMap_iff]
    refine forall₂_congr fun r _ => ?_
    rw [areMet_append_iff, and_iff_left (areMet_map_not_inForce _)]
  rw [EntrySource.requirements, areMet_append_iff, areMet_append_iff, ← hRelation, ← exists_compileObject_iff,
    areMet_needed_iff, imp_iff_right rfl, compileEntry]
  cases e.predicate with
  | none =>
      refine iff_of_false ?_ ?_
      · rintro ⟨entry, hEntry⟩
        cases hEntry
      · rintro ⟨⟨⟨s, hNone, -⟩, -⟩, -⟩
        cases hNone
  | some s =>
      have hSteps := exists_bind_iff (o := compileEntryType v e.relation) fun type _ =>
        exists_bind_iff (o := compileTerm v s) fun predicate _ =>
          exists_bind_ok_iff (o := compileObject e.object) fun object => ControlEntry.mk e.name predicate object type
      refine hSteps.trans ?_
      rw [exists_compileTerm_iff, and_left_comm, and_assoc]
      simp

theorem exists_compileEntries_iff (entries : List EntrySource) :
    (∃ compiled, compileEntries v entries = .ok compiled) ↔ AreMet v (entries.flatMap EntrySource.requirements) := by
  induction entries with
  | nil => exact iff_of_true ⟨[], rfl⟩ areMet_nil
  | cons e rest ih =>
      rw [List.flatMap_cons, areMet_append_iff, ← exists_compileEntry_iff, ← ih]
      exact exists_bind_iff fun _ _ => exists_bind_ok_iff _

theorem exists_compileBlock_iff (block : Block) :
    (∃ rule, compileBlock v block = .ok rule) ↔ AreMet v block.body.requirements := by
  refine (exists_map_iff _).trans ?_
  cases block.body with
  | control entries =>
      refine (exists_map_iff _).trans ?_
      simp only [Outcome.inRule_eq_ok_iff]
      exact exists_compileEntries_iff entries
  | data groups => exact (exists_map_iff _).trans (exists_compileGroups_iff block.tag groups)

theorem exists_compileBlocks_iff (blocks : List Block) :
    (∃ rules, compileBlocks v blocks = .ok rules) ↔ AreMet v (blocks.flatMap (·.body.requirements)) := by
  induction blocks with
  | nil => exact iff_of_true ⟨[], rfl⟩ areMet_nil
  | cons block rest ih =>
      rw [List.flatMap_cons, areMet_append_iff, ← exists_compileBlock_iff, ← ih]
      exact exists_bind_iff fun _ _ => exists_bind_ok_iff _

/-- **A document compiles exactly if its requirements in force are met.**  So if it compiles, each text that stands
where a pattern is expected is a pattern, and each text that stands where a term is expected is a term with a bound
label, in all rules at any depth, unless the text is masked by what is written beside it.  And a document that does
not compile has such a text, or lacks something. -/
theorem Document.exists_compile_iff_areMet (d : Document) (v : Vocabulary) :
    (∃ m, d.compile v = .ok m) ↔ ∀ r ∈ d.requirements, r.inForce = true → r.demand.IsMet v :=
  (exists_map_iff Spec.mk).trans (exists_compileBlocks_iff d.blocks)

/-- Seven documents that compile though a text in them is no pattern, or no term with a bound label: a pattern that
splits beside an offset and a length, a pattern that is searched beside one that splits, a pattern for a slug where none
is made, a predicate beside a condition, a condition on the indicators beside one on a subfield, a fallback for one
indicator alone, and a rule in the relation of an entry for control fields. -/
theorem Document.compile_passes_over_masked :
    let bySubfield : OrderedMap TableSource := .ofList [("e", ⟨some "1", .empty, some "dc.title"⟩)]
    let beside (r : RuleHeadSource) : Document := { groups := [[⟨"245", .data [[.plain r]]⟩]] }
    let date : EntrySource :=
      ⟨"date", some "dc.date", {}, some ⟨some "rdfs.Class", [[.plain ⟨"a", some "nope.title", none, {}⟩]]⟩⟩
    let documents : List Document := [
      beside ⟨"a", some "dc.title", none, { offset := some 0, length := some 3, split := some "(" }⟩,
      beside ⟨"a", some "dc.title", none, { split := some ",", search := some "(" }⟩,
      beside ⟨"a", some "dc.title", none, { slugStrip := some "(" }⟩,
      beside ⟨"a", some "nope.title", some ⟨some bySubfield, none⟩, {}⟩,
      beside ⟨"a", none, some ⟨some bySubfield, some ⟨some "nope.title", none, none⟩⟩, {}⟩,
      beside ⟨"a", none, some ⟨none, some ⟨some "dc.title", some ⟨some "1", .empty, some "nope.title"⟩, none⟩⟩, {}⟩,
      { groups := [[⟨"008", .control [date]⟩]] }]
    ∀ d ∈ documents, (∃ m, d.compile .core = .ok m) ∧ ∃ r ∈ d.requirements, ¬r.demand.IsMet .core := by
  intro bySubfield beside date documents
  have hCompile : ∀ d ∈ documents, ∃ m, d.compile .core = .ok m := by decide +kernel
  have hMasked : ∀ d ∈ documents,
      ⟨.pattern "(", false⟩ ∈ d.requirements ∨ ⟨.term "nope.title", false⟩ ∈ d.requirements := by
    decide +kernel
  have hPattern : ¬(Demand.pattern "(").IsMet .core := by
    rintro ⟨re, hre⟩
    have hNone : (Regex.compile? "(").isNone = true := by decide +kernel
    rw [hre] at hNone
    cases hNone
  have hTerm : ¬(Demand.term "nope.title").IsMet .core := by
    rw [← exists_compileTerm_iff]
    decide +kernel
  refine fun d hd => ⟨hCompile d hd, ?_⟩
  rcases hMasked d hd with hMem | hMem
  · exact ⟨_, hMem, hPattern⟩
  · exact ⟨_, hMem, hTerm⟩

end CatalogGraph.Mapping
