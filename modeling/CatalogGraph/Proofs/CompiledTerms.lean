import CatalogGraph.Mapping.Compilation
import CatalogGraph.Proofs.BoundTerms

/-!
# The vocabularies that a document compiles against

The compilation of a document and the check of a mapping walk over different trees: one reads texts where
they stand in the document, the other lists the terms of a compiled mapping.  They accept the same
vocabularies.

Everything rests on one property of a step of the compilation (`LooksUp`): under a vocabulary that binds
certain terms it has a certain value, and under any other vocabulary it fails with the fault of one of these
terms, in the place that the term is mentioned in.  A step that succeeds once has this property for the terms
of its value.  `LooksUp` goes through sequences of steps, the mentions adding up, and puts mentions into the
rule that a step is taken for; so there is one lemma for each function of the compilation, which takes a
successful run apart and puts the property together again in the same shape.

The order in which terms are looked up does not count: an entry of a control block has its class looked
up before its predicate.  If several terms are unbound it is left open whose fault a failing compilation
ends with.
-/

namespace CatalogGraph

namespace Mapping

/-- Whatever the vocabulary, the step has this value if the vocabulary binds the terms, and no value if it
does not. -/
def Yields {α : Type} (step : Vocabulary → Outcome α) (value : α) (terms : List Term) : Prop :=
  ∀ v result, step v = .ok result ↔ result = value ∧ v.Binds terms

namespace Yields

variable {α β : Type} {step : Vocabulary → Outcome α} {a : α} {terms more : List Term}

/-- A step that uses no vocabulary. -/
theorem of_eq_ok {o : Outcome α} (h : o = .ok a) : Yields (fun _ => o) a [] := by
  intro v result
  simp [h, Vocabulary.Binds, eq_comm]

theorem bind {next : α → Vocabulary → Outcome β} {b : β} (hStep : Yields step a terms)
    (hNext : Yields (next a) b more) :
    Yields (fun v => step v >>= fun x => next x v) b (terms ++ more) := by
  intro v result
  rw [Outcome.bind_eq_ok_iff, Vocabulary.binds_append_iff]
  constructor
  · rintro ⟨x, hx, hResult⟩
    obtain ⟨rfl, hTerms⟩ := (hStep v x).mp hx
    obtain ⟨rfl, hMore⟩ := (hNext v result).mp hResult
    exact ⟨rfl, hTerms, hMore⟩
  · rintro ⟨rfl, hTerms, hMore⟩
    exact ⟨a, (hStep v a).mpr ⟨rfl, hTerms⟩, (hNext v result).mpr ⟨rfl, hMore⟩⟩

theorem map (h : Yields step a terms) (f : α → β) :
    Yields (fun v => (step v).map f) (f a) terms := by
  intro v result
  rw [Outcome.map_eq_ok_iff]
  constructor
  · rintro ⟨x, hx, rfl⟩
    obtain ⟨rfl, hTerms⟩ := (h v x).mp hx
    exact ⟨rfl, hTerms⟩
  · rintro ⟨rfl, hTerms⟩
    exact ⟨a, (h v a).mpr ⟨rfl, hTerms⟩, rfl⟩

theorem inRule (h : Yields step a terms) (tag : String) (subfield : Option String) :
    Yields (fun v => (step v).inRule tag subfield) a terms := by
  intro v result
  rw [Outcome.inRule_eq_ok_iff]
  exact h v result

/-- Only which terms are looked up counts, not in which order or how often. -/
theorem of_mem_iff (h : Yields step a terms) (hTerms : ∀ term, term ∈ terms ↔ term ∈ more) :
    Yields step a more := by
  intro v result
  rw [h v result, Vocabulary.Binds, Vocabulary.Binds]
  simp only [hTerms]

/-- The step succeeds under exactly those vocabularies that bind the terms. -/
theorem exists_eq_ok_iff (h : Yields step a terms) {v : Vocabulary} :
    (∃ result, step v = .ok result) ↔ v.Binds terms := by
  constructor
  · rintro ⟨result, hResult⟩
    exact ((h v result).mp hResult).2
  · intro hTerms
    exact ⟨a, (h v a).mpr ⟨rfl, hTerms⟩⟩

end Yields

/-! ## Mentions -/

/-- A term, and the rule that it is mentioned in; none as long as no rule is named. -/
structure Mention where
  term : Term
  place : Option RulePlace
  deriving DecidableEq, Repr

/-- Mentions of several terms in one place. -/
def mentionsIn (place : Option RulePlace) (terms : List Term) : List Mention :=
  terms.map (⟨·, place⟩)

@[simp] theorem mem_mentionsIn_iff {mention : Mention} {place : Option RulePlace} {terms : List Term} :
    mention ∈ mentionsIn place terms ↔ mention.place = place ∧ mention.term ∈ terms := by
  rw [mentionsIn, List.mem_map]
  constructor
  · rintro ⟨term, hTerm, rfl⟩
    exact ⟨rfl, hTerm⟩
  · rintro ⟨rfl, hTerm⟩
    exact ⟨mention.term, hTerm, rfl⟩

theorem map_term_mentionsIn (place : Option RulePlace) (terms : List Term) :
    (mentionsIn place terms).map Mention.term = terms := by
  simp [mentionsIn, Function.comp_def]

namespace Mention

/-- The mention in a rule.  One that is in a rule already stays there. -/
def inRule (mention : Mention) (tag : String) (subfield : Option String) : Mention :=
  match mention.place with
  | some _ => mention
  | none => { mention with place := some ⟨tag, subfield⟩ }

/-- The fault is that of a label that the vocabulary does not bind, in the place of the mention. -/
def IsToBlame (mention : Mention) (v : Vocabulary) (e : Fault) : Prop :=
  ∃ label name, mention.term = .qualified label name ∧ v.namespace? label = none ∧
    e = ⟨.unknownVocabulary label, mention.place⟩

theorem IsToBlame.inRule {mention : Mention} {v : Vocabulary} {e : Fault} (h : mention.IsToBlame v e)
    (tag : String) (subfield : Option String) :
    (mention.inRule tag subfield).IsToBlame v (e.inRule tag subfield) := by
  obtain ⟨term, place⟩ := mention
  obtain ⟨label, name, hTerm, hUnbound, rfl⟩ := h
  cases place with
  | none => exact ⟨label, name, hTerm, hUnbound, rfl⟩
  | some place => exact ⟨label, name, hTerm, hUnbound, rfl⟩

theorem term_inRule (mention : Mention) (tag : String) (subfield : Option String) :
    (mention.inRule tag subfield).term = mention.term := by
  obtain ⟨term, place⟩ := mention
  cases place with
  | none => rfl
  | some place => rfl

end Mention

@[simp] theorem map_inRule_mentionsIn_none (terms : List Term) (tag : String) (subfield : Option String) :
    (mentionsIn none terms).map (·.inRule tag subfield) = mentionsIn (some ⟨tag, subfield⟩) terms := by
  simp [mentionsIn, Mention.inRule, Function.comp_def]

@[simp] theorem map_inRule_mentionsIn_some (place : RulePlace) (terms : List Term) (tag : String)
    (subfield : Option String) :
    (mentionsIn (some place) terms).map (·.inRule tag subfield) = mentionsIn (some place) terms := by
  simp [mentionsIn, Mention.inRule, Function.comp_def]

/-- Whatever the vocabulary, the step has this value if the vocabulary binds the terms that are mentioned.  If it
does not, one of the mentions is to blame. -/
structure LooksUp {α : Type} (step : Vocabulary → Outcome α) (value : α) (mentions : List Mention) : Prop where
  yields : Yields step value (mentions.map Mention.term)
  blames : ∀ v e, step v = .error e → ∃ mention ∈ mentions, mention.IsToBlame v e

namespace LooksUp

variable {α β : Type} {step : Vocabulary → Outcome α} {a : α} {mentions more : List Mention}

/-- A step that uses no vocabulary. -/
theorem of_eq_ok {o : Outcome α} (h : o = .ok a) : LooksUp (fun _ => o) a [] where
  yields := .of_eq_ok h
  blames _ _ he := by cases h.symm.trans he

theorem bind {next : α → Vocabulary → Outcome β} {b : β} (hStep : LooksUp step a mentions)
    (hNext : LooksUp (next a) b more) :
    LooksUp (fun v => step v >>= fun x => next x v) b (mentions ++ more) where
  yields := by
    rw [List.map_append]
    exact hStep.yields.bind hNext.yields
  blames := by
    intro v e he
    simp only [List.mem_append, or_and_right, exists_or]
    rcases Outcome.bind_eq_error_iff.mp he with hFirst | ⟨x, hx, hSecond⟩
    · exact Or.inl (hStep.blames v e hFirst)
    · obtain ⟨rfl, -⟩ := (hStep.yields v x).mp hx
      exact Or.inr (hNext.blames v e hSecond)

theorem map (h : LooksUp step a mentions) (f : α → β) :
    LooksUp (fun v => (step v).map f) (f a) mentions where
  yields := h.yields.map f
  blames v e he := h.blames v e (Outcome.map_eq_error_iff.mp he)

theorem inRule (h : LooksUp step a mentions) (tag : String) (subfield : Option String) :
    LooksUp (fun v => (step v).inRule tag subfield) a (mentions.map (·.inRule tag subfield)) where
  yields := by
    have hTerms : (mentions.map (·.inRule tag subfield)).map Mention.term = mentions.map Mention.term := by
      simp only [List.map_map, Function.comp_def, Mention.term_inRule]
    rw [hTerms]
    exact h.yields.inRule tag subfield
  blames := by
    intro v e he
    cases hStep : step v with
    | ok x => rw [hStep] at he; cases he
    | error e' =>
        obtain ⟨mention, hMention, hBlame⟩ := h.blames v e' hStep
        rw [hStep] at he
        obtain rfl := Except.error.inj he
        exact ⟨mention.inRule tag subfield, List.mem_map_of_mem hMention, hBlame.inRule tag subfield⟩

/-- Only which terms are mentioned where counts, not in which order or how often. -/
theorem of_mem_iff (h : LooksUp step a mentions) (hMentions : ∀ m, m ∈ mentions ↔ m ∈ more) :
    LooksUp step a more where
  yields := h.yields.of_mem_iff fun term => by simp only [List.mem_map, hMentions]
  blames v e he := by
    obtain ⟨mention, hMention, hBlame⟩ := h.blames v e he
    exact ⟨mention, (hMentions mention).mp hMention, hBlame⟩

end LooksUp

variable {v : Vocabulary}

/-- Steps taken for the members of a list, one after the other, when each of them looks up what is mentioned in
what is made of its value. -/
theorem each_looksUp {σ α β : Type} (all : Vocabulary → List σ → Outcome (List β))
    (one : Vocabulary → σ → Outcome α) (make : σ → α → β) (mentions : β → List Mention)
    (hNil : ∀ v, all v [] = .ok [])
    (hCons : ∀ v source rest, all v (source :: rest) =
      (one v source >>= fun a => all v rest >>= fun made => .ok (make source a :: made)))
    (hOne : ∀ v source a, one v source = .ok a →
      LooksUp (one · source) a (mentions (make source a)))
    {sources : List σ} {made : List β} (h : all v sources = .ok made) :
    LooksUp (all · sources) made (made.flatMap mentions) := by
  induction sources generalizing made with
  | nil =>
      rw [hNil] at h
      obtain rfl : [] = made := Except.ok.inj h
      simp only [hNil]
      exact .of_eq_ok rfl
  | cons source rest ih =>
      rw [hCons] at h
      obtain ⟨a, hFirst, hAfterFirst⟩ := Outcome.bind_eq_ok_iff.mp h
      obtain ⟨others, hRest, hResult⟩ := Outcome.bind_eq_ok_iff.mp hAfterFirst
      obtain rfl : make source a :: others = made := Except.ok.inj hResult
      simp only [hCons]
      refine .of_mem_iff (.bind (hOne v source a hFirst) (.bind (ih hRest) (.of_eq_ok rfl))) ?_
      simp

/-! ## Terms and tables -/

theorem check_looksUp (term : Term) : LooksUp (fun v => v.check term) () (mentionsIn none [term]) where
  yields := by
    intro v result
    rw [Vocabulary.check_eq_ok_iff, map_term_mentionsIn, Vocabulary.binds_cons_iff]
    simp [Vocabulary.Binds]
  blames := by
    intro v e he
    refine ⟨⟨term, none⟩, List.mem_singleton_self _, ?_⟩
    cases term with
    | iri text => cases he
    | qualified label name =>
        rw [Vocabulary.check] at he
        split at he
        · next hUnbound =>
            exact ⟨label, name, rfl, Option.isNone_iff_eq_none.mp hUnbound, (Except.error.inj he).symm⟩
        · cases he

theorem compileTerm_looksUp {text : String} {term : Term} (h : compileTerm v text = .ok term) :
    LooksUp (compileTerm · text) term (mentionsIn none [term]) := by
  obtain ⟨read, hRead, hChecked⟩ := Outcome.bind_eq_ok_iff.mp h
  obtain ⟨-, hResult⟩ := Outcome.check_bind_eq_ok_iff.mp hChecked
  obtain rfl : read = term := Except.ok.inj hResult
  exact (LooksUp.of_eq_ok hRead).bind ((check_looksUp read).bind (.of_eq_ok rfl))

/-- A text that has to be written and is a term. -/
theorem compileRequired_looksUp {text : Option String} {defect : MappingDefect} {term : Term}
    (h : (required text defect >>= fun s => compileTerm v s) = .ok term) :
    LooksUp (fun v => required text defect >>= fun s => compileTerm v s) term (mentionsIn none [term]) := by
  obtain ⟨s, hText, hTerm⟩ := Outcome.bind_eq_ok_iff.mp h
  exact (LooksUp.of_eq_ok hText).bind (compileTerm_looksUp hTerm)

theorem compileTerms_looksUp {entries : List (String × String)} {terms : List (String × Term)}
    (h : compileTerms v entries = .ok terms) :
    LooksUp (compileTerms · entries) terms (mentionsIn none (terms.map Prod.snd)) := by
  have hMentions : mentionsIn none (terms.map Prod.snd) =
      terms.flatMap fun entry => mentionsIn none [entry.2] := by
    rw [mentionsIn, List.map_map, List.map_eq_flatMap]
    rfl
  rw [hMentions]
  exact each_looksUp compileTerms (fun v entry => compileTerm v entry.2)
    (fun entry term => (entry.1, term)) (fun entry => mentionsIn none [entry.2]) (fun _ => rfl)
    (fun _ _ _ => rfl) (fun _ _ _ hTerm => compileTerm_looksUp hTerm) h

/-- A table of terms has the keys that are written. -/
theorem keys_of_compileTerms {entries : List (String × String)} {terms : List (String × Term)}
    (h : compileTerms v entries = .ok terms) : terms.map Prod.fst = entries.map Prod.fst := by
  induction entries generalizing terms with
  | nil =>
      obtain rfl : [] = terms := Except.ok.inj h
      rfl
  | cons entry rest ih =>
      obtain ⟨term, -, hAfterTerm⟩ := Outcome.bind_eq_ok_iff.mp h
      obtain ⟨others, hRest, hResult⟩ := Outcome.bind_eq_ok_iff.mp hAfterTerm
      obtain rfl : (entry.1, term) :: others = terms := Except.ok.inj hResult
      rw [List.map_cons, List.map_cons, ih hRest]

theorem compileTermTable_looksUp {t : TableSource} {table : Substitutions Term}
    (h : compileTermTable v t = .ok table) :
    LooksUp (compileTermTable · t) table (mentionsIn none table.replacements.values) := by
  obtain ⟨terms, hTerms, hAfterTerms⟩ := Outcome.bind_eq_ok_iff.mp h
  obtain ⟨pattern, hPattern, hResult⟩ := Outcome.bind_eq_ok_iff.mp hAfterTerms
  obtain rfl : ⟨pattern, .ofList terms⟩ = table := Except.ok.inj hResult
  -- no two keys of what is written are equal, so no replacement is lost
  have hValues : (OrderedMap.ofList terms).values = terms.map Prod.snd :=
    OrderedMap.values_ofList (keys_of_compileTerms hTerms ▸ t.replacements.nodup)
  refine .of_mem_iff (.bind (compileTerms_looksUp hTerms) (.bind (.of_eq_ok hPattern)
    (.of_eq_ok rfl))) ?_
  simp [hValues]

theorem compileOptionalTable_looksUp {t : Option TableSource} {table : Option (Substitutions Term)}
    (h : compileOptionalTable v t = .ok table) :
    LooksUp (compileOptionalTable · t) table
      (mentionsIn none (table.toList.flatMap (·.replacements.values))) := by
  cases t with
  | none =>
      obtain rfl : none = table := Except.ok.inj h
      exact .of_eq_ok rfl
  | some t =>
      obtain ⟨table, hTable, rfl⟩ := Outcome.map_eq_ok_iff.mp h
      refine .of_mem_iff (.map (compileTermTable_looksUp hTable) some) ?_
      simp

/-! ## Predicates -/

theorem compileConditions_looksUp {source : ConditionSource} {condition : Option Condition}
    (h : compileConditions v source = .ok condition) :
    LooksUp (compileConditions · source) condition
      (mentionsIn none (condition.toList.flatMap Condition.terms)) := by
  unfold compileConditions at h ⊢
  split at h
  · next tables hSubfield =>
      split at h
      · next code t hEntries =>
          obtain ⟨table, hTable, hAfterTable⟩ := Outcome.bind_eq_ok_iff.mp h
          obtain ⟨fallback, hFallback, hResult⟩ := Outcome.bind_eq_ok_iff.mp hAfterTable
          obtain rfl : some (.bySubfield code table fallback) = condition :=
            Except.ok.inj hResult
          refine .of_mem_iff (.bind (compileTermTable_looksUp hTable)
            (.bind (compileRequired_looksUp hFallback) (.of_eq_ok rfl))) ?_
          simp [Condition.terms, and_or_left]
      · cases h
  · split at h
    · next i hIndicators =>
        obtain ⟨first, hFirst, hAfterFirst⟩ := Outcome.bind_eq_ok_iff.mp h
        obtain ⟨second, hSecond, hAfterSecond⟩ := Outcome.bind_eq_ok_iff.mp hAfterFirst
        obtain ⟨fallback, hFallback, hResult⟩ := Outcome.bind_eq_ok_iff.mp hAfterSecond
        obtain rfl : some (.byIndicators first second fallback) = condition :=
          Except.ok.inj hResult
        refine .of_mem_iff (.bind (compileOptionalTable_looksUp hFirst)
          (.bind (compileOptionalTable_looksUp hSecond)
            (.bind (compileRequired_looksUp hFallback) (.of_eq_ok rfl)))) ?_
        simp [Condition.terms, and_or_left]
    · obtain rfl : none = condition := Except.ok.inj h
      exact .of_eq_ok rfl

/-- A predicate that is written and does not depend on conditions. -/
theorem compileFixed_looksUp {text : Option String} {defect : MappingDefect} {predicate : Predicate}
    (h : (required text defect >>= fun s => Predicate.fixed <$> compileTerm v s) = .ok predicate) :
    LooksUp (fun v => required text defect >>= fun s => Predicate.fixed <$> compileTerm v s)
      predicate (mentionsIn none predicate.terms) := by
  obtain ⟨s, hText, hFixed⟩ := Outcome.bind_eq_ok_iff.mp h
  obtain ⟨term, hTerm, rfl⟩ := Outcome.map_eq_ok_iff.mp hFixed
  exact (LooksUp.of_eq_ok hText).bind ((compileTerm_looksUp hTerm).map Predicate.fixed)

theorem compilePredicate_looksUp {source : RuleHeadSource} {predicate : Predicate}
    (h : compilePredicate v source = .ok predicate) :
    LooksUp (compilePredicate · source) predicate (mentionsIn none predicate.terms) := by
  obtain ⟨code, text, conditions, object⟩ := source
  cases conditions with
  | none => exact compileFixed_looksUp h
  | some conditions =>
      obtain ⟨condition, hCondition, hAfterCondition⟩ := Outcome.bind_eq_ok_iff.mp h
      -- conditions may be written and yet hold nothing; the written predicate is used then
      cases condition with
      | some c =>
          obtain rfl : .conditional c = predicate := Except.ok.inj hAfterCondition
          refine .of_mem_iff (.bind (compileConditions_looksUp hCondition) (.of_eq_ok rfl)) ?_
          simp [Predicate.terms]
      | none =>
          exact .bind (compileConditions_looksUp hCondition) (compileFixed_looksUp hAfterCondition)

/-! ## Rules -/

/-- What a rule mentions itself, and not by the rules nested in it. -/
def SubfieldRule.mentions (tag : String) (r : SubfieldRule) : List Mention :=
  mentionsIn (some ⟨tag, some r.code⟩) r.ownTerms

-- by recursion on what is written, along with the compilation itself
mutual
theorem compileRule_looksUp {tag : String} {source : RuleSource} {rule : SubfieldRule}
    (h : compileRule v tag source = .ok rule) :
    LooksUp (fun v => (compileRule v tag source).inRule tag (some source.code)) rule
      (rule.mentions tag ++ rule.descendants.flatMap (·.mentions tag)) := by
  cases source with
  | plain source =>
      obtain ⟨predicate, hPredicate, hAfterPredicate⟩ := Outcome.bind_eq_ok_iff.mp h
      obtain ⟨object, hObject, hResult⟩ := Outcome.bind_eq_ok_iff.mp hAfterPredicate
      obtain rfl : .plain ⟨source.code, predicate, object⟩ = rule := Except.ok.inj hResult
      have hParts : LooksUp (compileRule · tag (.plain source)) _ _ :=
        .bind (compilePredicate_looksUp hPredicate) (.bind (.of_eq_ok hObject) (.of_eq_ok rfl))
      refine .of_mem_iff (hParts.inRule tag (some source.code)) ?_
      simp [SubfieldRule.mentions, SubfieldRule.ownTerms, SubfieldRule.descendants, SubfieldRule.code,
        SubfieldRule.head]
  | related source type groups =>
      obtain ⟨predicate, hPredicate, hAfterPredicate⟩ := Outcome.bind_eq_ok_iff.mp h
      obtain ⟨type, hType, hAfterType⟩ := Outcome.bind_eq_ok_iff.mp hAfterPredicate
      obtain ⟨nested, hNested, hAfterNested⟩ := Outcome.bind_eq_ok_iff.mp hAfterType
      obtain ⟨object, hObject, hResult⟩ := Outcome.bind_eq_ok_iff.mp hAfterNested
      obtain rfl : .related ⟨source.code, predicate, object⟩ type nested = rule :=
        Except.ok.inj hResult
      have hParts : LooksUp (compileRule · tag (.related source _ groups)) _ _ :=
        .bind (compilePredicate_looksUp hPredicate) (.bind (compileRequired_looksUp hType)
          (.bind (compileGroups_looksUp hNested) (.bind (.of_eq_ok hObject) (.of_eq_ok rfl))))
      refine .of_mem_iff (hParts.inRule tag (some source.code)) ?_
      -- what nested rules mention is in a rule already
      simp [SubfieldRule.mentions, SubfieldRule.ownTerms, SubfieldRule.descendants, SubfieldRule.code,
        SubfieldRule.head, List.map_flatMap, and_or_left, or_assoc]

theorem compileRules_looksUp {tag : String} {sources : List RuleSource} {rules : List SubfieldRule}
    (h : compileRules v tag sources = .ok rules) :
    LooksUp (compileRules · tag sources) rules
      ((SubfieldRule.forest rules).flatMap (·.mentions tag)) := by
  cases sources with
  | nil =>
      obtain rfl : [] = rules := Except.ok.inj h
      exact .of_eq_ok rfl
  | cons source rest =>
      obtain ⟨rule, hRule, hAfterRule⟩ := Outcome.bind_eq_ok_iff.mp h
      obtain ⟨others, hRest, hResult⟩ := Outcome.bind_eq_ok_iff.mp hAfterRule
      obtain rfl : rule :: others = rules := Except.ok.inj hResult
      have hRule := compileRule_looksUp (Outcome.inRule_eq_ok_iff.mp hRule)
      refine .of_mem_iff (.bind hRule (.bind (compileRules_looksUp hRest) (.of_eq_ok rfl))) ?_
      simp [SubfieldRule.forest]

theorem compileGroups_looksUp {tag : String} {groups : List (List RuleSource)}
    {rules : List SubfieldRule} (h : compileGroups v tag groups = .ok rules) :
    LooksUp (compileGroups · tag groups) rules
      ((SubfieldRule.forest rules).flatMap (·.mentions tag)) := by
  cases groups with
  | nil =>
      obtain rfl : [] = rules := Except.ok.inj h
      exact .of_eq_ok rfl
  | cons group rest =>
      obtain ⟨first, hGroup, hAfterGroup⟩ := Outcome.bind_eq_ok_iff.mp h
      obtain ⟨others, hRest, hResult⟩ := Outcome.bind_eq_ok_iff.mp hAfterGroup
      obtain rfl : first ++ others = rules := Except.ok.inj hResult
      refine .of_mem_iff (.bind (compileRules_looksUp hGroup)
        (.bind (compileGroups_looksUp hRest) (.of_eq_ok rfl))) ?_
      simp [SubfieldRule.forest_eq_flatMap]
end

/-! ## Entries for control fields -/

theorem compileEntryType_looksUp {relation : Option EntryRelation} {type : Option Term}
    (h : compileEntryType v relation = .ok type) :
    LooksUp (compileEntryType · relation) type (mentionsIn none type.toList) := by
  cases relation with
  | none =>
      obtain rfl : none = type := Except.ok.inj h
      exact .of_eq_ok rfl
  | some relation =>
      obtain ⟨type, hType, rfl⟩ := Outcome.map_eq_ok_iff.mp h
      exact .map (compileRequired_looksUp hType) some

theorem compileEntry_looksUp {source : EntrySource} {entry : ControlEntry}
    (h : compileEntry v source = .ok entry) :
    LooksUp (compileEntry · source) entry (mentionsIn none entry.terms) := by
  obtain ⟨text, hText, hAfterText⟩ := Outcome.bind_eq_ok_iff.mp h
  obtain ⟨type, hType, hAfterType⟩ := Outcome.bind_eq_ok_iff.mp hAfterText
  obtain ⟨predicate, hPredicate, hAfterPredicate⟩ := Outcome.bind_eq_ok_iff.mp hAfterType
  obtain ⟨object, hObject, hResult⟩ := Outcome.bind_eq_ok_iff.mp hAfterPredicate
  obtain rfl : ⟨source.name, predicate, object, type⟩ = entry := Except.ok.inj hResult
  refine .of_mem_iff (.bind (.of_eq_ok hText) (.bind (compileEntryType_looksUp hType)
    (.bind (compileTerm_looksUp hPredicate) (.bind (.of_eq_ok hObject) (.of_eq_ok rfl))))) ?_
  -- the class is looked up first, but checked last
  simp [ControlEntry.terms, and_or_left, or_comm]

theorem compileEntries_looksUp {sources : List EntrySource} {entries : List ControlEntry}
    (h : compileEntries v sources = .ok entries) :
    LooksUp (compileEntries · sources) entries
      (entries.flatMap fun entry => mentionsIn none entry.terms) :=
  each_looksUp compileEntries compileEntry (fun _ entry => entry) (fun entry => mentionsIn none entry.terms)
    (fun _ => rfl) (fun _ _ _ => rfl) (fun _ _ _ hEntry => compileEntry_looksUp hEntry) h

/-! ## Documents -/

/-- What a block mentions, each term in the rule that it belongs to. -/
def RuleBody.mentions (tag : String) : RuleBody → List Mention
  | .control entries => entries.flatMap fun entry => mentionsIn (some ⟨tag, none⟩) entry.terms
  | .data rules => (SubfieldRule.forest rules).flatMap (·.mentions tag)

/-- What a mapping mentions. -/
def Spec.mentions (m : Spec) : List Mention := m.rules.flatMap fun rule => rule.body.mentions rule.tag

theorem RuleBody.map_term_mentions (tag : String) (body : RuleBody) :
    (body.mentions tag).map Mention.term = body.terms := by
  cases body with
  | control entries =>
      rw [mentions, terms, List.map_flatMap]
      simp only [map_term_mentionsIn]
  | data rules =>
      rw [mentions, terms, List.map_flatMap, SubfieldRule.allTerms_eq_flatMap_forest]
      simp only [SubfieldRule.mentions, map_term_mentionsIn]

theorem Spec.map_term_mentions (m : Spec) : m.mentions.map Mention.term = m.terms := by
  rw [mentions, terms, List.map_flatMap]
  simp only [RuleBody.map_term_mentions]

theorem compileBody_looksUp {tag : String} {source : BlockBody} {body : RuleBody}
    (h : compileBody v tag source = .ok body) :
    LooksUp (compileBody · tag source) body (body.mentions tag) := by
  cases source with
  | control sources =>
      obtain ⟨entries, hEntries, rfl⟩ := Outcome.map_eq_ok_iff.mp h
      have hEntries := compileEntries_looksUp (Outcome.inRule_eq_ok_iff.mp hEntries)
      refine .of_mem_iff ((hEntries.inRule tag none).map RuleBody.control) ?_
      simp [RuleBody.mentions, List.map_flatMap]
  | data groups =>
      obtain ⟨rules, hRules, rfl⟩ := Outcome.map_eq_ok_iff.mp h
      exact (compileGroups_looksUp hRules).map RuleBody.data

theorem compileBlock_looksUp {block : Block} {rule : TagRule} (h : compileBlock v block = .ok rule) :
    LooksUp (compileBlock · block) rule (rule.body.mentions rule.tag) := by
  obtain ⟨body, hBody, rfl⟩ := Outcome.map_eq_ok_iff.mp h
  exact (compileBody_looksUp hBody).map (TagRule.mk block.tag)

theorem compileBlocks_looksUp {blocks : List Block} {rules : List TagRule}
    (h : compileBlocks v blocks = .ok rules) :
    LooksUp (compileBlocks · blocks) rules (rules.flatMap fun rule => rule.body.mentions rule.tag) :=
  each_looksUp compileBlocks compileBlock (fun _ rule => rule) (fun rule => rule.body.mentions rule.tag)
    (fun _ => rfl) (fun _ _ _ => rfl) (fun _ _ _ hBlock => compileBlock_looksUp hBlock) h

/-- A document that compiles once looks up what its mapping mentions, and each term in the rule that it belongs
to. -/
theorem Document.compile_looksUp {d : Document} {m : Spec} (h : d.compile v = .ok m) :
    LooksUp d.compile m m.mentions := by
  obtain ⟨rules, hRules, rfl⟩ := Outcome.map_eq_ok_iff.mp h
  exact (compileBlocks_looksUp hRules).map Spec.mk

/-- A document that compiles once compiles to that mapping under every vocabulary that binds the terms of
the mapping, and under no other one. -/
theorem Document.compile_yields {d : Document} {m : Spec} (h : d.compile v = .ok m) :
    Yields d.compile m m.terms :=
  m.map_term_mentions ▸ (Document.compile_looksUp h).yields

end Mapping

namespace Conversion

open CatalogGraph.Mapping

/-- Without classes of records to resolve, making a converter is checking the mapping. -/
theorem Converter.exists_create_iff {m : Spec} {v : Vocabulary} {settings : Settings}
    (h : settings.recordTypes = []) :
    (∃ c, Converter.create m v settings = .ok c) ↔ m.check v = .ok () := by
  simp [Converter.create_eq_ok_iff, h, resolveAll]

/-- **Compiling a document and making a converter accept the same vocabularies.**  Let a document compile to a
mapping, and let no classes of records be asked for.  Then a converter can be made of the mapping with a
vocabulary exactly if the document compiles against it, and it compiles to the same mapping.  The vocabulary
that the document was compiled against is one of these. -/
theorem Converter.create_accepts_compile {d : Document} {v : Vocabulary} {m : Spec}
    (hCompiled : d.compile v = .ok m) {settings : Settings} (hTypes : settings.recordTypes = []) :
    (∀ w : Vocabulary,
      ((∃ c, Converter.create m w settings = .ok c) ↔ ∃ m', d.compile w = .ok m') ∧
      ((∃ c, Converter.create m w settings = .ok c) → d.compile w = .ok m)) ∧
    ∃ c, Converter.create m v settings = .ok c := by
  have hYields := Document.compile_yields hCompiled
  have hCreate (w : Vocabulary) : (∃ c, Converter.create m w settings = .ok c) ↔ w.Binds m.terms :=
    (Converter.exists_create_iff hTypes).trans Spec.check_eq_ok_iff_binds
  refine ⟨fun w => ⟨(hCreate w).trans hYields.exists_eq_ok_iff.symm, fun hMade => ?_⟩, ?_⟩
  · exact (hYields w m).mpr ⟨rfl, (hCreate w).mp hMade⟩
  · exact (hCreate v).mpr ((hYields v m).mp hCompiled).2

/-- A mapping that needs the label `bibo` in nothing but a table for an indicator.  Its document compiles to it
again under a larger vocabulary, and no converter can be made where the label is missing. -/
theorem Converter.create_accepts_compile_subjects :
    let table : TableSource := ⟨some "2", .ofList [("2", "bibo.subject")], none⟩
    let head : RuleHeadSource :=
      ⟨"a", none, some ⟨none, some ⟨some "dc.subject", none, some table⟩⟩, { base := "urn://topics/" }⟩
    let label : RuleSource := .plain ⟨"a", some "rdfs.label", none, {}⟩
    let topic : RuleSource := .related head (some "rdfs.Class") [[label]]
    let d : Document := { groups := [[⟨"650", .data [[topic]]⟩]] }
    let noBibo : Vocabulary := ⟨.ofList
      [("dc", "http://purl.org/dc/terms/"), ("rdfs", "http://www.w3.org/2000/01/rdf-schema#")]⟩
    ∃ m, d.compile .core = .ok m ∧ (∃ c, Converter.create m .core {} = .ok c) ∧
      d.compile .standard = .ok m ∧ ¬∃ c, Converter.create m noBibo {} = .ok c := by
  intro table head label topic d noBibo
  obtain ⟨m, hCompiled⟩ : ∃ m, d.compile .core = .ok m := by decide +kernel
  have hStandard : ∃ m, d.compile .standard = .ok m := by decide +kernel
  have hMissing : ¬∃ m, d.compile noBibo = .ok m := by decide +kernel
  obtain ⟨hAccepts, hOwn⟩ :=
    Converter.create_accepts_compile hCompiled (rfl : ({} : Settings).recordTypes = [])
  refine ⟨m, hCompiled, hOwn, ?_, ?_⟩
  · exact (hAccepts .standard).2 ((hAccepts .standard).1.mpr hStandard)
  · exact fun hMade => hMissing ((hAccepts noBibo).1.mp hMade)

end Conversion

end CatalogGraph
