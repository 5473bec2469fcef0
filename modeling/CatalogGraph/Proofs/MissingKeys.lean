import CatalogGraph.Conversion.FieldStatements
import CatalogGraph.Proofs.BoundTerms

/-!
# Missing keys

The one thing that can go wrong while a value becomes objects, or while a condition chooses a predicate,
is a key without a replacement:

* `lookup_error` — a table fails with a missing key only, and what it finds is one of its values;
* `generate_error` — a pipeline fails with a missing key only, whatever its stages are;
* `predicateIri_error` — a predicate fails with a missing key only, if all its terms are bound.  Each
  term that a condition can come to, from a table or as its fallback, is among `Predicate.terms`.
-/

namespace CatalogGraph

/-- A key without a replacement, in the rule at `place` if that is known. -/
def Fault.IsMissingKey (e : Fault) (place : Option RulePlace) : Prop :=
  ∃ key, e = { cause := .missingSubstitution key, place := place }

namespace Fault.IsMissingKey

variable {e : Fault}

/-- A missing key that names no rule gets the first one that it is met in. -/
theorem inRule (h : e.IsMissingKey none) (tag : String) (subfield : Option String) :
    (e.inRule tag subfield).IsMissingKey (some ⟨tag, subfield⟩) := by
  obtain ⟨key, rfl⟩ := h
  exact ⟨key, rfl⟩

/-- A missing key that names a rule keeps it. -/
theorem inRule_of_some {place : RulePlace} (h : e.IsMissingKey (some place)) (tag : String)
    (subfield : Option String) : (e.inRule tag subfield).IsMissingKey (some place) := by
  obtain ⟨key, rfl⟩ := h
  exact ⟨key, rfl⟩

end Fault.IsMissingKey

namespace Mapping.Substitutions

variable {α : Type} {t : Substitutions α} {e : Fault}

theorem replaceKeys_error {keys : List String} {found : Option α}
    (h : t.replaceKeys keys found = .error e) : e.IsMissingKey none := by
  induction keys generalizing found with
  | nil => exact absurd h (by simp [replaceKeys])
  | cons key keys ih =>
      rw [replaceKeys] at h
      cases hFind : t.replacements.find? key with
      | none =>
          rw [hFind] at h
          exact ⟨key, (Except.error.inj h).symm⟩
      | some value =>
          rw [hFind] at h
          exact ih h

theorem lookup_error {input : String} (h : t.lookup input = .error e) : e.IsMissingKey none :=
  replaceKeys_error h

/-- What keys are replaced by is a value of the table, unless it was found before them. -/
theorem mem_values_of_replaceKeys {keys : List String} {found : Option α} {value : α}
    (h : t.replaceKeys keys found = .ok (some value)) :
    value ∈ t.replacements.values ∨ found = some value := by
  induction keys generalizing found with
  | nil => exact Or.inr (Except.ok.inj h)
  | cons key keys ih =>
      rw [replaceKeys] at h
      cases hFind : t.replacements.find? key with
      | none =>
          rw [hFind] at h
          exact absurd h (by simp)
      | some next =>
          rw [hFind] at h
          rcases ih h with hMem | hNext
          · exact Or.inl hMem
          · rw [Option.some.inj hNext] at hFind
            exact Or.inl (OrderedMap.mem_values_of_find? hFind)

theorem mem_values_of_lookup {input : String} {value : α}
    (h : t.lookup input = .ok (some value)) : value ∈ t.replacements.values := by
  rcases mem_values_of_replaceKeys h with hMem | hFound
  · exact hMem
  · exact absurd hFound (by simp)

end Mapping.Substitutions

namespace Conversion

open CatalogGraph.Mapping CatalogGraph.Marc

variable {field : Option DataField} {e : Fault}

/-! ## Pipelines -/

theorem replace_error {r : Replacement} {s : String} (h : replace r s = .error e) :
    e.IsMissingKey none :=
  Substitutions.lookup_error (Outcome.map_eq_error_iff.mp h)

/-- A stage that is no substitution cannot fail. -/
theorem Stage.apply_error {stage : Stage} {s : String} (h : stage.apply field s = .error e) :
    e.IsMissingKey none := by
  cases stage with
  | substitute r => exact replace_error h
  | combine c => exact absurd h (by simp [Stage.apply])
  | strip pattern => exact absurd h (by simp [Stage.apply])
  | slug o => exact absurd h (by simp [Stage.apply])
  | digest => exact absurd h (by simp [Stage.apply])
  | lowercase => exact absurd h (by simp [Stage.apply])

theorem Stage.applyAll_error {stage : Stage} {objects : List String}
    (h : stage.applyAll field objects = .error e) : e.IsMissingKey none := by
  induction objects with
  | nil => exact absurd h (by simp [Stage.applyAll])
  | cons s rest ih =>
      rw [Stage.applyAll, Outcome.bind_eq_error_iff] at h
      rcases h with hHead | ⟨t, -, h⟩
      · exact Stage.apply_error hHead
      · rcases Outcome.bind_eq_error_iff.mp h with hRest | ⟨ts, -, h⟩
        · exact ih hRest
        · exact absurd h (by simp)

theorem runStages_error {stages : List Stage} {objects : List String}
    (h : runStages field stages objects = .error e) : e.IsMissingKey none := by
  induction stages generalizing objects with
  | nil => exact absurd h (by simp [runStages])
  | cons stage stages ih =>
      rw [runStages, Outcome.bind_eq_error_iff] at h
      rcases h with hStage | ⟨next, -, hRest⟩
      · exact Stage.applyAll_error hStage
      · exact ih hRest

/-- The only fault of a pipeline is a missing key. -/
theorem generate_error {value : String} {p : Pipeline} (h : generate value field p = .error e) :
    e.IsMissingKey none :=
  runStages_error h

/-! ## Predicates -/

variable {f : DataField}

theorem lookupIn_error {table : Option (Substitutions Term)} {input : String}
    (h : lookupIn table input = .error e) : e.IsMissingKey none := by
  cases table with
  | none => exact absurd h (by simp [lookupIn])
  | some t => exact Substitutions.lookup_error h

theorem mem_values_of_lookupIn {table : Option (Substitutions Term)} {input : String} {term : Term}
    (h : lookupIn table input = .ok (some term)) :
    ∃ t, table = some t ∧ term ∈ t.replacements.values := by
  cases table with
  | none => exact absurd h (by simp [lookupIn])
  | some t => exact ⟨t, rfl, Substitutions.mem_values_of_lookup h⟩

theorem chooseBy_error {c : Condition} (h : chooseBy c f = .error e) : e.IsMissingKey none := by
  cases c with
  | bySubfield code table fallback =>
      rw [chooseBy] at h
      cases hSibling : siblingValue? code f with
      | none =>
          rw [hSibling] at h
          exact absurd h (by simp)
      | some value =>
          rw [hSibling] at h
          exact Substitutions.lookup_error (Outcome.map_eq_error_iff.mp h)
  | byIndicators first second fallback =>
      rw [chooseBy, Outcome.bind_eq_error_iff] at h
      rcases h with hFirst | ⟨found1, -, h⟩
      · exact lookupIn_error hFirst
      · rcases Outcome.bind_eq_error_iff.mp h with hSecond | ⟨found2, -, h⟩
        · exact lookupIn_error hSecond
        · exact absurd h (by simp)

/-- A condition comes to one of its terms: a value of a table, or the fallback. -/
theorem mem_terms_of_chooseBy {c : Condition} {term : Term} (h : chooseBy c f = .ok term) :
    term ∈ c.terms := by
  cases c with
  | bySubfield code table fallback =>
      rw [chooseBy] at h
      rw [Condition.terms, List.mem_append, List.mem_singleton]
      cases hSibling : siblingValue? code f with
      | none =>
          rw [hSibling] at h
          exact Or.inr (Except.ok.inj h).symm
      | some value =>
          rw [hSibling] at h
          obtain ⟨found, hFound, rfl⟩ := Outcome.map_eq_ok_iff.mp h
          cases found with
          | none => exact Or.inr rfl
          | some term => exact Or.inl (Substitutions.mem_values_of_lookup hFound)
  | byIndicators first second fallback =>
      rw [chooseBy, Outcome.bind_eq_ok_iff] at h
      obtain ⟨found1, h1, h⟩ := h
      obtain ⟨found2, h2, h⟩ := Outcome.bind_eq_ok_iff.mp h
      obtain rfl := Except.ok.inj h
      rw [Condition.terms, List.mem_append, List.mem_singleton, List.mem_flatMap]
      -- the second indicator is asked first
      cases found2 with
      | some term =>
          obtain ⟨t, rfl, hMem⟩ := mem_values_of_lookupIn h2
          exact Or.inl ⟨t, by simp, hMem⟩
      | none =>
          cases found1 with
          | some term =>
              obtain ⟨t, rfl, hMem⟩ := mem_values_of_lookupIn h1
              exact Or.inl ⟨t, by simp, hMem⟩
          | none => exact Or.inr rfl

theorem choosePredicate_error {p : Predicate} (h : choosePredicate p f = .error e) :
    e.IsMissingKey none := by
  cases p with
  | fixed term => exact absurd h (by simp [choosePredicate])
  | conditional c => exact chooseBy_error h

theorem mem_terms_of_choosePredicate {p : Predicate} {term : Term}
    (h : choosePredicate p f = .ok term) : term ∈ p.terms := by
  cases p with
  | fixed t =>
      rw [← Except.ok.inj h]
      exact List.mem_singleton_self t
  | conditional c => exact mem_terms_of_chooseBy h

/-- The only fault of a predicate whose terms are all bound is a missing key. -/
theorem predicateIri_error {v : Vocabulary} {p : Predicate} (hTerms : v.Binds p.terms)
    (h : predicateIri v p f = .error e) : e.IsMissingKey none := by
  unfold predicateIri at h
  rcases Outcome.bind_eq_error_iff.mp h with hChoice | ⟨term, hTerm, hResolve⟩
  · exact choosePredicate_error hChoice
  · obtain ⟨iri, hIri⟩ := hTerms term (mem_terms_of_choosePredicate hTerm)
    rw [hIri] at hResolve
    exact absurd hResolve (by simp)

end Conversion

end CatalogGraph
