import CatalogGraph.Conversion.FieldStatements

/-!
# What a rule reads of a field

A rule is applied to the value of one subfield, but its pipeline and its predicate see the whole field.
They look at it in two ways only: a pipeline where it combines subfields (`generate_congr`), a predicate
at the indicators and at the subfield of its condition (`predicateIri_congr`).
-/

namespace CatalogGraph.Conversion

open CatalogGraph.Mapping CatalogGraph.Marc

/-! ## Pipelines -/

variable {field field' : Option DataField}

/-- A stage sees the same in two fields: what it combines, if it combines subfields. -/
def ReadAlike (field field' : Option DataField) (stage : Stage) : Prop :=
  ∀ c, stage = .combine c → combined field c = combined field' c

theorem Stage.apply_congr {stage : Stage} (h : ReadAlike field field' stage) (s : String) :
    stage.apply field s = stage.apply field' s := by
  cases stage with
  | combine c => exact congrArg Except.ok (h c rfl)
  | substitute r => rfl
  | strip pattern => rfl
  | slug o => rfl
  | digest => rfl
  | lowercase => rfl

theorem Stage.applyAll_congr {stage : Stage} (h : ReadAlike field field' stage)
    (objects : List String) : stage.applyAll field objects = stage.applyAll field' objects := by
  induction objects with
  | nil => rfl
  | cons s rest ih => rw [applyAll, applyAll, Stage.apply_congr h, ih]

theorem runStages_congr {stages : List Stage} (h : ∀ stage ∈ stages, ReadAlike field field' stage)
    (objects : List String) : runStages field stages objects = runStages field' stages objects := by
  induction stages generalizing objects with
  | nil => rfl
  | cons stage stages ih =>
      obtain ⟨hStage, hRest⟩ := List.forall_mem_cons.mp h
      rw [runStages, runStages, Stage.applyAll_congr hStage]
      simp only [ih hRest]

theorem combine_eq_of_mem_stagesOf {p : Pipeline} {c : Combine} (h : .combine c ∈ stagesOf p) :
    p.combine = some c := by
  unfold stagesOf at h
  simpa using h

/-- The objects of a value depend on the field only through the combination of the pipeline. -/
theorem generate_congr {p : Pipeline}
    (h : ∀ c, p.combine = some c → combined field c = combined field' c) (value : String) :
    generate value field p = generate value field' p := by
  refine runStages_congr ?_ _
  rintro stage hStage c rfl
  exact h c (combine_eq_of_mem_stagesOf hStage)

/-! ## Predicates -/

/-- A predicate depends on the field only through the indicators and the subfield that its condition looks
at. -/
theorem predicateIri_congr {v : Vocabulary} {p : Predicate} {f f' : DataField}
    (hFirst : f.indicator1 = f'.indicator1) (hSecond : f.indicator2 = f'.indicator2)
    (hSibling : ∀ key table fallback, p = .conditional (.bySubfield key table fallback) →
      siblingValue? key f = siblingValue? key f') :
    predicateIri v p f = predicateIri v p f' := by
  have hChoice : choosePredicate p f = choosePredicate p f' := by
    cases p with
    | fixed term => rfl
    | conditional c =>
        rw [choosePredicate, choosePredicate]
        cases c with
        | bySubfield key table fallback => rw [chooseBy, chooseBy, hSibling key table fallback rfl]
        | byIndicators first second fallback => rw [chooseBy, chooseBy, hFirst, hSecond]
  rw [predicateIri, predicateIri, hChoice]

end CatalogGraph.Conversion
