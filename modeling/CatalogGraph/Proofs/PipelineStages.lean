import CatalogGraph.Conversion.Pipeline

/-!
# Cutting a pipeline

A pipeline is an extraction and a fixed sequence of stages, of which any may be left out.  It may be cut
behind the extraction or behind any stage:

* `stagesOf_append` — the stages before a cut and those behind it are the stages of the pipeline;
* `runStages_append` — to run them all is to run the first and then the others on what came out;
* `runStages_append_objects` — the others may be run on each text on its own.  A stage looks at one text at
  a time, so this is clear but for faults: where two stages can fail, a later text may fail in the first
  stage before an earlier one gets to the second.  Only the substitution can fail, and it comes first;
* `runStages_toList` — of one text, stages make one text or none.

What a pipeline gives is never blank (`isBlank_of_mem_generate`).  So nothing is lost where its results are
the candidates of the pipeline behind the cut, and blank candidates are dropped once more.
-/

namespace CatalogGraph

namespace Mapping.Pipeline

/-- The pipeline up to a cut: the extraction and the first `n` of the stages, in the order substitution,
combination, stripping, slug, digest, lower case. -/
def upTo (p : Pipeline) (n : Nat) : Pipeline where
  extraction := p.extraction
  substitute := if 0 < n then p.substitute else none
  combine := if 1 < n then p.combine else none
  strip := if 2 < n then p.strip else none
  slug := if 3 < n then p.slug else none
  digest := decide (4 < n) && p.digest
  lowercase := decide (5 < n) && p.lowercase

/-- The pipeline from a cut on: the whole value is taken, and the first `n` of the stages are left out. -/
def beyond (p : Pipeline) (n : Nat) : Pipeline where
  extraction := .whole
  substitute := if 0 < n then none else p.substitute
  combine := if 1 < n then none else p.combine
  strip := if 2 < n then none else p.strip
  slug := if 3 < n then none else p.slug
  digest := !decide (4 < n) && p.digest
  lowercase := !decide (5 < n) && p.lowercase

end Mapping.Pipeline

namespace Conversion

open CatalogGraph.Text CatalogGraph.Mapping CatalogGraph.Marc

variable {field : Option DataField}

/-! ## Blank texts are dropped -/

theorem Stage.isBlank_of_mem_applyAll {stage : Stage} {objects results : List String}
    (h : stage.applyAll field objects = .ok results) : ∀ o ∈ results, isBlank o = false := by
  induction objects generalizing results with
  | nil =>
      obtain rfl := Except.ok.inj h
      simp
  | cons s rest ih =>
      rw [applyAll, Outcome.bind_eq_ok_iff] at h
      obtain ⟨t, -, h⟩ := h
      obtain ⟨ts, hRest, h⟩ := Outcome.bind_eq_ok_iff.mp h
      obtain rfl := Except.ok.inj h
      split
      · exact ih hRest
      · next hBlank => exact List.forall_mem_cons.mpr ⟨Bool.eq_false_iff.mpr hBlank, ih hRest⟩

theorem isBlank_of_mem_runStages {stages : List Stage} {objects results : List String}
    (hObjects : ∀ o ∈ objects, isBlank o = false)
    (h : runStages field stages objects = .ok results) : ∀ o ∈ results, isBlank o = false := by
  induction stages generalizing objects with
  | nil =>
      obtain rfl := Except.ok.inj h
      exact hObjects
  | cons stage stages ih =>
      rw [runStages, Outcome.bind_eq_ok_iff] at h
      obtain ⟨next, hStage, hRest⟩ := h
      exact ih (Stage.isBlank_of_mem_applyAll hStage) hRest

/-- No result of a pipeline is blank, whatever the stages are. -/
theorem isBlank_of_mem_generate {value : String} {p : Pipeline} {objects : List String}
    (h : generate value field p = .ok objects) : ∀ o ∈ objects, isBlank o = false := by
  refine isBlank_of_mem_runStages (fun o ho => ?_) h
  simpa using (List.mem_filter.mp ho).2

/-! ## One stage after another -/

theorem runStages_append (first later : List Stage) (objects : List String) :
    runStages field (first ++ later) objects =
      runStages field first objects >>= runStages field later := by
  induction first generalizing objects with
  | nil => rfl
  | cons stage first ih =>
      rw [List.cons_append, runStages, runStages, bind_assoc]
      congr 1
      funext next
      exact ih next

theorem runStages_nil_objects (stages : List Stage) : runStages field stages [] = .ok [] := by
  induction stages with
  | nil => rfl
  | cons stage stages ih => exact ih

/-- The stages of a pipeline are those before a cut and those behind it. -/
theorem stagesOf_append (p : Pipeline) (n : Nat) :
    stagesOf (p.upTo n) ++ stagesOf (p.beyond n) = stagesOf p := by
  match n with
  | 0 | 1 | 2 | 3 | 4 | 5 => simp [stagesOf, Pipeline.upTo, Pipeline.beyond]
  | n + 6 => simp [stagesOf, Pipeline.upTo, Pipeline.beyond]

/-! ## One text after another -/

/-- A stage that makes something of every text. -/
def Stage.IsTotal (field : Option DataField) (stage : Stage) : Prop :=
  ∀ s, ∃ t, stage.apply field s = .ok t

/-- Every stage but the substitution makes something of every text. -/
theorem Stage.isTotal {stage : Stage} (h : ∀ r, stage ≠ .substitute r) : stage.IsTotal field := by
  intro s
  cases stage with
  | substitute r => exact absurd rfl (h r)
  | combine c => exact ⟨_, rfl⟩
  | strip pattern => exact ⟨_, rfl⟩
  | slug o => exact ⟨_, rfl⟩
  | digest => exact ⟨_, rfl⟩
  | lowercase => exact ⟨_, rfl⟩

theorem Stage.IsTotal.applyAll {stage : Stage} (h : stage.IsTotal field) (objects : List String) :
    ∃ results, stage.applyAll field objects = .ok results := by
  induction objects with
  | nil => exact ⟨[], rfl⟩
  | cons s rest ih =>
      obtain ⟨t, ht⟩ := h s
      obtain ⟨ts, hts⟩ := ih
      rw [Stage.applyAll, ht, hts]
      exact ⟨_, rfl⟩

theorem runStages_of_isTotal {stages : List Stage} (h : ∀ stage ∈ stages, stage.IsTotal field)
    (objects : List String) : ∃ results, runStages field stages objects = .ok results := by
  induction stages generalizing objects with
  | nil => exact ⟨objects, rfl⟩
  | cons stage stages ih =>
      obtain ⟨hStage, hRest⟩ := List.forall_mem_cons.mp h
      obtain ⟨next, hNext⟩ := hStage.applyAll objects
      obtain ⟨results, hResults⟩ := ih hRest next
      refine ⟨results, ?_⟩
      rw [runStages, hNext]
      exact hResults

/-- Behind its first stage a pipeline has no substitution. -/
theorem isTotal_of_mem_tail_stagesOf {p : Pipeline} {stage : Stage} (h : stage ∈ (stagesOf p).tail) :
    stage.IsTotal field := by
  apply Stage.isTotal
  rintro r rfl
  unfold stagesOf at h
  cases hSubstitute : p.substitute with
  | none => simpa [hSubstitute] using List.mem_of_mem_tail h
  | some r' => simp [hSubstitute] at h

/-- A stage treats the texts of a list one after the other. -/
theorem Stage.applyAll_append (stage : Stage) (xs ys : List String) :
    stage.applyAll field (xs ++ ys) =
      (do
        let a ← stage.applyAll field xs
        let b ← stage.applyAll field ys
        .ok (a ++ b)) := by
  induction xs with
  | nil => exact (bind_pure _).symm
  | cons s rest ih =>
      rw [List.cons_append, applyAll, applyAll, ih]
      cases stage.apply field s with
      | error e => rfl
      | ok t =>
          cases stage.applyAll field rest with
          | error e => rfl
          | ok a =>
              cases stage.applyAll field ys with
              | error e => rfl
              | ok b =>
                  simp only [bind, Except.bind]
                  split
                  · rfl
                  · rfl

/-- So do several stages, if only the first of them can fail: then no text fails in a later stage while
one behind it fails in the first. -/
theorem runStages_append_objects {stages : List Stage}
    (h : ∀ stage ∈ stages.tail, stage.IsTotal field) (xs ys : List String) :
    runStages field stages (xs ++ ys) =
      (do
        let a ← runStages field stages xs
        let b ← runStages field stages ys
        .ok (a ++ b)) := by
  induction stages generalizing xs ys with
  | nil => rfl
  | cons stage stages ih =>
      rw [List.tail_cons] at h
      have hTail := ih fun s hs => h s (List.mem_of_mem_tail hs)
      rw [runStages, runStages, runStages, Stage.applyAll_append]
      cases stage.applyAll field xs with
      | error e => rfl
      | ok a =>
          obtain ⟨a', ha'⟩ := runStages_of_isTotal h a
          cases stage.applyAll field ys with
          | error e =>
              -- `xs` got through the first stage and so through all others: this fault comes first
              simp only [bind, Except.bind, ha']
          | ok b =>
              obtain ⟨b', hb'⟩ := runStages_of_isTotal h b
              have hBoth := hTail a b
              rw [ha', hb'] at hBoth
              simpa only [bind, Except.bind, ha', hb'] using hBoth

/-- A stage drops a text or rewrites it. -/
theorem Stage.applyAll_singleton (stage : Stage) (s : String) :
    stage.applyAll field [s] =
      (stage.apply field s).map fun t => (if isBlank t then none else some t).toList := by
  rw [applyAll]
  cases stage.apply field s with
  | error e => rfl
  | ok t => cases hBlank : isBlank t <;> simp [Stage.applyAll, hBlank, bind, Except.bind, Except.map]

/-- Of one text or none, stages make one text or none. -/
theorem runStages_toList (stages : List Stage) (object : Option String) :
    ∃ result : Outcome (Option String),
      runStages field stages object.toList = result.map Option.toList := by
  induction stages generalizing object with
  | nil => exact ⟨.ok object, rfl⟩
  | cons stage stages ih =>
      cases object with
      | none => exact ih none
      | some s =>
          rw [Option.toList_some, runStages, Stage.applyAll_singleton]
          cases stage.apply field s with
          | error e => exact ⟨.error e, rfl⟩
          | ok t => exact ih _

/-! ## The cut -/

/-- Behind a cut a text is a candidate as it is, unless it is blank. -/
theorem generate_beyond (object : String) (p : Pipeline) (n : Nat) :
    generate object field (p.beyond n) =
      runStages field (stagesOf (p.beyond n)) ([object].filter fun s => !isBlank s) :=
  rfl

/-- The stages behind a cut may be run on each text on its own. -/
theorem runStages_beyond_eq_flatMapM {objects : List String} (p : Pipeline) (n : Nat)
    (h : ∀ o ∈ objects, isBlank o = false) :
    runStages field (stagesOf (p.beyond n)) objects =
      objects.flatMapM fun o => generate o field (p.beyond n) := by
  have hTotal : ∀ stage ∈ (stagesOf (p.beyond n)).tail, stage.IsTotal field :=
    fun _ => isTotal_of_mem_tail_stagesOf
  induction objects with
  | nil => exact runStages_nil_objects _
  | cons o rest ih =>
      obtain ⟨hHead, hRest⟩ := List.forall_mem_cons.mp h
      have hKept : [o].filter (fun s => !isBlank s) = [o] := by simp [hHead]
      rw [List.flatMapM_cons, ← ih hRest, generate_beyond, hKept, ← List.singleton_append,
        runStages_append_objects hTotal]
      rfl

/-- **A pipeline may be cut anywhere.**  To run it is to run what is before the cut, and then what is
behind the cut on each of the results, one after the other up to the first fault.  Behind the cut each
text is dropped or rewritten, or fails, on its own. -/
theorem generate_cut (value : String) (field : Option DataField) (p : Pipeline) (n : Nat) :
    generate value field p =
        (generate value field (p.upTo n) >>= fun objects =>
          objects.flatMapM fun o => generate o field (p.beyond n)) ∧
      ∀ o, ∃ rewritten : Outcome (Option String),
        generate o field (p.beyond n) = rewritten.map Option.toList := by
  constructor
  · have hStages : generate value field p =
        generate value field (p.upTo n) >>= runStages field (stagesOf (p.beyond n)) := by
      rw [generate, ← stagesOf_append p n, runStages_append]
      rfl
    rw [hStages]
    cases hFirst : generate value field (p.upTo n) with
    | error e => rfl
    | ok objects => exact runStages_beyond_eq_flatMapM p n (isBlank_of_mem_generate hFirst)
  · intro o
    rw [generate_beyond]
    cases hBlank : isBlank o with
    | true => simpa [hBlank] using runStages_toList _ none
    | false => simpa [hBlank] using runStages_toList _ (some o)

end Conversion

end CatalogGraph
