import CatalogGraph.Proofs.BatchShares
import CatalogGraph.Proofs.ConversionFaults

/-!
# The account of a run

A run that writes record by record ends in one of two ways.  A record that cannot be converted ends it, with the
fault of that record; a record that cannot be written and an input that cannot be read are counted, and the run
goes on.

* `Progress.addInputs_from` — what an input comes to does not depend on what was there before, whether the run ends
  with it or not; so a run is what its inputs come to by themselves, one after the other (`run_eq_inSuccession`);
* `run_stop` — the end of a run is that of the first record that cannot be converted.  This rests on the faults of
  a conversion: all of them are faults of the mapping (`isConfiguration_of_convert`);
* `run_counts_every_record` — a run that goes to its end has counted every record and every input that cannot be
  read, each once.

Documents that are written at the end, for all records together, are not described here.
-/

namespace CatalogGraph

open CatalogGraph.Conversion CatalogGraph.Mapping CatalogGraph.Marc CatalogGraph.Rdf

/-- A conversion fails by a fault of the mapping or not at all. -/
theorem Conversion.Converter.isConfiguration_of_convert {m : Spec} {v : Vocabulary} {settings : Settings}
    {c : Converter} (h : Converter.create m v settings = .ok c) {r : Record} {fault : Fault}
    (hFault : c.convert r = .error fault) : fault.isConfiguration = true := by
  obtain ⟨hCheck, types, -, rfl⟩ := Converter.create_eq_ok_iff.mp h
  obtain ⟨-, -, -, -, -, -, ⟨key, rfl⟩, -, -⟩ :=
    Converter.recordAssertions_faultsIn hCheck r fault (Assertions.outcome_eq_error_iff.mp hFault)
  rfl

namespace Batch

variable {c : Converter} {target : Target} {format : Format}

/-! ## Runs after each other -/

/-- Two runs one after the other.  If the first one ends early, there is no second one. -/
def onward (first second : Progress × Option Stop) : Progress × Option Stop :=
  match first.2 with
  | some stop => (first.1, some stop)
  | none => (first.1.plus second.1, second.2)

/-- Several runs one after the other, up to one that ends early. -/
def inSuccession (runs : List (Progress × Option Stop)) : Progress × Option Stop :=
  runs.foldr onward ({}, none)

theorem onward_assoc (first second third : Progress × Option Stop) :
    onward (onward first second) third = onward first (onward second third) := by
  obtain ⟨p, stop⟩ := first
  cases stop with
  | some stop => rfl
  | none =>
      obtain ⟨q, stop⟩ := second
      cases stop with
      | some stop => rfl
      | none => simp only [onward, Progress.plus_assoc]

theorem onward_empty (p : Progress) : onward (p, none) ({}, none) = (p, none) := by
  rw [onward, Progress.plus_empty]

theorem empty_onward (run : Progress × Option Stop) : onward ({}, none) run = run := by
  rw [onward, Progress.empty_plus]

theorem inSuccession_append (runs more : List (Progress × Option Stop)) :
    inSuccession (runs ++ more) = onward (inSuccession runs) (inSuccession more) := by
  induction runs with
  | nil => exact (empty_onward _).symm
  | cons run rest ih => exact (congrArg (onward run) ih).trans (onward_assoc ..).symm

/-- Runs one after the other end as the first of them that ends early. -/
theorem inSuccession_stop (runs : List (Progress × Option Stop)) :
    (inSuccession runs).2 = runs.findSome? (·.2) := by
  induction runs with
  | nil => rfl
  | cons run rest ih =>
      obtain ⟨p, stop⟩ := run
      cases stop with
      | some stop => rfl
      | none => exact ih

/-- What records of a file come to is added to what is there. -/
theorem Progress.addRecords_from (path : String) (records : List Record) (p : Progress) :
    addRecords c target format path records p =
      onward (p, none) (addRecords c target format path records {}) := by
  induction records generalizing p with
  | nil => exact (onward_empty p).symm
  | cons r rest ih =>
      rw [addRecords, addRecords]
      cases c.convert r with
      | ok statements =>
          simp only
          rw [ih, addStatements_eq, ih (({} : Progress).addStatements target format r statements)]
          exact onward_assoc (p, none) (_, none) _
      | error fault =>
          simp only
          split
          · simp only [onward, plus_empty]
          · rw [ih, ih { ({} : Progress) with failed := ({} : Progress).failed + 1 }, ← plus_failed p 1]
            exact onward_assoc (p, none) (_, none) _

/-- What an input comes to by itself. -/
def outcomeOf (c : Converter) (target : Target) (format : Format) (input : Input) :
    Progress × Option Stop :=
  match input.records with
  | .error _ => ({ failed := 1 }, none)
  | .ok records => Progress.addRecords c target format input.path records {}

/-- Each input comes to what it comes to by itself. -/
theorem Progress.addInputs_from (inputs : List Input) (p : Progress) :
    addInputs c target format inputs p =
      onward (p, none) (inSuccession (inputs.map (outcomeOf c target format))) := by
  induction inputs generalizing p with
  | nil => exact (onward_empty p).symm
  | cons input rest ih =>
      have hNext : inSuccession ((input :: rest).map (outcomeOf c target format)) =
          onward (outcomeOf c target format input)
            (inSuccession (rest.map (outcomeOf c target format))) := rfl
      rw [addInputs, hNext, ← onward_assoc, outcomeOf]
      cases input.records with
      | error fault =>
          simp only
          rw [ih, ← plus_failed p 1]
          rfl
      | ok records =>
          simp only
          rw [addRecords_from input.path records p]
          cases onward (p, none) (addRecords c target format input.path records {}) with
          | mk q stop =>
              cases stop with
              | some stop => rfl
              | none => exact ih q

/-- A run without a document at its end is what its inputs come to, one after the other. -/
theorem run_eq_inSuccession (hTarget : target = .screen → format = .nTriples) (inputs : List Input) :
    run c target format inputs = inSuccession (inputs.map (outcomeOf c target format)) := by
  have hFinish (p : Progress) : p.finish target format = (p, none) := by
    cases target with
    | folder path => rfl
    | screen =>
        obtain rfl := hTarget rfl
        rfl
  rw [run, Progress.addInputs_from, empty_onward]
  split
  · next h => exact h.symm
  · next h => rw [hFinish, h]

/-! ## The end of a run -/

/-- The records of the inputs that could be read, each with the path of its input. -/
def filedRecords (inputs : List Input) : List (String × Record) :=
  inputs.flatMap fun input => (input.records.toOption.getD []).map (input.path, ·)

theorem map_snd_filedRecords (inputs : List Input) :
    (filedRecords inputs).map Prod.snd = recordsOf inputs := by
  rw [filedRecords, recordsOf, List.map_flatMap]
  exact List.flatMap_congr fun input _ => by simp [List.map_map, Function.comp_def]

/-- The end that a record of a file brings to a run, if it cannot be converted. -/
def stopAt? (c : Converter) (filed : String × Record) : Option Stop :=
  match c.convert filed.2 with
  | .ok _ => none
  | .error fault => some (.conversion filed.1 fault)

theorem stopAt?_eq_none_iff {filed : String × Record} :
    stopAt? c filed = none ↔ ∃ statements, c.convert filed.2 = .ok statements := by
  unfold stopAt?
  cases c.convert filed.2 with
  | ok statements => simp
  | error fault => simp

theorem Progress.addRecords_stop
    (hFaults : ∀ r fault, c.convert r = .error fault → fault.isConfiguration = true)
    (path : String) (records : List Record) (p : Progress) :
    (addRecords c target format path records p).2 = records.findSome? fun r => stopAt? c (path, r) := by
  induction records generalizing p with
  | nil => rfl
  | cons r rest ih =>
      rw [addRecords, List.findSome?_cons, stopAt?]
      cases hConvert : c.convert r with
      | ok statements => simp only [ih]
      | error fault => simp only [hFaults r fault hConvert, if_true]

theorem outcomeOf_stop
    (hFaults : ∀ r fault, c.convert r = .error fault → fault.isConfiguration = true) (input : Input) :
    (outcomeOf c target format input).2 =
      (input.records.toOption.getD []).findSome? fun r => stopAt? c (input.path, r) := by
  rw [outcomeOf]
  cases input.records with
  | error fault => rfl
  | ok records => exact Progress.addRecords_stop hFaults input.path records {}

/-- The first record that cannot be converted ends a run. -/
theorem run_stop (hFaults : ∀ r fault, c.convert r = .error fault → fault.isConfiguration = true)
    (hTarget : target = .screen → format = .nTriples) (inputs : List Input) :
    (run c target format inputs).2 = (filedRecords inputs).findSome? (stopAt? c) := by
  rw [run_eq_inSuccession hTarget, inSuccession_stop, List.findSome?_map, filedRecords]
  induction inputs with
  | nil => rfl
  | cons input rest ih =>
      have hInput : ((input.records.toOption.getD []).map (input.path, ·)).findSome? (stopAt? c) =
          (outcomeOf c target format input).2 := by
        rw [List.findSome?_map, outcomeOf_stop hFaults]
        rfl
      rw [List.flatMap_cons, List.findSome?_append, hInput, ← ih, List.findSome?_cons, Function.comp_apply]
      cases (outcomeOf c target format input).2 with
      | none => rfl
      | some stop => rfl

theorem run_stop_eq_none_iff
    (hFaults : ∀ r fault, c.convert r = .error fault → fault.isConfiguration = true)
    (hTarget : target = .screen → format = .nTriples) (inputs : List Input) :
    (run c target format inputs).2 = none ↔
      ∀ r ∈ recordsOf inputs, ∃ statements, c.convert r = .ok statements := by
  rw [run_stop hFaults hTarget, List.findSome?_eq_none_iff, ← map_snd_filedRecords, List.forall_mem_map]
  exact forall₂_congr fun filed _ => stopAt?_eq_none_iff

/-! ## Counts -/

/-- A run that goes to its end has converted the records that can be written. -/
theorem run_counts_of_converts (hTarget : target = .screen → format = .nTriples) {inputs : List Input}
    (h : ∀ r ∈ recordsOf inputs, ∃ statements, c.convert r = .ok statements) :
    (run c target format inputs).1.converted =
        (recordsOf inputs).countP (fun r => (serialize format (c.statementsOf r)).toOption.isSome) ∧
      (run c target format inputs).1.failed =
        (recordsOf inputs).countP (fun r => (serialize format (c.statementsOf r)).toOption.isNone) +
          unreadable inputs := by
  have hFaultless : c.FaultlessOn (recordsOf inputs) := by
    intro r hr fault hFault
    obtain ⟨statements, hConvert⟩ := h r hr
    rw [hConvert] at hFault
    cases hFault
  have hDocument : ∀ r ∈ recordsOf inputs,
      c.document? format r = (serialize format (c.statementsOf r)).toOption := by
    intro r hr
    obtain ⟨statements, hConvert⟩ := h r hr
    rw [Converter.document?_of_convert hConvert, Converter.statementsOf_of_convert hConvert]
  have hConverted : (recordsOf inputs).countP (fun r => (c.document? format r).isSome) =
      (recordsOf inputs).countP (fun r => (serialize format (c.statementsOf r)).toOption.isSome) :=
    List.countP_congr fun r hr => by rw [hDocument r hr]
  have hFailed : (recordsOf inputs).countP (fun r => (c.document? format r).isNone) =
      (recordsOf inputs).countP (fun r => (serialize format (c.statementsOf r)).toOption.isNone) :=
    List.countP_congr fun r hr => by rw [hDocument r hr]
  cases target with
  | folder path =>
      rw [run_folder hFaultless, ← hConverted, ← hFailed]
      exact ⟨rfl, rfl⟩
  | screen =>
      obtain rfl := hTarget rfl
      rw [run_screen_nTriples hFaultless, ← hConverted, ← hFailed]
      exact ⟨rfl, rfl⟩

/-- An input that cannot be read is counted if the run gets to it, and leaves everything else as it is. -/
theorem inSuccession_unreadable (runs more : List (Progress × Option Stop)) :
    let result := inSuccession (runs ++ ({ failed := 1 }, none) :: more)
    let others := inSuccession (runs ++ more)
    { result.1 with failed := others.1.failed } = others.1 ∧ result.2 = others.2 ∧
      (result.2 = none → result.1.failed = others.1.failed + 1) := by
  simp only [inSuccession_append]
  have hNext : inSuccession (({ failed := 1 }, none) :: more) =
      onward ({ failed := 1 }, none) (inSuccession more) := rfl
  rw [hNext]
  obtain ⟨p, stop⟩ := inSuccession runs
  obtain ⟨q, later⟩ := inSuccession more
  cases stop with
  | some stop => exact ⟨rfl, rfl, fun hNone => by cases hNone⟩
  | none =>
      have hLate : p.plus (({ failed := 1 } : Progress).plus q) =
          { p.plus q with failed := (p.plus q).failed + 1 } := by
        rw [← Progress.plus_assoc, Progress.plus_failed_plus, Progress.plus_failed]
      simp only [onward, hLate, implies_true, and_self]

/-- **A run accounts for every record and every input.**  Let a converter be made, and let a run write record by
record: into a folder, or as N-Triples on the screen.  The run ends early exactly if a record of an input that can
be read cannot be converted, and then with the fault of the first such record, input by input and in each record by
record.  Otherwise it has counted as failed the inputs that cannot be read and the records whose statements cannot
be serialized, and all other records as converted.  Each input comes to what it comes to by itself, and the run to
this one after the other: with an input that cannot be read it ends as it does without it and comes to the same,
but for one failure more. -/
theorem run_counts_every_record {m : Spec} {v : Vocabulary} {settings : Settings}
    (hCreate : Converter.create m v settings = .ok c) (hTarget : target = .screen → format = .nTriples)
    (inputs : List Input) :
    let result := run c target format inputs
    ((result.2 = none ↔ ∀ r ∈ recordsOf inputs, ∃ statements, c.convert r = .ok statements) ∧
      ∀ before path r after fault, filedRecords inputs = before ++ (path, r) :: after →
        (∀ filed ∈ before, ∃ statements, c.convert filed.2 = .ok statements) →
          c.convert r = .error fault → result.2 = some (.conversion path fault)) ∧
      (result.2 = none →
        result.1.failed = unreadable inputs +
            (recordsOf inputs).countP (fun r => (serialize format (c.statementsOf r)).toOption.isNone) ∧
          result.1.converted + result.1.failed = (recordsOf inputs).length + unreadable inputs) ∧
      result = inSuccession (inputs.map (outcomeOf c target format)) ∧
      ∀ before path e after, inputs = before ++ ⟨path, .error e⟩ :: after →
        let others := run c target format (before ++ after)
        { result.1 with failed := others.1.failed } = others.1 ∧ result.2 = others.2 ∧
          (result.2 = none → result.1.failed = others.1.failed + 1) := by
  have hFaults : ∀ r fault, c.convert r = .error fault → fault.isConfiguration = true :=
    fun r fault => Converter.isConfiguration_of_convert hCreate
  have hEnd := run_stop_eq_none_iff hFaults hTarget inputs
  refine ⟨⟨hEnd, ?_⟩, fun hNone => ?_, run_eq_inSuccession hTarget inputs, ?_⟩
  · intro before path r after fault hFiled hBefore hFault
    have hEarlier : before.findSome? (stopAt? c) = none :=
      List.findSome?_eq_none_iff.mpr fun filed hMem => stopAt?_eq_none_iff.mpr (hBefore filed hMem)
    have hHere : stopAt? c (path, r) = some (.conversion path fault) := by rw [stopAt?, hFault]
    rw [run_stop hFaults hTarget, hFiled, List.findSome?_append, hEarlier, Option.none_or,
      List.findSome?_cons, hHere]
  · obtain ⟨hConverted, hFailed⟩ := run_counts_of_converts hTarget (hEnd.mp hNone)
    have hAll := (recordsOf inputs).length_eq_countP_add_countP
      (fun r => (serialize format (c.statementsOf r)).toOption.isSome)
    simp only [Bool.not_eq_true, Option.isSome_eq_false_iff, Bool.decide_eq_true] at hAll
    omega
  · rintro before path e after rfl
    simp only [run_eq_inSuccession hTarget, List.map_append, List.map_cons]
    exact inSuccession_unreadable _ _

/-- One file that cannot be read, and two with a record that cannot be written.  The run over the first two of
them goes to its end.  The third file has another record, whose kind is missing from a table; the run ends there,
and what it has come to by then does not show the file that cannot be read. -/
theorem run_counts_every_record_kinds :
    let kinds : Substitutions String := ⟨(Regex.compile? "[a-z]+").get (by decide +kernel), .empty⟩
    let m : Spec := ⟨[⟨"245", .data [.plain ⟨"a", .fixed (.iri "urn:title"), {}⟩,
      .plain ⟨"b", .fixed (.iri "urn:subtitle"), { language := some "not valid" }⟩,
      .plain ⟨"h", .fixed (.iri "urn:kind"), { pipeline := { substitute := some ⟨kinds, none⟩ } }⟩]⟩]⟩
    let c : Converter := ⟨m, .core, "placeholder.com", []⟩
    let record (identifier : String) (subfields : List Subfield) : Record :=
      .ofFields [.control ⟨"001", identifier⟩, .data ⟨"245", '1', '0', subfields⟩]
    let gone : Input := ⟨"1.marcxml", .error Cause.file⟩
    let early : List Input := [gone,
      ⟨"2.marcxml", .ok [record "1" [⟨'a', "Emma"⟩], record "2" [⟨'b', "a tale"⟩]]⟩]
    let late : Input := ⟨"3.marcxml",
      .ok [record "3" [⟨'b', "a tale"⟩], record "4" [⟨'h', "map"⟩], record "5" [⟨'a', "Emma"⟩]]⟩
    let fault : Fault := ⟨.missingSubstitution "map", some ⟨"245", some "h"⟩⟩
    (Converter.create m .core {} = .ok c ∧ (Target.screen = .screen → Format.nTriples = .nTriples)) ∧
      (run c .screen .nTriples early).2 = none ∧
      (run c .screen .nTriples early).1.converted = 1 ∧ (run c .screen .nTriples early).1.failed = 2 ∧
      (run c .screen .nTriples (early ++ [late])).2 = some (.conversion "3.marcxml" fault) ∧
      (run c .screen .nTriples (early ++ [late])).1.printed =
        (run c .screen .nTriples (early.tail ++ [late])).1.printed := by
  intro kinds m c record gone early late fault
  have hCreate : Converter.create m .core {} = .ok c := rfl
  have hTarget : Target.screen = .screen → Format.nTriples = .nTriples := fun _ => rfl
  obtain ⟨⟨hEarlyEnd, -⟩, hEarlyCounts, -⟩ := run_counts_every_record hCreate hTarget early
  obtain ⟨⟨-, hLateEnd⟩, -, -, hLateOthers⟩ := run_counts_every_record hCreate hTarget (early ++ [late])
  have hEarly : (run c .screen .nTriples early).2 = none := hEarlyEnd.mpr (by decide +kernel)
  obtain ⟨hFailed, hSum⟩ := hEarlyCounts hEarly
  have hTwo : (run c .screen .nTriples early).1.failed = 2 := hFailed.trans (by decide +kernel)
  have hThree : (recordsOf early).length + unreadable early = 3 := by decide +kernel
  have hFault : c.convert (record "4" [⟨'h', "map"⟩]) = .error fault := by
    rw [Converter.convert, Assertions.outcome_eq_error_iff]
    decide +kernel
  have hOthers := (hLateOthers [] "1.marcxml" Cause.file _ rfl).1
  refine ⟨⟨hCreate, hTarget⟩, hEarly, by omega, hTwo, ?_, ?_⟩
  · exact hLateEnd ((filedRecords (early ++ [late])).take 3) "3.marcxml" _ _ fault rfl
      (by decide +kernel) hFault
  · have hPrinted := congrArg Progress.printed hOthers
    exact hPrinted

end Batch

end CatalogGraph
