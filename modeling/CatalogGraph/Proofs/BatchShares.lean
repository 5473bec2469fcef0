import CatalogGraph.Batch.Run
import CatalogGraph.Proofs.WritableStatements
import Mathlib.Data.List.Basic

/-!
# What records add to a run

A run goes over the inputs with one state, its progress.  But the state is never read, only added to.  So
what a record adds is the same wherever it stands (`Progress.share`), and as long as there is no fault of the
mapping a run is the sum over its records (`Progress.addInputs_eq`).  An input that cannot be read adds to the
count of failures and to nothing else.

The three kinds of runs differ in what the share of a record is, and come to this:

* `run_folder` — every record that is converted leaves a file, as far as it could be written;
* `run_screen_nTriples` — the lines of the records are printed one after the other, as far as each could be
  written;
* `run_screen_document` — what is printed is one document of the statements of all records.

What a run that a fault of the mapping ends has come to by then is not described here.
-/

namespace CatalogGraph

open CatalogGraph.Conversion CatalogGraph.Marc CatalogGraph.Rdf

namespace Conversion.Converter

/-- The statements of a record; of one that cannot be converted, none. -/
def statementsOf (c : Converter) (r : Record) : List Statement := (c.convert r).toOption.getD []

/-- The document of one record, if it can be converted and written to its end. -/
def document? (c : Converter) (format : Format) (r : Record) : Option String :=
  (c.convert r >>= serialize format).toOption

/-- Whether the statements of a record can be written to the end. -/
def canWrite (c : Converter) (format : Format) (r : Record) : Bool :=
  (format.write (c.statementsOf r)).stopped.isNone

/-- No fault of the mapping shows in any of some records. -/
def FaultlessOn (c : Converter) (records : List Record) : Prop :=
  ∀ r ∈ records, ∀ fault, c.convert r = .error fault → fault.isConfiguration = false

variable {c : Converter} {format : Format} {r : Record} {statements : List Statement}

theorem faultlessOn_of_converts {records : List Record}
    (h : ∀ r ∈ records, (c.convert r).toOption.isSome = true) : c.FaultlessOn records := by
  intro r hr fault hFault
  have hConverts := h r hr
  rw [hFault] at hConverts
  exact absurd hConverts Bool.false_ne_true

theorem statementsOf_of_convert (h : c.convert r = .ok statements) : c.statementsOf r = statements := by
  rw [statementsOf, h]
  rfl

/-- A record has a document exactly if its statements have one. -/
theorem document?_of_convert (h : c.convert r = .ok statements) :
    c.document? format r = (serialize format statements).toOption := by
  rw [document?, h]
  rfl

theorem document?_of_error {fault : Fault} (h : c.convert r = .error fault) :
    c.document? format r = none := by
  rw [document?, h]
  rfl

end Conversion.Converter

namespace Batch

/-- The records of the inputs that could be read, in order. -/
def recordsOf (inputs : List Input) : List Record :=
  inputs.flatMap fun input => input.records.toOption.getD []

/-- How many inputs could not be read. -/
def unreadable (inputs : List Input) : Nat := inputs.countP fun input => input.records.toOption.isNone

section Inputs

variable {input : Input} {rest : List Input}

theorem recordsOf_cons_ok {records : List Record} (h : input.records = .ok records) :
    recordsOf (input :: rest) = records ++ recordsOf rest := by
  rw [recordsOf, List.flatMap_cons, h]
  rfl

theorem recordsOf_cons_error {fault : Fault} (h : input.records = .error fault) :
    recordsOf (input :: rest) = recordsOf rest := by
  rw [recordsOf, List.flatMap_cons, h]
  rfl

theorem unreadable_cons_ok {records : List Record} (h : input.records = .ok records) :
    unreadable (input :: rest) = unreadable rest := by
  rw [unreadable, List.countP_cons, h]
  rfl

theorem unreadable_cons_error {fault : Fault} (h : input.records = .error fault) :
    unreadable (input :: rest) = unreadable rest + 1 := by
  rw [unreadable, List.countP_cons, h]
  rfl

end Inputs

namespace Progress

/-! ## Sums -/

/-- What two runs come to one after the other. -/
def plus (p q : Progress) : Progress where
  printed := p.printed ++ q.printed
  written := p.written ++ q.written
  pending := p.pending ++ q.pending
  converted := p.converted + q.converted
  failed := p.failed + q.failed

theorem plus_empty (p : Progress) : p.plus {} = p := by
  simp only [plus, String.append_empty, List.append_nil, Nat.add_zero]

theorem empty_plus (p : Progress) : ({} : Progress).plus p = p := by
  simp only [plus, String.empty_append, List.nil_append, Nat.zero_add]

theorem plus_assoc (p q s : Progress) : (p.plus q).plus s = p.plus (q.plus s) := by
  simp only [plus, String.append_assoc, List.append_assoc, Nat.add_assoc]

theorem plus_failed (p : Progress) (n : Nat) :
    p.plus { failed := n } = { p with failed := p.failed + n } := by
  simp only [plus, String.append_empty, List.append_nil, Nat.add_zero]

/-- A failure that leaves nothing may be counted at any time. -/
theorem plus_failed_plus (p q : Progress) (n : Nat) :
    (p.plus { failed := n }).plus q = (p.plus q).plus { failed := n } := by
  rw [plus_failed, plus_failed]
  simp only [plus, Nat.add_right_comm]

/-- What several runs come to one after the other. -/
def total : List Progress → Progress
  | [] => {}
  | p :: rest => p.plus (total rest)

theorem total_append (ps qs : List Progress) : total (ps ++ qs) = (total ps).plus (total qs) := by
  induction ps with
  | nil => rw [List.nil_append, total, empty_plus]
  | cons p rest ih => rw [List.cons_append, total, total, ih, plus_assoc]

/-- A sum is taken part by part.  What adds one or nothing to a count is counted. -/
theorem total_map {α : Type} (printed : α → String) (written : α → List (String × String))
    (pending : α → List Statement) (converted failed : α → Bool) (xs : List α) :
    total (xs.map fun x =>
        { printed := printed x
          written := written x
          pending := pending x
          converted := (converted x).toNat
          failed := (failed x).toNat }) =
      { printed := String.join (xs.map printed)
        written := xs.flatMap written
        pending := xs.flatMap pending
        converted := xs.countP converted
        failed := xs.countP failed } := by
  have hCount : ∀ (good : α → Bool) (x : α) (rest : List α),
      (good x).toNat + rest.countP good = (x :: rest).countP good := by
    intro good x rest
    rw [List.countP_cons, Nat.add_comm]
    cases good x with
    | false => rfl
    | true => rfl
  induction xs with
  | nil => rfl
  | cons x rest ih =>
      rw [List.map_cons, total, ih]
      simp only [plus, hCount, List.map_cons, String.join_cons, List.flatMap_cons]

/-! ## Shares -/

variable {c : Converter} {target : Target} {format : Format}

/-- What a record adds to a run. -/
def share (c : Converter) (target : Target) (format : Format) (r : Record) : Progress :=
  match c.convert r with
  | .ok statements => ({} : Progress).addStatements target format r statements
  | .error _ => { failed := 1 }

theorem plus_count (p q : Progress) (stopped : Option Unwritable) :
    (p.plus q).count stopped = p.plus (q.count stopped) := by
  cases stopped with
  | none => simp only [count, plus, Nat.add_assoc]
  | some why => simp only [count, plus, Nat.add_assoc]

/-- Statements are added without a look at what is there. -/
theorem addStatements_eq (p : Progress) (r : Record) (statements : List Statement) :
    p.addStatements target format r statements =
      p.plus (({} : Progress).addStatements target format r statements) := by
  have hPrinted : ∀ text, { p with printed := p.printed ++ text } = p.plus { printed := text } := by
    intro text
    simp only [plus, List.append_nil, Nat.add_zero]
  have hWritten : ∀ files, { p with written := p.written ++ files } = p.plus { written := files } := by
    intro files
    simp only [plus, String.append_empty, List.append_nil, Nat.add_zero]
  have hPending : { p with pending := p.pending ++ statements } = p.plus { pending := statements } := by
    simp only [plus, String.append_empty, List.append_nil, Nat.add_zero]
  cases target with
  | folder path => simp only [addStatements, hWritten, plus_count, List.nil_append]
  | screen =>
      cases format with
      | nTriples => simp only [addStatements, hPrinted, plus_count, String.empty_append]
      | rdfXml => simp only [addStatements, hPending, plus_count, List.nil_append]
      | jsonLd => simp only [addStatements, hPending, plus_count, List.nil_append]
      | turtle => simp only [addStatements, hPending, plus_count, List.nil_append]

/-- Without a fault of the mapping every record of a file adds its share. -/
theorem addRecords_eq {records : List Record} (h : c.FaultlessOn records) (path : String)
    (p : Progress) :
    addRecords c target format path records p =
      (p.plus (total (records.map (share c target format))), none) := by
  induction records generalizing p with
  | nil => rw [addRecords, List.map_nil, total, plus_empty]
  | cons r rest ih =>
      obtain ⟨hFirst, hRest⟩ := List.forall_mem_cons.mp h
      rw [addRecords, List.map_cons, total, ← plus_assoc, share]
      cases hConvert : c.convert r with
      | ok statements =>
          simp only [ih hRest]
          rw [← addStatements_eq]
      | error fault =>
          simp only [hFirst fault hConvert, Bool.false_eq_true, ↓reduceIte, ih hRest, plus_failed]

/-- Without a fault of the mapping every record of every input adds its share, and every input that cannot be
read adds a failure. -/
theorem addInputs_eq {inputs : List Input} (h : c.FaultlessOn (recordsOf inputs)) (p : Progress) :
    addInputs c target format inputs p =
      ((p.plus (total ((recordsOf inputs).map (share c target format)))).plus
        { failed := unreadable inputs }, none) := by
  induction inputs generalizing p with
  | nil => rw [addInputs, recordsOf, List.flatMap_nil, List.map_nil, total, plus_empty, plus_failed]; rfl
  | cons input rest ih =>
      rw [addInputs]
      cases hRecords : input.records with
      | error fault =>
          rw [recordsOf_cons_error hRecords] at h
          rw [recordsOf_cons_error hRecords, unreadable_cons_error hRecords]
          have hFailures : ({ failed := 1 } : Progress).plus { failed := unreadable rest } =
              { failed := unreadable rest + 1 } := by
            rw [plus_failed, Nat.add_comm]
          simp only [ih h, ← plus_failed p 1]
          rw [plus_failed_plus, plus_assoc, hFailures]
      | ok records =>
          rw [recordsOf_cons_ok hRecords] at h
          obtain ⟨hHere, hRest⟩ := List.forall_mem_append.mp h
          rw [recordsOf_cons_ok hRecords, unreadable_cons_ok hRecords, List.map_append, total_append,
            ← plus_assoc]
          simp only [addRecords_eq hHere, ih hRest]

end Progress

/-! ## Runs -/

variable {c : Converter} {inputs : List Input}

theorem join_map_empty {α : Type} (xs : List α) : String.join (xs.map fun _ => "") = "" := by
  induction xs with
  | nil => rfl
  | cons x rest ih => rw [List.map_cons, String.join_cons, ih, String.empty_append]

theorem flatMap_empty {α β : Type} (xs : List α) : xs.flatMap (fun _ => ([] : List β)) = [] :=
  List.flatMap_eq_nil_iff.mpr fun _ _ => rfl

theorem finish_document {format : Format} (hFormat : format ≠ .nTriples) (p : Progress) :
    p.finish .screen format =
      ({ p with printed := p.printed ++ (format.write p.pending).text, pending := [] },
        (format.write p.pending).stopped.map .writing) := by
  cases format with
  | nTriples => exact absurd rfl hFormat
  | rdfXml => rfl
  | jsonLd => rfl
  | turtle => rfl

/-- The document of a record is what is printed for it. -/
theorem text_write_of_document? {format : Format} {r : Record} {text : String}
    (h : c.document? format r = some text) : (format.write (c.statementsOf r)).text = text := by
  cases hConvert : c.convert r with
  | error fault =>
      rw [Converter.document?_of_error hConvert] at h
      exact absurd h (by simp)
  | ok statements =>
      rw [Converter.document?_of_convert hConvert] at h
      rw [Converter.statementsOf_of_convert hConvert]
      cases hDocument : serialize format statements with
      | error fault =>
          rw [hDocument] at h
          exact absurd h (by simp [Except.toOption])
      | ok document =>
          rw [hDocument] at h
          rw [← (serialize_eq_ok_iff.mp hDocument).2]
          exact Option.some.inj h

/-- The file that a record leaves in a folder. -/
def fileOf (c : Converter) (folder : String) (format : Format) (r : Record) :
    Option (String × String) :=
  (c.convert r).toOption.map fun statements =>
    (outputPath folder r format, (format.write statements).text)

/-- The file of a record that can be written to its end holds its document. -/
theorem fileOf_of_document? {format : Format} {r : Record} {text : String} (folder : String)
    (h : c.document? format r = some text) : fileOf c folder format r = some (outputPath folder r format, text) := by
  have hText := text_write_of_document? h
  unfold fileOf
  cases hConvert : c.convert r with
  | error fault =>
      rw [Converter.document?_of_error hConvert] at h
      cases h
  | ok statements =>
      rw [Converter.statementsOf_of_convert hConvert] at hText
      rw [← hText]
      rfl

theorem share_folder (folder : String) (format : Format) :
    Progress.share c (.folder folder) format = fun r =>
      { written := (fileOf c folder format r).toList
        converted := (c.document? format r).isSome.toNat
        failed := (c.document? format r).isNone.toNat } := by
  funext r
  unfold Progress.share fileOf
  cases hConvert : c.convert r with
  | error fault => rw [Converter.document?_of_error hConvert]; rfl
  | ok statements =>
      rw [Converter.document?_of_convert hConvert, serialize, Transcript.complete]
      simp only [Progress.addStatements]
      cases (format.write statements).stopped with
      | none => rfl
      | some why => rfl

theorem share_screen_nTriples :
    Progress.share c .screen .nTriples = fun r =>
      { printed := (Format.nTriples.write (c.statementsOf r)).text
        converted := (c.document? .nTriples r).isSome.toNat
        failed := (c.document? .nTriples r).isNone.toNat } := by
  funext r
  unfold Progress.share
  cases hConvert : c.convert r with
  | error fault =>
      rw [Converter.document?_of_error hConvert, Converter.statementsOf, hConvert]
      rfl
  | ok statements =>
      rw [Converter.document?_of_convert hConvert, Converter.statementsOf_of_convert hConvert, serialize,
        Transcript.complete]
      simp only [Progress.addStatements, String.empty_append]
      cases (Format.nTriples.write statements).stopped with
      | none => rfl
      | some why => rfl

theorem share_screen_document {format : Format} (hFormat : format ≠ .nTriples) :
    Progress.share c .screen format = fun r =>
      { pending := c.statementsOf r
        converted := (c.convert r).toOption.isSome.toNat
        failed := (c.convert r).toOption.isNone.toNat } := by
  funext r
  unfold Progress.share Converter.statementsOf
  cases c.convert r with
  | error fault => rfl
  | ok statements =>
      cases format with
      | nTriples => exact absurd rfl hFormat
      | rdfXml => rfl
      | jsonLd => rfl
      | turtle => rfl

/-- A run into a folder goes to its end, and every record that is converted leaves a file. -/
theorem run_folder (h : c.FaultlessOn (recordsOf inputs)) (folder : String) (format : Format) :
    run c (.folder folder) format inputs =
      ({ written := (recordsOf inputs).filterMap (fileOf c folder format)
         converted := (recordsOf inputs).countP fun r => (c.document? format r).isSome
         failed := ((recordsOf inputs).countP fun r => (c.document? format r).isNone) +
          unreadable inputs }, none) := by
  rw [run, Progress.addInputs_eq h, Progress.empty_plus, share_folder, Progress.total_map]
  simp only [Progress.plus_failed, Progress.finish, join_map_empty, flatMap_empty,
    List.filterMap_eq_flatMap_toList]

/-- A run that prints N-Triples goes to its end, and every record is printed as far as it can be written. -/
theorem run_screen_nTriples (h : c.FaultlessOn (recordsOf inputs)) :
    run c .screen .nTriples inputs =
      ({ printed := String.join ((recordsOf inputs).map fun r =>
          (Format.nTriples.write (c.statementsOf r)).text)
         converted := (recordsOf inputs).countP fun r => (c.document? .nTriples r).isSome
         failed := ((recordsOf inputs).countP fun r => (c.document? .nTriples r).isNone) +
          unreadable inputs }, none) := by
  rw [run, Progress.addInputs_eq h, Progress.empty_plus, share_screen_nTriples, Progress.total_map]
  simp only [Progress.plus_failed, Progress.finish, flatMap_empty]

/-- A run that prints any other format prints one document of the statements of all records.  By then
every record that was converted has been counted. -/
theorem run_screen_document (h : c.FaultlessOn (recordsOf inputs)) {format : Format}
    (hFormat : format ≠ .nTriples) :
    run c .screen format inputs =
      ({ printed := (format.write ((recordsOf inputs).flatMap c.statementsOf)).text
         converted := (recordsOf inputs).countP fun r => (c.convert r).toOption.isSome
         failed := ((recordsOf inputs).countP fun r => (c.convert r).toOption.isNone) +
          unreadable inputs },
        (format.write ((recordsOf inputs).flatMap c.statementsOf)).stopped.map .writing) := by
  rw [run, Progress.addInputs_eq h, Progress.empty_plus, share_screen_document hFormat,
    Progress.total_map]
  simp only [Progress.plus_failed, finish_document hFormat, join_map_empty, flatMap_empty,
    String.empty_append]

end Batch

end CatalogGraph
