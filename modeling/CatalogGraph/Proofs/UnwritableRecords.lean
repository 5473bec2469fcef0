import CatalogGraph.Proofs.BatchShares

/-!
# Records that cannot be written

Some records have statements that cannot be written.  Statements are checked while they are written, each in its
turn, and not before.  So whether a record fails is known only when its first statements are out, and a run does
not take back what is out.

* `run_printed_eq_iff` — in N-Triples the first statements of such a record stay on the screen, and in a folder
  its file stays, though the record counts as failed.  Only if nothing comes before the statement at which
  it stops is the output that of the converted records;
* `run_document_stop_eq_none_iff` — in any other format such a record ends the whole run, although every other
  record can be written: the records behind it are lost, the document is cut short in the middle.  The run
  without such records goes to its end.
-/

namespace CatalogGraph.Batch

open CatalogGraph.Conversion CatalogGraph.Mapping CatalogGraph.Marc CatalogGraph.Rdf

variable {c : Converter} {inputs : List Input}

/-! ## Record by record -/

/-- Lines are no text only if there are none. -/
theorem join_map_nTriplesLine_eq_empty_iff {statements : List Statement} :
    String.join (statements.map nTriplesLine) = "" ↔ statements = [] := by
  cases statements with
  | nil => exact iff_of_true rfl rfl
  | cons s rest =>
      have hLine : 0 < (nTriplesLine s).length := by
        rw [nTriplesLine, String.length_append]
        exact Nat.add_pos_right _ (by decide)
      constructor
      · intro hEmpty
        rw [List.map_cons, String.join_cons] at hEmpty
        have hLength := congrArg String.length hEmpty
        rw [String.length_append, String.length_empty] at hLength
        omega
      · exact fun hNil => absurd hNil (by simp)

section Pieces

variable {α : Type} {piece : α → String} {whole? : α → Option String}

/-- What is whole is a part of all pieces. -/
theorem length_join_filterMap_le {xs : List α}
    (h : ∀ x ∈ xs, ∀ text, whole? x = some text → piece x = text) :
    (String.join (xs.filterMap whole?)).length ≤ (String.join (xs.map piece)).length := by
  induction xs with
  | nil => exact Nat.le_refl _
  | cons x rest ih =>
      obtain ⟨hHere, hRest⟩ := List.forall_mem_cons.mp h
      have hLe := ih hRest
      rw [List.map_cons, String.join_cons, String.length_append]
      cases hWhole : whole? x with
      | none =>
          rw [List.filterMap_cons_none hWhole]
          omega
      | some text =>
          rw [List.filterMap_cons_some hWhole, String.join_cons, String.length_append, hHere text hWhole]
          omega

/-- The pieces are what is whole, exactly if all others are empty. -/
theorem join_map_eq_join_filterMap_iff {xs : List α}
    (h : ∀ x ∈ xs, ∀ text, whole? x = some text → piece x = text) :
    String.join (xs.map piece) = String.join (xs.filterMap whole?) ↔
      ∀ x ∈ xs, whole? x = none → piece x = "" := by
  induction xs with
  | nil => simp
  | cons x rest ih =>
      obtain ⟨hHere, hRest⟩ := List.forall_mem_cons.mp h
      rw [List.map_cons, String.join_cons, List.forall_mem_cons, ← ih hRest]
      cases hWhole : whole? x with
      | none =>
          rw [List.filterMap_cons_none hWhole]
          constructor
          · intro hEq
            -- the pieces of the rest are at least as long as what is whole of it, so there is no room for `x`
            have hLe := length_join_filterMap_le hRest
            have hLength := congrArg String.length hEq
            rw [String.length_append] at hLength
            have hPiece : piece x = "" := String.length_eq_zero_iff.mp (by omega)
            rw [hPiece, String.empty_append] at hEq
            exact ⟨fun _ => hPiece, hEq⟩
          · rintro ⟨hPiece, hEq⟩
            rw [hPiece rfl, String.empty_append, hEq]
      | some text =>
          rw [List.filterMap_cons_some hWhole, String.join_cons, hHere text hWhole,
            String.append_right_inj]
          simp

end Pieces

/-- **What cannot be written to its end stays as far as it was written.**  Let no fault of the mapping show in
the records.  A run that prints N-Triples goes to its end.  For every record in order it prints a line for each
statement before the first one that cannot be written; a record counts as converted if its statements make a
document, and else as failed.  So what is printed is the documents of the converted records, one after the
other, exactly if the others stop at their first statement.  A run into a folder goes to its end as well; there
a record leaves a file as soon as it has statements, whether they make a document or not. -/
theorem run_printed_eq_iff (h : c.FaultlessOn (recordsOf inputs)) :
    let screen := run c .screen .nTriples inputs
    (screen.2 = none ∧
      screen.1.converted = (recordsOf inputs).countP (fun r => (c.document? .nTriples r).isSome) ∧
      screen.1.failed = (recordsOf inputs).countP (fun r => (c.document? .nTriples r).isNone) +
        unreadable inputs ∧
      screen.1.printed = String.join ((recordsOf inputs).map fun r =>
        String.join ((leading .nTriples (c.statementsOf r)).map nTriplesLine)) ∧
      (screen.1.printed = String.join ((recordsOf inputs).filterMap (c.document? .nTriples)) ↔
        ∀ r ∈ recordsOf inputs, c.document? .nTriples r = none →
          leading .nTriples (c.statementsOf r) = [])) ∧
    ∀ path format,
      let folder := run c (.folder path) format inputs
      folder.2 = none ∧
        folder.1.converted = (recordsOf inputs).countP (fun r => (c.document? format r).isSome) ∧
        folder.1.written = (recordsOf inputs).filterMap fun r =>
          (c.convert r).toOption.map fun statements =>
            (outputPath path r format, (format.write statements).text) := by
  have hWhole : ∀ r ∈ recordsOf inputs, ∀ text, c.document? .nTriples r = some text →
      (Format.nTriples.write (c.statementsOf r)).text = text :=
    fun r _ text hDocument => text_write_of_document? hDocument
  have hIff := join_map_eq_join_filterMap_iff hWhole
  simp only [text_write_nTriples, join_map_nTriplesLine_eq_empty_iff] at hIff
  have hScreen := run_screen_nTriples h
  simp only [text_write_nTriples] at hScreen
  rw [hScreen]
  refine ⟨⟨rfl, rfl, rfl, rfl, hIff⟩, fun path format => ?_⟩
  rw [run_folder h]
  exact ⟨rfl, rfl, rfl⟩

/-- A converter of titles and subtitles.  What the mapping gives as the language of subtitles is no language
tag, so a record can be written exactly if it has no subtitle. -/
def titling : Converter where
  mapping := ⟨[⟨"245", .data [.plain ⟨"a", .fixed (.iri "urn:title"), {}⟩,
    .plain ⟨"b", .fixed (.iri "urn:subtitle"), { language := some "not valid" }⟩]⟩]⟩
  vocabulary := .core
  host := "placeholder.com"
  recordTypes := []

/-- A record with an identifier and a title field. -/
def titled (identifier : String) (subfields : List Subfield) : Record :=
  .ofFields [.control ⟨"001", identifier⟩, .data ⟨"245", '1', '0', subfields⟩]

/-- A record with nothing but a subtitle leaves nothing.  One with a title in front of the subtitle leaves the
title. -/
theorem run_printed_eq_iff_titles :
    let bare := titled "1" [⟨'b', "a tale"⟩]
    let good := titled "2" [⟨'a', "Emma"⟩]
    let bad := titled "3" [⟨'a', "Persuasion"⟩, ⟨'b', "a tale"⟩]
    let early : List Input := [⟨"1.marcxml", .ok [bare, good]⟩]
    let late : List Input := [⟨"2.marcxml", .ok [good, bad]⟩]
    (titling.FaultlessOn (recordsOf early) ∧ titling.FaultlessOn (recordsOf late)) ∧
      (run titling .screen .nTriples early).1.printed =
        String.join ((recordsOf early).filterMap (titling.document? .nTriples)) ∧
      (run titling .screen .nTriples late).1.printed ≠
        String.join ((recordsOf late).filterMap (titling.document? .nTriples)) := by
  intro bare good bad early late
  have hEarly : titling.FaultlessOn (recordsOf early) :=
    Converter.faultlessOn_of_converts (by decide +kernel)
  have hLate : titling.FaultlessOn (recordsOf late) :=
    Converter.faultlessOn_of_converts (by decide +kernel)
  obtain ⟨⟨-, -, -, -, hEarlyIff⟩, -⟩ := run_printed_eq_iff hEarly
  obtain ⟨⟨-, -, -, -, hLateIff⟩, -⟩ := run_printed_eq_iff hLate
  refine ⟨⟨hEarly, hLate⟩, hEarlyIff.mpr (by decide +kernel), fun hPrinted => ?_⟩
  have hNothing : leading .nTriples (titling.statementsOf bad) = [] :=
    hLateIff.mp hPrinted bad (by decide +kernel) (by decide +kernel)
  exact absurd hNothing (by decide +kernel)

/-- A record that counts as failed leaves the line of its title on the screen, and a file with it in a folder. -/
theorem failed_record_leaves_title :
    let r := titled "3" [⟨'a', "Emma"⟩, ⟨'b', "a tale"⟩]
    let inputs : List Input := [⟨"in.marcxml", .ok [r]⟩]
    let line := "<" ++ titling.subjectOf r ++ "> <urn:title> \"Emma\" .\n"
    titling.document? .nTriples r = none ∧
      run titling .screen .nTriples inputs = ({ printed := line, failed := 1 }, none) ∧
      line ≠ String.join ((recordsOf inputs).filterMap (titling.document? .nTriples)) ∧
      run titling (.folder "out") .nTriples inputs =
        ({ written := [("out/3.nt", line)], failed := 1 }, none) := by
  decide +kernel

/-! ## One document -/

/-- The inputs without the records that cannot be written. -/
def withoutUnwritable (c : Converter) (format : Format) (inputs : List Input) : List Input :=
  inputs.map fun input => { input with records := input.records.map (·.filter (c.canWrite format)) }

theorem recordsOf_withoutUnwritable (c : Converter) (format : Format) (inputs : List Input) :
    recordsOf (withoutUnwritable c format inputs) = (recordsOf inputs).filter (c.canWrite format) := by
  induction inputs with
  | nil => rfl
  | cons input rest ih =>
      rw [withoutUnwritable, List.map_cons]
      change recordsOf (_ :: withoutUnwritable c format rest) = _
      cases hRecords : input.records with
      | error fault =>
          rw [recordsOf_cons_error hRecords, recordsOf_cons_error rfl]
          exact ih
      | ok records =>
          rw [recordsOf_cons_ok hRecords, recordsOf_cons_ok rfl, List.filter_append, ih]

/-- Some records make a document together exactly if each of them can be written. -/
theorem write_stopped_eq_none_iff {format : Format} {records : List Record} :
    (format.write (records.flatMap c.statementsOf)).stopped = none ↔
      ∀ r ∈ records, c.canWrite format r = true := by
  simp only [Converter.canWrite, Option.isNone_iff_eq_none, Format.write_stopped,
    List.findSome?_eq_none_iff, List.mem_flatMap]
  constructor
  · exact fun hAll r hr s hs => hAll s ⟨r, hr, hs⟩
  · rintro hAll s ⟨r, hr, hs⟩
    exact hAll r hr s hs

/-- With the first record that cannot be written, the document of several records breaks off. -/
theorem write_of_first_stopped {format : Format} {before : List Record} {r : Record} {why : Unwritable}
    (hBefore : ∀ q ∈ before, c.canWrite format q = true)
    (hWhy : (format.write (c.statementsOf r)).stopped = some why) (after : List Record) :
    format.write ((before ++ r :: after).flatMap c.statementsOf) =
        format.write ((before ++ [r]).flatMap c.statementsOf) ∧
      (format.write ((before ++ [r]).flatMap c.statementsOf)).stopped = some why := by
  have hFirst : (format.write ((before ++ [r]).flatMap c.statementsOf)).stopped = some why := by
    have hNone := write_stopped_eq_none_iff.mpr hBefore
    rw [Format.write_stopped] at hNone hWhy ⊢
    rw [List.flatMap_append, List.findSome?_append, hNone, List.flatMap_singleton, hWhy]
    rfl
  have hAll : before ++ r :: after = (before ++ [r]) ++ after := by simp
  refine ⟨?_, hFirst⟩
  rw [hAll, List.flatMap_append, Format.write_append_of_stopped hFirst]

/-- **One record that cannot be written ends the run for all.**  Let no fault of the mapping show in the records,
and let the format be one in which the screen gets one document.  Without the records that cannot be written the
run would go to its end, with the document of the others.  With them it does so only if there are none of them.
Otherwise it stops for the reason that the first of them has, and prints what it would print if this record were
the last one: the document breaks off, and nothing is printed of the records behind. -/
theorem run_document_stop_eq_none_iff (h : c.FaultlessOn (recordsOf inputs)) {format : Format}
    (hFormat : format ≠ .nTriples) :
    let kept := run c .screen format (withoutUnwritable c format inputs)
    let document := run c .screen format inputs
    (kept.2 = none ∧
      serialize format (((recordsOf inputs).filter (c.canWrite format)).flatMap c.statementsOf) =
        .ok kept.1.printed) ∧
      (document.2 = none ↔ ∀ r ∈ recordsOf inputs, c.canWrite format r = true) ∧
      ∀ before r after, recordsOf inputs = before ++ r :: after →
        (∀ q ∈ before, c.canWrite format q = true) →
          ∀ why, (format.write (c.statementsOf r)).stopped = some why →
            document.2 = some (.writing why) ∧
              document.1.printed = (format.write ((before ++ [r]).flatMap c.statementsOf)).text := by
  have hKept : c.FaultlessOn (recordsOf (withoutUnwritable c format inputs)) := by
    intro r hr
    rw [recordsOf_withoutUnwritable] at hr
    exact h r (List.mem_of_mem_filter hr)
  have hWritten : (format.write
      (((recordsOf inputs).filter (c.canWrite format)).flatMap c.statementsOf)).stopped = none :=
    write_stopped_eq_none_iff.mpr fun r hr => List.of_mem_filter hr
  rw [run_screen_document hKept hFormat, run_screen_document h hFormat, recordsOf_withoutUnwritable]
  simp only [Option.map_eq_none_iff]
  refine ⟨⟨hWritten, ?_⟩, write_stopped_eq_none_iff, ?_⟩
  · exact serialize_eq_ok_iff.mpr ⟨Format.write_stopped format _ ▸ hWritten, rfl⟩
  · intro before r after hRecords hBefore why hWhy
    obtain ⟨hSame, hStopped⟩ := write_of_first_stopped hBefore hWhy after
    rw [hRecords, hSame, hStopped]
    exact ⟨rfl, rfl⟩

/-- The second of three records has a subtitle with a language tag that is none.  The third has nothing to do
with it, and is lost. -/
theorem run_document_stop_eq_none_iff_titles :
    let first := titled "1" [⟨'a', "Emma"⟩]
    let second := titled "2" [⟨'a', "Persuasion"⟩, ⟨'b', "a tale"⟩]
    let third := titled "3" [⟨'a', "Sanditon"⟩]
    let inputs : List Input := [⟨"in.marcxml", .ok [first, second, third]⟩]
    titling.FaultlessOn (recordsOf inputs) ∧ Format.turtle ≠ .nTriples ∧
      (run titling .screen .turtle inputs).2 = some (.writing (.languageTag "not valid")) ∧
      (run titling .screen .turtle inputs).1.printed =
        "<" ++ titling.subjectOf first ++ "> <urn:title> \"Emma\" .\n" ++
        "<" ++ titling.subjectOf second ++ "> <urn:title> \"Persuasion\"" ∧
      (run titling .screen .turtle (withoutUnwritable titling .turtle inputs)).2 = none := by
  intro first second third inputs
  have hFaultless : titling.FaultlessOn (recordsOf inputs) :=
    Converter.faultlessOn_of_converts (by decide +kernel)
  have hFormat : Format.turtle ≠ .nTriples := by decide
  obtain ⟨⟨hKept, -⟩, -, hFirst⟩ := run_document_stop_eq_none_iff hFaultless hFormat
  have hBefore : ∀ q ∈ [first], titling.canWrite .turtle q = true := by decide +kernel
  obtain ⟨hStop, hPrinted⟩ :=
    hFirst [first] second [third] rfl hBefore (.languageTag "not valid") (by decide +kernel)
  refine ⟨hFaultless, hFormat, hStop, hPrinted.trans ?_, hKept⟩
  decide +kernel

/-- In every format with one document, two records of which the first cannot be written come to a run that
stops, with other text than the run over the second record alone. -/
theorem failed_record_ends_document :
    let bad := titled "1" [⟨'a', "Emma"⟩, ⟨'b', "a tale"⟩]
    let good := titled "2" [⟨'a', "Sanditon"⟩]
    let inputs : List Input := [⟨"in.marcxml", .ok [bad, good]⟩]
    ∀ format ∈ [Format.turtle, .rdfXml, .jsonLd],
      recordsOf (withoutUnwritable titling format inputs) = [good] ∧
        (run titling .screen format (withoutUnwritable titling format inputs)).2 = none ∧
        (run titling .screen format inputs).2 = some (.writing (.languageTag "not valid")) ∧
        (run titling .screen format inputs).1.printed ≠
          (run titling .screen format (withoutUnwritable titling format inputs)).1.printed := by
  decide +kernel

end CatalogGraph.Batch
