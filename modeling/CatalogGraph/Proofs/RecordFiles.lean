import CatalogGraph.Proofs.BatchShares
import CatalogGraph.Proofs.FileTrees
import CatalogGraph.Proofs.UnwritableRecords
import Mathlib.Data.List.Forall2

/-!
# The files of records

The file of a record is named after its identifier, with an underscore for every slash of either kind.  So two records
share a file exactly if their identifiers are the same apart from slashes and underscores (`outputPath_eq_iff`).

A run into a folder writes the file of every record, and what is in a file already is written over.  Of the records
that share a file the last one stays, and of the others nothing is left (`run_folder_keeps_last`).
-/

namespace CatalogGraph.Batch

open CatalogGraph.Conversion CatalogGraph.Marc CatalogGraph.Rdf

/-! ## Names -/

/-- What the file of a record is named after. -/
def fileIdentifier (r : Record) : String := (identifier? r).getD unidentified

/-- Characters for which the same character stands in the name of a file. -/
def isUnderscored (c : Char) : Bool := c == '/' || c == '\\' || c == '_'

/-- The identifiers of two records are the same, apart from slashes and underscores. -/
def SharesName (r s : Record) : Prop :=
  List.Forall₂ (fun c d => c = d ∨ (isUnderscored c = true ∧ isUnderscored d = true)) (fileIdentifier r).toList
    (fileIdentifier s).toList

/-- The character for a character of an identifier. -/
def safeChar (c : Char) : Char := if c == '/' || c == '\\' then '_' else c

theorem toList_safeName (identifier : String) : (safeName identifier).toList = identifier.toList.map safeChar := by
  rw [safeName, String.toList_map]
  rfl

theorem safeChar_eq_iff {c d : Char} :
    safeChar c = safeChar d ↔ c = d ∨ (isUnderscored c = true ∧ isUnderscored d = true) := by
  simp only [safeChar, isUnderscored, Bool.or_eq_true, beq_iff_eq]
  grind

theorem safeName_eq_iff {r s : Record} :
    safeName (fileIdentifier r) = safeName (fileIdentifier s) ↔ SharesName r s := by
  rw [← String.toList_inj, toList_safeName, toList_safeName, ← List.forall₂_eq_eq_eq, List.forall₂_map_left_iff,
    List.forall₂_map_right_iff]
  simp only [safeChar_eq_iff]
  rfl

theorem recordFileName_eq_iff {r s : Record} {format : Format} :
    recordFileName r format = recordFileName s format ↔ SharesName r s := by
  rw [← safeName_eq_iff, recordFileName, recordFileName, String.append_left_inj, String.append_left_inj]
  rfl

theorem toList_recordFileName (r : Record) (format : Format) :
    (recordFileName r format).toList = (fileIdentifier r).toList.map safeChar ++ '.' :: format.extension.toList := by
  rw [recordFileName, String.toList_append, String.toList_append, toList_safeName, List.append_assoc]
  rfl

/-- No slash of either kind is left in the name of a file. -/
theorem ne_slash_of_mem_recordFileName {r : Record} {format : Format} {c : Char}
    (h : c ∈ (recordFileName r format).toList) : c ≠ '/' ∧ c ≠ '\\' := by
  rw [toList_recordFileName] at h
  rcases List.mem_append.mp h with hMem | hMem
  · obtain ⟨d, -, rfl⟩ := List.mem_map.mp hMem
    simp only [safeChar, Bool.or_eq_true, beq_iff_eq]
    split
    · decide
    · next hOther => exact not_or.mp hOther
  · have hExtension : ('.' :: format.extension.toList).all (fun c => c != '/' && c != '\\') = true := by
      cases format <;> decide
    simpa using List.all_eq_true.mp hExtension c hMem

theorem isFileName_recordFileName (r : Record) (format : Format) : IsFileName (recordFileName r format) := by
  have hExtension : 2 ≤ format.extension.toList.length := by
    cases format <;> decide
  have hLength : 3 ≤ (recordFileName r format).toList.length := by
    rw [toList_recordFileName, List.length_append, List.length_cons]
    omega
  have hNot {name : String} (h : name.toList.length < 3) : recordFileName r format ≠ name := by
    rintro rfl
    exact absurd hLength (Nat.not_le_of_lt h)
  exact ⟨hNot (by decide), hNot (by decide), hNot (by decide), fun hSlash =>
    (ne_slash_of_mem_recordFileName hSlash).1 rfl⟩

/-- Two names in a folder make two paths. -/
theorem inFolder_inj {folder name other : String} (hName : '/' ∉ name.toList) (hOther : '/' ∉ other.toList) :
    inFolder folder name = inFolder folder other ↔ name = other := by
  rw [← String.toList_inj, toList_inFolder folder hName, toList_inFolder folder hOther, List.append_cancel_left_eq,
    String.toList_inj]

/-- Two records share a file exactly if their identifiers are the same apart from slashes and underscores. -/
theorem outputPath_eq_iff {folder : String} {format : Format} {r s : Record} :
    outputPath folder r format = outputPath folder s format ↔ SharesName r s := by
  rw [outputPath, outputPath, inFolder_inj (isFileName_recordFileName r format).no_slash
    (isFileName_recordFileName s format).no_slash, recordFileName_eq_iff]

/-! ## Runs into a folder -/

variable {c : Converter} {inputs : List Input} {format : Format} {folder : String}

/-- If all records can be converted and written, a run writes their documents one after the other. -/
theorem written_of_documents (h : ∀ r ∈ recordsOf inputs, (c.document? format r).isSome = true) :
    run c (.folder folder) format inputs =
      ({ written := (recordsOf inputs).map fun r => (outputPath folder r format, (c.document? format r).getD "")
         converted := (recordsOf inputs).length
         failed := unreadable inputs }, none) := by
  have hConverts : ∀ r ∈ recordsOf inputs, (c.convert r).toOption.isSome = true := by
    intro r hr
    have hDocument := h r hr
    cases hConvert : c.convert r with
    | error fault =>
        rw [Converter.document?_of_error hConvert] at hDocument
        cases hDocument
    | ok statements => rfl
  have hFile : ∀ r ∈ recordsOf inputs,
      fileOf c folder format r = some (outputPath folder r format, (c.document? format r).getD "") := by
    intro r hr
    obtain ⟨text, hText⟩ := Option.isSome_iff_exists.mp (h r hr)
    rw [fileOf_of_document? folder hText, hText]
    rfl
  have hNone : ∀ r ∈ recordsOf inputs, ¬(c.document? format r).isNone = true := by
    intro r hr
    rw [Option.isNone_iff_eq_none, ← ne_eq, ← Option.isSome_iff_ne_none]
    exact h r hr
  rw [run_folder (Converter.faultlessOn_of_converts hConverts), List.filterMap_congr hFile, List.filterMap_eq_map',
    List.countP_eq_length.mpr h, List.countP_eq_zero.mpr hNone, Nat.zero_add]

theorem SharesName.refl (r : Record) : SharesName r r := safeName_eq_iff.mp rfl

theorem SharesName.trans {r s u : Record} (h : SharesName r s) (h' : SharesName s u) : SharesName r u :=
  safeName_eq_iff.mp ((safeName_eq_iff.mpr h).trans (safeName_eq_iff.mpr h'))

/-- Of the records that share a file with a given one there is a last. -/
theorem exists_last {r : Record} {records : List Record} (h : ∃ s ∈ records, SharesName r s) :
    ∃ before last after, records = before ++ last :: after ∧ SharesName r last ∧ ∀ s ∈ after, ¬SharesName last s := by
  induction records with
  | nil =>
      obtain ⟨s, hs, -⟩ := h
      exact absurd hs List.not_mem_nil
  | cons first rest ih =>
      by_cases hRest : ∃ s ∈ rest, SharesName r s
      · obtain ⟨before, last, after, rfl, hLast, hAfter⟩ := ih hRest
        exact ⟨first :: before, last, after, rfl, hLast, hAfter⟩
      · obtain ⟨s, hs, hShares⟩ := h
        rcases List.mem_cons.mp hs with rfl | hs
        · exact ⟨[], s, rest, rfl, hShares, fun u hu hMore => hRest ⟨u, hu, hShares.trans hMore⟩⟩
        · exact absurd ⟨s, hs, hShares⟩ hRest

/-- **Of the records that share a file the last one stays.**  Two records share a file exactly if their identifiers are
the same apart from slashes and underscores.

Let all records of a run be converted and written, each into a file that can be written.  Then the run goes to its end
and counts all of them.  In the tree that it leaves

* there is one file for each record exactly if no two records share one;
* a file holds the document of the last record that shares it, and any other file is as it was;
* so every record has its document in its file exactly if records that share a file have the same document. -/
theorem run_folder_keeps_last (folder : String) (format : Format) :
    (∀ r s : Record, outputPath folder r format = outputPath folder s format ↔ SharesName r s) ∧
    ∀ (c : Converter) (inputs : List Input) (t : FileTree),
      (∀ r ∈ recordsOf inputs, (c.document? format r).isSome = true) →
      (∀ r ∈ recordsOf inputs, (t.fileAt? (outputPath folder r format)).isSome = true) →
      let result := run c (.folder folder) format inputs
      let left := t.afterWriting result.1.written
      result.2 = none ∧ result.1.converted = (recordsOf inputs).length ∧
        (((recordsOf inputs).map fun r => left.follow? (outputPath folder r format)).Nodup ↔
          (recordsOf inputs).Pairwise fun r s => ¬SharesName r s) ∧
        (∀ before r after, recordsOf inputs = before ++ r :: after → (∀ s ∈ after, ¬SharesName r s) →
          left.readFile? (outputPath folder r format) = c.document? format r) ∧
        (∀ path, (∀ r ∈ recordsOf inputs, t.follow? (outputPath folder r format) ≠ t.follow? path) →
          left.readFile? path = t.readFile? path) ∧
        ((∀ r ∈ recordsOf inputs, left.readFile? (outputPath folder r format) = c.document? format r) ↔
          ∀ r ∈ recordsOf inputs, ∀ s ∈ recordsOf inputs,
            SharesName r s → c.document? format r = c.document? format s) := by
  refine ⟨fun r s => outputPath_eq_iff, fun c inputs t hDocuments hFiles => ?_⟩
  rw [written_of_documents hDocuments]
  have hPlaces {r s : Record} (hr : r ∈ recordsOf inputs) :
      t.follow? (outputPath folder r format) = t.follow? (outputPath folder s format) ↔ SharesName r s := by
    refine ⟨fun hSame => ?_, fun hShares => congrArg t.follow? (outputPath_eq_iff.mpr hShares)⟩
    obtain ⟨place, hPlace⟩ := Option.isSome_iff_exists.mp (hFiles r hr)
    have hFollow := FileTree.follow?_of_fileAt? hPlace
    exact recordFileName_eq_iff.mp (FileTree.eq_of_follow?_inFolder (isFileName_recordFileName r format)
      (isFileName_recordFileName s format) hFollow (hSame ▸ hFollow))
  have hLast : ∀ before r after, recordsOf inputs = before ++ r :: after → (∀ s ∈ after, ¬SharesName r s) →
      (t.afterWriting ((recordsOf inputs).map fun r =>
        (outputPath folder r format, (c.document? format r).getD ""))).readFile? (outputPath folder r format) =
          c.document? format r := by
    intro before r after hRecords hAfter
    have hMem : r ∈ recordsOf inputs := by
      rw [hRecords]
      exact List.mem_append_right _ List.mem_cons_self
    obtain ⟨place, hPlace⟩ := Option.isSome_iff_exists.mp (hFiles r hMem)
    obtain ⟨text, hText⟩ := Option.isSome_iff_exists.mp (hDocuments r hMem)
    rw [hRecords, List.map_append, List.map_cons, FileTree.readFile?_afterWriting_last hPlace, hText]
    · rfl
    · intro f hf
      obtain ⟨s, hs, rfl⟩ := List.mem_map.mp hf
      refine fun hSame => hAfter s hs ((hPlaces hMem).mp ?_)
      rw [FileTree.follow?_of_fileAt? hPlace, FileTree.follow?_of_fileAt? hSame]
  refine ⟨rfl, rfl, ?_, hLast, fun path hPath => ?_, fun hOwn r hr s hs hShares => ?_, fun hAlike r hr => ?_⟩
  · simp only [FileTree.follow?_afterWriting]
    rw [List.Nodup, List.pairwise_map]
    exact List.Pairwise.iff_of_mem fun hr _ => not_congr (hPlaces hr)
  · refine FileTree.readFile?_afterWriting_of_ne fun f hf => ?_
    obtain ⟨r, hr, rfl⟩ := List.mem_map.mp hf
    exact hPath r hr
  · rw [← hOwn r hr, ← hOwn s hs, outputPath_eq_iff.mpr hShares]
  · obtain ⟨before, last, after, hRecords, hShares, hAfter⟩ := exists_last ⟨r, hr, .refl r⟩
    have hMem : last ∈ recordsOf inputs := by
      rw [hRecords]
      exact List.mem_append_right _ List.mem_cons_self
    rw [outputPath_eq_iff.mpr hShares, hLast before last after hRecords hAfter]
    exact (hAlike r hr last hMem hShares).symm

/-- Records with the identifiers `1` and `2` have a file each.  Of two with `a/b` and `a_b` the second one stays. -/
theorem run_folder_keeps_last_titles :
    let t : FileTree := { folders := [["out"]] }
    let emma (identifier : String) := titled identifier [⟨'a', "Emma"⟩]
    let persuasion (identifier : String) := titled identifier [⟨'a', "Persuasion"⟩]
    let apart : List Input := [⟨"in.marcxml", .ok [emma "1", persuasion "2"]⟩]
    let alike : List Input := [⟨"in.marcxml", .ok [emma "a/b", persuasion "a_b"]⟩]
    (∀ r ∈ recordsOf apart, (t.afterWriting (run titling (.folder "out") .nTriples apart).1.written).readFile?
      (outputPath "out" r .nTriples) = titling.document? .nTriples r) ∧
    (t.afterWriting (run titling (.folder "out") .nTriples alike).1.written).readFile?
      (outputPath "out" (emma "a/b") .nTriples) = titling.document? .nTriples (persuasion "a_b") := by
  intro t emma persuasion apart alike
  obtain ⟨-, -, -, -, -, hOwn⟩ := (run_folder_keeps_last "out" .nTriples).2 titling apart t (by decide +kernel)
    (by decide +kernel)
  obtain ⟨-, -, -, hLast, -⟩ := (run_folder_keeps_last "out" .nTriples).2 titling alike t (by decide +kernel)
    (by decide +kernel)
  have hPaths : outputPath "out" (emma "a/b") .nTriples = outputPath "out" (persuasion "a_b") .nTriples := by
    decide +kernel
  have hApart : ∀ r ∈ recordsOf apart, ∀ s ∈ recordsOf apart,
      outputPath "out" r .nTriples = outputPath "out" s .nTriples →
        titling.document? .nTriples r = titling.document? .nTriples s := by
    decide +kernel
  refine ⟨hOwn.mpr fun r hr s hs hShares => hApart r hr s hs ?_, ?_⟩
  · exact ((run_folder_keeps_last "out" .nTriples).1 r s).mpr hShares
  · rw [hPaths]
    exact hLast [emma "a/b"] (persuasion "a_b") [] rfl fun _ hs => absurd hs List.not_mem_nil

/-- Two records whose identifiers differ by a slash and an underscore.  Both are counted as converted, and only the
second one is in the tree. -/
theorem slash_and_underscore_share_file :
    let r := titled "a/b" [⟨'a', "Emma"⟩]
    let s := titled "a_b" [⟨'a', "Persuasion"⟩]
    let result := run titling (.folder "out") .nTriples [⟨"in.marcxml", .ok [r, s]⟩]
    let left := FileTree.afterWriting { folders := [["out"]] } result.1.written
    identifier? r = some "a/b" ∧ identifier? s = some "a_b" ∧
      outputPath "out" r .nTriples = outputPath "out" s .nTriples ∧ result.1.converted = 2 ∧ left.files.length = 1 ∧
      (titling.document? .nTriples r).isSome = true ∧
      left.readFile? (outputPath "out" r .nTriples) ≠ titling.document? .nTriples r := by
  decide +kernel

end CatalogGraph.Batch
