import CatalogGraph.Proofs.FieldReads
import CatalogGraph.Proofs.PipelineStages
import CatalogGraph.Text.Characters
import Mathlib.Data.Finset.Dedup

/-!
# Values that are replaced

Two stages put something else in the place of a value, and of the value itself little or nothing is left.

* A substitution sees the word of a value only (`wordOf`): its ASCII letters, digits and underscores, with letters in
  lower case.  If the whole value is taken, nothing else in it counts (`generate_of_substitute`).
* A combination does not see the value at all.  Every value becomes the join of the same subfields
  (`joinedSiblings`), so the stages behind it make the same text of every one or of none
  (`generate_of_combine`).  Which subfields these are is told by the codes that are one character long
  (`namedCodes`), in the order of the field and not in that of the codes.

Before a substitution there may be an extraction that sees more of the value.
-/

namespace CatalogGraph

namespace Mapping.Combine

/-- The codes that name subfields: those that are one character long. -/
def namedCodes (c : Combine) : Finset Char :=
  (c.codes.filterMap fun key => match key.toList with | [code] => some code | _ => none).toFinset

theorem mem_namedCodes_iff {c : Combine} {code : Char} : code ∈ c.namedCodes ↔ String.singleton code ∈ c.codes := by
  have hNames (key : String) :
      (match key.toList with | [code] => some code | _ => none) = some code ↔ key = String.singleton code := by
    rw [← String.toList_inj, String.toList_singleton]
    split
    · next other hKey => simp [hKey]
    · next hKey => simpa using fun h => hKey code h
  rw [namedCodes, List.mem_toFinset, List.mem_filterMap]
  simp only [hNames, exists_eq_right]

theorem includes_eq_decide (c : Combine) (code : Char) : c.includes code = decide (code ∈ c.namedCodes) := by
  rw [Bool.eq_iff_iff, decide_eq_true_iff, mem_namedCodes_iff, includes, List.any_eq_true]
  constructor
  · rintro ⟨key, hKey, hMatch⟩
    rw [codeMatches, beq_iff_eq] at hMatch
    rwa [String.toList_injective (hMatch.trans (String.toList_singleton code).symm)] at hKey
  · exact fun h => ⟨_, h, by simp [codeMatches]⟩

end Mapping.Combine

namespace Conversion

open CatalogGraph.Text CatalogGraph.Mapping CatalogGraph.Marc

variable {field : Option DataField} {p : Pipeline}

/-! ## Substitution -/

/-- The ASCII letters, digits and underscores of a text, with letters in lower case. -/
def wordOf (s : String) : String :=
  String.ofList ((s.toList.filter fun c => c.isAlphanum || c == '_').map lowerAscii)

theorem keyForm_eq_wordOf (s : String) : keyForm s = wordOf s := by
  have hAscii : ∀ c ∈ s.toList.filter isKeyChar, c.toNat < 0x80 := by
    intro c hc
    have hKept := (List.mem_filter.mp hc).2
    rw [isKeyChar, Bool.or_eq_true, beq_iff_eq] at hKept
    rcases hKept with hAlphanum | rfl
    · exact isAscii_of_isAlphanum hAlphanum
    · decide
  rw [keyForm, lowercaseAfter_of_ascii hAscii]
  rfl

/-- Behind a cut a text goes through the stages, unless it is blank. -/
theorem generate_beyond_eq_runStages (s : String) (p : Pipeline) (n : Nat) :
    generate s field (p.beyond n) =
      runStages field (stagesOf (p.beyond n)) (if isBlank s then none else some s).toList := by
  rw [generate_beyond]
  congr 1
  cases hBlank : isBlank s <;> simp [hBlank]

theorem stagesOf_of_substitute {r : Replacement} (h : p.substitute = some r) :
    stagesOf p = .substitute r :: stagesOf (p.beyond 1) := by
  simp [stagesOf, Pipeline.beyond, h]

/-- A whole value that is not blank is looked up by its word, and what is found goes through the later stages.  Where
nothing is found this is the fallback, or else the word. -/
theorem generate_of_substitute {r : Replacement} (hWhole : p.extraction = .whole) (hSubstitute : p.substitute = some r)
    (field : Option DataField) {value : String} (hValue : isBlank value = false) :
    generate value field p = (r.table.lookup (wordOf value) >>= fun found =>
      generate (found.getD (r.fallback.getD (wordOf value))) field (p.beyond 1)) := by
  have hKept : (extract value p.extraction).filter (fun s => !isBlank s) = [value] := by
    simp [hWhole, extract, hValue]
  rw [generate, hKept, stagesOf_of_substitute hSubstitute, runStages, Stage.applyAll_singleton, Stage.apply, replace,
    keyForm_eq_wordOf]
  simp only [generate_beyond_eq_runStages]
  cases r.table.lookup (wordOf value) with
  | error fault => rfl
  | ok found => rfl

/-- **A substitution does not see punctuation or the case of letters.**  Let a pipeline take the whole value and replace
it by a table, with any fallback and any later stages.  Then two values that are not blank come to the same objects,
or to the same fault, if they have the same ASCII letters, digits and underscores in the same order, but for the case
of the letters.  They may differ in all other characters, in or out of ASCII.  What counts is this word in lower case:
it is looked up, and what is found, or the fallback, or the word itself goes through the later stages. -/
theorem generate_eq_of_wordOf_eq (p : Pipeline) (r : Replacement) (hWhole : p.extraction = .whole)
    (hSubstitute : p.substitute = some r) (field : Option DataField) (v w : String) (hv : isBlank v = false)
    (hw : isBlank w = false) (hSame : wordOf v = wordOf w) :
    generate v field p = generate w field p ∧
      generate v field p = (r.table.lookup (wordOf v) >>= fun found =>
        generate (found.getD (r.fallback.getD (wordOf v))) field (p.beyond 1)) := by
  have hWord := generate_of_substitute hWhole hSubstitute field hv
  refine ⟨?_, hWord⟩
  rw [hWord, generate_of_substitute hWhole hSubstitute field hw, hSame]

/-- Two spellings of a role that agree in letters only up to case, and not in punctuation. -/
theorem generate_eq_of_wordOf_eq_roles :
    let roles : Replacement := ⟨⟨(Regex.compile? "^red$").get (by decide +kernel), .ofList [("red", "editor")]⟩, none⟩
    let p : Pipeline := { substitute := some roles }
    isBlank "[Red.]" = false ∧ isBlank "r—e—D é" = false ∧ wordOf "[Red.]" = wordOf "r—e—D é" ∧
      generate "[Red.]" none p = generate "r—e—D é" none p ∧ generate "r—e—D é" none p = .ok ["editor"] := by
  intro roles p
  have hFirst : isBlank "[Red.]" = false := by decide +kernel
  have hSecond : isBlank "r—e—D é" = false := by decide +kernel
  have hSame : wordOf "[Red.]" = wordOf "r—e—D é" := by decide +kernel
  have hEditor : generate "r—e—D é" none p = .ok ["editor"] := by decide +kernel
  obtain ⟨hResult, -⟩ := generate_eq_of_wordOf_eq p roles rfl rfl none _ _ hFirst hSecond hSame
  exact ⟨hFirst, hSecond, hSame, hResult, hEditor⟩

/-! ## Combination -/

/-- The values of the subfields with some codes, joined in the order of the field. -/
def joinedSiblings (field : Option DataField) (codes : Finset Char) (separator : String) : String :=
  match field with
  | some f => separator.intercalate ((f.subfields.filter fun s => s.code ∈ codes).map (·.value))
  | none => ""

theorem combined_eq_joinedSiblings (field : Option DataField) (c : Combine) :
    combined field c = joinedSiblings field c.namedCodes c.separator := by
  cases field with
  | none => rfl
  | some f => simp only [combined, joinedSiblings, c.includes_eq_decide]

theorem stagesOf_of_combine {c : Combine} (h : p.combine = some c) :
    stagesOf p = stagesOf (p.upTo 1) ++ .combine c :: stagesOf (p.beyond 2) := by
  simp [stagesOf, Pipeline.upTo, Pipeline.beyond, h]

/-- A combination makes one text of every candidate, unless that is blank. -/
theorem applyAll_combine (c : Combine) (objects : List String) :
    Stage.applyAll field (.combine c) objects = .ok (objects.flatMap fun _ =>
      (if isBlank (combined field c) then none else some (combined field c)).toList) := by
  induction objects with
  | nil => rfl
  | cons s rest ih =>
      rw [Stage.applyAll, Stage.apply, ih, List.flatMap_cons]
      cases hBlank : isBlank (combined field c) <;> simp [hBlank, bind, Except.bind]

theorem isTotal_of_mem_stagesOf_beyond {stage : Stage} (h : stage ∈ stagesOf (p.beyond 2)) : stage.IsTotal field := by
  apply Stage.isTotal
  rintro r rfl
  simp [stagesOf, Pipeline.beyond] at h

/-- What stages make of one text they make of each copy of it. -/
theorem runStages_copies {stages : List Stage} (hTotal : ∀ stage ∈ stages, stage.IsTotal field)
    {text one : Option String} (hOne : runStages field stages text.toList = .ok one.toList)
    (objects : List String) :
    runStages field stages (objects.flatMap fun _ => text.toList) = .ok (objects.flatMap fun _ => one.toList) := by
  induction objects with
  | nil => exact runStages_nil_objects stages
  | cons s rest ih =>
      rw [List.flatMap_cons, runStages_append_objects (fun stage hStage => hTotal stage (List.mem_of_mem_tail hStage)),
        hOne, ih]
      rfl

/-- The stages behind a combination do not see the field. -/
theorem generate_beyond_field (s : String) (field : Option DataField) :
    generate s field (p.beyond 2) = generate s none (p.beyond 2) :=
  generate_congr (fun c hc => by simp [Pipeline.beyond] at hc) s

/-- Behind a combination a text is dropped or rewritten, and never fails. -/
theorem exists_generate_beyond (s : String) (p : Pipeline) :
    ∃ one : Option String, generate s none (p.beyond 2) = .ok one.toList := by
  rw [generate_beyond_eq_runStages]
  generalize (if isBlank s then none else some s) = text
  have hTotal : ∀ stage ∈ stagesOf (p.beyond 2), stage.IsTotal none := fun _ => isTotal_of_mem_stagesOf_beyond
  obtain ⟨objects, hObjects⟩ := runStages_of_isTotal hTotal text.toList
  obtain ⟨result, hResult⟩ := runStages_toList (stagesOf (p.beyond 2)) text
  rw [hResult] at hObjects ⊢
  cases result with
  | error fault => cases hObjects
  | ok one => exact ⟨one, rfl⟩

/-- A combination makes copies of one text, one for each candidate. -/
theorem generate_eq_copies {c : Combine} (hCombine : p.combine = some c) {one : Option String}
    (hOne : generate (joinedSiblings field c.namedCodes c.separator) none (p.beyond 2) = .ok one.toList)
    (value : String) :
    generate value field p =
      (generate value field (p.upTo 1)).map fun objects => objects.flatMap fun _ => one.toList := by
  rw [← generate_beyond_field _ field, generate_beyond_eq_runStages, ← combined_eq_joinedSiblings] at hOne
  have hCut : generate value field p = generate value field (p.upTo 1) >>=
      runStages field (.combine c :: stagesOf (p.beyond 2)) := by
    rw [generate, stagesOf_of_combine hCombine, runStages_append]
    rfl
  rw [hCut]
  cases generate value field (p.upTo 1) with
  | error fault => rfl
  | ok objects =>
      calc runStages field (.combine c :: stagesOf (p.beyond 2)) objects
          = (Stage.applyAll field (.combine c) objects >>= runStages field (stagesOf (p.beyond 2))) := by
            rw [runStages]
        _ = .ok (objects.flatMap fun _ => one.toList) := by
            rw [applyAll_combine]
            exact runStages_copies (fun stage => isTotal_of_mem_stagesOf_beyond) hOne objects

/-- **A combination depends on the field, not on the value or the order of the codes.**  Take a pipeline with a
combination, and a field.  There is one text, or none, that the later stages make of the joined values of the
subfields.  It is told by the field, by the set of codes that are one character long, by the separator and by the
later stages, which see neither the field nor the value.  Each value becomes copies of it, one for each object that
the extraction and the substitution leave, or comes to their fault.  Other codes make no difference, if the same of
them are one character long: they may stand in another order, be repeated, and have shorter and longer ones among
them. -/
theorem generate_of_combine (p : Pipeline) (c : Combine) (hCombine : p.combine = some c) (field : Option DataField) :
    ∃ one : Option String,
      generate (joinedSiblings field c.namedCodes c.separator) none (p.beyond 2) = .ok one.toList ∧
      (∀ value, generate value field p =
        (generate value field (p.upTo 1)).map fun objects => objects.flatMap fun _ => one.toList) ∧
      ∀ codes : List String, (∀ key, key.length = 1 → (key ∈ codes ↔ key ∈ c.codes)) →
        ∀ value, generate value field { p with combine := some ⟨codes, c.separator⟩ } = generate value field p := by
  obtain ⟨one, hOne⟩ := exists_generate_beyond (joinedSiblings field c.namedCodes c.separator) p
  refine ⟨one, hOne, generate_eq_copies hCombine hOne, fun codes hCodes value => ?_⟩
  have hNamed : (⟨codes, c.separator⟩ : Combine).namedCodes = c.namedCodes := by
    ext code
    rw [Combine.mem_namedCodes_iff, Combine.mem_namedCodes_iff, hCodes _ String.length_singleton]
  rw [generate_eq_copies hCombine hOne]
  refine generate_eq_copies (c := ⟨codes, c.separator⟩) rfl ?_ value
  rw [hNamed]
  exact hOne

/-- Two pieces become the same name twice, in the order of the field.  It makes no difference that a code comes first
or twice, or that one more is too long. -/
theorem generate_of_combine_name :
    let semicolon : Regex := (Regex.compile? ";").get (by decide +kernel)
    let c : Combine := ⟨["a", "b"], " "⟩
    let p : Pipeline := { extraction := .split semicolon, combine := some c, lowercase := true }
    let name : DataField := ⟨"100", '1', ' ', [⟨'b', "Kong"⟩, ⟨'a', "Olav"⟩, ⟨'c', "V"⟩, ⟨'b', "II"⟩]⟩
    p.combine = some c ∧ generate "x;;y" (some name) p = .ok ["kong olav ii", "kong olav ii"] ∧
      (∀ key : String, key.length = 1 → (key ∈ ["b", "a", "b", "ac"] ↔ key ∈ c.codes)) ∧
      generate "x;;y" (some name) { p with combine := some ⟨["b", "a", "b", "ac"], " "⟩ } =
        .ok ["kong olav ii", "kong olav ii"] := by
  intro semicolon c p name
  have hTwice : generate "x;;y" (some name) p = .ok ["kong olav ii", "kong olav ii"] := by decide +kernel
  have hCodes : ∀ key : String, key.length = 1 → (key ∈ ["b", "a", "b", "ac"] ↔ key ∈ c.codes) := by
    intro key hKey
    have hLong : key ≠ "ac" := by
      rintro rfl
      exact absurd hKey (by decide)
    have hSame : key ∈ ["b", "a", "b"] ↔ key ∈ ["a", "b"] := by grind
    simpa [c, hLong] using hSame
  obtain ⟨one, -, -, hSame⟩ := generate_of_combine p c rfl (some name)
  exact ⟨rfl, hTwice, hCodes, (hSame _ hCodes "x;;y").trans hTwice⟩

end Conversion

end CatalogGraph
