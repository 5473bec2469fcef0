import CatalogGraph.Proofs.Accounts
import CatalogGraph.Proofs.PipelineStages
import CatalogGraph.Text.Trimmed

/-!
# Blank values

A blank value leads to nothing, and nothing blank comes out.

* `generate_of_isBlank` — whatever is taken from a blank value is a part of it, so it is blank and dropped
  before the first stage.  No stage sees it, so it cannot be missing in a table;
* `isBlank_of_mem_generate` (of `PipelineStages`) — blank texts are dropped behind every stage;
* `Account.hasNoBlank` — so no literal in the account of a record is blank, not even one that was to
  be a URI: the base before a text does not take anything away from it.

An IRI is not a literal, and the class of a node or of a record is always an IRI.
-/

namespace CatalogGraph

namespace Text

/-- A text is blank exactly if nothing is left of it after trimming. -/
theorem isBlank_iff_trim_eq_empty {s : String} : isBlank s = true ↔ trim s = "" := by
  rw [isBlank, List.all_eq_true, ← trimChars_eq_nil_iff, trim]
  constructor
  · intro h
    rw [h]
  · intro h
    simpa using congrArg String.toList h

theorem isBlank_eq_false_iff {s : String} : isBlank s = false ↔ trim s ≠ "" :=
  Bool.eq_false_iff.trans (not_congr isBlank_iff_trim_eq_empty)

/-- What is put before a text does not make it blank. -/
theorem isBlank_append_eq_false {s : String} (before : String) (h : isBlank s = false) :
    isBlank (before ++ s) = false := by
  unfold isBlank at h ⊢
  rw [String.toList_append, List.all_append, h, Bool.and_false]

end Text

theorem Regex.Span.chars_subset (s : Regex.Span) (text : List Char) : s.chars text ⊆ text :=
  fun _ h => List.mem_of_mem_drop (List.mem_of_mem_take h)

namespace Rdf.Object

/-- The text of a literal, whatever kind of literal it is. -/
def literalText? : Object → Option String
  | iri _ => none
  | plain value => some value
  | tagged value _ => some value
  | typed value _ => some value

theorem literalText?_literal (value : String) (language : Option String) :
    (literal value language).literalText? = some value := by
  cases language with
  | none => rfl
  | some l => rfl

end Rdf.Object

namespace Conversion

open CatalogGraph.Text CatalogGraph.Mapping CatalogGraph.Marc CatalogGraph.Rdf
open CatalogGraph.Regex (Match matchesIn Span)

/-! ## Blank in, nothing out -/

/-- A text is white if all its characters are. -/
theorem isBlank_ofList_of_subset {cs text : List Char} (hText : ∀ c ∈ text, isWhite c = true)
    (h : cs ⊆ text) : isBlank (String.ofList cs) = true := by
  rw [isBlank, String.toList_ofList, List.all_eq_true]
  exact fun c hc => hText c (h hc)

section WhiteText

variable {text : List Char}

theorem isBlank_spanText (h : ∀ c ∈ text, isWhite c = true) (s : Span) :
    isBlank (s.text text) = true :=
  isBlank_ofList_of_subset h (s.chars_subset text)

theorem isBlank_of_mem_groupTexts (h : ∀ c ∈ text, isWhite c = true) (m : Match) :
    ∀ o ∈ groupTexts text m, isBlank o = true := by
  intro o ho
  obtain ⟨group, -, hGroup⟩ := List.mem_filterMap.mp ho
  obtain ⟨span, -, rfl⟩ := Option.map_eq_some_iff.mp hGroup
  exact isBlank_spanText h span

theorem isBlank_of_mem_splitAt (h : ∀ c ∈ text, isWhite c = true) (position : Nat)
    (ms : List Match) : ∀ o ∈ splitAt text position ms, isBlank o = true := by
  induction ms generalizing position with
  | nil =>
      intro o ho
      rw [List.mem_singleton.mp ho]
      exact isBlank_ofList_of_subset h (List.drop_subset _ _)
  | cons m ms ih =>
      intro o ho
      rw [splitAt, List.cons_append, List.mem_cons, List.mem_append] at ho
      rcases ho with rfl | hGroup | hLater
      · exact isBlank_spanText h _
      · exact isBlank_of_mem_groupTexts h m o hGroup
      · exact ih _ o hLater

end WhiteText

/-- Whatever an extraction takes from a blank value is blank. -/
theorem isBlank_of_mem_extract {value : String} (h : isBlank value = true) (e : Extraction) :
    ∀ o ∈ extract value e, isBlank o = true := by
  have hWhite : ∀ c ∈ value.toList, isWhite c = true := List.all_eq_true.mp h
  intro o ho
  cases e with
  | substring offset length =>
      rw [extract] at ho
      split at ho
      · rw [List.mem_singleton.mp ho]
        exact isBlank_ofList_of_subset hWhite fun c hc =>
          List.mem_of_mem_drop (List.mem_of_mem_take hc)
      · exact absurd ho List.not_mem_nil
  | split pattern => exact isBlank_of_mem_splitAt hWhite 0 _ o ho
  | search pattern =>
      obtain ⟨m, -, hMatch⟩ := List.mem_flatMap.mp ho
      split at hMatch
      · rw [List.mem_singleton.mp hMatch]
        exact isBlank_spanText hWhite m.span
      · exact isBlank_of_mem_groupTexts hWhite m o hMatch
  | whole =>
      rw [List.mem_singleton.mp ho]
      exact h

/-- A blank value leads to no objects, and to no fault. -/
theorem generate_of_isBlank {value : String} (h : isBlank value = true) (field : Option DataField)
    (p : Pipeline) : generate value field p = .ok [] := by
  have hNone : (extract value p.extraction).filter (fun s => !isBlank s) = [] := by
    rw [List.filter_eq_nil_iff]
    intro o ho
    simp [isBlank_of_mem_extract h p.extraction o ho]
  rw [generate, hNone]
  exact runStages_nil_objects _

/-! ## Nothing blank out -/

/-- An object in which no literal is blank. -/
def HasNoBlank (o : Object) : Prop :=
  ∀ text, o.literalText? = some text → isBlank text = false

theorem hasNoBlank_iri (text : String) : HasNoBlank (.iri text) := by
  intro literal h
  exact absurd h (by simp [Object.literalText?])

theorem hasNoBlank_of_literalText {o : Object} {text : String} (hLiteral : o.literalText? = some text)
    (hText : isBlank text = false) : HasNoBlank o := by
  intro literal h
  rw [hLiteral] at h
  obtain rfl := Option.some.inj h
  exact hText

/-- A text that became no URI stands in a literal together with the base before it. -/
theorem hasNoBlank_objectUri {text : String} (hText : isBlank text = false) (base : String) :
    HasNoBlank (objectUri text base) := by
  unfold objectUri
  split
  · exact hasNoBlank_iri _
  · exact hasNoBlank_of_literalText rfl (isBlank_append_eq_false base hText)

theorem hasNoBlank_objectOf {text : String} (hText : isBlank text = false) (spec : ObjectSpec) :
    HasNoBlank (objectOf spec text) := by
  have hLiteral : HasNoBlank (.literal text spec.language) :=
    hasNoBlank_of_literalText (Object.literalText?_literal text spec.language) hText
  unfold objectOf
  cases spec.datatype with
  | none => exact hLiteral
  | some datatype =>
      cases datatype with
      | uri => exact hasNoBlank_objectUri hText spec.base
      | integer => exact hasNoBlank_of_literalText rfl hText
      | float => exact hasNoBlank_of_literalText rfl hText
      | gYear => exact hasNoBlank_of_literalText rfl hText
      | literal => exact hLiteral

variable {v : Vocabulary} {terms : List Term} {specs : List ObjectSpec}

theorem Stated.isBlank_eq_false {predicate text : String} {spec : ObjectSpec}
    (h : Stated v terms specs predicate spec text) : isBlank text = false := by
  obtain ⟨value, field, objects, hObjects, hMem⟩ := h.text
  exact isBlank_of_mem_generate hObjects text hMem

/-- No statement of an account has a blank literal as its object. -/
theorem Account.hasNoBlank {node : String} {statements : List Statement}
    (h : Account v terms specs node statements) : ∀ t ∈ statements, HasNoBlank t.object := by
  induction h with
  | nothing node => simp
  | append _ _ iha ihb => exact List.forall_mem_append.mpr ⟨iha, ihb⟩
  | value hStated =>
      intro t ht
      rw [List.mem_singleton.mp ht]
      exact hasNoBlank_objectOf hStated.isBlank_eq_false _
  | link hStated =>
      intro t ht
      rw [List.mem_singleton.mp ht]
      exact hasNoBlank_objectUri hStated.isBlank_eq_false _
  | described _ _ _ _ ih =>
      exact List.forall_mem_cons.mpr ⟨hasNoBlank_iri _, List.forall_mem_cons.mpr ⟨hasNoBlank_iri _, ih⟩⟩

/-- **Blank in, nothing out; nothing blank out.**  A blank value leads to no objects and to no fault, under
any pipeline.  No object of any value is blank.  So no conversion states a literal that is blank. -/
theorem blank_values_vanish :
    (∀ (p : Pipeline) (field : Option DataField) (value : String), trim value = "" →
      generate value field p = .ok []) ∧
    (∀ (p : Pipeline) (field : Option DataField) (value : String) (objects : List String),
      generate value field p = .ok objects → ∀ o ∈ objects, trim o ≠ "") ∧
    ∀ (c : Converter) (r : Record) (statements : List Statement), c.convert r = .ok statements →
      ∀ t ∈ statements, ∀ text, t.object.literalText? = some text → trim text ≠ "" := by
  refine ⟨fun p field value h => ?_, fun p field value objects h o ho => ?_, ?_⟩
  · exact generate_of_isBlank (isBlank_iff_trim_eq_empty.mpr h) field p
  · exact isBlank_eq_false_iff.mp (isBlank_of_mem_generate h o ho)
  · intro c r statements h t ht text hText
    obtain ⟨rest, rfl, hAccount⟩ := Converter.account_of_convert h
    rw [← isBlank_eq_false_iff]
    rcases List.mem_append.mp ht with hType | hRest
    · obtain ⟨type, -, rfl⟩ := List.mem_map.mp hType
      exact hasNoBlank_iri type text hText
    · exact hAccount.hasNoBlank t hRest text hText

/-- A no-break space is not looked up in a table that lacks it, and of a field that is split at its commas
the empty piece is left out. -/
theorem blank_values_vanish_pieces :
    let all : Regex := (Regex.compile? ".*").get (by decide +kernel)
    let comma : Regex := (Regex.compile? ",").get (by decide +kernel)
    let table : Pipeline := { substitute := some ⟨⟨all, .empty⟩, none⟩ }
    let pieces : Pipeline := { extraction := .split comma }
    let topic : SubfieldRule := .plain ⟨"a", .fixed (.iri "urn:topic"), { pipeline := pieces }⟩
    let c : Converter := ⟨⟨[⟨"650", .data [topic]⟩]⟩, .core, "placeholder.com", []⟩
    let r := Record.ofFields [.data ⟨"650", ' ', '0', [⟨'a', "cats,,dogs"⟩]⟩]
    let statements : List Statement :=
      [⟨c.subjectOf r, "urn:topic", .plain "cats"⟩, ⟨c.subjectOf r, "urn:topic", .plain "dogs"⟩]
    (trim "\u00a0" = "" ∧ generate "\u00a0" none table = .ok []) ∧
      (generate "cats,,dogs" none pieces = .ok ["cats", "dogs"] ∧ trim "cats" ≠ "") ∧
      c.convert r = .ok statements ∧ trim "dogs" ≠ "" := by
  intro all comma table pieces topic c r statements
  have hSpace : trim "\u00a0" = "" := by decide +kernel
  have hCandidates : (extract "cats,,dogs" pieces.extraction).filter (fun s => !isBlank s) =
      ["cats", "dogs"] := by decide +kernel
  have hPieces : generate "cats,,dogs" none pieces = .ok ["cats", "dogs"] :=
    congrArg Except.ok hCandidates
  have hConvert : c.convert r = .ok statements := by
    rw [Converter.convert, Assertions.outcome_eq_ok_iff]
    decide +kernel
  obtain ⟨hBlank, hObjects, hStatements⟩ := blank_values_vanish
  refine ⟨⟨hSpace, hBlank table none _ hSpace⟩, ⟨hPieces, ?_⟩, hConvert, ?_⟩
  · exact hObjects pieces none _ _ hPieces "cats" (by decide)
  · exact hStatements c r _ hConvert ⟨c.subjectOf r, "urn:topic", .plain "dogs"⟩
      (by simp [statements]) "dogs" rfl

end Conversion

end CatalogGraph
