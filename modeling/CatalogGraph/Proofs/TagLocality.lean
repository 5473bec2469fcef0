import CatalogGraph.Proofs.BoundTerms

/-!
# Tags are converted on their own

The conversion of a record is one run per tag, after the classes of the record:

* `convert_eq_ok_iff` and `convert_eq_error_iff` — it succeeds if the runs of all tags do, with their
  statements one after the other in the order of the tags, and else fails as the first run that fails;
* `tagAssertions_congr` — the run of a tag reads the subject, the vocabulary, the fields with the tag and
  the rules for it, and nothing else (`AgreeFor`);
* `convert_of_reorders` — so only the order among blocks for one tag matters (`Spec.Reorders`).

Nothing is said about which of the statements are the same: a statement may be made by two tags.
-/

namespace CatalogGraph

namespace Mapping

/-- The same blocks in another order, where the blocks for one tag keep their order. -/
structure Spec.Reorders (m m' : Spec) : Prop where
  perm : m.rules.Perm m'.rules
  sameOrder : ∀ tag, m.rulesFor tag = m'.rulesFor tag

/-- A tag that no block is for has no rules. -/
theorem Spec.rulesFor_of_hasTag_eq_false {m : Spec} {tag : String} (h : m.hasTag tag = false) :
    m.rulesFor tag = [] := by
  unfold hasTag at h
  unfold rulesFor
  rw [List.filter_eq_nil_iff]
  rwa [List.any_eq_false] at h

end Mapping

namespace Conversion

open CatalogGraph.Mapping CatalogGraph.Marc CatalogGraph.Rdf

namespace Converter

variable {c c' : Converter} {r r' : Record}

/-! ## One run after the other -/

/-- The classes of a record are stated in any case; what follows decides how the conversion ends. -/
theorem recordAssertions_eq (c : Converter) (r : Record) :
    c.recordAssertions r =
      ⟨c.typeStatements r ++ (Assertions.each (c.tagAssertions r) r.tags).statements,
        (Assertions.each (c.tagAssertions r) r.tags).fault⟩ := by
  unfold recordAssertions
  rw [Assertions.each_one, Assertions.andThen_of_fault_eq_none rfl]

/-- A conversion succeeds if the runs of all tags do, and then with all their statements in order. -/
theorem convert_eq_ok_iff {statements : List Statement} :
    c.convert r = .ok statements ↔
      (∀ tag ∈ r.tags, (c.tagAssertions r tag).fault = none) ∧
        statements = c.typeStatements r ++ r.tags.flatMap fun tag => (c.tagAssertions r tag).statements := by
  unfold convert
  rw [Assertions.outcome_eq_ok_iff, recordAssertions_eq]
  constructor
  · rintro ⟨hFault, rfl⟩
    have hRuns := Assertions.each_fault_eq_none_iff.mp hFault
    exact ⟨hRuns, by rw [Assertions.each_of_fault_eq_none hRuns]⟩
  · rintro ⟨hRuns, rfl⟩
    rw [Assertions.each_of_fault_eq_none hRuns]
    exact ⟨rfl, rfl⟩

/-- A conversion fails as the run of the first tag does whose run fails. -/
theorem convert_eq_error_iff {e : Fault} :
    c.convert r = .error e ↔
      ∃ earlier tag later, r.tags = earlier ++ tag :: later ∧
        (∀ t ∈ earlier, (c.tagAssertions r t).fault = none) ∧
          (c.tagAssertions r tag).fault = some e := by
  unfold convert
  rw [Assertions.outcome_eq_error_iff, recordAssertions_eq]
  exact Assertions.each_fault_eq_some_iff

/-! ## What a run reads -/

/-- Two conversions agree on what the run of a tag reads. -/
structure AgreeFor (tag : String) (c : Converter) (r : Record) (c' : Converter) (r' : Record) :
    Prop where
  subject : c.subjectOf r = c'.subjectOf r'
  vocabulary : c.vocabulary = c'.vocabulary
  fields : r.fieldsOf tag = r'.fieldsOf tag
  rules : c.mapping.rulesFor tag = c'.mapping.rulesFor tag

/-- Passing over the tags without a block is no more than having no rules for them. -/
theorem tagAssertions_eq (c : Converter) (r : Record) (tag : String) :
    c.tagAssertions r tag =
      .each (fun rule => .each (bodyAssertions c.vocabulary (c.subjectOf r) tag rule.body)
        (r.fieldsOf tag)) (c.mapping.rulesFor tag) := by
  unfold tagAssertions
  cases h : c.mapping.hasTag tag with
  | true => rw [if_pos rfl]
  | false =>
      rw [Spec.rulesFor_of_hasTag_eq_false h]
      rfl

theorem tagAssertions_congr {tag : String} (h : AgreeFor tag c r c' r') :
    c.tagAssertions r tag = c'.tagAssertions r' tag := by
  rw [tagAssertions_eq, tagAssertions_eq, h.subject, h.vocabulary, h.fields, h.rules]

/-! ## The order of blocks -/

/-- A converter can be made of the blocks in any order, since every block is checked on its own. -/
theorem create_of_reorders {m m' : Spec} (h : m.Reorders m') {v : Vocabulary} {settings : Settings}
    (hCreate : create m v settings = .ok c) :
    create m' v settings = .ok { c with mapping := m' } := by
  obtain ⟨hCheck, types, hTypes, rfl⟩ := create_eq_ok_iff.mp hCreate
  refine create_eq_ok_iff.mpr ⟨Spec.check_eq_ok_iff.mpr ?_, types, hTypes, rfl⟩
  intro rule hRule
  exact Spec.check_eq_ok_iff.mp hCheck rule (h.perm.mem_iff.mpr hRule)

/-- What is said about a record does not depend on the order of blocks for different tags. -/
theorem recordAssertions_of_reorders {m' : Spec} (h : c.mapping.Reorders m') (r : Record) :
    recordAssertions { c with mapping := m' } r = c.recordAssertions r := by
  have hRuns : tagAssertions { c with mapping := m' } r = c.tagAssertions r := by
    funext tag
    exact tagAssertions_congr ⟨rfl, rfl, rfl, (h.sameOrder tag).symm⟩
  rw [recordAssertions_eq, recordAssertions_eq, hRuns]
  rfl

/-- **Locality per tag.**  A conversion is the classes of the record and one run for each tag in order: it
succeeds with all of them, or fails as the first run that fails.  A run depends on the subject, the
vocabulary, the fields with the tag and the rules for it alone.  So blocks that change places, but not with
blocks for their own tag, still make a converter, and it converts every record as before. -/
theorem convert_tag_by_tag :
    (∀ (c : Converter) (r : Record) (statements : List Statement),
      c.convert r = .ok statements ↔
        (∀ tag ∈ r.tags, (c.tagAssertions r tag).fault = none) ∧
          statements = c.typeStatements r ++
            r.tags.flatMap fun tag => (c.tagAssertions r tag).statements) ∧
    (∀ (c : Converter) (r : Record) (e : Fault),
      c.convert r = .error e ↔
        ∃ earlier tag later, r.tags = earlier ++ tag :: later ∧
          (∀ t ∈ earlier, (c.tagAssertions r t).fault = none) ∧
            (c.tagAssertions r tag).fault = some e) ∧
    (∀ (c c' : Converter) (r r' : Record) (tag : String), AgreeFor tag c r c' r' →
      c.tagAssertions r tag = c'.tagAssertions r' tag) ∧
    ∀ (m m' : Spec) (v : Vocabulary) (settings : Settings) (c : Converter), m.Reorders m' →
      create m v settings = .ok c →
        ∃ c', create m' v settings = .ok c' ∧ ∀ r, c'.convert r = c.convert r := by
  refine ⟨fun _ _ _ => convert_eq_ok_iff, fun _ _ _ => convert_eq_error_iff,
    fun _ _ _ _ _ h => tagAssertions_congr h, ?_⟩
  intro m m' v settings c h hCreate
  refine ⟨{ c with mapping := m' }, create_of_reorders h hCreate, fun r => ?_⟩
  obtain ⟨-, types, -, rfl⟩ := create_eq_ok_iff.mp hCreate
  unfold convert
  rw [recordAssertions_of_reorders h r]

/-- Two blocks for titles and one for names: the names may come first, and a title is stated the same way
in a record without a name. -/
theorem convert_tag_by_tag_titles :
    let title : TagRule := ⟨"245", .data [.plain ⟨"a", .fixed (.iri "urn:title"), {}⟩]⟩
    let rest : TagRule := ⟨"245", .data [.plain ⟨"b", .fixed (.iri "urn:rest"), {}⟩]⟩
    let name : TagRule := ⟨"100", .data [.plain ⟨"a", .fixed (.iri "urn:name"), {}⟩]⟩
    let m : Spec := ⟨[title, name, rest]⟩
    let m' : Spec := ⟨[name, title, rest]⟩
    let c : Converter := ⟨m, .core, "placeholder.com", []⟩
    let field : Field := .data ⟨"245", '1', '0', [⟨'b', "a novel"⟩, ⟨'a', "Emma"⟩]⟩
    let r := Record.ofFields [field, .data ⟨"100", '1', ' ', [⟨'a', "Austen"⟩]⟩]
    let r' := Record.ofFields [field]
    m.Reorders m' ∧ create m .core {} = .ok c ∧
      c.convert r = .ok [⟨c.subjectOf r, "urn:title", .plain "Emma"⟩,
        ⟨c.subjectOf r, "urn:rest", .plain "a novel"⟩, ⟨c.subjectOf r, "urn:name", .plain "Austen"⟩] ∧
      c.tagAssertions r "245" = c.tagAssertions r' "245" ∧
      ∃ c', create m' .core {} = .ok c' ∧ ∀ r, c'.convert r = c.convert r := by
  intro title rest name m m' c field r r'
  have hReorders : m.Reorders m' := by
    refine ⟨.swap name title [rest], fun tag => ?_⟩
    by_cases hTitle : "245" = tag
    · subst hTitle
      rfl
    · have hBlock : (title.tag == tag) = false := beq_eq_false_iff_ne.mpr hTitle
      simp [Spec.rulesFor, m, m', List.filter_cons, hBlock]
  have hCreate : create m .core {} = .ok c := rfl
  refine ⟨hReorders, hCreate, ?_, ?_, ?_⟩
  · exact (convert_tag_by_tag.1 c r _).mpr ⟨by decide +kernel, rfl⟩
  · exact convert_tag_by_tag.2.2.1 c c r r' "245" ⟨rfl, rfl, rfl, rfl⟩
  · exact convert_tag_by_tag.2.2.2 m m' .core {} c hReorders hCreate

end Converter

end Conversion

end CatalogGraph
