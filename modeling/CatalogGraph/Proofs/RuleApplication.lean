import CatalogGraph.Conversion.FieldStatements
import CatalogGraph.Proofs.RuleTree

/-!
# Applying a rule

A rule is applied in two places: to a field, for the subject of a record, and below a node, for that node.
The first passes over the subfields and skips those it does not want; the second selects its values first.
Both are brought to one form here: choose the predicate, then go through a list of placed values and say
the same about each (`valueAssertions`).  They differ in the list alone:

* `ruleAssertions_eq` — for a record, all values under the code of the rule;
* `nestedAssertions_eq` — below a node, what `selectValues` gives for the subfield the node is from.

Where the two lists are the same the two applications are the same, down to what was asserted before a
fault.  That is so when the rule has another code than the rule that made the node, and also when it has
the same code but the node is from the only subfield under it.
-/

namespace CatalogGraph.Conversion

open CatalogGraph.Mapping CatalogGraph.Marc CatalogGraph.Rdf

variable {v : Vocabulary} {f : DataField}

/-! ## One form for both applications -/

/-- What a rule says about a node because of the value at a place.  Empty values are passed over. -/
def valueAssertions (v : Vocabulary) (f : DataField) (node predicate : String) (r : SubfieldRule)
    (p : PlacedValue) : Assertions :=
  if p.value = "" then .nothing
  else .after (generate p.value (some f) r.head.object.pipeline)
    (.each (objectAssertions v f node predicate r p.index))

theorem allNestedAssertions_eq (origin : Occurrence) (node : String) (rules : List SubfieldRule) :
    allNestedAssertions v f origin node rules =
      .each (fun r => (nestedAssertions v f origin node r).inRule f.tag (some r.code)) rules := by
  induction rules with
  | nil => rfl
  | cons r rest ih => rw [allNestedAssertions, Assertions.each_cons, ih]

/-- The statement about a new object and what follows from it, as it is made below a node. -/
theorem objectAssertions_related (subject predicate : String) (head : RuleHead) (type : Term)
    (nested : List SubfieldRule) (index : Nat) (object : String) :
    objectAssertions v f subject predicate (.related head type nested) index object =
      Assertions.andThen (.one ⟨subject, predicate, objectUri object head.object.base⟩)
        (match (objectUri object head.object.base).iri? with
        | some node => relationAssertions v f ⟨head.code, index⟩ node type nested
        | none => .nothing) := by
  rw [objectAssertions]
  cases objectUri object head.object.base with
  | iri node => rfl
  | plain value => exact (Assertions.andThen_nothing _).symm
  | tagged value language => exact (Assertions.andThen_nothing _).symm
  | typed value datatype => exact (Assertions.andThen_nothing _).symm

theorem nestedAssertions_eq (origin : Occurrence) (node : String) (r : SubfieldRule) :
    nestedAssertions v f origin node r =
      .after (predicateIri v r.head.predicate f) fun predicate =>
        .each (valueAssertions v f node predicate r) (selectValues r.code origin f) := by
  cases r with
  | plain head => rw [nestedAssertions]; rfl
  | related head type nested =>
      rw [nestedAssertions]
      congr 1
      funext predicate
      apply Assertions.each_congr
      intro p _
      unfold valueAssertions
      congr 2
      funext objects
      apply Assertions.each_congr
      intro object _
      exact (objectAssertions_related node predicate head type nested p.index object).symm

/-- A subfield counts if the code of the rule names it, and then by its value and its place. -/
theorem subfieldAssertions_eq (subject predicate : String) (r : SubfieldRule) (index : Nat)
    (s : Subfield) :
    subfieldAssertions v f subject predicate r index s =
      if codeMatches r.code s.code then
        valueAssertions v f subject predicate r ⟨index, s.value⟩
      else .nothing := by
  unfold subfieldAssertions valueAssertions SubfieldRule.matchesCode
  cases hCode : codeMatches r.code s.code with
  | false => simp
  | true => simp

theorem ruleAssertions_eq (subject : String) (r : SubfieldRule) :
    ruleAssertions v f subject r =
      .after (predicateIri v r.head.predicate f) fun predicate =>
        .each (valueAssertions v f subject predicate r) (placedValues r.code f) := by
  unfold ruleAssertions placedValues
  congr 1
  funext predicate
  -- to pass over a subfield in the loop is to leave it out of the list
  rw [Assertions.each_map, Assertions.each_filter]
  apply Assertions.each_congr
  intro p _
  exact subfieldAssertions_eq subject predicate r p.2 p.1

/-! ## The values that are read -/

theorem mem_placedValues_iff {code : String} {p : PlacedValue} :
    p ∈ placedValues code f ↔
      ∃ s, f.subfields[p.index]? = some s ∧ codeMatches code s.code = true ∧ p.value = s.value := by
  unfold placedValues
  rw [List.mem_map]
  constructor
  · rintro ⟨⟨s, i⟩, hMem, rfl⟩
    rw [List.mem_filter, List.mem_zipIdx_iff_getElem?] at hMem
    exact ⟨s, hMem.1, hMem.2, rfl⟩
  · rintro ⟨s, hAt, hCode, hValue⟩
    refine ⟨(s, p.index), ?_, by rw [← hValue]⟩
    rw [List.mem_filter, List.mem_zipIdx_iff_getElem?]
    exact ⟨hAt, hCode⟩

theorem selectValues_of_code_ne {code : String} {origin : Occurrence} (h : origin.code ≠ code) :
    selectValues code origin f = placedValues code f := by
  unfold selectValues
  rw [if_neg fun hEq => h hEq.symm]

theorem selectValues_of_code_eq {code : String} {origin : Occurrence} (h : origin.code = code) :
    selectValues code origin f = valueAt origin.index f := by
  unfold selectValues
  rw [if_pos h.symm]

/-- The subfield at a place is the only one that a code names. -/
def IsOnlyPlace (f : DataField) (code : String) (index : Nat) : Prop :=
  (∃ s, f.subfields[index]? = some s ∧ codeMatches code s.code = true) ∧
    ∀ j s, f.subfields[j]? = some s → codeMatches code s.code = true → j = index

/-- The only value under a code is the one at its place. -/
theorem placedValues_of_isOnlyPlace {code : String} {index : Nat} (h : IsOnlyPlace f code index) :
    placedValues code f = valueAt index f := by
  obtain ⟨⟨s, hAt, hCode⟩, hOnly⟩ := h
  obtain ⟨hLt, hGet⟩ := List.getElem?_eq_some_iff.mp hAt
  have hOthers : ∀ k t j, f.subfields.zipIdx[k]? = some (t, j) → k ≠ index →
      ¬codeMatches code t.code = true := by
    intro k t j hk hNe hMatch
    rw [List.getElem?_zipIdx, Option.map_eq_some_iff] at hk
    obtain ⟨t', ht', hPair⟩ := hk
    obtain ⟨rfl, -⟩ := Prod.mk.inj hPair
    exact hNe (hOnly k t' ht' hMatch)
  -- the field is cut at the place: neither before it nor after it does the code name a subfield
  have hFilter : f.subfields.zipIdx.filter (fun p => codeMatches code p.1.code) = [(s, index)] := by
    rw [List.filter_eq_cons_iff]
    refine ⟨f.subfields.zipIdx.take index, f.subfields.zipIdx.drop (index + 1), ?_, ?_, hCode, ?_⟩
    · have hBound : index < f.subfields.zipIdx.length := by rwa [List.length_zipIdx]
      have hPair : f.subfields.zipIdx[index] = (s, index) := by
        rw [List.getElem_zipIdx, hGet, Nat.zero_add]
      rw [← hPair, List.getElem_cons_drop, List.take_append_drop]
    · rintro ⟨t, j⟩ hMem
      obtain ⟨k, hk⟩ := List.mem_iff_getElem?.mp hMem
      have hBelow : k < index := by
        have hLength := (List.getElem?_eq_some_iff.mp hk).1
        rw [List.length_take] at hLength
        omega
      rw [List.getElem?_take_of_lt hBelow] at hk
      exact hOthers k t j hk (by omega)
    · rw [List.filter_eq_nil_iff]
      rintro ⟨t, j⟩ hMem
      obtain ⟨k, hk⟩ := List.mem_iff_getElem?.mp hMem
      rw [List.getElem?_drop] at hk
      exact hOthers (index + 1 + k) t j hk (by omega)
  unfold placedValues valueAt
  rw [hFilter, hAt]
  rfl

/-! ## Agreement -/

/-- Below a node a rule says what it says about the subject of a record, if it reads the same values. -/
theorem nestedAssertions_of_selectValues_eq {origin : Occurrence} {r : SubfieldRule}
    (h : selectValues r.code origin f = placedValues r.code f) (node : String) :
    nestedAssertions v f origin node r = ruleAssertions v f node r := by
  rw [nestedAssertions_eq, ruleAssertions_eq, h]

/-- **Both applications agree.**  A rule that is applied below a node adds to any statements what it adds
when the node is the subject of a record, and ends with the same fault or none: if the node was made by a
rule with another code, or from the only subfield that the code of the rule names. -/
theorem nestedAssertions_addTo_eq_ruleAssertions_addTo (v : Vocabulary) (f : DataField)
    (r : SubfieldRule) (subject : String) (sink : List Statement) (origin : Occurrence)
    (h : origin.code ≠ r.code ∨ origin.code = r.code ∧ IsOnlyPlace f r.code origin.index) :
    (nestedAssertions v f origin subject r).addTo sink = (ruleAssertions v f subject r).addTo sink := by
  have hValues : selectValues r.code origin f = placedValues r.code f := by
    rcases h with hOther | ⟨hSame, hOnly⟩
    · exact selectValues_of_code_ne hOther
    · rw [selectValues_of_code_eq hSame, placedValues_of_isOnlyPlace hOnly]
  rw [nestedAssertions_of_selectValues_eq hValues]

/-- A rule for `x` with a relation, below a node from `a`, and the same rule below a node from the only
`x`: the object becomes a node with a class and a label. -/
theorem nestedAssertions_addTo_eq_animals :
    let f : DataField := ⟨"650", ' ', '0', [⟨'a', "Animals"⟩, ⟨'x', "cats"⟩]⟩
    let label : SubfieldRule := .plain ⟨"x", .fixed (.iri "urn:label"), {}⟩
    let topic : SubfieldRule :=
      .related ⟨"x", .fixed (.iri "urn:topic"), { base := "urn://topics/" }⟩ (.iri "urn:Topic") [label]
    ("a" ≠ topic.code ∧ "x" = topic.code ∧ IsOnlyPlace f "x" 1) ∧
      (nestedAssertions .core f ⟨"a", 0⟩ "urn:s" topic).addTo [] =
        (ruleAssertions .core f "urn:s" topic).addTo [] ∧
      (nestedAssertions .core f ⟨"x", 1⟩ "urn:s" topic).addTo [] =
        (ruleAssertions .core f "urn:s" topic).addTo [] ∧
      ruleAssertions .core f "urn:s" topic =
        { statements := [⟨"urn:s", "urn:topic", .iri "urn://topics/cats"⟩,
          ⟨"urn://topics/cats", Vocabulary.rdfType, .iri "urn:Topic"⟩,
          ⟨"urn://topics/cats", "urn:label", .plain "cats"⟩] } := by
  intro f label topic
  have hOther : "a" ≠ topic.code := by decide
  have hOnly : IsOnlyPlace f "x" 1 := by
    refine ⟨⟨⟨'x', "cats"⟩, rfl, by decide⟩, ?_⟩
    intro j s hj hCode
    match j with
    | 0 =>
        obtain rfl := Option.some.inj hj
        exact absurd hCode (by decide)
    | 1 => rfl
    | j + 2 => simp [f] at hj
  refine ⟨⟨hOther, rfl, hOnly⟩, ?_, ?_, by decide +kernel⟩
  · exact nestedAssertions_addTo_eq_ruleAssertions_addTo _ _ topic _ _ ⟨"a", 0⟩ (Or.inl hOther)
  · exact nestedAssertions_addTo_eq_ruleAssertions_addTo _ _ topic _ _ ⟨"x", 1⟩ (Or.inr ⟨rfl, hOnly⟩)

end CatalogGraph.Conversion
