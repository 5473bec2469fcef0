import CatalogGraph.Proofs.FieldReads
import CatalogGraph.Proofs.RuleApplication
import Mathlib.Data.List.Forall2

/-!
# Repeated subfields do not mix

A rule with a relation is applied to a field in which its code comes several times.  Each of these
subfields gets a block of statements of its own (`ruleAssertions_eq_blocks`).  A block may still look at
the rest of the field: through a condition, through a combination of subfields, and through nested rules.
None of these looks at another subfield with the same code if

* no combination in the tree of the rule takes the code, and no condition looks at it
  (`RuleHead.Ignores`);
* below a rule with another code no rule has the code (`SubfieldRule.KeepsApart`).

So the block of a subfield stays the same whatever the other subfields with its code hold.  The proof
follows the rule downwards.  A nested rule with the code stands right below one with the code, so it
reads at the place of the subfield at hand; every other rule reads subfields that did not change.
-/

namespace CatalogGraph

namespace Mapping

/-- A code as written names one code at most, and one code is named in one way. -/
theorem eq_of_codeMatches {key key' : String} {code : Char} (h : codeMatches key code = true)
    (h' : codeMatches key' code = true) : key = key' :=
  String.toList_injective ((eq_of_beq h).trans (eq_of_beq h').symm)

/-- What a code names another code does not. -/
theorem codeMatches_eq_false {key key' : String} (h : key ≠ key') (code : Char)
    (hCode : codeMatches key code = true) : codeMatches key' code = false :=
  Bool.eq_false_iff.mpr fun hCode' => h (eq_of_codeMatches hCode hCode')

/-- Neither the combination nor the condition of a rule looks at the subfields with a code. -/
structure RuleHead.Ignores (head : RuleHead) (code : String) : Prop where
  combine : ∀ c, head.object.pipeline.combine = some c → code ∉ c.codes
  condition : ∀ key table fallback,
    head.predicate = .conditional (.bySubfield key table fallback) → key ≠ code

/-- In the tree of a rule nothing looks at a code but the rules with this code, and these do not stand
below a rule with another code. -/
def SubfieldRule.KeepsApart (r : SubfieldRule) (code : String) : Prop :=
  ∀ p, p = r ∨ p ∈ r.descendants →
    p.head.Ignores code ∧ ∀ q ∈ p.descendants, q.code = code → p.code = code

namespace SubfieldRule.KeepsApart

variable {head : RuleHead} {type : Term} {nested : List SubfieldRule} {q : SubfieldRule}
  {code : String}

theorem ignores {r : SubfieldRule} (h : r.KeepsApart code) : r.head.Ignores code :=
  (h r (Or.inl rfl)).1

/-- What holds of the tree of a rule holds of the trees of its nested rules. -/
theorem of_mem (h : (related head type nested).KeepsApart code) (hq : q ∈ nested) :
    q.KeepsApart code := by
  intro p hp
  refine h p (Or.inr ?_)
  rw [descendants, mem_forest_iff]
  exact ⟨q, hq, hp⟩

/-- Right below a rule with another code no rule has the code. -/
theorem code_eq (h : (related head type nested).KeepsApart code) (hq : q ∈ nested)
    (hCode : q.code = code) : head.code = code := by
  refine (h _ (Or.inl rfl)).2 q ?_ hCode
  rw [descendants]
  exact mem_forest_of_mem hq

end SubfieldRule.KeepsApart

end Mapping

namespace Conversion

open CatalogGraph.Mapping CatalogGraph.Marc CatalogGraph.Rdf

variable {v : Vocabulary} {f f' : DataField} {code : String} {index : Nat}

/-! ## Fields that differ beside a place -/

/-- Two subfields differ in nothing but the value, and in the value only if they have a code. -/
structure SameUnless (code : String) (s s' : Subfield) : Prop where
  sameCode : s.code = s'.code
  sameValue : codeMatches code s.code = false → s.value = s'.value

/-- Two fields differ in nothing but the values of subfields with a code at other places. -/
structure DiffersBeside (code : String) (index : Nat) (f f' : DataField) : Prop where
  tag : f.tag = f'.tag
  indicator1 : f.indicator1 = f'.indicator1
  indicator2 : f.indicator2 = f'.indicator2
  others : List.Forall₂ (SameUnless code) f.subfields f'.subfields
  here : f.subfields[index]? = f'.subfields[index]?

theorem SameUnless.eq {s s' : Subfield} (h : SameUnless code s s')
    (hOther : codeMatches code s.code = false) : s = s' := by
  ext1
  · exact h.sameCode
  · exact h.sameValue hOther

/-- Subfields that are chosen by their codes, the code at hand left out, are the same and stand at the same
places. -/
theorem filter_zipIdx_of_sameUnless {xs ys : List Subfield} (h : List.Forall₂ (SameUnless code) xs ys)
    (wanted : Char → Bool) (hOther : ∀ c, wanted c = true → codeMatches code c = false) (k : Nat) :
    (xs.zipIdx k).filter (fun p => wanted p.1.code) =
      (ys.zipIdx k).filter (fun p => wanted p.1.code) := by
  induction h generalizing k with
  | nil => rfl
  | @cons s s' rest rest' hHead _ ih =>
      rw [List.zipIdx_cons, List.zipIdx_cons, List.filter_cons, List.filter_cons, ← hHead.sameCode,
        ih (k + 1)]
      split
      · next hWanted => rw [hHead.eq (hOther _ hWanted)]
      · rfl

/-- The places of subfields that are chosen by their codes are the same in any case. -/
theorem places_of_sameUnless {xs ys : List Subfield} (h : List.Forall₂ (SameUnless code) xs ys)
    (wanted : Char → Bool) (k : Nat) :
    ((xs.zipIdx k).filter (fun p => wanted p.1.code)).map Prod.snd =
      ((ys.zipIdx k).filter (fun p => wanted p.1.code)).map Prod.snd := by
  induction h generalizing k with
  | nil => rfl
  | @cons s s' rest rest' hHead _ ih =>
      rw [List.zipIdx_cons, List.zipIdx_cons, List.filter_cons, List.filter_cons, ← hHead.sameCode]
      split
      · rw [List.map_cons, List.map_cons, ih (k + 1)]
      · exact ih (k + 1)

/-- Subfields are chosen by their codes as they are chosen together with their places. -/
theorem map_fst_filter_zipIdx (xs : List Subfield) (wanted : Char → Bool) :
    (xs.zipIdx.filter fun p => wanted p.1.code).map Prod.fst = xs.filter fun s => wanted s.code := by
  rw [← List.zipIdx_map_fst 0 xs, List.filter_map, List.zipIdx_map_fst]
  rfl

namespace DiffersBeside

theorem filter_eq (h : DiffersBeside code index f f') {wanted : Char → Bool}
    (hOther : ∀ c, wanted c = true → codeMatches code c = false) :
    f.subfields.filter (fun s => wanted s.code) = f'.subfields.filter (fun s => wanted s.code) := by
  rw [← map_fst_filter_zipIdx, ← map_fst_filter_zipIdx,
    filter_zipIdx_of_sameUnless h.others wanted hOther 0]

/-- A subfield without the code is in both fields at its place. -/
theorem getElem?_eq (h : DiffersBeside code index f f') {j : Nat} {s : Subfield}
    (hAt : f.subfields[j]? = some s) (hOther : codeMatches code s.code = false) :
    f'.subfields[j]? = some s := by
  have hFilter := filter_zipIdx_of_sameUnless h.others (fun c => !codeMatches code c)
    (fun c hc => by simpa using hc) 0
  have hMem : (s, j) ∈ f.subfields.zipIdx.filter fun p => !codeMatches code p.1.code := by
    rw [List.mem_filter, List.mem_zipIdx_iff_getElem?]
    exact ⟨hAt, by simp [hOther]⟩
  rw [hFilter, List.mem_filter, List.mem_zipIdx_iff_getElem?] at hMem
  exact hMem.1

/-- Another code names the same values at the same places. -/
theorem placedValues_eq (h : DiffersBeside code index f f') {key : String} (hKey : key ≠ code) :
    placedValues key f = placedValues key f' := by
  unfold placedValues
  rw [filter_zipIdx_of_sameUnless h.others (codeMatches key) (codeMatches_eq_false hKey) 0]

theorem siblingValue?_eq (h : DiffersBeside code index f f') {key : String} (hKey : key ≠ code) :
    siblingValue? key f = siblingValue? key f' := by
  unfold siblingValue?
  rw [← List.head?_filter, ← List.head?_filter, h.filter_eq (codeMatches_eq_false hKey)]

theorem combined_eq (h : DiffersBeside code index f f') {c : Combine} (hCodes : code ∉ c.codes) :
    combined (some f) c = combined (some f') c := by
  unfold combined
  have hOther : ∀ ch, c.includes ch = true → codeMatches code ch = false := by
    intro ch hIncludes
    obtain ⟨key, hKey, hMatches⟩ := List.any_eq_true.mp hIncludes
    have hNe : key ≠ code := by
      rintro rfl
      exact hCodes hKey
    exact codeMatches_eq_false hNe ch hMatches
  simp only [h.filter_eq hOther]

/-- A rule that does not look at the code makes the same objects of a value. -/
theorem generate_eq (h : DiffersBeside code index f f') {head : RuleHead} (hHead : head.Ignores code)
    (value : String) :
    generate value (some f) head.object.pipeline = generate value (some f') head.object.pipeline :=
  generate_congr (fun c hc => h.combined_eq (hHead.combine c hc)) value

/-- A rule that does not look at the code chooses the same predicate. -/
theorem predicateIri_eq (h : DiffersBeside code index f f') {head : RuleHead}
    (hHead : head.Ignores code) :
    predicateIri v head.predicate f = predicateIri v head.predicate f' := by
  refine predicateIri_congr h.indicator1 h.indicator2 fun key table fallback hPredicate => ?_
  exact h.siblingValue?_eq (hHead.condition key table fallback hPredicate)

/-! ## Going down a relation -/

/-- Below a node a rule reads at the place of the node, or by a code that is not the code at hand; for
the rules with the code come right below nodes that rules with the code made. -/
theorem selectValues_cases {key : String} {origin : Occurrence}
    (hKey : key = code → origin.code = code) :
    (∀ f, selectValues key origin f = valueAt origin.index f) ∨
      key ≠ code ∧ ∀ f, selectValues key origin f = placedValues key f := by
  by_cases hSame : origin.code = key
  · exact Or.inl fun f => selectValues_of_code_eq hSame
  · exact Or.inr ⟨fun hEq => hSame ((hKey hEq).trans hEq.symm), fun f => selectValues_of_code_ne hSame⟩

/-- A nested rule reads the same values, if the node is from a subfield that did not change. -/
theorem selectValues_eq (h : DiffersBeside code index f f') {key : String} {origin : Occurrence}
    (hOrigin : f.subfields[origin.index]? = f'.subfields[origin.index]?)
    (hKey : key = code → origin.code = code) :
    selectValues key origin f = selectValues key origin f' := by
  rcases selectValues_cases hKey with hPlace | ⟨hNe, hCode⟩
  · rw [hPlace, hPlace, valueAt, valueAt, hOrigin]
  · rw [hCode, hCode, h.placedValues_eq hNe]

/-- The values that a nested rule reads are from subfields that did not change either. -/
theorem getElem?_eq_of_mem_selectValues (h : DiffersBeside code index f f') {key : String}
    {origin : Occurrence} (hOrigin : f.subfields[origin.index]? = f'.subfields[origin.index]?)
    (hKey : key = code → origin.code = code) {p : PlacedValue} (hp : p ∈ selectValues key origin f) :
    f.subfields[p.index]? = f'.subfields[p.index]? := by
  rcases selectValues_cases hKey with hPlace | ⟨hNe, hCode⟩
  · rw [hPlace, valueAt, Option.mem_toList, Option.map_eq_some_iff] at hp
    obtain ⟨s, -, rfl⟩ := hp
    exact hOrigin
  · rw [hCode] at hp
    obtain ⟨s, hAt, hMatches, -⟩ := mem_placedValues_iff.mp hp
    rw [hAt, h.getElem?_eq hAt (codeMatches_eq_false hNe s.code hMatches)]

/-- What a value leads to stays the same, if what each of its objects leads to does. -/
theorem valueAssertions_of_objects (h : DiffersBeside code index f f') {r : SubfieldRule}
    (hHead : r.head.Ignores code) {node predicate : String} {p : PlacedValue}
    (hObjects : ∀ object, objectAssertions v f node predicate r p.index object =
      objectAssertions v f' node predicate r p.index object) :
    valueAssertions v f node predicate r p = valueAssertions v f' node predicate r p := by
  unfold valueAssertions
  rw [h.generate_eq hHead, funext hObjects]

/-- What a nested rule says stays the same, if what each of its values leads to does. -/
theorem nestedAssertions_of_values (h : DiffersBeside code index f f') {q : SubfieldRule}
    (hHead : q.head.Ignores code) {origin : Occurrence}
    (hOrigin : f.subfields[origin.index]? = f'.subfields[origin.index]?)
    (hCode : q.code = code → origin.code = code) {node : String}
    (hValues : ∀ predicate (p : PlacedValue), f.subfields[p.index]? = f'.subfields[p.index]? →
      valueAssertions v f node predicate q p = valueAssertions v f' node predicate q p) :
    nestedAssertions v f origin node q = nestedAssertions v f' origin node q := by
  rw [nestedAssertions_eq, nestedAssertions_eq, ← h.predicateIri_eq hHead,
    ← h.selectValues_eq hOrigin hCode]
  congr 1
  funext predicate
  apply Assertions.each_congr
  intro p hp
  exact hValues predicate p (h.getElem?_eq_of_mem_selectValues hOrigin hCode hp)

/-- A value from a subfield that did not change leads to the same, down to any depth. -/
theorem valueAssertions_eq (h : DiffersBeside code index f f') {r : SubfieldRule}
    (hApart : r.KeepsApart code) (node predicate : String) (p : PlacedValue)
    (hp : f.subfields[p.index]? = f'.subfields[p.index]?) :
    valueAssertions v f node predicate r p = valueAssertions v f' node predicate r p := by
  induction r generalizing node predicate p with
  | plain head => exact h.valueAssertions_of_objects hApart.ignores fun _ => rfl
  | related head type nested ih =>
      refine h.valueAssertions_of_objects hApart.ignores fun object => ?_
      rw [objectAssertions_related, objectAssertions_related]
      cases (objectUri object head.object.base).iri? with
      | none => rfl
      | some uri =>
          have hType : typeAssertion v f ⟨head.code, p.index⟩ uri type =
              typeAssertion v f' ⟨head.code, p.index⟩ uri type := by
            rw [typeAssertion, typeAssertion, h.tag]
          have hNested : allNestedAssertions v f ⟨head.code, p.index⟩ uri nested =
              allNestedAssertions v f' ⟨head.code, p.index⟩ uri nested := by
            rw [allNestedAssertions_eq, allNestedAssertions_eq]
            apply Assertions.each_congr
            intro q hq
            -- the node is from a subfield that did not change, so `q` may have the code only if `head` has it
            have hQ : q.KeepsApart code := hApart.of_mem hq
            rw [h.nestedAssertions_of_values hQ.ignores hp (hApart.code_eq hq) (ih q hq hQ uri), h.tag]
          simp only [relationAssertions, hType, hNested]

end DiffersBeside

/-! ## Blocks -/

/-- The places of the subfields that a code names, in the order of the field. -/
def placesOf (code : String) (f : DataField) : List Nat :=
  (placedValues code f).map (·.index)

theorem DiffersBeside.placesOf_eq (h : DiffersBeside code index f f') (key : String) :
    placesOf key f = placesOf key f' := by
  have hPlaces := places_of_sameUnless h.others (codeMatches key) 0
  unfold placesOf placedValues
  rw [List.map_map, List.map_map]
  exact hPlaces

/-- What a rule says because of the subfield at a place, the choice of its predicate included. -/
def subfieldBlock (v : Vocabulary) (f : DataField) (subject : String) (r : SubfieldRule)
    (index : Nat) : Assertions :=
  match f.subfields[index]? with
  | some s =>
    .after (predicateIri v r.head.predicate f) fun predicate =>
      subfieldAssertions v f subject predicate r index s
  | none => .nothing

theorem subfieldBlock_of_mem {subject : String} {r : SubfieldRule} {p : PlacedValue}
    (hp : p ∈ placedValues r.code f) :
    subfieldBlock v f subject r p.index =
      .after (predicateIri v r.head.predicate f) fun predicate =>
        valueAssertions v f subject predicate r p := by
  obtain ⟨s, hAt, hCode, hValue⟩ := mem_placedValues_iff.mp hp
  simp only [subfieldBlock, hAt]
  congr 1
  funext predicate
  rw [subfieldAssertions_eq, if_pos hCode, ← hValue]

/-- What a rule says is one block for each subfield with its code, in the order of the field.  If there is no
such subfield, the predicate is still chosen and may fail. -/
theorem ruleAssertions_eq_blocks (subject : String) (r : SubfieldRule) :
    ruleAssertions v f subject r =
      (Assertions.after (predicateIri v r.head.predicate f) fun _ => .nothing).andThen
        (.each (subfieldBlock v f subject r) (placesOf r.code f)) := by
  rw [ruleAssertions_eq, placesOf, Assertions.each_map]
  rw [Assertions.each_congr fun p hp => subfieldBlock_of_mem hp]
  cases predicateIri v r.head.predicate f with
  | ok predicate => exact (Assertions.nothing_andThen _).symm
  | error e => exact (Assertions.failed_andThen e _).symm

/-- **Repeated subfields do not mix.**  If nothing in the tree of a rule looks at its code, but the rules with
this code, and these stand below rules with the code only, then what the rule says about a field is one
block for each subfield with the code, in the order of the field.  The block of a subfield, or the fault
that ends it, is the same in every field that differs in nothing but the values of the others. -/
theorem ruleAssertions_block_by_block (v : Vocabulary) (subject : String) (r : SubfieldRule)
    (hApart : r.KeepsApart r.code) (f : DataField) :
    ruleAssertions v f subject r =
        (Assertions.after (predicateIri v r.head.predicate f) fun _ => .nothing).andThen
          (.each (subfieldBlock v f subject r) (placesOf r.code f)) ∧
      ∀ i ∈ placesOf r.code f, ∀ f', DiffersBeside r.code i f f' →
        placesOf r.code f' = placesOf r.code f ∧
          subfieldBlock v f' subject r i = subfieldBlock v f subject r i := by
  refine ⟨ruleAssertions_eq_blocks subject r, fun i hi f' h => ?_⟩
  have hPlaces := h.placesOf_eq r.code
  obtain ⟨p, hp, rfl⟩ := List.mem_map.mp hi
  obtain ⟨s, hAt, hCode, hValue⟩ := mem_placedValues_iff.mp hp
  have hp' : p ∈ placedValues r.code f' :=
    mem_placedValues_iff.mpr ⟨s, h.here ▸ hAt, hCode, hValue⟩
  refine ⟨hPlaces.symm, ?_⟩
  rw [subfieldBlock_of_mem hp, subfieldBlock_of_mem hp', h.predicateIri_eq hApart.ignores]
  congr 1
  funext predicate
  exact (h.valueAssertions_eq hApart subject predicate p h.here).symm

/-- Two topics below a heading: what is said about the second one does not depend on the first one, though
both get the heading as their broader term. -/
theorem ruleAssertions_block_by_block_topics :
    let label : SubfieldRule := .plain ⟨"x", .fixed (.iri "urn:label"), {}⟩
    let broader : SubfieldRule := .plain ⟨"a", .fixed (.iri "urn:broader"), {}⟩
    let topic : SubfieldRule := .related ⟨"x", .fixed (.iri "urn:topic"), { base := "urn://topics/" }⟩
      (.iri "urn:Topic") [label, broader]
    let f : DataField := ⟨"650", ' ', '0', [⟨'a', "Animals"⟩, ⟨'x', "cats"⟩, ⟨'x', "dogs"⟩]⟩
    let f' : DataField := ⟨"650", ' ', '0', [⟨'a', "Animals"⟩, ⟨'x', "newts"⟩, ⟨'x', "dogs"⟩]⟩
    topic.KeepsApart "x" ∧ DiffersBeside "x" 2 f f' ∧ placesOf "x" f = [1, 2] ∧
      subfieldBlock .core f' "urn:s" topic 2 = subfieldBlock .core f "urn:s" topic 2 ∧
      subfieldBlock .core f "urn:s" topic 2 =
        { statements := [⟨"urn:s", "urn:topic", .iri "urn://topics/dogs"⟩,
          ⟨"urn://topics/dogs", Vocabulary.rdfType, .iri "urn:Topic"⟩,
          ⟨"urn://topics/dogs", "urn:label", .plain "dogs"⟩,
          ⟨"urn://topics/dogs", "urn:broader", .plain "Animals"⟩] } := by
  intro label broader topic f f'
  have hIgnores : ∀ head : RuleHead, head.object.pipeline.combine = none →
      (∃ term, head.predicate = .fixed term) → head.Ignores "x" := by
    rintro head hCombine ⟨term, hFixed⟩
    exact ⟨fun c hc => by simp [hCombine] at hc, fun key table fallback h => by simp [hFixed] at h⟩
  have hApart : topic.KeepsApart "x" := by
    intro p hp
    have hTree : p = topic ∨ p = label ∨ p = broader := by
      simpa [topic, label, broader, SubfieldRule.descendants, SubfieldRule.forest] using hp
    rcases hTree with rfl | rfl | rfl
    · exact ⟨hIgnores _ rfl ⟨_, rfl⟩, fun _ _ _ => rfl⟩
    · exact ⟨hIgnores _ rfl ⟨_, rfl⟩, fun _ hq => absurd hq List.not_mem_nil⟩
    · exact ⟨hIgnores _ rfl ⟨_, rfl⟩, fun _ hq => absurd hq List.not_mem_nil⟩
  have hBeside : DiffersBeside "x" 2 f f' :=
    ⟨rfl, rfl, rfl, .cons ⟨rfl, fun _ => rfl⟩ (.cons ⟨rfl, fun h => absurd h (by decide)⟩
      (.cons ⟨rfl, fun _ => rfl⟩ .nil)), rfl⟩
  have hPlaces : placesOf "x" f = [1, 2] := by decide
  have hMem : 2 ∈ placesOf topic.code f := by decide
  refine ⟨hApart, hBeside, hPlaces, ?_, by decide +kernel⟩
  exact ((ruleAssertions_block_by_block .core "urn:s" topic hApart f).2 2 hMem f' hBeside).2

end Conversion

end CatalogGraph
