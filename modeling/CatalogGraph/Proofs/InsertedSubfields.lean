import CatalogGraph.Proofs.BlankValues
import CatalogGraph.Proofs.RecordFields
import CatalogGraph.Proofs.SubfieldIsolation

/-!
# Subfields that nothing reads

A subfield that is put into a data field changes nothing if no rule for the tag reads it: neither a
combination nor a condition takes its code, and no rule has its code, or its value is blank
(`RuleBody.PassesOver`).

The subfields behind the new one move on by one place (`placeBehind`), and a node remembers the place of the
subfield that it was made from.  So the two runs are not about the same places.  They are about the same
subfields: what a place in the old field leads to, the moved place leads to in the new one
(`valueAssertions_insertSubfield`, by induction on the rule).  Only the new subfield has no counterpart;
if a rule comes to it at all, its value is blank and leads to nothing.

Blocks with control entries read the joined value of a field, so they are left out here.
-/

namespace CatalogGraph

namespace Marc

/-- The field with one more subfield at a place, if it reaches that far. -/
def DataField.insertSubfield (f : DataField) (position : Nat) (s : Subfield) : DataField :=
  { f with subfields := f.subfields.insertIdx position s }

/-- Where a subfield stands after another one was put at `position`. -/
def placeBehind (position index : Nat) : Nat := if index < position then index else index + 1

/-- The subfield at a place stands at the moved place afterwards. -/
theorem getElem?_insertSubfield (f : DataField) (position : Nat) (s : Subfield) (index : Nat) :
    (f.insertSubfield position s).subfields[placeBehind position index]? = f.subfields[index]? := by
  unfold placeBehind
  split
  · next hBefore => exact List.getElem?_insertIdx_of_lt hBefore
  · next hBehind =>
      have hLater : position < index + 1 := by omega
      exact List.getElem?_insertIdx_of_gt hLater

/-- An element that is not wanted may be put anywhere. -/
theorem filter_insertIdx_of_not {α : Type} (wanted : α → Bool) {a : α} (h : wanted a = false)
    (xs : List α) (position : Nat) : (xs.insertIdx position a).filter wanted = xs.filter wanted := by
  induction xs generalizing position with
  | nil =>
      cases position with
      | zero => simp [h]
      | succ position => rfl
  | cons x xs ih =>
      cases position with
      | zero => rw [List.insertIdx_zero, List.filter_cons_of_neg (by simp [h])]
      | succ position => rw [List.insertIdx_succ_cons, List.filter_cons, List.filter_cons, ih]

end Marc

namespace Mapping

/-- A code names a character if it is written as this one character. -/
theorem codeMatches_eq_false_of_ne {key : String} {code : Char} (h : key ≠ String.singleton code) :
    codeMatches key code = false := by
  rw [Bool.eq_false_iff]
  intro hMatches
  refine h (String.toList_injective ?_)
  rw [eq_of_beq hMatches, String.toList_singleton]

/-- No rule in a tree reads a subfield: none combines it or looks at it in its condition, and none has its
code, unless there is nothing but white space in it. -/
def SubfieldRule.PassesOver (r : SubfieldRule) (s : Marc.Subfield) : Prop :=
  ∀ q, q = r ∨ q ∈ r.descendants → q.head.Ignores (String.singleton s.code) ∧
    (Text.isBlank s.value = true ∨ q.code ≠ String.singleton s.code)

/-- A block is for data fields, and no rule in it reads a subfield. -/
def RuleBody.PassesOver (body : RuleBody) (s : Marc.Subfield) : Prop :=
  match body with
  | .control _ => False
  | .data rules => ∀ r ∈ rules, r.PassesOver s

namespace SubfieldRule.PassesOver

variable {s : Marc.Subfield}

theorem ignores {r : SubfieldRule} (h : r.PassesOver s) :
    r.head.Ignores (String.singleton s.code) :=
  (h r (Or.inl rfl)).1

/-- If the code of the rule names the subfield, the subfield is blank. -/
theorem isBlank {r : SubfieldRule} (h : r.PassesOver s) (hCode : codeMatches r.code s.code = true) :
    Text.isBlank s.value = true := by
  rcases (h r (Or.inl rfl)).2 with hBlank | hOther
  · exact hBlank
  · rw [codeMatches_eq_false_of_ne hOther] at hCode
    exact absurd hCode (by decide)

/-- What passes over a subfield does so at any depth. -/
theorem of_mem {head : RuleHead} {type : Term} {nested : List SubfieldRule} {q : SubfieldRule}
    (h : (related head type nested).PassesOver s) (hq : q ∈ nested) : q.PassesOver s := by
  intro p hp
  refine h p (Or.inr ?_)
  rw [descendants, mem_forest_iff]
  exact ⟨q, hq, hp⟩

end SubfieldRule.PassesOver

end Mapping

namespace Conversion

open CatalogGraph.Mapping CatalogGraph.Marc CatalogGraph.Rdf

variable {v : Vocabulary} {f : DataField} {s : Subfield} {position : Nat}

/-! ## What is read of the field as a whole -/

theorem combined_insertSubfield {c : Combine} (h : String.singleton s.code ∉ c.codes) :
    combined (some (f.insertSubfield position s)) c = combined (some f) c := by
  have hNot : c.includes s.code = false := by
    unfold Combine.includes
    rw [List.any_eq_false]
    intro key hKey
    have hNe : key ≠ String.singleton s.code := by
      rintro rfl
      exact h hKey
    rw [codeMatches_eq_false_of_ne hNe]
    exact Bool.false_ne_true
  have hKept := filter_insertIdx_of_not (fun s => c.includes s.code) hNot f.subfields position
  simp only [combined, DataField.insertSubfield, hKept]

theorem siblingValue?_insertSubfield {key : String} (h : key ≠ String.singleton s.code) :
    siblingValue? key (f.insertSubfield position s) = siblingValue? key f := by
  have hNot : codeMatches key s.code = false := codeMatches_eq_false_of_ne h
  have hKept := filter_insertIdx_of_not (fun s => codeMatches key s.code) hNot f.subfields position
  unfold siblingValue?
  rw [← List.head?_filter, ← List.head?_filter]
  simp only [DataField.insertSubfield, hKept]

/-- A rule that does not look at the subfield makes the same objects of a value. -/
theorem generate_insertSubfield {head : RuleHead} (h : head.Ignores (String.singleton s.code))
    (value : String) :
    generate value (some (f.insertSubfield position s)) head.object.pipeline =
      generate value (some f) head.object.pipeline :=
  generate_congr (fun c hc => combined_insertSubfield (h.combine c hc)) value

/-- A rule that does not look at the subfield chooses the same predicate. -/
theorem predicateIri_insertSubfield {head : RuleHead} (h : head.Ignores (String.singleton s.code)) :
    predicateIri v head.predicate (f.insertSubfield position s) = predicateIri v head.predicate f := by
  refine predicateIri_congr rfl rfl fun key table fallback hPredicate => ?_
  exact siblingValue?_insertSubfield (h.condition key table fallback hPredicate)

/-! ## What is read place by place -/

/-- A value where it stands after a subfield was put at `position`. -/
def PlacedValue.moved (position : Nat) (p : PlacedValue) : PlacedValue :=
  ⟨placeBehind position p.index, p.value⟩

/-- To go through a list with one more element is to go through the list and to count from that element on
one further, if nothing is said about it. -/
theorem each_zipIdx_insertIdx {α : Type} {say : α × Nat → Assertions} {a : α} {k position : Nat}
    (hSilent : say (a, k + position) = .nothing) (xs : List α) :
    Assertions.each say ((xs.insertIdx position a).zipIdx k) =
      .each (fun p => say (p.1, placeBehind (k + position) p.2)) (xs.zipIdx k) := by
  induction xs generalizing position k with
  | nil =>
      cases position with
      | zero =>
          rw [List.insertIdx_zero, List.zipIdx_cons, Assertions.each_cons]
          have hHere : say (a, k) = .nothing := hSilent
          rw [hHere, Assertions.nothing_andThen]
          rfl
      | succ position => rfl
  | cons x xs ih =>
      cases position with
      | zero =>
          -- all elements come behind the new one
          have hHere : say (a, k) = .nothing := hSilent
          rw [List.insertIdx_zero, List.zipIdx_cons, Assertions.each_cons, hHere,
            Assertions.nothing_andThen, List.zipIdx_succ, Assertions.each_map]
          apply Assertions.each_congr
          intro p hp
          have hFrom : k ≤ p.2 := List.le_snd_of_mem_zipIdx hp
          have hBehind : placeBehind (k + 0) p.2 = p.2 + 1 := if_neg (by omega)
          rw [hBehind]
      | succ position =>
          have hFirst : placeBehind (k + (position + 1)) k = k := if_pos (by omega)
          have hPosition : k + (position + 1) = k + 1 + position := by omega
          rw [List.insertIdx_succ_cons, List.zipIdx_cons, List.zipIdx_cons, Assertions.each_cons,
            Assertions.each_cons, hFirst, hPosition]
          rw [hPosition] at hSilent
          rw [ih hSilent]

/-- The values under a code in the order of the field, as the places of the field are gone through. -/
theorem each_placedValues (say : PlacedValue → Assertions) (code : String) (f : DataField) :
    Assertions.each say (placedValues code f) =
      .each (fun p => if codeMatches code p.1.code then say ⟨p.2, p.1.value⟩ else .nothing)
        f.subfields.zipIdx := by
  unfold placedValues
  rw [Assertions.each_map, Assertions.each_filter]

/-- Of the values under a code the old ones are read as before, each at its moved place, if nothing is said
about the new one. -/
theorem each_placedValues_insertSubfield {say : PlacedValue → Assertions} {code : String}
    (hSilent : codeMatches code s.code = true → say ⟨position, s.value⟩ = .nothing) :
    Assertions.each say (placedValues code (f.insertSubfield position s)) =
      .each (fun p => say (p.moved position)) (placedValues code f) := by
  rw [each_placedValues, each_placedValues]
  have hHere : (if codeMatches code s.code then say ⟨0 + position, s.value⟩ else .nothing) =
      Assertions.nothing := by
    split
    · next hCode => rw [Nat.zero_add, hSilent hCode]
    · rfl
  refine (each_zipIdx_insertIdx hHere f.subfields).trans ?_
  simp only [Nat.zero_add]
  rfl

/-- The value at a place is read at the moved place. -/
theorem valueAt_insertSubfield (index : Nat) :
    valueAt (placeBehind position index) (f.insertSubfield position s) =
      (valueAt index f).map (·.moved position) := by
  unfold valueAt
  rw [getElem?_insertSubfield]
  cases f.subfields[index]? with
  | none => rfl
  | some t => rfl

/-- Below a node that is from a subfield of the old field, a nested rule reads what it read before, each value
at its moved place. -/
theorem each_selectValues_insertSubfield {say : PlacedValue → Assertions} {key code : String}
    (hSilent : codeMatches key s.code = true → say ⟨position, s.value⟩ = .nothing) (index : Nat) :
    Assertions.each say
        (selectValues key ⟨code, placeBehind position index⟩ (f.insertSubfield position s)) =
      .each (fun p => say (p.moved position)) (selectValues key ⟨code, index⟩ f) := by
  by_cases hCode : code = key
  · rw [selectValues_of_code_eq hCode, selectValues_of_code_eq hCode, valueAt_insertSubfield,
      Assertions.each_map]
  · rw [selectValues_of_code_ne hCode, selectValues_of_code_ne hCode,
      each_placedValues_insertSubfield hSilent]

/-! ## What rules say -/

/-- Nothing is said about the new subfield: the rule does not come to it, or there is only white space in
it. -/
theorem valueAssertions_of_passesOver {r : SubfieldRule} (h : r.PassesOver s) (g : DataField)
    (node predicate : String) (hCode : codeMatches r.code s.code = true) :
    valueAssertions v g node predicate r ⟨position, s.value⟩ = .nothing := by
  unfold valueAssertions
  split
  · rfl
  · rw [generate_of_isBlank (h.isBlank hCode)]
    rfl

/-- A value of the old field leads at its moved place to what it led to before.  The induction is on the
rule: the node that is made at a moved place is read further down from there. -/
theorem valueAssertions_insertSubfield {r : SubfieldRule} (h : r.PassesOver s)
    (node predicate : String) (p : PlacedValue) :
    valueAssertions v (f.insertSubfield position s) node predicate r (p.moved position) =
      valueAssertions v f node predicate r p := by
  induction r generalizing node predicate p with
  | plain head =>
      unfold valueAssertions
      rw [PlacedValue.moved, generate_insertSubfield h.ignores]
      rfl
  | related head type nested ih =>
      have hObject : ∀ object,
          objectAssertions v (f.insertSubfield position s) node predicate (.related head type nested)
              (placeBehind position p.index) object =
            objectAssertions v f node predicate (.related head type nested) p.index object := by
        intro object
        rw [objectAssertions_related, objectAssertions_related]
        cases (objectUri object head.object.base).iri? with
        | none => rfl
        | some uri =>
            have hNested : allNestedAssertions v (f.insertSubfield position s)
                  ⟨head.code, placeBehind position p.index⟩ uri nested =
                allNestedAssertions v f ⟨head.code, p.index⟩ uri nested := by
              rw [allNestedAssertions_eq, allNestedAssertions_eq]
              apply Assertions.each_congr
              intro q hq
              have hQ : q.PassesOver s := h.of_mem hq
              have hSilent (predicate : String) :
                  codeMatches q.code s.code = true →
                    valueAssertions v (f.insertSubfield position s) uri predicate q
                      ⟨position, s.value⟩ = .nothing :=
                valueAssertions_of_passesOver hQ _ uri predicate
              rw [nestedAssertions_eq, nestedAssertions_eq, predicateIri_insertSubfield hQ.ignores]
              simp only [each_selectValues_insertSubfield (hSilent _), ih q hq hQ uri]
              rfl
            simp only [relationAssertions, hNested]
            rfl
      unfold valueAssertions
      rw [PlacedValue.moved, generate_insertSubfield h.ignores]
      simp only [funext hObject]

/-- A rule says the same about the subject of a record. -/
theorem ruleAssertions_insertSubfield {r : SubfieldRule} (h : r.PassesOver s) (subject : String) :
    ruleAssertions v (f.insertSubfield position s) subject r = ruleAssertions v f subject r := by
  rw [ruleAssertions_eq, ruleAssertions_eq, predicateIri_insertSubfield h.ignores]
  congr 1
  funext predicate
  rw [each_placedValues_insertSubfield (valueAssertions_of_passesOver h _ subject predicate)]
  simp only [valueAssertions_insertSubfield h]

theorem bodyAssertions_insertSubfield {body : RuleBody} (h : body.PassesOver s)
    (subject tag : String) :
    bodyAssertions v subject tag body (.data (f.insertSubfield position s)) =
      bodyAssertions v subject tag body (.data f) := by
  cases body with
  | control entries => exact absurd h id
  | data rules =>
      apply Assertions.each_congr
      intro r hr
      rw [ruleAssertions_insertSubfield (h r hr)]
      rfl

namespace Converter

variable {c : Converter} {r : Record} {tag : String} {index : Nat}

/-- The URI of a record does not depend on what its data fields hold. -/
theorem subjectOf_setField_data (hField : (r.fieldsOf tag)[index]? = some (.data f)) (g : DataField) :
    c.subjectOf (r.setField tag index (.data g)) = c.subjectOf r := by
  have hValue : (Field.data g).controlValue? = (Field.data f).controlValue? := rfl
  unfold subjectOf
  rw [Record.controlNumber?_setField hField hValue]

/-- The runs of all tags are the same: of the tag at hand, since nothing reads the new subfield, and of the
others, since their fields are. -/
theorem tagAssertions_insertSubfield (hField : (r.fieldsOf tag)[index]? = some (.data f))
    (hRules : ∀ rule ∈ c.mapping.rulesFor tag, rule.body.PassesOver s) (t : String) :
    c.tagAssertions (r.setField tag index (.data (f.insertSubfield position s))) t =
      c.tagAssertions r t := by
  have hSubject := subjectOf_setField_data (c := c) hField (f.insertSubfield position s)
  by_cases hTag : t = tag
  · subst hTag
    rw [tagAssertions_eq, tagAssertions_eq, hSubject, Record.fieldsOf_setField, if_pos rfl]
    apply Assertions.each_congr
    intro rule hRule
    -- to go through the fields is to put together what is said about each
    have hEach : ∀ (say : Field → Assertions) (fields : List Field),
        Assertions.each say fields = .each id (fields.map say) :=
      fun say fields => (Assertions.each_map id say fields).symm
    rw [hEach, hEach, Record.map_set_of_eq hField]
    exact bodyAssertions_insertSubfield (hRules rule hRule) _ t
  · refine tagAssertions_congr ⟨hSubject, rfl, ?_, rfl⟩
    rw [Record.fieldsOf_setField, if_neg hTag]

/-- **A subfield that nothing reads does not matter.**  Let there be no block for control fields among the
blocks for a tag, no combination and no condition in them, at any depth, that takes a code, and no rule with
the code either.  Then a subfield with the code may be put at any place into any data field that stands under
the tag: the record is converted to the same statements, or with the same fault.  If there is only white
space in the subfield, rules may have its code. -/
theorem convert_insertSubfield (hField : (r.fieldsOf tag)[index]? = some (.data f)) (position : Nat)
    (hRules : ∀ rule ∈ c.mapping.rulesFor tag, rule.body.PassesOver s) :
    c.convert (r.setField tag index (.data (f.insertSubfield position s))) = c.convert r := by
  have hTypes : c.typeStatements (r.setField tag index (.data (f.insertSubfield position s))) =
      c.typeStatements r := by
    rw [typeStatements, typeStatements, subjectOf_setField_data hField]
  have hRuns : c.tagAssertions (r.setField tag index (.data (f.insertSubfield position s))) =
      c.tagAssertions r :=
    funext (tagAssertions_insertSubfield hField hRules)
  rw [convert, convert, recordAssertions_eq, recordAssertions_eq, hTypes, hRuns,
    Record.tags_setField hField]

/-- Two topics below a heading.  A topic of one no-break space between them, or a note in front of all, and
the topics stand at other places; they keep their own labels. -/
theorem convert_insertSubfield_topics :
    let label : SubfieldRule := .plain ⟨"x", .fixed (.iri "urn:label"), {}⟩
    let broader : SubfieldRule := .plain ⟨"a", .fixed (.iri "urn:broader"), {}⟩
    let topic : SubfieldRule := .related ⟨"x", .fixed (.iri "urn:topic"), { base := "urn://topics/" }⟩
      (.iri "urn:Topic") [label, broader]
    let c : Converter := ⟨⟨[⟨"650", .data [topic]⟩]⟩, .core, "placeholder.com", []⟩
    let f : DataField := ⟨"650", ' ', '0', [⟨'a', "Animals"⟩, ⟨'x', "cats"⟩, ⟨'x', "dogs"⟩]⟩
    let r := Record.ofFields [.data f]
    let blank : Subfield := ⟨'x', "\u00a0"⟩
    let note : Subfield := ⟨'9', "checked"⟩
    ((r.fieldsOf "650")[0]? = some (.data f) ∧
      (∀ rule ∈ c.mapping.rulesFor "650", rule.body.PassesOver blank) ∧
        ∀ rule ∈ c.mapping.rulesFor "650", rule.body.PassesOver note) ∧
      c.convert (r.setField "650" 0 (.data (f.insertSubfield 2 blank))) = c.convert r ∧
      c.convert (r.setField "650" 0 (.data (f.insertSubfield 0 note))) = c.convert r ∧
      c.convert r = .ok [⟨c.subjectOf r, "urn:topic", .iri "urn://topics/cats"⟩,
        typeStatement "urn://topics/cats" "urn:Topic",
        ⟨"urn://topics/cats", "urn:label", .plain "cats"⟩,
        ⟨"urn://topics/cats", "urn:broader", .plain "Animals"⟩,
        ⟨c.subjectOf r, "urn:topic", .iri "urn://topics/dogs"⟩,
        typeStatement "urn://topics/dogs" "urn:Topic",
        ⟨"urn://topics/dogs", "urn:label", .plain "dogs"⟩,
        ⟨"urn://topics/dogs", "urn:broader", .plain "Animals"⟩] := by
  intro label broader topic c f r blank note
  have hField : (r.fieldsOf "650")[0]? = some (.data f) := by decide +kernel
  have hIgnores : ∀ (head : RuleHead) (code : String), head.object.pipeline.combine = none →
      (∃ term, head.predicate = .fixed term) → head.Ignores code := by
    rintro head code hCombine ⟨term, hFixed⟩
    exact ⟨fun c hc => by simp [hCombine] at hc, fun key table fallback h => by simp [hFixed] at h⟩
  have hTree : ∀ p, p = topic ∨ p ∈ topic.descendants → p = topic ∨ p = label ∨ p = broader := by
    intro p hp
    simpa [topic, label, broader, SubfieldRule.descendants, SubfieldRule.forest] using hp
  have hBlank : topic.PassesOver blank := by
    intro p hp
    rcases hTree p hp with rfl | rfl | rfl
    all_goals exact ⟨hIgnores _ _ rfl ⟨_, rfl⟩, Or.inl (by decide)⟩
  have hNote : topic.PassesOver note := by
    intro p hp
    rcases hTree p hp with rfl | rfl | rfl
    all_goals exact ⟨hIgnores _ _ rfl ⟨_, rfl⟩, Or.inr (by decide)⟩
  have hRules : ∀ s, topic.PassesOver s →
      ∀ rule ∈ c.mapping.rulesFor "650", rule.body.PassesOver s := by
    intro s hs rule hRule
    have hOnly : rule = ⟨"650", .data [topic]⟩ := by simpa [c, Spec.rulesFor] using hRule
    subst hOnly
    exact List.forall_mem_singleton.mpr hs
  refine ⟨⟨hField, hRules blank hBlank, hRules note hNote⟩, ?_, ?_, ?_⟩
  · exact convert_insertSubfield hField 2 (hRules blank hBlank)
  · exact convert_insertSubfield hField 0 (hRules note hNote)
  · rw [convert, Assertions.outcome_eq_ok_iff]
    decide +kernel

end Converter

end Conversion

end CatalogGraph
