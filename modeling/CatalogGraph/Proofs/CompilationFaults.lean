import CatalogGraph.Proofs.CompiledOrder

/-!
# Faults of a compilation

A document is compiled part by part: of a rule first its predicate, then its class and the rules nested
in it, and its object last.  The compilation stops at the first part that does not compile, and the fault
names the rule that this part belongs to.

* `RuleSource.walk` lists the parts of a rule and of all rules nested in it, in the order in which they
  are looked at; each part is listed with the one rule that it is a part of;
* `compileRules_fault?`, `compileGroups_fault?` — rules fail with the first part of the walk that has a
  fault, and the rule of that part is blamed.  A rule around it would put its own name on the fault as
  well, but a fault that names a rule keeps it (`Fault.inRule_inRule`);
* `FailsUnplaced` — what goes wrong with a part is the document's fault and names no rule before it
  reaches the rule;
* `Document.compile_fault?` — a document fails as the first of its blocks does that fails.
-/

namespace CatalogGraph

/-- The first answer is that of the head, or else the first one of the tail. -/
theorem findSome?_cons_eq_or {α β : Type} (answer : α → Option β) (x : α) (rest : List α) :
    (x :: rest).findSome? answer = (answer x).or (rest.findSome? answer) := by
  rw [List.findSome?_cons]
  cases answer x with
  | some b => rfl
  | none => rfl

/-! ## Faults of outcomes -/

/-- What can be wrong with a mapping document: all that is wrong with a mapping, except for keys that are
missing from a table when it is used. -/
def Cause.IsOfDocument : Cause → Prop
  | invalidRegex _ | unknownVocabulary _ | invalidTerm _ | invalidMapping _ => True
  | missingSubstitution _ | unreadable _ | unwritable _ | file => False

theorem Cause.IsOfDocument.isConfiguration {cause : Cause} (h : cause.IsOfDocument) :
    cause.isConfiguration = true := by
  cases cause <;> first | rfl | exact h.elim

/-- A fault that names a rule keeps it. -/
theorem Fault.inRule_inRule (e : Fault) (tag tag' : String) (subfield subfield' : Option String) :
    (e.inRule tag subfield).inRule tag' subfield' = e.inRule tag subfield := by
  obtain ⟨cause, place⟩ := e
  cases place with
  | none => rfl
  | some place => rfl

namespace Outcome

variable {α β : Type}

/-- The fault that an outcome is, if it is one. -/
def fault? : Outcome α → Option Fault
  | .ok _ => none
  | .error e => some e

theorem fault?_eq_none_iff {o : Outcome α} : fault? o = none ↔ ∃ a, o = .ok a := by
  cases o with
  | ok a => simp [fault?]
  | error e => simp [fault?]

theorem fault?_eq_some_iff {o : Outcome α} {e : Fault} : fault? o = some e ↔ o = .error e := by
  cases o with
  | ok a => simp [fault?]
  | error e' => simp [fault?]

theorem fault?_map (o : Outcome α) (f : α → β) : fault? (o.map f) = fault? o := by
  cases o with
  | ok a => rfl
  | error e => rfl

theorem fault?_inRule (o : Outcome α) (tag : String) (subfield : Option String) :
    fault? (o.inRule tag subfield) = (fault? o).map (·.inRule tag subfield) := by
  cases o with
  | ok a => rfl
  | error e => rfl

/-- A step, and another one whose fault does not depend on the value of the first. -/
theorem fault?_bind {o : Outcome α} {next : α → Outcome β} {later : Option Fault}
    (h : ∀ a, fault? (next a) = later) : fault? (o >>= next) = (fault? o).or later := by
  cases o with
  | ok a => exact h a
  | error e => rfl

/-- What is made of a value does not fail any more. -/
theorem fault?_bind_ok (o : Outcome α) (f : α → β) : fault? (o >>= fun a => .ok (f a)) = fault? o := by
  cases o with
  | ok a => rfl
  | error e => rfl

/-- Of steps for the members of a list, the first one that fails counts. -/
theorem fault?_mapM (step : α → Outcome β) (xs : List α) :
    fault? (xs.mapM step) = xs.findSome? fun x => fault? (step x) := by
  induction xs with
  | nil => rfl
  | cons x rest ih =>
      rw [List.mapM_cons, List.findSome?_cons]
      cases hFirst : step x with
      | error e => rfl
      | ok y =>
          exact (fault?_bind_ok (rest.mapM step) (y :: ·)).trans ih

/-- Whatever goes wrong is the document's fault, and no rule is blamed yet. -/
def FailsUnplaced (o : Outcome α) : Prop := ∀ e, o = .error e → e.place = none ∧ e.cause.IsOfDocument

namespace FailsUnplaced

theorem ok (a : α) : FailsUnplaced (.ok a) := fun _ h => by cases h

theorem error {cause : Cause} (h : cause.IsOfDocument) : FailsUnplaced (.error cause : Outcome α) := by
  rintro e ⟨⟩
  exact ⟨rfl, h⟩

theorem bind {o : Outcome α} {next : α → Outcome β} (h : FailsUnplaced o)
    (hNext : ∀ a, FailsUnplaced (next a)) : FailsUnplaced (o >>= next) := by
  intro e he
  rcases Outcome.bind_eq_error_iff.mp he with hFirst | ⟨a, -, hSecond⟩
  · exact h e hFirst
  · exact hNext a e hSecond

theorem map {o : Outcome α} (h : FailsUnplaced o) (f : α → β) : FailsUnplaced (o.map f) :=
  fun e he => h e (Outcome.map_eq_error_iff.mp he)

end FailsUnplaced

end Outcome

namespace Mapping

open Outcome

variable {v : Vocabulary} {tag : String}

/-! ## Parts of rules -/

theorem compileRegex_unplaced (source : String) : FailsUnplaced (compileRegex source) := by
  unfold compileRegex
  split
  · exact .ok _
  · exact .error trivial

theorem compileOptionalRegex_unplaced (source : Option String) :
    FailsUnplaced (compileOptionalRegex source) := by
  cases source with
  | none => exact .ok _
  | some source => exact (compileRegex_unplaced source).map some

theorem read_unplaced (text : String) : FailsUnplaced (Term.read text) := by
  unfold Term.read
  split
  · exact .ok _
  · exact .error trivial

theorem check_unplaced (term : Term) : FailsUnplaced (v.check term) := by
  cases term with
  | iri text => exact .ok _
  | qualified label name =>
      rw [Vocabulary.check]
      split
      · exact .error trivial
      · exact .ok _

theorem compileTerm_unplaced (text : String) : FailsUnplaced (compileTerm v text) :=
  (read_unplaced text).bind fun term => (check_unplaced term).bind fun _ => .ok _

theorem required_unplaced (text : Option String) (defect : MappingDefect) :
    FailsUnplaced (required text defect) := by
  cases text with
  | none => exact .error trivial
  | some s => exact .ok s

/-- A text that has to be written and is a term. -/
theorem compileRequired_unplaced (text : Option String) (defect : MappingDefect) :
    FailsUnplaced (required text defect >>= fun s => compileTerm v s) :=
  (required_unplaced text defect).bind compileTerm_unplaced

theorem compilePattern_unplaced (t : TableSource) : FailsUnplaced (compilePattern t) :=
  (required_unplaced _ _).bind compileRegex_unplaced

theorem compileTerms_unplaced (entries : List (String × String)) :
    FailsUnplaced (compileTerms v entries) := by
  induction entries with
  | nil => exact .ok _
  | cons entry rest ih => exact (compileTerm_unplaced entry.2).bind fun _ => ih.bind fun _ => .ok _

theorem compileTermTable_unplaced (t : TableSource) : FailsUnplaced (compileTermTable v t) :=
  (compileTerms_unplaced _).bind fun _ => (compilePattern_unplaced t).bind fun _ => .ok _

theorem compileOptionalTable_unplaced (t : Option TableSource) :
    FailsUnplaced (compileOptionalTable v t) := by
  cases t with
  | none => exact .ok _
  | some t => exact (compileTermTable_unplaced t).map some

theorem compileConditions_unplaced (source : ConditionSource) :
    FailsUnplaced (compileConditions v source) := by
  unfold compileConditions
  split
  · split
    · exact (compileTermTable_unplaced _).bind fun _ => (compileRequired_unplaced _ _).bind fun _ => .ok _
    · exact .error trivial
  · split
    · exact (compileOptionalTable_unplaced _).bind fun _ => (compileOptionalTable_unplaced _).bind fun _ =>
        (compileRequired_unplaced _ _).bind fun _ => .ok _
    · exact .ok _

/-- A predicate that is written and does not depend on conditions. -/
theorem compileFixed_unplaced (text : Option String) (defect : MappingDefect) :
    FailsUnplaced (required text defect >>= fun s => Predicate.fixed <$> compileTerm v s) :=
  (required_unplaced text defect).bind fun s => (compileTerm_unplaced s).map Predicate.fixed

theorem compilePredicate_unplaced (source : RuleHeadSource) :
    FailsUnplaced (compilePredicate v source) := by
  obtain ⟨code, text, conditions, object⟩ := source
  cases conditions with
  | none => exact compileFixed_unplaced text _
  | some conditions =>
      refine (compileConditions_unplaced conditions).bind fun condition => ?_
      cases condition with
      | some c => exact .ok _
      | none => exact compileFixed_unplaced text _

theorem compileExtraction_unplaced (source : ObjectSource) : FailsUnplaced (compileExtraction source) := by
  unfold compileExtraction
  split
  · exact .ok _
  · split
    · exact (compileRegex_unplaced _).map _
    · exact (compileRegex_unplaced _).map _
    · exact .ok _
  · exact .error trivial

theorem compileOptionalReplacement_unplaced (t : Option TableSource) :
    FailsUnplaced (compileOptionalReplacement t) := by
  cases t with
  | none => exact .ok _
  | some t => exact (FailsUnplaced.bind (compilePattern_unplaced t) fun _ => .ok _).map some

theorem compileSlug_unplaced (source : ObjectSource) : FailsUnplaced (compileSlug source) := by
  unfold compileSlug
  split
  · exact (compileOptionalRegex_unplaced _).bind fun _ => .ok _
  · exact .ok _

theorem compileObject_unplaced (source : ObjectSource) : FailsUnplaced (compileObject source) :=
  (compileExtraction_unplaced source).bind fun _ => (compileOptionalReplacement_unplaced _).bind fun _ =>
    (compileSlug_unplaced source).bind fun _ => (compileOptionalRegex_unplaced _).bind fun _ => .ok _

theorem compileType_unplaced (text : Option String) : FailsUnplaced (compileType v text) :=
  compileRequired_unplaced text _

theorem compileEntry_unplaced (source : EntrySource) : FailsUnplaced (compileEntry v source) := by
  refine (required_unplaced _ _).bind fun text => .bind ?_ fun _ => (compileTerm_unplaced text).bind fun _ =>
    (compileObject_unplaced _).bind fun _ => .ok _
  cases source.relation with
  | none => exact .ok _
  | some relation => exact (compileType_unplaced _).map some

/-! ## Rules -/

/-- A part of a rule that is looked at by itself. -/
inductive Part
  /-- The predicate with its conditions. -/
  | predicate
  /-- The class of the relation. -/
  | type
  | object
  deriving DecidableEq, Repr

namespace RuleSource

/-- What is wrong with a part of a rule. -/
def fault? (v : Vocabulary) (source : RuleSource) : Part → Option Fault
  | .predicate => Outcome.fault? (compilePredicate v source.head)
  | .type =>
    match source with
    | .plain _ => none
    | .related _ text _ => Outcome.fault? (compileType v text)
  | .object => Outcome.fault? (compileObject source.head.object)

/-- What is wrong with a part of a rule is the document's fault. -/
theorem unplaced_of_fault? {source : RuleSource} {part : Part} {e : Fault}
    (h : source.fault? v part = some e) : e.place = none ∧ e.cause.IsOfDocument := by
  cases part with
  | predicate => exact compilePredicate_unplaced _ e (fault?_eq_some_iff.mp h)
  | object => exact compileObject_unplaced _ e (fault?_eq_some_iff.mp h)
  | type =>
      cases source with
      | plain head => cases h
      | related head text groups => exact compileType_unplaced _ e (fault?_eq_some_iff.mp h)

mutual
/-- The parts of a rule and of the rules nested in it, in the order in which they are looked at. -/
def walk : RuleSource → List (RuleSource × Part)
  | .plain head => [(.plain head, .predicate), (.plain head, .object)]
  | .related head text groups =>
    (.related head text groups, .predicate) :: (.related head text groups, .type) ::
      (walkGroups groups ++ [(.related head text groups, .object)])

/-- The parts of rules that follow each other. -/
def walkRules : List RuleSource → List (RuleSource × Part)
  | [] => []
  | source :: rest => walk source ++ walkRules rest

/-- The parts of groups of rules. -/
def walkGroups : List (List RuleSource) → List (RuleSource × Part)
  | [] => []
  | group :: rest => walkRules group ++ walkGroups rest
end

/-- The fault of a part, with the blame on its rule. -/
def blame? (v : Vocabulary) (tag : String) (p : RuleSource × Part) : Option Fault :=
  (p.1.fault? v p.2).map (·.inRule tag (some p.1.code))

/-- The blame stays where it is. -/
theorem findSome?_blame?_map (parts : List (RuleSource × Part)) (subfield : Option String) :
    (parts.findSome? (blame? v tag)).map (·.inRule tag subfield) = parts.findSome? (blame? v tag) := by
  rw [List.map_findSome?]
  congr 1
  funext p
  simp [blame?, Function.comp_def, Fault.inRule_inRule]

end RuleSource

open RuleSource (blame? walkRules walkGroups)

-- by recursion on what is written, along with the walk
mutual
theorem compileRule_fault? (source : RuleSource) :
    fault? ((compileRule v tag source).inRule tag (some source.code)) =
      source.walk.findSome? (blame? v tag) := by
  cases source with
  | plain head =>
      have hRule : fault? (compileRule v tag (.plain head)) =
          (fault? (compilePredicate v head)).or (fault? (compileObject head.object)) := by
        rw [compileRule]
        exact fault?_bind fun _ => fault?_bind_ok _ _
      rw [fault?_inRule, hRule, Option.map_or, RuleSource.walk, findSome?_cons_eq_or, findSome?_cons_eq_or,
        List.findSome?_nil, Option.or_none]
      rfl
  | related head text groups =>
      have hRule : fault? (compileRule v tag (.related head text groups)) =
          (fault? (compilePredicate v head)).or ((fault? (compileType v text)).or
            ((fault? (compileGroups v tag groups)).or (fault? (compileObject head.object)))) := by
        rw [compileRule]
        exact fault?_bind fun _ => fault?_bind fun _ => fault?_bind fun _ => fault?_bind_ok _ _
      -- the name of this rule is put on the faults of its own parts only
      rw [fault?_inRule, hRule, compileGroups_fault? groups, Option.map_or, Option.map_or, Option.map_or,
        RuleSource.findSome?_blame?_map, RuleSource.walk, findSome?_cons_eq_or, findSome?_cons_eq_or,
        List.findSome?_append, findSome?_cons_eq_or, List.findSome?_nil, Option.or_none]
      rfl

theorem compileRules_fault? (sources : List RuleSource) :
    fault? (compileRules v tag sources) = (walkRules sources).findSome? (blame? v tag) := by
  cases sources with
  | nil => rfl
  | cons source rest =>
      rw [compileRules, walkRules, List.findSome?_append, ← compileRule_fault? source,
        ← compileRules_fault? rest]
      exact fault?_bind fun _ => fault?_bind_ok _ _

theorem compileGroups_fault? (groups : List (List RuleSource)) :
    fault? (compileGroups v tag groups) = (walkGroups groups).findSome? (blame? v tag) := by
  cases groups with
  | nil => rfl
  | cons group rest =>
      rw [compileGroups, walkGroups, List.findSome?_append, ← compileRules_fault? group,
        ← compileGroups_fault? rest]
      exact fault?_bind fun _ => fault?_bind_ok _ _
end

/-! ## Blocks and documents -/

theorem compileEntries_fault? (sources : List EntrySource) :
    fault? (compileEntries v sources) = sources.findSome? fun source => fault? (compileEntry v source) := by
  rw [compileEntries_eq_mapM, fault?_mapM]

/-- What a block holds is to blame for a fault.  In a control block it is the first entry that does not
compile, and no subfield is named.  In a data block it is the first part of the walk that does not
compile, and the fault names the rule that this is a part of. -/
def BlockBody.Blames (v : Vocabulary) (tag : String) (body : BlockBody) (e : Fault) : Prop :=
  match body with
  | .control sources => ∃ earlier source later, sources = earlier ++ source :: later ∧
      (∀ s ∈ earlier, ∃ entry, compileEntry v s = .ok entry) ∧
      compileEntry v source = .error { cause := e.cause } ∧ e.place = some ⟨tag, none⟩
  | .data groups => ∃ earlier source part later, walkGroups groups = earlier ++ (source, part) :: later ∧
      (∀ p ∈ earlier, p.1.fault? v p.2 = none) ∧
      source.fault? v part = some { cause := e.cause } ∧ e.place = some ⟨tag, some source.code⟩

/-- A block that does not compile is to blame, and so is the document. -/
theorem Block.blames_of_compileBlock {block : Block} {e : Fault} (h : compileBlock v block = .error e) :
    block.body.Blames v block.tag e ∧ e.cause.IsOfDocument := by
  have hBody : compileBody v block.tag block.body = .error e := Outcome.map_eq_error_iff.mp h
  cases hSource : block.body with
  | control sources =>
      rw [hSource] at hBody
      have hFault := fault?_eq_some_iff.mpr (Outcome.map_eq_error_iff.mp hBody)
      rw [fault?_inRule, compileEntries_fault?] at hFault
      obtain ⟨⟨cause, place⟩, hFirst, rfl⟩ := Option.map_eq_some_iff.mp hFault
      obtain ⟨earlier, source, later, hSources, hHere, hEarlier⟩ := List.findSome?_eq_some_iff.mp hFirst
      rw [fault?_eq_some_iff] at hHere
      obtain ⟨hPlace, hCause⟩ := compileEntry_unplaced source _ hHere
      obtain rfl : place = none := hPlace
      refine ⟨⟨earlier, source, later, hSources, ?_, hHere, rfl⟩, hCause⟩
      exact fun s hs => fault?_eq_none_iff.mp (hEarlier s hs)
  | data groups =>
      rw [hSource] at hBody
      have hFault := fault?_eq_some_iff.mpr (Outcome.map_eq_error_iff.mp hBody)
      rw [compileGroups_fault?] at hFault
      obtain ⟨earlier, ⟨source, part⟩, later, hWalk, hBlame, hEarlier⟩ :=
        List.findSome?_eq_some_iff.mp hFault
      obtain ⟨⟨cause, place⟩, hHere, rfl⟩ := Option.map_eq_some_iff.mp hBlame
      obtain ⟨hPlace, hCause⟩ := RuleSource.unplaced_of_fault? hHere
      obtain rfl : place = none := hPlace
      refine ⟨⟨earlier, source, part, later, hWalk, ?_, hHere, rfl⟩, hCause⟩
      exact fun p hp => Option.map_eq_none_iff.mp (hEarlier p hp)

/-- Whatever is to blame has a place. -/
theorem BlockBody.Blames.exists_place {body : BlockBody} {e : Fault} (h : body.Blames v tag e) :
    ∃ subfield, e.place = some ⟨tag, subfield⟩ := by
  cases body with
  | control sources =>
      obtain ⟨-, -, -, -, -, -, hPlace⟩ := h
      exact ⟨none, hPlace⟩
  | data groups =>
      obtain ⟨-, source, -, -, -, -, -, hPlace⟩ := h
      exact ⟨some source.code, hPlace⟩

/-- The document of a single block. -/
def Block.alone (block : Block) : Document := { groups := [[block]] }

/-- A document fails as the first of its blocks does that fails. -/
theorem Document.compile_fault? (d : Document) :
    fault? (d.compile v) = d.blocks.findSome? fun block => fault? (compileBlock v block) := by
  unfold Document.compile
  rw [fault?_map, compileBlocks_eq_mapM, fault?_mapM]

theorem Block.compile_alone_fault? (block : Block) :
    fault? (block.alone.compile v) = fault? (compileBlock v block) := by
  rw [Document.compile_fault?]
  exact (findSome?_cons_eq_or _ block []).trans Option.or_none

/-- **A fault of a compilation names the rule that it was met in.**  If a document does not compile, the
fault is a cause in one place, and the document is to blame for it.  It is the fault of the first block
that does not compile by itself, and whatever blocks follow do not change it.  The place has the tag of
that block, and for a block of rules it has the code of the rule, at whatever depth, whose own predicate,
class or object is the first part that does not compile. -/
theorem Document.compile_error_blames {d : Document} {v : Vocabulary} {e : Fault}
    (h : d.compile v = .error e) :
    e.isConfiguration = true ∧ e.cause.IsOfDocument ∧
    ∃ before block after, d.blocks = before ++ block :: after ∧
      (∀ b ∈ before, ∃ m, b.alone.compile v = .ok m) ∧ block.alone.compile v = .error e ∧
      (∀ (d' : Document) (later : List Block), d'.blocks = before ++ block :: later →
        d'.compile v = .error e) ∧
      (∃ subfield, e.place = some ⟨block.tag, subfield⟩) ∧ block.body.Blames v block.tag e := by
  rw [← fault?_eq_some_iff, Document.compile_fault?, List.findSome?_eq_some_iff] at h
  obtain ⟨before, block, after, hBlocks, hHere, hBefore⟩ := h
  obtain ⟨hBlames, hCause⟩ := Block.blames_of_compileBlock (fault?_eq_some_iff.mp hHere)
  refine ⟨hCause.isConfiguration, hCause, before, block, after, hBlocks, fun b hb => ?_, ?_,
    fun d' later hLater => ?_, hBlames.exists_place, hBlames⟩
  · rw [← fault?_eq_none_iff, Block.compile_alone_fault?]
    exact hBefore b hb
  · rw [← fault?_eq_some_iff, Block.compile_alone_fault?]
    exact hHere
  · rw [← fault?_eq_some_iff, Document.compile_fault?, List.findSome?_eq_some_iff]
    exact ⟨before, block, later, hLater, hHere, hBefore⟩

/-- The second block has two faults and the third has one.  In the second block a label is unbound in a
nested rule, and the rule around it has half a substring, which would be found last. -/
theorem Document.compile_error_blames_creator :
    let title : RuleSource := .plain ⟨"a", some "dc.title", none, {}⟩
    let name : RuleSource := .plain ⟨"a", some "rdfs.label", none, {}⟩
    let role : RuleSource := .plain ⟨"e", some "role.name", none, {}⟩
    let creator : RuleSource :=
      .related ⟨"a", some "dc.creator", none, { offset := some 3 }⟩ (some "rdfs.Class") [[name], [role]]
    let topic : RuleSource := .plain ⟨"x", none, none, {}⟩
    let d : Document :=
      { groups := [[⟨"245", .data [[title]]⟩, ⟨"700", .data [[creator]]⟩], [⟨"650", .data [[topic]]⟩]] }
    let e : Fault := ⟨.unknownVocabulary "role", some ⟨"700", some "e"⟩⟩
    d.compile .core = .error e ∧ e.isConfiguration = true ∧
      ∃ before block after, d.blocks = before ++ block :: after ∧ block.alone.compile .core = .error e ∧
        block.body.Blames .core block.tag e := by
  intro title name role creator topic d e
  have hCompile : d.compile .core = .error e := fault?_eq_some_iff.mp (by decide +kernel)
  obtain ⟨hConfiguration, -, before, block, after, hBlocks, -, hAlone, -, -, hBlames⟩ :=
    Document.compile_error_blames hCompile
  exact ⟨hCompile, hConfiguration, before, block, after, hBlocks, hAlone, hBlames⟩

end Mapping

end CatalogGraph
