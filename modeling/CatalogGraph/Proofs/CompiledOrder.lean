import CatalogGraph.Mapping.Compilation
import Mathlib.Data.List.Forall2

/-!
# Compiled mappings follow their documents

A document that compiles is a mapping with the same blocks in the same order, and so it is with the
entries and the rules of each block and with the rules nested in a rule, at any depth: nothing is left
out, merged or moved.  The correspondence is not one of names alone.  What stands at a place of the
mapping is what the written thing at that place compiles to (`RuleSource.Gives`), so two rules for the
same code are not interchanged either.

Blocks and rules are written in groups, and the groups do not matter: groups compile as the sequence that
they make (`compileGroups_eq`).  Two documents with the same sequences at every level
(`RuleSource.SameRule`, `EntrySource.SameEntry`) compile alike, whether to a mapping or to a fault.
-/

namespace CatalogGraph

/-- A step for each member of a list succeeds with the values of the single steps, place by place. -/
theorem Outcome.mapM_eq_ok_iff {α β : Type} {step : α → Outcome β} {xs : List α} {ys : List β} :
    xs.mapM step = .ok ys ↔ List.Forall₂ (fun x y => step x = .ok y) xs ys := by
  induction xs generalizing ys with
  | nil =>
      rw [List.mapM_nil, List.forall₂_nil_left_iff]
      simp [pure, Except.pure, eq_comm]
  | cons x rest ih =>
      rw [List.mapM_cons, Outcome.bind_eq_ok_iff, List.forall₂_cons_left_iff]
      constructor
      · rintro ⟨y, hFirst, hAfterFirst⟩
        obtain ⟨more, hRest, hResult⟩ := Outcome.bind_eq_ok_iff.mp hAfterFirst
        exact ⟨y, more, hFirst, ih.mp hRest, (Except.ok.inj hResult).symm⟩
      · rintro ⟨y, more, hFirst, hRest, rfl⟩
        exact ⟨y, hFirst, Outcome.bind_eq_ok_iff.mpr ⟨more, ih.mpr hRest, rfl⟩⟩

/-- Steps for members that are handled alike, place by place. -/
theorem Outcome.mapM_eq_of_forall₂ {α β : Type} {step : α → Outcome β} {Alike : α → α → Prop} {xs ys : List α}
    (h : List.Forall₂ Alike xs ys) (hStep : ∀ x y, Alike x y → step x = step y) :
    xs.mapM step = ys.mapM step := by
  induction h with
  | nil => rfl
  | cons hFirst _ ih => rw [List.mapM_cons, List.mapM_cons, hStep _ _ hFirst, ih]

namespace Mapping

variable {v : Vocabulary} {tag : String}

/-! ## Sequences -/

theorem compileRules_eq_mapM (sources : List RuleSource) : compileRules v tag sources =
    sources.mapM fun source => (compileRule v tag source).inRule tag (some source.code) := by
  induction sources with
  | nil => rw [compileRules, List.mapM_nil]; rfl
  | cons source rest ih => rw [compileRules, List.mapM_cons, ih]; rfl

theorem compileEntries_eq_mapM (sources : List EntrySource) :
    compileEntries v sources = sources.mapM (compileEntry v) := by
  induction sources with
  | nil => rw [compileEntries, List.mapM_nil]; rfl
  | cons source rest ih => rw [compileEntries, List.mapM_cons, ih]; rfl

theorem compileBlocks_eq_mapM (blocks : List Block) :
    compileBlocks v blocks = blocks.mapM (compileBlock v) := by
  induction blocks with
  | nil => rw [compileBlocks, List.mapM_nil]; rfl
  | cons block rest ih => rw [compileBlocks, List.mapM_cons, ih]; rfl

/-- Groups compile as the sequence of their rules does. -/
theorem compileGroups_eq (groups : List (List RuleSource)) :
    compileGroups v tag groups = compileRules v tag groups.flatten := by
  induction groups with
  | nil => rw [compileGroups, List.flatten_nil, compileRules]
  | cons group rest ih =>
      rw [compileGroups, List.flatten_cons, ih]
      simp only [compileRules_eq_mapM, List.mapM_append]
      rfl

/-! ## Documents that are written alike -/

/-- Two rules are written alike; the rules nested in them may come in other groups. -/
inductive RuleSource.SameRule : RuleSource → RuleSource → Prop
  | plain (head : RuleHeadSource) : SameRule (.plain head) (.plain head)
  | related (head : RuleHeadSource) (type : Option String) {groups groups' : List (List RuleSource)}
      (h : List.Forall₂ SameRule groups.flatten groups'.flatten) :
      SameRule (.related head type groups) (.related head type groups')

theorem RuleSource.SameRule.code_eq {source source' : RuleSource} (h : source.SameRule source') :
    source.code = source'.code := by
  cases h with
  | plain head => rfl
  | related head type h => rfl

/-- Rules that are written alike compile alike. -/
theorem RuleSource.SameRule.compileRule_eq {source source' : RuleSource} (h : source.SameRule source') :
    compileRule v tag source = compileRule v tag source' := by
  -- the nested rules are a list in a constructor: the second motive is for the list
  induction h using RuleSource.SameRule.rec
    (motive_2 := fun sources sources' _ => compileRules v tag sources = compileRules v tag sources') with
  | plain head => rfl
  | related head type _ ih => rw [compileRule, compileRule, compileGroups_eq, compileGroups_eq, ih]
  | nil => rfl
  | cons hFirst _ ihFirst ihRest =>
      rw [compileRules, compileRules, ihFirst, ihRest, hFirst.code_eq]

theorem compileRules_eq_of_sameRules {sources sources' : List RuleSource}
    (h : List.Forall₂ RuleSource.SameRule sources sources') :
    compileRules v tag sources = compileRules v tag sources' := by
  rw [compileRules_eq_mapM, compileRules_eq_mapM]
  exact Outcome.mapM_eq_of_forall₂ h fun _ _ hSame => by rw [hSame.compileRule_eq, hSame.code_eq]

/-- Two relations of entries have the same class, and rules that are written alike in whatever groups. -/
structure EntryRelation.SameRelation (relation relation' : EntryRelation) : Prop where
  type : relation.type = relation'.type
  rules : List.Forall₂ RuleSource.SameRule relation.groups.flatten relation'.groups.flatten

/-- Two entries are written alike; the rules in their relation may come in other groups. -/
structure EntrySource.SameEntry (entry entry' : EntrySource) : Prop where
  name : entry.name = entry'.name
  predicate : entry.predicate = entry'.predicate
  object : entry.object = entry'.object
  relation : Option.Rel EntryRelation.SameRelation entry.relation entry'.relation

/-- Entries that are written alike compile alike. -/
theorem EntrySource.SameEntry.compileEntry_eq {entry entry' : EntrySource} (h : entry.SameEntry entry') :
    compileEntry v entry = compileEntry v entry' := by
  obtain ⟨name, predicate, object, relation⟩ := entry
  obtain ⟨name', predicate', object', relation'⟩ := entry'
  obtain ⟨rfl, rfl, rfl, hRelation⟩ := h
  have hType : compileEntryType v relation = compileEntryType v relation' := by
    -- of a relation only its class is compiled
    cases hRelation with
    | none => rfl
    | some hSame => rw [compileEntryType, compileEntryType, hSame.type]
  rw [compileEntry, compileEntry, hType]

/-- Two blocks are written alike: the same sequence of entries, or the same sequence of rules. -/
def BlockBody.SameBody : BlockBody → BlockBody → Prop
  | .control entries, .control entries' => List.Forall₂ EntrySource.SameEntry entries entries'
  | .data groups, .data groups' => List.Forall₂ RuleSource.SameRule groups.flatten groups'.flatten
  | _, _ => False

/-- Two blocks are for the same tag and written alike. -/
structure Block.SameBlock (block block' : Block) : Prop where
  tag : block.tag = block'.tag
  body : block.body.SameBody block'.body

/-- Blocks that are written alike compile alike. -/
theorem Block.SameBlock.compileBlock_eq {block block' : Block} (h : block.SameBlock block') :
    compileBlock v block = compileBlock v block' := by
  obtain ⟨tag, body⟩ := block
  obtain ⟨tag', body'⟩ := block'
  obtain ⟨rfl, hBody⟩ := h
  unfold compileBlock
  congr 1
  cases body with
  | control entries =>
      cases body' with
      | control entries' =>
          rw [compileBody, compileBody, compileEntries_eq_mapM, compileEntries_eq_mapM,
            Outcome.mapM_eq_of_forall₂ hBody fun _ _ hSame => hSame.compileEntry_eq]
      | data groups' => exact hBody.elim
  | data groups =>
      cases body' with
      | control entries' => exact hBody.elim
      | data groups' =>
          rw [compileBody, compileBody, compileGroups_eq, compileGroups_eq,
            compileRules_eq_of_sameRules hBody]

/-- Two documents have the same blocks, written alike, in whatever groups. -/
def Document.SameSequences (d d' : Document) : Prop :=
  List.Forall₂ Block.SameBlock d.blocks d'.blocks

theorem Document.SameSequences.compile_eq {d d' : Document} (h : d.SameSequences d') :
    d.compile v = d'.compile v := by
  unfold Document.compile
  rw [compileBlocks_eq_mapM, compileBlocks_eq_mapM]
  congr 1
  exact Outcome.mapM_eq_of_forall₂ h fun _ _ hSame => hSame.compileBlock_eq

/-! ## What comes from what -/

/-- A compiled rule comes from a written one.  It is what the written one compiles to and has its code;
it has a relation exactly if one is written, and then the nested rules come from the written ones, place
by place. -/
inductive RuleSource.Gives (v : Vocabulary) (tag : String) : RuleSource → SubfieldRule → Prop
  | plain {source : RuleHeadSource} {head : RuleHead}
      (hCompiled : compileRule v tag (.plain source) = .ok (.plain head))
      (hCode : head.code = source.code) : Gives v tag (.plain source) (.plain head)
  | related {source : RuleHeadSource} {text : Option String} {groups : List (List RuleSource)}
      {head : RuleHead} {type : Term} {nested : List SubfieldRule}
      (hCompiled : compileRule v tag (.related source text groups) = .ok (.related head type nested))
      (hCode : head.code = source.code) (hNested : List.Forall₂ (Gives v tag) groups.flatten nested) :
      Gives v tag (.related source text groups) (.related head type nested)

-- by recursion on what is written, along with the compilation itself
mutual
theorem compileRule_gives {source : RuleSource} {rule : SubfieldRule}
    (h : compileRule v tag source = .ok rule) : source.Gives v tag rule := by
  cases source with
  | plain source =>
      obtain ⟨predicate, -, hAfterPredicate⟩ := Outcome.bind_eq_ok_iff.mp h
      obtain ⟨object, -, hResult⟩ := Outcome.bind_eq_ok_iff.mp hAfterPredicate
      obtain rfl : .plain ⟨source.code, predicate, object⟩ = rule := Except.ok.inj hResult
      exact .plain h rfl
  | related source text groups =>
      obtain ⟨predicate, -, hAfterPredicate⟩ := Outcome.bind_eq_ok_iff.mp h
      obtain ⟨type, -, hAfterType⟩ := Outcome.bind_eq_ok_iff.mp hAfterPredicate
      obtain ⟨nested, hNested, hAfterNested⟩ := Outcome.bind_eq_ok_iff.mp hAfterType
      obtain ⟨object, -, hResult⟩ := Outcome.bind_eq_ok_iff.mp hAfterNested
      obtain rfl : .related ⟨source.code, predicate, object⟩ type nested = rule := Except.ok.inj hResult
      exact .related h rfl (compileGroups_gives hNested)

theorem compileRules_gives {sources : List RuleSource} {rules : List SubfieldRule}
    (h : compileRules v tag sources = .ok rules) : List.Forall₂ (RuleSource.Gives v tag) sources rules := by
  cases sources with
  | nil =>
      obtain rfl : [] = rules := Except.ok.inj h
      exact .nil
  | cons source rest =>
      obtain ⟨rule, hRule, hAfterRule⟩ := Outcome.bind_eq_ok_iff.mp h
      obtain ⟨others, hRest, hResult⟩ := Outcome.bind_eq_ok_iff.mp hAfterRule
      obtain rfl : rule :: others = rules := Except.ok.inj hResult
      exact .cons (compileRule_gives (Outcome.inRule_eq_ok_iff.mp hRule)) (compileRules_gives hRest)

theorem compileGroups_gives {groups : List (List RuleSource)} {rules : List SubfieldRule}
    (h : compileGroups v tag groups = .ok rules) :
    List.Forall₂ (RuleSource.Gives v tag) groups.flatten rules := by
  cases groups with
  | nil =>
      obtain rfl : [] = rules := Except.ok.inj h
      exact .nil
  | cons group rest =>
      obtain ⟨first, hGroup, hAfterGroup⟩ := Outcome.bind_eq_ok_iff.mp h
      obtain ⟨others, hRest, hResult⟩ := Outcome.bind_eq_ok_iff.mp hAfterGroup
      obtain rfl : first ++ others = rules := Except.ok.inj hResult
      rw [List.flatten_cons]
      exact List.rel_append (compileRules_gives hGroup) (compileGroups_gives hRest)
end

/-- An entry comes from a written one.  It is what the written one compiles to and has its name, and it
has a class exactly if a relation is written. -/
structure EntrySource.Gives (v : Vocabulary) (source : EntrySource) (entry : ControlEntry) : Prop where
  compiled : compileEntry v source = .ok entry
  name : entry.name = source.name
  type : entry.type.isSome = source.relation.isSome

theorem compileEntry_gives {source : EntrySource} {entry : ControlEntry}
    (h : compileEntry v source = .ok entry) : source.Gives v entry := by
  obtain ⟨text, -, hAfterText⟩ := Outcome.bind_eq_ok_iff.mp h
  obtain ⟨type, hType, hAfterType⟩ := Outcome.bind_eq_ok_iff.mp hAfterText
  obtain ⟨predicate, -, hAfterPredicate⟩ := Outcome.bind_eq_ok_iff.mp hAfterType
  obtain ⟨object, -, hResult⟩ := Outcome.bind_eq_ok_iff.mp hAfterPredicate
  obtain rfl : ⟨source.name, predicate, object, type⟩ = entry := Except.ok.inj hResult
  refine ⟨h, rfl, ?_⟩
  cases hRelation : source.relation with
  | none =>
      rw [hRelation] at hType
      obtain rfl : none = type := Except.ok.inj hType
      rfl
  | some relation =>
      rw [hRelation] at hType
      obtain ⟨term, -, rfl⟩ := Outcome.map_eq_ok_iff.mp hType
      rfl

/-- What a block holds comes from what is written in it: of the same kind, and place by place. -/
def BlockBody.Gives (v : Vocabulary) (tag : String) : BlockBody → RuleBody → Prop
  | .control sources, .control entries => List.Forall₂ (EntrySource.Gives v) sources entries
  | .data groups, .data rules => List.Forall₂ (RuleSource.Gives v tag) groups.flatten rules
  | _, _ => False

/-- A rule for a tag comes from a block for that tag. -/
structure Block.Gives (v : Vocabulary) (block : Block) (rule : TagRule) : Prop where
  tag : rule.tag = block.tag
  body : block.body.Gives v block.tag rule.body

theorem compileBlock_gives {block : Block} {rule : TagRule} (h : compileBlock v block = .ok rule) :
    block.Gives v rule := by
  obtain ⟨body, hBody, rfl⟩ := Outcome.map_eq_ok_iff.mp h
  refine ⟨rfl, ?_⟩
  cases hSource : block.body with
  | control sources =>
      rw [hSource] at hBody
      obtain ⟨entries, hEntries, rfl⟩ := Outcome.map_eq_ok_iff.mp hBody
      rw [Outcome.inRule_eq_ok_iff, compileEntries_eq_mapM, Outcome.mapM_eq_ok_iff] at hEntries
      exact hEntries.imp fun _ _ => compileEntry_gives
  | data groups =>
      rw [hSource] at hBody
      obtain ⟨rules, hRules, rfl⟩ := Outcome.map_eq_ok_iff.mp hBody
      exact compileGroups_gives hRules

/-! ## Documents -/

theorem Document.blockCount_eq (d : Document) : d.blockCount = d.blocks.length := by
  have hCount (groups : List (List Block)) (n : Nat) :
      groups.foldl (fun n group => n + group.length) n = n + groups.flatten.length := by
    induction groups generalizing n with
    | nil => rfl
    | cons group rest ih =>
        rw [List.foldl_cons, ih, List.flatten_cons, List.length_append, Nat.add_assoc]
  exact (hCount d.groups 0).trans (Nat.zero_add _)

/-- **Compilation leaves nothing out and moves nothing.**  If a document compiles, its mapping has a rule
for each of its blocks, in their order, and everything in a rule comes from what is written in the block,
place by place and at every depth.  The groups that blocks and rules are written in do not matter:
documents with the same sequences compile alike, to the same mapping or to the same fault. -/
theorem Document.compile_in_order (d : Document) (v : Vocabulary) :
    (∀ m, d.compile v = .ok m →
      m.rules.length = d.blockCount ∧ List.Forall₂ (Block.Gives v) d.blocks m.rules) ∧
    ∀ d' : Document, d.SameSequences d' → d.compile v = d'.compile v := by
  refine ⟨fun m hCompiled => ?_, fun d' hSame => hSame.compile_eq⟩
  obtain ⟨rules, hRules, rfl⟩ := Outcome.map_eq_ok_iff.mp hCompiled
  rw [compileBlocks_eq_mapM, Outcome.mapM_eq_ok_iff] at hRules
  have hGives : List.Forall₂ (Block.Gives v) d.blocks rules := hRules.imp fun _ _ => compileBlock_gives
  exact ⟨by rw [d.blockCount_eq, hGives.length_eq], hGives⟩

/-- Two topics for one code that differ in the order of what is nested in them, and two entries, without a relation
and with one.  In the other document the topics stand in one group, and what is nested in them or stands in the
relation of the entry is grouped otherwise. -/
theorem Document.compile_in_order_topics :
    let label : RuleSource := .plain ⟨"a", some "rdfs.label", none, {}⟩
    let note : RuleSource := .plain ⟨"a", some "rdfs.comment", none, {}⟩
    let topic : List (List RuleSource) → RuleSource :=
      .related ⟨"a", some "dc.subject", none, { base := "urn://topics/" }⟩ (some "rdfs.Class")
    let number : EntrySource := ⟨"number", some "dc.identifier", {}, none⟩
    let agency : List (List RuleSource) → EntrySource := fun groups =>
      ⟨"agency", some "dc.source", { base := "urn://agencies/" }, some ⟨some "rdfs.Class", groups⟩⟩
    let d : Document :=
      { groups := [[⟨"001", .control [number, agency [[label], [note]]]⟩],
          [⟨"650", .data [[topic [[label], [note]]], [topic [[note, label]]]]⟩]] }
    let d' : Document :=
      { groups := [[⟨"001", .control [number, agency [[label, note]]]⟩,
          ⟨"650", .data [[topic [[label, note]], topic [[note], [], [label]]]]⟩]] }
    d.SameSequences d' ∧ ∃ m, d.compile .core = .ok m ∧ m.rules.length = 2 ∧ d'.compile .core = .ok m := by
  intro label note topic number agency d d'
  obtain ⟨m, hCompiled⟩ : ∃ m, d.compile .core = .ok m := by decide +kernel
  have hTopic (groups groups' : List (List RuleSource))
      (h : List.Forall₂ RuleSource.SameRule groups.flatten groups'.flatten) :
      (topic groups).SameRule (topic groups') := .related _ _ h
  have hAgency (groups groups' : List (List RuleSource))
      (h : List.Forall₂ RuleSource.SameRule groups.flatten groups'.flatten) :
      (agency groups).SameEntry (agency groups') := ⟨rfl, rfl, rfl, .some ⟨rfl, h⟩⟩
  have hSame : d.SameSequences d' := by
    refine .cons ⟨rfl, .cons ⟨rfl, rfl, rfl, .none⟩ (.cons (hAgency _ _ ?_) .nil)⟩
      (.cons ⟨rfl, .cons (hTopic _ _ ?_) (.cons (hTopic _ _ ?_) .nil)⟩ .nil)
    -- in each place the same two rules, whatever the groups
    all_goals exact .cons (.plain _) (.cons (.plain _) .nil)
  obtain ⟨hOrder, hAlike⟩ := Document.compile_in_order d .core
  exact ⟨hSame, m, hCompiled, (hOrder m hCompiled).1, (hAlike d' hSame) ▸ hCompiled⟩

end Mapping

end CatalogGraph
