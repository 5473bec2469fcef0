import CatalogGraph.Mapping.Document
import CatalogGraph.Mapping.Spec

/-!
# Compiling mapping documents

A document is compiled block by block and rule by rule.  Patterns are read, and terms are read and
checked against a vocabulary.  The first fault ends the compilation; it names the innermost rule that it
was met in.  A rule is looked at in a fixed order: its predicate, its relation with the nested rules, and
last its object.
-/

namespace CatalogGraph.Mapping

/-! ## Parts of rules -/

/-- Reads a pattern. -/
def compileRegex (source : String) : Outcome Regex :=
  match Regex.compile? source with
  | some re => .ok re
  | none => .error (Cause.invalidRegex source)

/-- Reads a pattern that need not be there. -/
def compileOptionalRegex : Option String → Outcome (Option Regex)
  | none => .ok none
  | some source => (compileRegex source).map some

/-- Reads a term, whose label must be bound. -/
def compileTerm (v : Vocabulary) (text : String) : Outcome Term := do
  let term ← Term.read text
  v.check term
  .ok term

/-- Something that has to be written. -/
def required (text : Option String) (defect : MappingDefect) : Outcome String :=
  match text with
  | some s => .ok s
  | none => .error (Cause.invalidMapping defect)

/-- The pattern of a table. -/
def compilePattern (t : TableSource) : Outcome Regex := do
  compileRegex (← required t.pattern .tableWithoutPattern)

/-- The replacements of a table, as terms. -/
def compileTerms (v : Vocabulary) : List (String × String) → Outcome (List (String × Term))
  | [] => .ok []
  | (key, text) :: rest => do
    let term ← compileTerm v text
    let terms ← compileTerms v rest
    .ok ((key, term) :: terms)

/-- A table of terms: first its replacements, then its pattern. -/
def compileTermTable (v : Vocabulary) (t : TableSource) : Outcome (Substitutions Term) := do
  let terms ← compileTerms v t.replacements.entries
  let pattern ← compilePattern t
  .ok ⟨pattern, .ofList terms⟩

/-- A table of terms that need not be there. -/
def compileOptionalTable (v : Vocabulary) :
    Option TableSource → Outcome (Option (Substitutions Term))
  | none => .ok none
  | some t => (compileTermTable v t).map some

/-- The fallback of a condition. -/
def compileFallback (v : Vocabulary) (text : Option String) : Outcome Term := do
  compileTerm v (← required text .conditionWithoutDefault)

/-- The conditions of a rule, if there are any among what is written. -/
def compileConditions (v : Vocabulary) (c : ConditionSource) : Outcome (Option Condition) :=
  match c.bySubfield with
  | some tables =>
    match tables.entries with
    | [(code, t)] => do
      let table ← compileTermTable v t
      let fallback ← compileFallback v t.fallback
      .ok (some (.bySubfield code table fallback))
    | _ => .error (Cause.invalidMapping .notOneConditionSubfield)
  | none =>
    match c.byIndicators with
    | some i => do
      let first ← compileOptionalTable v i.first
      let second ← compileOptionalTable v i.second
      let fallback ← compileFallback v i.fallback
      .ok (some (.byIndicators first second fallback))
    | none => .ok none

/-- The predicate of a rule: its conditions, or else what is written as predicate. -/
def compilePredicate (v : Vocabulary) (r : RuleHeadSource) : Outcome Predicate := do
  let condition ← match r.conditions with
    | some c => compileConditions v c
    | none => .ok none
  match condition with
  | some c => .ok (.conditional c)
  | none => .fixed <$> compileTerm v (← required r.predicate .ruleWithoutPredicate)

/-! ## Objects -/

/-- The extraction of an object. -/
def compileExtraction (o : ObjectSource) : Outcome Extraction :=
  match o.offset, o.length with
  | some offset, some length => .ok (.substring offset length)
  | none, none =>
    match o.split, o.search with
    | some source, _ => (compileRegex source).map .split
    | none, some source => (compileRegex source).map .search
    | none, none => .ok .whole
  | _, _ => .error (Cause.invalidMapping .substringHalfGiven)

/-- The substitution of an object. -/
def compileReplacement (t : TableSource) : Outcome Replacement := do
  let pattern ← compilePattern t
  .ok ⟨⟨pattern, t.replacements⟩, t.fallback⟩

/-- The substitution of an object, if there is one. -/
def compileOptionalReplacement : Option TableSource → Outcome (Option Replacement)
  | none => .ok none
  | some t => (compileReplacement t).map some

/-- The slug of an object, if one is wanted. -/
def compileSlug (o : ObjectSource) : Outcome (Option SlugOptions) :=
  if o.slug then do
    let strip ← compileOptionalRegex o.slugStrip
    .ok (some ⟨!o.keepCase, !o.keepSpaces, strip⟩)
  else .ok none

/-- What is written about an object. -/
def compileObject (o : ObjectSource) : Outcome ObjectSpec := do
  let extraction ← compileExtraction o
  let substitute ← compileOptionalReplacement o.substitute
  let slug ← compileSlug o
  let strip ← compileOptionalRegex o.strip
  .ok {
    datatype := o.datatype.map Datatype.ofName
    base := o.base.getD ""
    language := o.language
    pipeline := {
      extraction := extraction
      substitute := substitute
      combine := o.combine.map fun codes => ⟨codes, o.separator.getD ""⟩
      strip := strip
      slug := slug
      digest := o.digest
      lowercase := o.lowercase } }

/-! ## Rules -/

/-- The class of a relation. -/
def compileType (v : Vocabulary) (type : Option String) : Outcome Term := do
  compileTerm v (← required type .relationWithoutClass)

mutual
/-- A rule for the data fields with a tag. -/
def compileRule (v : Vocabulary) (tag : String) : RuleSource → Outcome SubfieldRule
  | .plain source => do
    let predicate ← compilePredicate v source
    let object ← compileObject source.object
    .ok (.plain ⟨source.code, predicate, object⟩)
  | .related source type groups => do
    let predicate ← compilePredicate v source
    let type ← compileType v type
    let nested ← compileGroups v tag groups
    let object ← compileObject source.object
    .ok (.related ⟨source.code, predicate, object⟩ type nested)

/-- Rules in their order, up to the first fault. -/
def compileRules (v : Vocabulary) (tag : String) : List RuleSource → Outcome (List SubfieldRule)
  | [] => .ok []
  | source :: rest => do
    let rule ← (compileRule v tag source).inRule tag (some source.code)
    let rules ← compileRules v tag rest
    .ok (rule :: rules)

/-- Groups of rules in their order, up to the first fault. -/
def compileGroups (v : Vocabulary) (tag : String) :
    List (List RuleSource) → Outcome (List SubfieldRule)
  | [] => .ok []
  | group :: rest => do
    let rules ← compileRules v tag group
    let more ← compileGroups v tag rest
    .ok (rules ++ more)
end

/-- The class of an entry, if it has a relation. -/
def compileEntryType (v : Vocabulary) : Option EntryRelation → Outcome (Option Term)
  | none => .ok none
  | some relation => (compileType v relation.type).map some

/-- An entry for control fields. -/
def compileEntry (v : Vocabulary) (e : EntrySource) : Outcome ControlEntry := do
  let text ← required e.predicate (.entryWithoutPredicate e.name)
  let type ← compileEntryType v e.relation
  let predicate ← compileTerm v text
  let object ← compileObject e.object
  .ok ⟨e.name, predicate, object, type⟩

/-- Entries in their order, up to the first fault. -/
def compileEntries (v : Vocabulary) : List EntrySource → Outcome (List ControlEntry)
  | [] => .ok []
  | e :: rest => do
    let entry ← compileEntry v e
    let entries ← compileEntries v rest
    .ok (entry :: entries)

/-! ## Documents -/

/-- The rules of a block. -/
def compileBody (v : Vocabulary) (tag : String) : BlockBody → Outcome RuleBody
  | .control entries => (compileEntries v entries).inRule tag none |>.map .control
  | .data groups => (compileGroups v tag groups).map .data

/-- A block. -/
def compileBlock (v : Vocabulary) (b : Block) : Outcome TagRule :=
  (compileBody v b.tag b.body).map fun body => ⟨b.tag, body⟩

/-- Blocks in their order, up to the first fault. -/
def compileBlocks (v : Vocabulary) : List Block → Outcome (List TagRule)
  | [] => .ok []
  | b :: rest => do
    let rule ← compileBlock v b
    let rules ← compileBlocks v rest
    .ok (rule :: rules)

/-- Compiles a document against a vocabulary. -/
def Document.compile (d : Document) (v : Vocabulary) : Outcome Spec :=
  (compileBlocks v d.blocks).map fun rules => ⟨rules⟩

end CatalogGraph.Mapping
