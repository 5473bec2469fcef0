import CatalogGraph.Decimal.Shortest
import CatalogGraph.Json.Reader
import CatalogGraph.Mapping.Document

/-!
# Reading mapping documents from values

The blocks of a document are read from values as JSON has them.  Unknown members do not count, a member
that is null is as good as none, and of a repeated member the last value counts, at the place of the
first.  Wherever members are expected, an array with their values in a fixed order will do.  A scalar that
is wanted as text may be a number or a truth value.

A document as a whole is stricter than its blocks: it may not repeat its two members.
-/

namespace CatalogGraph.Mapping

/-! ## Parts of values -/

/-- A scalar as text. -/
def scalarText? : Json → Option String
  | .string s => some s
  | .bool true => some "true"
  | .bool false => some "false"
  | .integer n => some (toString n)
  | .decimal x => some (Decimal.ofFloat x)
  | _ => none

/-- The natural number, if the value is one. -/
def natural? : Json → Option Nat
  | .integer n => if 0 ≤ n then some n.toNat else none
  | _ => none

/-- The truth value, if the value is one. -/
def truth? : Json → Option Bool
  | .bool b => some b
  | _ => none

/-- The values of some members, by name from an object or by place from an array of at least `least`
items. -/
def partsOf? (names : List String) (least : Nat) : Json → Option (List (Option Json))
  | .object members => some (names.map fun name => (Json.valuesOf name members).getLast?)
  | .array items =>
    if least ≤ items.length ∧ items.length ≤ names.length then
      some (items.map some ++ List.replicate (names.length - items.length) none)
    else none
  | _ => none

/-- A part that may be missing or null. -/
def optional {α : Type} (read? : Json → Option α) : Option Json → Option (Option α)
  | none | some .null => some none
  | some value => (read? value).map some

/-- A part that may be missing. -/
def withDefault {α : Type} (default : α) (read? : Json → Option α) : Option Json → Option α
  | none => some default
  | some value => read? value

/-- A truth value that may be missing or null, which is as good as false. -/
def flag? (part : Option Json) : Option Bool :=
  (optional truth? part).map (·.getD false)

/-- The members of an object, each read by itself. -/
def entriesOf? {α : Type} (read? : String → Json → Option α) (j : Json) :
    Option (OrderedMap α) := do
  let members ← j.members?
  let values := OrderedMap.ofList members
  let entries ← values.entries.mapM fun e => (read? e.1 e.2).map fun a => (e.1, a)
  some (.ofList entries)

/-- The items of an array, each read by itself. -/
def itemsOf? {α : Type} (read? : Json → Option α) (j : Json) : Option (List α) := do
  (← j.items?).mapM read?

/-! ## Parts of rules -/

/-- Reads a table. -/
def TableSource.ofJson? (j : Json) : Option TableSource := do
  match ← partsOf? ["orig", "subs", "default"] 3 j with
  | [pattern, replacements, fallback] =>
    some ⟨← optional scalarText? pattern,
      ← withDefault .empty (entriesOf? fun _ => scalarText?) replacements,
      ← optional scalarText? fallback⟩
  | _ => none

/-- The names of the members of an object specification, in their order. -/
def objectMembers : List String := [
  "datatype", "prefix", "lang", "substr_offset", "substr_length", "regex_split", "regex_match",
  "regex_substitute", "combine", "combinestring", "regex_strip", "urlize", "no_downcase",
  "no_convert_spaces", "regexp", "md5", "lowercase"]

/-- Reads what is written about an object. -/
def ObjectSource.ofJson? (j : Json) : Option ObjectSource := do
  match ← partsOf? objectMembers 0 j with
  | [datatype, base, language, offset, length, split, search, substitute, combine, separator, strip,
      slug, keepCase, keepSpaces, slugStrip, digest, lowercase] =>
    some {
      datatype := ← optional scalarText? datatype
      base := ← optional scalarText? base
      language := ← optional scalarText? language
      offset := ← optional natural? offset
      length := ← optional natural? length
      split := ← optional scalarText? split
      search := ← optional scalarText? search
      substitute := ← optional TableSource.ofJson? substitute
      combine := ← optional (itemsOf? scalarText?) combine
      separator := ← optional scalarText? separator
      strip := ← optional scalarText? strip
      slug := ← flag? slug
      keepCase := ← flag? keepCase
      keepSpaces := ← flag? keepSpaces
      slugStrip := ← optional scalarText? slugStrip
      digest := ← flag? digest
      lowercase := ← flag? lowercase }
  | _ => none

/-- Reads a condition on the indicators. -/
def IndicatorSource.ofJson? (j : Json) : Option IndicatorSource := do
  match ← partsOf? ["default", "indicator1", "indicator2"] 3 j with
  | [fallback, first, second] =>
    some ⟨← optional scalarText? fallback, ← optional TableSource.ofJson? first,
      ← optional TableSource.ofJson? second⟩
  | _ => none

/-- Reads the conditions of a rule. -/
def ConditionSource.ofJson? (j : Json) : Option ConditionSource := do
  match ← partsOf? ["subfield", "indicator"] 2 j with
  | [bySubfield, byIndicators] =>
    some ⟨← optional (entriesOf? fun _ => TableSource.ofJson?) bySubfield,
      ← optional IndicatorSource.ofJson? byIndicators⟩
  | _ => none

/-! ## Rules and blocks -/

/-- Reads a rule for a code, with relations nested at most so many levels deep. -/
def RuleSource.ofJson? : Nat → String → Json → Option RuleSource
  | 0, _, _ => none
  | levels + 1, code, j => do
    match ← partsOf? ["predicate", "object", "conditions", "relation"] 4 j with
    | [predicate, object, conditions, relation] =>
      let head : RuleHeadSource := ⟨code, ← optional scalarText? predicate,
        ← optional ConditionSource.ofJson? conditions,
        ← withDefault {} ObjectSource.ofJson? object⟩
      match ← optional (partsOf? ["class", "subfields"] 1) relation with
      | none => some (.plain head)
      | some [type, subfields] =>
        let groups ← withDefault [] (itemsOf? (entriesOf? (ofJson? levels))) subfields
        some (.related head (← optional scalarText? type) (groups.map OrderedMap.values))
      | some _ => none
    | _ => none

/-- As deep as relations can be nested in a value. -/
def maxLevels : Nat := 128

/-- Reads groups of rules. -/
def ruleGroups? (j : Json) : Option (List (List RuleSource)) :=
  (itemsOf? (entriesOf? (RuleSource.ofJson? maxLevels)) j).map fun groups =>
    groups.map OrderedMap.values

/-- Reads the relation of an entry. -/
def EntryRelation.ofJson? (j : Json) : Option EntryRelation := do
  match ← partsOf? ["class", "subfields"] 1 j with
  | [type, subfields] =>
    let groups ← withDefault [] ruleGroups? subfields
    some ⟨← optional scalarText? type, groups⟩
  | _ => none

/-- Reads an entry for control fields. -/
def EntrySource.ofJson? (name : String) (j : Json) : Option EntrySource := do
  match ← partsOf? ["predicate", "object", "relation"] 3 j with
  | [predicate, object, relation] =>
    some ⟨name, ← optional scalarText? predicate, ← withDefault {} ObjectSource.ofJson? object,
      ← optional EntryRelation.ofJson? relation⟩
  | _ => none

/-- Reads the rules of a block.  A block with a list of subfields is for data fields; all other members
of it do not count. -/
def BlockBody.ofJson? (j : Json) : Option BlockBody :=
  match j.members?.bind fun members => (Json.valuesOf "subfields" members).getLast? with
  | some subfields => (ruleGroups? subfields).map .data
  | none => (entriesOf? EntrySource.ofJson? j).map fun entries => .control entries.values

/-! ## JSON documents -/

/-- As deep as a value may be nested that is inside a group of blocks. -/
def blockLevels : Nat := 124

/-- Reads a block, all of which must make sense. -/
def Block.ofJson? (tag : String) (j : Json) : Option Block :=
  if j.isSound blockLevels then (BlockBody.ofJson? j).map fun body => ⟨tag, body⟩ else none

/-- Reads a group of blocks.  All of them must be blocks, also those that are repeated. -/
def blockGroup? (j : Json) : Option (List Block) := do
  let blocks ← (← j.members?).mapM fun m => (Block.ofJson? m.1 m.2).map fun b => (m.1, b)
  some (OrderedMap.ofList blocks).values

/-- Reads bindings of labels. -/
def bindings? (j : Json) : Option (OrderedMap String) := do
  let entries ← (← j.members?).mapM fun m => m.2.string?.map fun s => (m.1, s)
  some (.ofList entries)

/-- The value of a member that may be there once. -/
def single? (name : String) (members : List (String × Json)) : Option (Option Json) :=
  match Json.valuesOf name members with
  | [] => some none
  | [value] => some (some value)
  | _ => none

/-- Reads a document. -/
def Document.ofJson? (j : Json) : Option Document := do
  let (bindings, groups) ← match j with
    | .object members => some (← single? "vocabularies" members, ← single? "tags" members)
    | .array [] => some (none, none)
    | .array [bindings] => some (some bindings, none)
    | .array [bindings, groups] => some (some bindings, some groups)
    | _ => none
  some ⟨← withDefault .empty bindings? bindings, ← withDefault [] (itemsOf? blockGroup?) groups⟩

/-- Reads a document from JSON text. -/
def Document.ofJsonText (text : String) : Outcome Document :=
  match (Json.read? text).bind Document.ofJson? with
  | some d => .ok d
  | none => .error (Cause.unreadable .jsonMapping)

end CatalogGraph.Mapping
