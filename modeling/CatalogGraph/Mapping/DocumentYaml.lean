import CatalogGraph.Mapping.DocumentJson
import CatalogGraph.Yaml.Assembly
import CatalogGraph.Yaml.NodeValue

/-!
# Reading mapping documents from YAML

In YAML the namespaces of labels are scalars of any kind, taken as they are written.  Where a collection
is expected around the blocks, nothing counts as an empty one.  Blocks are read as values, in the same way
as from JSON.
-/

namespace CatalogGraph.Mapping

open CatalogGraph.Yaml (Node Reading)

/-- As deep as the value of a block may be nested. -/
def yamlBlockLevels : Nat := 125

/-- Reads bindings of labels. -/
def yamlBindings (d : Yaml.Document) (node : Node) : Reading (OrderedMap String) := do
  let entries ← (← d.entriesOf node).mapM fun e => do
    let key ← d.textOf e.1
    let value ← d.textOf e.2
    pure (key, value)
  pure (.ofList entries)

/-- Reads a block. -/
def yamlBlock (d : Yaml.Document) (tag : String) (node : Node) : Reading Block := do
  let value ← d.valueOf yamlBlockLevels node
  let body ← (BlockBody.ofJson? value : Option BlockBody)
  pure ⟨tag, body⟩

/-- Reads a group of blocks.  All of them must be blocks, also those that are repeated. -/
def yamlGroup (d : Yaml.Document) (node : Node) : Reading (List Block) := do
  let blocks ← (← d.entriesOf node).mapM fun e => do
    let tag ← d.textOf e.1
    let block ← yamlBlock d tag e.2
    pure (tag, block)
  pure (OrderedMap.ofList blocks).values

/-- Reads groups of blocks. -/
def yamlGroups (d : Yaml.Document) (node : Node) : Reading (List (List Block)) := do
  (← d.itemsOf node).mapM (yamlGroup d)

/-- The value of a key that may be there once. -/
def singleNode (name : String) (members : List (String × Node)) : Option (Option Node) :=
  match members.filter (·.1 == name) with
  | [] => some none
  | [m] => some (some m.2)
  | _ => none

/-- The nodes of the bindings and of the groups, each if it is there. -/
def yamlParts (d : Yaml.Document) (root : Node) : Reading (Option Node × Option Node) := do
  match ← d.follow root with
  | .sequence _ items =>
    match items with
    | [] => pure (none, none)
    | [bindings] => pure (some bindings, none)
    | [bindings, groups] => pure (some bindings, some groups)
    | _ => failure
  | node =>
    let members ← (← d.entriesOf node).mapM fun e => do
      let key ← d.textOf e.1
      pure (key, e.2)
    let bindings ← (singleNode "vocabularies" members : Option (Option Node))
    let groups ← (singleNode "tags" members : Option (Option Node))
    pure (bindings, groups)

/-- Reads a mapping document. -/
def yamlDocument (d : Yaml.Document) : Reading Document := do
  match d.root with
  | none => pure {}
  | some root =>
    let (bindings, groups) ← yamlParts d root
    let bindings ← bindings.mapM (yamlBindings d)
    let groups ← groups.mapM (yamlGroups d)
    pure ⟨bindings.getD .empty, groups.getD []⟩

/-- Reads a mapping document, if the YAML document is one. -/
def Document.ofYaml? (d : Yaml.Document) : Option Document :=
  ((yamlDocument d).run d.maxJumps).map (·.1)

/-- Reads a document from YAML text. -/
def Document.ofYamlText (text : String) : Outcome Document :=
  match (Yaml.Document.read? text).bind Document.ofYaml? with
  | some d => .ok d
  | none => .error (Cause.unreadable .yamlMapping)

end CatalogGraph.Mapping
