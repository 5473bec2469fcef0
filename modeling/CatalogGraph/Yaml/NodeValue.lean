import CatalogGraph.Yaml.Node
import CatalogGraph.Yaml.ScalarValue

/-!
# Values of YAML nodes

Nodes are read as the values that JSON has.  Aliases are followed wherever they stand, a number of times
that depends on the size of the document; so a small document cannot stand for a huge value, and a node
that holds itself has no value.  The keys of a mapping are the texts of scalars as they are written.
-/

namespace CatalogGraph.Yaml

/-- Something that is read from a document.  The state is how many aliases may still be followed. -/
abbrev Reading (α : Type) := StateT Nat Option α

namespace Document

/-- How many aliases may be followed in a document. -/
def maxJumps (d : Document) : Nat := d.size * 100

/-- A node, or the node that an alias stands for. -/
def follow (d : Document) : Node → Reading Node
  | .alias id => do
    match ← get with
    | 0 => failure
    | jumps + 1 =>
      set jumps
      (d.nodeOf? id : Option Node)
  | node => pure node

/-- The text of a scalar as it is written. -/
def textOf (d : Document) (node : Node) : Reading String := do
  match ← d.follow node with
  | .scalar _ _ text => pure (String.ofList text)
  | _ => failure

/-- The items of a sequence.  Nothing is an empty sequence. -/
def itemsOf (d : Document) (node : Node) : Reading (List Node) := do
  match ← d.follow node with
  | .sequence _ items => pure items
  | node => if node.isBlank then pure [] else failure

/-- The entries of a mapping.  Nothing is an empty mapping. -/
def entriesOf (d : Document) (node : Node) : Reading (List (Node × Node)) := do
  match ← d.follow node with
  | .mapping _ entries => pure entries
  | node => if node.isBlank then pure [] else failure

/-- The value of a node that may be nested at most so many levels deep.  A local tag has no meaning. -/
def valueOf (d : Document) : Nat → Node → Reading Json
  | levels, node => do
    match ← d.follow node, levels with
    | .scalar tag plain text, _ => (scalarValue? tag plain text : Option Json)
    | .sequence tag items, levels + 1 =>
      if tag.any isLocal then failure else .array <$> items.mapM (d.valueOf levels)
    | .mapping tag entries, levels + 1 =>
      if tag.any isLocal then failure
      else .object <$> entries.mapM fun e => do
        let key ← d.textOf e.1
        let value ← d.valueOf levels e.2
        pure (key, value)
    | _, _ => failure

end Document

end CatalogGraph.Yaml
