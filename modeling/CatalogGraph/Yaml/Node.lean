import CatalogGraph.Yaml.Token

/-!
# YAML nodes

What a document says, before anybody has decided which scalars are numbers.  An alias stands for a node
that is kept beside the root; such nodes have numbers.
-/

namespace CatalogGraph.Yaml

/-- A node. -/
inductive Node
  | alias (id : Nat)
  | scalar (tag : Option Octets) (plain : Bool) (text : List Char)
  | sequence (tag : Option Octets) (items : List Node)
  | mapping (tag : Option Octets) (entries : List (Node × Node))

namespace Node

instance : Inhabited Node := ⟨scalar none true []⟩

/-- The node that is not written. -/
def absent : Node := scalar none true []

/-- Whether the node is a scalar that is not written, though there may be a tag. -/
def isBlank : Node → Bool
  | scalar _ plain text => plain && text.isEmpty
  | _ => false

end Node

/-- A node that aliases may stand for, and its place in the document. -/
structure Anchored where
  id : Nat
  place : Nat
  node : Node

/-- A document.  Its size is the number of its scalars and aliases and of the starts and ends of its
collections. -/
structure Document where
  /-- The outermost node, if anything is written. -/
  root : Option Node
  anchored : List Anchored
  size : Nat

namespace Document

/-- The node that aliases with a number stand for: the last one in the document. -/
def nodeOf? (d : Document) (id : Nat) : Option Node :=
  let found := d.anchored.filter (·.id == id)
  (found.foldl (fun best a => if best.all fun b => b.place < a.place then some a else best)
    (none : Option Anchored)).map (·.node)

end Document

end CatalogGraph.Yaml
