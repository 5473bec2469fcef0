import CatalogGraph.OrderedMap
import CatalogGraph.Vocabulary

/-!
# Mapping documents

A mapping as its document gives it: patterns and terms are texts that nobody has looked at yet.  A
document binds labels to namespaces and has blocks of rules for tags.  Blocks, and the rules of a block,
come in groups; only their order across the groups counts.
-/

namespace CatalogGraph.Mapping

/-- A table as it is written. -/
structure TableSource where
  pattern : Option String
  replacements : OrderedMap String
  fallback : Option String
  deriving DecidableEq

/-- What is written about an object. -/
structure ObjectSource where
  datatype : Option String := none
  base : Option String := none
  language : Option String := none
  offset : Option Nat := none
  length : Option Nat := none
  split : Option String := none
  search : Option String := none
  substitute : Option TableSource := none
  combine : Option (List String) := none
  separator : Option String := none
  strip : Option String := none
  slug : Bool := false
  keepCase : Bool := false
  keepSpaces : Bool := false
  slugStrip : Option String := none
  digest : Bool := false
  lowercase : Bool := false
  deriving DecidableEq

/-- A condition on the indicators as it is written. -/
structure IndicatorSource where
  fallback : Option String
  first : Option TableSource
  second : Option TableSource
  deriving DecidableEq

/-- The conditions of a rule as they are written.  A condition on a subfield wins. -/
structure ConditionSource where
  bySubfield : Option (OrderedMap TableSource)
  byIndicators : Option IndicatorSource
  deriving DecidableEq

/-- A rule as it is written, without its relation. -/
structure RuleHeadSource where
  code : String
  predicate : Option String
  conditions : Option ConditionSource
  object : ObjectSource
  deriving DecidableEq

/-- A rule as it is written. -/
inductive RuleSource
  | plain (head : RuleHeadSource)
  | related (head : RuleHeadSource) (type : Option String) (groups : List (List RuleSource))

namespace RuleSource

/-- What is written about the rule itself. -/
def head : RuleSource → RuleHeadSource
  | plain head => head
  | related head _ _ => head

/-- The subfield code of the rule. -/
def code (r : RuleSource) : String := r.head.code

end RuleSource

/-- The relation of an entry for control fields as it is written: a class, and rules that nothing is made of. -/
structure EntryRelation where
  type : Option String
  groups : List (List RuleSource)

/-- An entry for control fields as it is written. -/
structure EntrySource where
  name : String
  predicate : Option String
  object : ObjectSource
  relation : Option EntryRelation

/-- What a block of rules holds. -/
inductive BlockBody
  | control (entries : List EntrySource)
  | data (groups : List (List RuleSource))

/-- The rules for a tag. -/
structure Block where
  tag : String
  body : BlockBody

/-- A mapping document. -/
structure Document where
  bindings : OrderedMap String := .empty
  groups : List (List Block) := []

namespace Document

/-- The blocks in their order. -/
def blocks (d : Document) : List Block := d.groups.flatten

/-- The number of blocks. -/
def blockCount (d : Document) : Nat := d.groups.foldl (fun n group => n + group.length) 0

/-- The vocabulary of the document: the core, then a base, then its own bindings. -/
def vocabulary (d : Document) (base : Vocabulary) : Vocabulary :=
  (Vocabulary.core.extend base).bindAll d.bindings.entries

end Document

end CatalogGraph.Mapping
