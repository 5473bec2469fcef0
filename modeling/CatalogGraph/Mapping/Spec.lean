import CatalogGraph.Mapping.Substitution
import CatalogGraph.Vocabulary

/-!
# Mappings

The typed form of a mapping: every pattern is compiled and every term is parsed.  A mapping is a list of
rules for tags.  A rule for control fields names predicates for the value of the field; a rule for data
fields is a list of subfield rules.  A subfield rule may carry a relation: a class for the nodes that it
produces and nested rules that say more about each of them.
-/

namespace CatalogGraph.Mapping

/-- Whether a code as written in a mapping names the subfield code `code`.  A code that is not exactly
one character long names none. -/
def codeMatches (key : String) (code : Char) : Bool :=
  key.toList == [code]

/-! ## Objects -/

/-- How candidate values are taken from a field value. -/
inductive Extraction
  /-- So many characters from an offset on, if there are that many. -/
  | substring (offset length : Nat)
  /-- The text between the matches, and the groups of each match in between. -/
  | split (pattern : Regex)
  /-- The groups of every match, or every match if the pattern has no group. -/
  | search (pattern : Regex)
  | whole

/-- Replacement by table, with a value for a text in which the pattern does not match. -/
structure Replacement where
  table : Substitutions String
  fallback : Option String

/-- Replacement by the join of some subfields of the field. -/
structure Combine where
  codes : List String
  separator : String
  deriving DecidableEq

namespace Combine

/-- Whether subfields with this code are joined. -/
def includes (c : Combine) (code : Char) : Bool :=
  c.codes.any fun key => codeMatches key code

end Combine

/-- How a slug is made.  Without a pattern of its own a slug keeps ASCII letters, digits, hyphens and
underscores. -/
structure SlugOptions where
  downcase : Bool := true
  convertSpaces : Bool := true
  strip : Option Regex := none

/-- How a value becomes objects: one extraction, then the stages that are set, in the order of the
fields. -/
structure Pipeline where
  extraction : Extraction := .whole
  substitute : Option Replacement := none
  combine : Option Combine := none
  strip : Option Regex := none
  slug : Option SlugOptions := none
  digest : Bool := false
  lowercase : Bool := false

/-- The kind of an object. -/
inductive Datatype
  | uri
  | integer
  | float
  | gYear
  | literal
  deriving DecidableEq, Repr

namespace Datatype

/-- The kind that a mapping names; every unknown name is a literal. -/
def ofName : String → Datatype
  | "uri" => uri
  | "integer" => integer
  | "float" => float
  | "gYear" => gYear
  | _ => literal

/-- The name of the kind. -/
def name : Datatype → String
  | uri => "uri"
  | integer => "integer"
  | float => "float"
  | gYear => "gYear"
  | literal => "literal"

end Datatype

/-- How values become objects of statements. -/
structure ObjectSpec where
  datatype : Option Datatype := none
  /-- What is put before a value that becomes a URI. -/
  base : String := ""
  language : Option String := none
  pipeline : Pipeline := {}

/-! ## Predicates -/

/-- The choice of a predicate by the field at hand. -/
inductive Condition
  /-- By the value of another subfield. -/
  | bySubfield (code : String) (table : Substitutions Term) (fallback : Term)
  /-- By the indicators; the second one wins. -/
  | byIndicators (first second : Option (Substitutions Term)) (fallback : Term)

namespace Condition

/-- Every term that the choice may come to. -/
def terms : Condition → List Term
  | bySubfield _ table fallback => table.replacements.values ++ [fallback]
  | byIndicators first second fallback =>
    (first.toList ++ second.toList).flatMap (·.replacements.values) ++ [fallback]

end Condition

/-- The predicate of a rule. -/
inductive Predicate
  | fixed (term : Term)
  | conditional (condition : Condition)

namespace Predicate

/-- Every term that the predicate may come to. -/
def terms : Predicate → List Term
  | fixed term => [term]
  | conditional condition => condition.terms

end Predicate

/-! ## Rules -/

/-- What a subfield rule says about the subfields with its code. -/
structure RuleHead where
  code : String
  predicate : Predicate
  object : ObjectSpec

/-- A rule for the subfields with one code.  With a relation, each object is a node of that class, and
the nested rules are applied to the same field with the node as subject. -/
inductive SubfieldRule
  | plain (head : RuleHead)
  | related (head : RuleHead) (type : Term) (nested : List SubfieldRule)

namespace SubfieldRule

/-- What the rule says about its subfields. -/
def head : SubfieldRule → RuleHead
  | plain head => head
  | related head _ _ => head

/-- The subfield code as written in the mapping. -/
def code (r : SubfieldRule) : String := r.head.code

/-- Whether the rule applies to subfields with this code. -/
def matchesCode (r : SubfieldRule) (code : Char) : Bool := codeMatches r.code code

end SubfieldRule

/-- A named entry of a rule for control fields. -/
structure ControlEntry where
  name : String
  predicate : Term
  object : ObjectSpec
  type : Option Term

/-- What a rule says about the fields of its tag. -/
inductive RuleBody
  | control (entries : List ControlEntry)
  | data (rules : List SubfieldRule)

/-- A rule for the fields of one tag. -/
structure TagRule where
  tag : String
  body : RuleBody

/-- A mapping; several rules may be for one tag. -/
structure Spec where
  rules : List TagRule

namespace Spec

/-- The rules for a tag, in the order of the mapping. -/
def rulesFor (m : Spec) (tag : String) : List TagRule :=
  m.rules.filter (·.tag == tag)

/-- Whether some rule is for the tag. -/
def hasTag (m : Spec) (tag : String) : Bool :=
  m.rules.any (·.tag == tag)

end Spec

end CatalogGraph.Mapping
