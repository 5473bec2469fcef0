import CatalogGraph.Mapping.Spec

/-!
# Terms of a mapping and vocabularies

Whether all terms of a mapping, in relations at any depth too, have labels that a vocabulary binds.  A
fault names the tag and, for data fields, the outermost rule that the term is in.
-/

namespace CatalogGraph.Mapping

/-- Checks terms in their order. -/
def checkTerms (v : Vocabulary) : List Term → Outcome Unit
  | [] => .ok ()
  | term :: rest => do
    v.check term
    checkTerms v rest

mutual
/-- The terms of a rule, in the order in which they are checked. -/
def SubfieldRule.terms : SubfieldRule → List Term
  | .plain head => head.predicate.terms
  | .related head type nested => head.predicate.terms ++ type :: SubfieldRule.allTerms nested

/-- The terms of several rules. -/
def SubfieldRule.allTerms : List SubfieldRule → List Term
  | [] => []
  | r :: rest => r.terms ++ allTerms rest
end

/-- The terms of an entry for control fields. -/
def ControlEntry.terms (e : ControlEntry) : List Term := e.predicate :: e.type.toList

/-- Checks entries in their order. -/
def checkEntries (v : Vocabulary) (tag : String) : List ControlEntry → Outcome Unit
  | [] => .ok ()
  | e :: rest => do
    (checkTerms v e.terms).inRule tag none
    checkEntries v tag rest

/-- Checks subfield rules in their order. -/
def checkRules (v : Vocabulary) (tag : String) : List SubfieldRule → Outcome Unit
  | [] => .ok ()
  | r :: rest => do
    (checkTerms v r.terms).inRule tag (some r.code)
    checkRules v tag rest

/-- Checks the rules for a tag. -/
def TagRule.check (v : Vocabulary) (r : TagRule) : Outcome Unit :=
  match r.body with
  | .control entries => checkEntries v r.tag entries
  | .data rules => checkRules v r.tag rules

/-- Checks tag rules in their order. -/
def checkTagRules (v : Vocabulary) : List TagRule → Outcome Unit
  | [] => .ok ()
  | r :: rest => do
    r.check v
    checkTagRules v rest

/-- Checks all terms of a mapping. -/
def Spec.check (m : Spec) (v : Vocabulary) : Outcome Unit := checkTagRules v m.rules

end CatalogGraph.Mapping
