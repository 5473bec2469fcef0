import CatalogGraph.Mapping.TermCheck

/-!
# Rules and the rules nested in them

A subfield rule with a relation is a tree.  `descendants` lists the rules nested in it at any depth and `forest`
does so for several rules, those rules included.  Everything about all rules of a tree is proved by
`SubfieldRule.induction`: the property of a rule from the property of the rules right below it.  The terms of a
tree are those that its rules have of their own (`allTerms_eq_flatMap_forest`).
-/

namespace CatalogGraph.Mapping

namespace SubfieldRule

/-- A property of every rule, from the same property of the rules nested right below it. -/
@[elab_as_elim, induction_eliminator]
theorem induction {motive : SubfieldRule → Prop} (plain : ∀ head, motive (.plain head))
    (related : ∀ head type nested, (∀ q ∈ nested, motive q) → motive (.related head type nested))
    (r : SubfieldRule) : motive r :=
  match r with
  | .plain head => plain head
  | .related head type nested =>
    related head type nested fun q _ => induction plain related q

mutual
/-- The rules nested in a rule, at any depth. -/
def descendants : SubfieldRule → List SubfieldRule
  | .plain _ => []
  | .related _ _ nested => forest nested

/-- The rules of a list and the rules nested in them, at any depth. -/
def forest : List SubfieldRule → List SubfieldRule
  | [] => []
  | r :: rest => r :: (descendants r ++ forest rest)
end

theorem forest_eq_flatMap (rules : List SubfieldRule) :
    forest rules = rules.flatMap fun r => r :: r.descendants := by
  induction rules with
  | nil => rfl
  | cons r rest ih => rw [forest, List.flatMap_cons, ih, List.cons_append]

theorem mem_forest_iff {q : SubfieldRule} {rules : List SubfieldRule} :
    q ∈ forest rules ↔ ∃ r ∈ rules, q = r ∨ q ∈ r.descendants := by
  induction rules with
  | nil => simp [forest]
  | cons r rest ih =>
      rw [forest, List.mem_cons, List.mem_append, ih, ← or_assoc]
      simp only [List.mem_cons, or_and_right, exists_or, exists_eq_left]

theorem mem_forest_of_mem {q : SubfieldRule} {rules : List SubfieldRule} (h : q ∈ rules) :
    q ∈ forest rules :=
  mem_forest_iff.mpr ⟨q, h, Or.inl rfl⟩

theorem mem_allTerms_iff {term : Term} {rules : List SubfieldRule} :
    term ∈ allTerms rules ↔ ∃ r ∈ rules, term ∈ r.terms := by
  induction rules with
  | nil => simp [allTerms]
  | cons r rest ih =>
      rw [allTerms, List.mem_append, ih]
      simp only [List.mem_cons, or_and_right, exists_or, exists_eq_left]

/-- The terms of the predicate of a rule are terms of the rule. -/
theorem mem_terms_of_mem_predicate {term : Term} {r : SubfieldRule}
    (h : term ∈ r.head.predicate.terms) : term ∈ r.terms := by
  cases r with
  | plain head => exact h
  | related head type nested => exact List.mem_append_left _ h

/-- The terms of a nested rule are terms of the rule it is nested in. -/
theorem mem_terms_of_mem_nested {term : Term} {head : RuleHead} {type : Term}
    {nested : List SubfieldRule} {q : SubfieldRule} (hq : q ∈ nested) (h : term ∈ q.terms) :
    term ∈ (related head type nested).terms :=
  List.mem_append_right _ (List.mem_cons_of_mem _ (mem_allTerms_iff.mpr ⟨q, hq, h⟩))

/-- The terms that a rule has of its own: those of its predicate, and the class of its relation. -/
def ownTerms : SubfieldRule → List Term
  | .plain head => head.predicate.terms
  | .related head type _ => head.predicate.terms ++ [type]

-- along the definition of the terms
mutual
/-- The terms of a rule are its own ones and those of the rules nested in it. -/
theorem terms_eq_flatMap_descendants (r : SubfieldRule) :
    r.terms = r.ownTerms ++ r.descendants.flatMap ownTerms := by
  cases r with
  | plain head => exact (List.append_nil _).symm
  | related head type nested =>
      rw [terms, ownTerms, descendants, allTerms_eq_flatMap_forest nested, List.append_assoc]
      rfl

theorem allTerms_eq_flatMap_forest (rules : List SubfieldRule) :
    allTerms rules = (forest rules).flatMap ownTerms := by
  cases rules with
  | nil => rfl
  | cons r rest =>
      rw [allTerms, forest, List.flatMap_cons, List.flatMap_append, terms_eq_flatMap_descendants r,
        allTerms_eq_flatMap_forest rest, List.append_assoc]
end

theorem class_mem_terms (head : RuleHead) (type : Term) (nested : List SubfieldRule) :
    type ∈ (related head type nested).terms :=
  List.mem_append_right _ List.mem_cons_self

end SubfieldRule

end CatalogGraph.Mapping
