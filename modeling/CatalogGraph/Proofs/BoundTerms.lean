import CatalogGraph.Conversion.Converter
import CatalogGraph.Proofs.RuleTree

/-!
# Mappings whose terms are all bound

A mapping passes the check against a vocabulary exactly if the vocabulary binds every term of every block
(`Spec.check_eq_ok_iff`), in whatever order the blocks stand.  A term that is bound has an IRI
(`Vocabulary.Binds`), so nothing that is resolved later can fail.
-/

namespace CatalogGraph

namespace Vocabulary

/-- The check of a term and its resolution succeed together. -/
theorem check_eq_ok_iff {v : Vocabulary} {term : Term} :
    v.check term = .ok () ↔ ∃ iri, v.resolve term = .ok iri := by
  cases term with
  | iri text => simp [check, resolve]
  | qualified label name =>
      rw [check, resolve]
      cases v.namespace? label with
      | none => simp
      | some iri => simp

/-- Every one of some terms has an IRI. -/
def Binds (v : Vocabulary) (terms : List Term) : Prop :=
  ∀ term ∈ terms, ∃ iri, v.resolve term = .ok iri

theorem binds_cons_iff {v : Vocabulary} {term : Term} {terms : List Term} :
    v.Binds (term :: terms) ↔ (∃ iri, v.resolve term = .ok iri) ∧ v.Binds terms :=
  List.forall_mem_cons

theorem binds_append_iff {v : Vocabulary} {terms terms' : List Term} :
    v.Binds (terms ++ terms') ↔ v.Binds terms ∧ v.Binds terms' :=
  List.forall_mem_append

/-- Of bound terms, any selection is bound. -/
theorem Binds.mono {v : Vocabulary} {terms terms' : List Term} (h : v.Binds terms)
    (hSubset : ∀ term ∈ terms', term ∈ terms) : v.Binds terms' :=
  fun term hTerm => h term (hSubset term hTerm)

end Vocabulary

namespace Mapping

/-- The terms of a block, whatever kind it is of. -/
def RuleBody.terms : RuleBody → List Term
  | .control entries => entries.flatMap ControlEntry.terms
  | .data rules => SubfieldRule.allTerms rules

/-- The terms of a mapping. -/
def Spec.terms (m : Spec) : List Term := m.rules.flatMap (·.body.terms)

variable {v : Vocabulary}

theorem checkTerms_eq_ok_iff {terms : List Term} :
    checkTerms v terms = .ok () ↔ v.Binds terms := by
  induction terms with
  | nil => simp [checkTerms, Vocabulary.Binds]
  | cons term rest ih =>
      rw [checkTerms, Outcome.check_bind_eq_ok_iff, Vocabulary.check_eq_ok_iff, ih,
        Vocabulary.binds_cons_iff]

theorem checkEntries_eq_ok_iff {tag : String} {entries : List ControlEntry} :
    checkEntries v tag entries = .ok () ↔ v.Binds (entries.flatMap ControlEntry.terms) := by
  induction entries with
  | nil => simp [checkEntries, Vocabulary.Binds]
  | cons e rest ih =>
      rw [checkEntries, Outcome.check_bind_eq_ok_iff, Outcome.inRule_eq_ok_iff,
        checkTerms_eq_ok_iff, ih, List.flatMap_cons, Vocabulary.binds_append_iff]

theorem checkRules_eq_ok_iff {tag : String} {rules : List SubfieldRule} :
    checkRules v tag rules = .ok () ↔ v.Binds (SubfieldRule.allTerms rules) := by
  induction rules with
  | nil => simp [checkRules, SubfieldRule.allTerms, Vocabulary.Binds]
  | cons r rest ih =>
      rw [checkRules, Outcome.check_bind_eq_ok_iff, Outcome.inRule_eq_ok_iff,
        checkTerms_eq_ok_iff, ih, SubfieldRule.allTerms, Vocabulary.binds_append_iff]

theorem TagRule.check_eq_ok_iff {rule : TagRule} :
    rule.check v = .ok () ↔ v.Binds rule.body.terms := by
  unfold TagRule.check
  cases rule.body with
  | control entries => exact checkEntries_eq_ok_iff
  | data rules => exact checkRules_eq_ok_iff

/-- A mapping passes the check exactly if the terms of every block are bound. -/
theorem Spec.check_eq_ok_iff {m : Spec} :
    m.check v = .ok () ↔ ∀ rule ∈ m.rules, v.Binds rule.body.terms := by
  unfold Spec.check
  induction m.rules with
  | nil => simp [checkTagRules]
  | cons rule rest ih =>
      rw [checkTagRules, Outcome.check_bind_eq_ok_iff, TagRule.check_eq_ok_iff, ih,
        List.forall_mem_cons]

/-- A mapping passes the check exactly if all its terms are bound. -/
theorem Spec.check_eq_ok_iff_binds {m : Spec} : m.check v = .ok () ↔ v.Binds m.terms := by
  rw [Spec.check_eq_ok_iff]
  exact List.forall_mem_flatMap.symm

end Mapping

namespace Conversion

open CatalogGraph.Mapping

/-- A converter is made of a mapping that passes the check, and of what was asked for. -/
theorem Converter.create_eq_ok_iff {m : Spec} {v : Vocabulary} {settings : Settings}
    {c : Converter} :
    Converter.create m v settings = .ok c ↔
      m.check v = .ok () ∧ ∃ types, resolveAll v settings.recordTypes = .ok types ∧
        c = ⟨m, v, settings.host, types⟩ := by
  unfold Converter.create
  rw [Outcome.check_bind_eq_ok_iff, Outcome.bind_eq_ok_iff]
  simp only [Except.ok.injEq, eq_comm]

end Conversion

end CatalogGraph
