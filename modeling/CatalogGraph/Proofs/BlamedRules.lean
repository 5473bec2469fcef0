import CatalogGraph.Proofs.CompiledTerms

/-!
# The rule that an unbound label is blamed on

A mapping is checked twice: when its document is compiled, and again when a converter is made of it, maybe with
another vocabulary.  Both checks look up the same terms, but they do not know the same about them.  A compilation
goes down into the rules and names the rule that a term belongs to; the check of a mapping goes through the rules
of a block and names the one it has got to, however deep in it the term stands.

* `TermUse` — a term where it stands, with the codes of both of these rules;
* `Spec.check_looksUp` — the check of a mapping is a step that looks up terms, as those of a compilation are, with
  other mentions of the same terms;
* `LooksUp.fails_of_only` — a step that looks up terms of which only one is unbound fails in the place of that one;
* `Converter.create_blames_outermost` — so both checks name the tag, and they name the same rule if and only if the
  term belongs to a rule with the code of the outermost one.
-/

namespace CatalogGraph

/-- Whether a term has a label that the vocabulary does not bind. -/
def Vocabulary.lacks (v : Vocabulary) : Term → Bool
  | .qualified label _ => (v.namespace? label).isNone
  | .iri _ => false

theorem Vocabulary.lacks_iff {v : Vocabulary} {term : Term} :
    v.lacks term = true ↔ ∃ label name, term = .qualified label name ∧ v.namespace? label = none := by
  cases term with
  | iri text => simp [lacks]
  | qualified label name => simp [lacks]

/-- A term with an unbound label has no IRI. -/
theorem Vocabulary.not_resolve_of_lacks {v : Vocabulary} {term : Term} (h : v.lacks term = true) :
    ¬∃ iri, v.resolve term = .ok iri := by
  obtain ⟨label, name, rfl, hUnbound⟩ := Vocabulary.lacks_iff.mp h
  simp [resolve, hUnbound]

namespace Mapping

/-! ## Uses of terms -/

/-- A term of a mapping where it stands. -/
structure TermUse where
  term : Term
  tag : String
  /-- The code of the rule that the term belongs to; none in a block for control fields. -/
  rule : Option String
  /-- The code of the outermost rule around it, which may be the same one. -/
  outermost : Option String
  deriving DecidableEq, Repr

namespace TermUse

/-- The term in the rule that it belongs to. -/
def inOwnRule (o : TermUse) : Mention := ⟨o.term, some ⟨o.tag, o.rule⟩⟩

/-- The term in the outermost rule around it. -/
def inOutermostRule (o : TermUse) : Mention := ⟨o.term, some ⟨o.tag, o.outermost⟩⟩

end TermUse

/-- The terms of a rule and of the rules nested in it, where they stand. -/
def SubfieldRule.termUses (tag : String) (r : SubfieldRule) : List TermUse :=
  (r :: r.descendants).flatMap fun q => q.ownTerms.map (⟨·, tag, some q.code, some r.code⟩)

/-- The terms of a block where they stand. -/
def RuleBody.termUses (tag : String) : RuleBody → List TermUse
  | .control entries => entries.flatMap fun entry => entry.terms.map (⟨·, tag, none, none⟩)
  | .data rules => rules.flatMap (·.termUses tag)

/-- The terms of a mapping where they stand, once for each place. -/
def Spec.termUses (m : Spec) : List TermUse := m.rules.flatMap fun rule => rule.body.termUses rule.tag

theorem RuleBody.map_inOwnRule_termUses (tag : String) (body : RuleBody) :
    (body.termUses tag).map TermUse.inOwnRule = body.mentions tag := by
  cases body with
  | control entries =>
      simp [termUses, mentions, mentionsIn, List.map_flatMap, Function.comp_def, TermUse.inOwnRule]
  | data rules =>
      simp [termUses, mentions, SubfieldRule.termUses, SubfieldRule.mentions, SubfieldRule.forest_eq_flatMap,
        mentionsIn, List.map_flatMap, List.flatMap_assoc, Function.comp_def, TermUse.inOwnRule]

/-- A mapping mentions its terms in the rules that they belong to. -/
theorem Spec.map_inOwnRule_termUses (m : Spec) : m.termUses.map TermUse.inOwnRule = m.mentions := by
  rw [termUses, mentions, List.map_flatMap]
  simp only [RuleBody.map_inOwnRule_termUses]

/-- The places of a rule's terms in the outermost rule. -/
theorem SubfieldRule.map_inOutermostRule_termUses (tag : String) (r : SubfieldRule) :
    (r.termUses tag).map TermUse.inOutermostRule = mentionsIn (some ⟨tag, some r.code⟩) r.terms := by
  rw [r.terms_eq_flatMap_descendants, ← List.flatMap_cons]
  simp [termUses, mentionsIn, List.map_flatMap, Function.comp_def, TermUse.inOutermostRule]

/-! ## The check of a mapping -/

theorem checkTerms_looksUp (terms : List Term) : LooksUp (checkTerms · terms) () (mentionsIn none terms) := by
  induction terms with
  | nil => exact .of_eq_ok rfl
  | cons term rest ih => exact .bind (check_looksUp term) ih

theorem checkEntries_looksUp (tag : String) (entries : List ControlEntry) :
    LooksUp (checkEntries · tag entries) () (entries.flatMap fun e => mentionsIn (some ⟨tag, none⟩) e.terms) := by
  induction entries with
  | nil => exact .of_eq_ok rfl
  | cons e rest ih =>
      rw [List.flatMap_cons, ← map_inRule_mentionsIn_none]
      exact .bind ((checkTerms_looksUp e.terms).inRule tag none) ih

theorem checkRules_looksUp (tag : String) (rules : List SubfieldRule) :
    LooksUp (checkRules · tag rules) () (rules.flatMap fun r => mentionsIn (some ⟨tag, some r.code⟩) r.terms) := by
  induction rules with
  | nil => exact .of_eq_ok rfl
  | cons r rest ih =>
      rw [List.flatMap_cons, ← map_inRule_mentionsIn_none]
      exact .bind ((checkTerms_looksUp r.terms).inRule tag (some r.code)) ih

theorem TagRule.check_looksUp (rule : TagRule) :
    LooksUp rule.check () ((rule.body.termUses rule.tag).map TermUse.inOutermostRule) := by
  obtain ⟨tag, body⟩ := rule
  cases body with
  | control entries =>
      have hMentions : ((RuleBody.control entries).termUses tag).map TermUse.inOutermostRule =
          entries.flatMap fun e => mentionsIn (some ⟨tag, none⟩) e.terms := by
        simp [RuleBody.termUses, mentionsIn, List.map_flatMap, Function.comp_def, TermUse.inOutermostRule]
      rw [hMentions]
      exact checkEntries_looksUp tag entries
  | data rules =>
      rw [RuleBody.termUses, List.map_flatMap]
      simp only [SubfieldRule.map_inOutermostRule_termUses]
      exact checkRules_looksUp tag rules

/-- The check of a mapping looks up its terms, each of them in the outermost rule around it. -/
theorem Spec.check_looksUp (m : Spec) :
    LooksUp m.check () (m.termUses.map TermUse.inOutermostRule) := by
  obtain ⟨rules⟩ := m
  rw [termUses, List.map_flatMap]
  have hRules : LooksUp (checkTagRules · rules) ()
      (rules.flatMap fun rule => (rule.body.termUses rule.tag).map TermUse.inOutermostRule) := by
    induction rules with
    | nil => exact .of_eq_ok rfl
    | cons rule rest ih => exact .bind rule.check_looksUp ih
  exact hRules

/-! ## A single unbound label -/

/-- A step that looks up terms where they stand fails, if only one of them is unbound, because of that one. -/
theorem LooksUp.fails_of_only {α : Type} {step : Vocabulary → Outcome α} {a : α} {termUses : List TermUse}
    {mention : TermUse → Mention} (h : LooksUp step a (termUses.map mention))
    (hTerm : ∀ o, (mention o).term = o.term) {v : Vocabulary} {o : TermUse}
    (hOnly : termUses.filter (v.lacks ·.term) = [o]) :
    ∃ e, step v = .error e ∧ (mention o).IsToBlame v e := by
  have hMem (o' : TermUse) : o' ∈ termUses ∧ v.lacks o'.term = true ↔ o' = o := by
    have hFilter : o' ∈ termUses.filter (v.lacks ·.term) ↔ o' ∈ termUses ∧ v.lacks o'.term = true :=
      List.mem_filter
    rw [← hFilter, hOnly, List.mem_singleton]
  cases hStep : step v with
  | ok b =>
      obtain ⟨hUsed, hLacks⟩ := (hMem o).mpr rfl
      have hBound := ((h.yields v b).mp hStep).2 (mention o).term
        (List.mem_map_of_mem (List.mem_map_of_mem hUsed))
      rw [hTerm] at hBound
      exact absurd hBound (Vocabulary.not_resolve_of_lacks hLacks)
  | error e =>
      refine ⟨e, rfl, ?_⟩
      obtain ⟨blamed, hBlamed, hBlame⟩ := h.blames v e hStep
      obtain ⟨o', hUsed, rfl⟩ := List.mem_map.mp hBlamed
      have hLacks : v.lacks o'.term = true := by
        obtain ⟨label, name, hQualified, hUnbound, -⟩ := hBlame
        exact Vocabulary.lacks_iff.mpr ⟨label, name, (hTerm o').symm.trans hQualified, hUnbound⟩
      exact (hMem o').mp ⟨hUsed, hLacks⟩ ▸ hBlame

end Mapping

namespace Conversion

open CatalogGraph.Mapping

/-- What the check of a mapping finds is what making a converter ends with. -/
theorem Converter.create_eq_error_of_check {m : Spec} {v : Vocabulary} {settings : Settings} {e : Fault}
    (h : m.check v = .error e) : Converter.create m v settings = .error e := by
  rw [create, h]
  rfl

/-- **A compilation blames the rule that an unbound label belongs to, and a converter the outermost rule around
it.**  Let a document compile to a mapping, and let one term of the mapping, in one place and at whatever depth,
have a label that another vocabulary does not bind.  Then the document does not compile against that vocabulary and
no converter can be made with it, whatever else is asked for.  Both fail because of this label and both name the tag.
The compilation names the rule that the term belongs to; the converter names the outermost rule around it.  So they
fail alike if and only if these two rules have the same code, or the term is in a block for control fields, where no
rule is named. -/
theorem Converter.create_blames_outermost {d : Document} {v : Vocabulary} {m : Spec}
    (hCompiled : d.compile v = .ok m) {w : Vocabulary} {o : TermUse}
    (hOnly : m.termUses.filter (w.lacks ·.term) = [o]) (settings : Settings) :
    ∃ label name, o.term = .qualified label name ∧ w.namespace? label = none ∧
      d.compile w = .error ⟨.unknownVocabulary label, some ⟨o.tag, o.rule⟩⟩ ∧
      Converter.create m w settings = .error ⟨.unknownVocabulary label, some ⟨o.tag, o.outermost⟩⟩ ∧
      ((∃ e, d.compile w = .error e ∧ Converter.create m w settings = .error e) ↔ o.rule = o.outermost) := by
  have hLooksUp : LooksUp d.compile m (m.termUses.map TermUse.inOwnRule) := by
    rw [m.map_inOwnRule_termUses]
    exact Document.compile_looksUp hCompiled
  obtain ⟨compiled, hCompile, label, name, hTerm, hUnbound, rfl⟩ := hLooksUp.fails_of_only (fun _ => rfl) hOnly
  obtain ⟨checked, hCheck, label', name', hTerm', -, rfl⟩ := m.check_looksUp.fails_of_only (fun _ => rfl) hOnly
  obtain ⟨rfl, rfl⟩ : label = label' ∧ name = name' := Term.qualified.inj (hTerm.symm.trans hTerm')
  have hCreate : Converter.create m w settings = .error _ := Converter.create_eq_error_of_check hCheck
  refine ⟨label, name, hTerm, hUnbound, hCompile, hCreate, ?_⟩
  rw [hCompile, hCreate]
  simp [TermUse.inOwnRule, TermUse.inOutermostRule, eq_comm]

/-- The only unbound label is that of a class, in a rule right below the tag.  Both checks name this rule. -/
theorem Converter.create_blames_outermost_topics :
    let label : RuleSource := .plain ⟨"a", some "rdfs.label", none, {}⟩
    let topic : RuleSource := .related ⟨"a", some "dc.subject", none, {}⟩ (some "ontology.Topic") [[label]]
    let d : Document := { groups := [[⟨"650", .data [[topic]]⟩]] }
    let m : Spec := ⟨[⟨"650", .data [.related ⟨"a", .fixed (.qualified "dc" "subject"), {}⟩
      (.qualified "ontology" "Topic") [.plain ⟨"a", .fixed (.qualified "rdfs" "label"), {}⟩]]⟩]⟩
    let o : TermUse := ⟨.qualified "ontology" "Topic", "650", some "a", some "a"⟩
    let e : Fault := ⟨.unknownVocabulary "ontology", some ⟨"650", some "a"⟩⟩
    (d.compile .standard = .ok m ∧ m.termUses.filter (Vocabulary.core.lacks ·.term) = [o]) ∧
      d.compile .core = .error e ∧ Converter.create m .core {} = .error e := by
  intro label topic d m o e
  have hCompiled : d.compile .standard = .ok m := rfl
  have hOnly : m.termUses.filter (Vocabulary.core.lacks ·.term) = [o] := by decide +kernel
  obtain ⟨prefixLabel, name, hTerm, -, hCompile, hCreate, -⟩ :=
    Converter.create_blames_outermost hCompiled hOnly {}
  obtain ⟨rfl, rfl⟩ : "ontology" = prefixLabel ∧ "Topic" = name := Term.qualified.inj hTerm
  exact ⟨⟨hCompiled, hOnly⟩, hCompile, hCreate⟩

/-- The only unbound label is in a nested rule.  The compilation names that rule; the check of the mapping names
the rule around it, in which nothing is wrong. -/
theorem Converter.create_blames_outermost_creator :
    let born : RuleSource := .plain ⟨"b", some "ontology.born", none, {}⟩
    let creator : RuleSource := .related ⟨"a", some "dc.creator", none, {}⟩ (some "rdfs.Class") [[born]]
    let d : Document := { groups := [[⟨"700", .data [[creator]]⟩]] }
    let m : Spec := ⟨[⟨"700", .data [.related ⟨"a", .fixed (.qualified "dc" "creator"), {}⟩
      (.qualified "rdfs" "Class") [.plain ⟨"b", .fixed (.qualified "ontology" "born"), {}⟩]]⟩]⟩
    let o : TermUse := ⟨.qualified "ontology" "born", "700", some "b", some "a"⟩
    d.compile .standard = .ok m ∧ m.termUses.filter (Vocabulary.core.lacks ·.term) = [o] ∧
      d.compile .core = .error ⟨.unknownVocabulary "ontology", some ⟨"700", some "b"⟩⟩ ∧
      Converter.create m .core {} = .error ⟨.unknownVocabulary "ontology", some ⟨"700", some "a"⟩⟩ :=
  ⟨rfl, by decide +kernel, rfl, rfl⟩

end Conversion

end CatalogGraph
