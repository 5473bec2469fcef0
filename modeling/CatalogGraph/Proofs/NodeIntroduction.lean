import CatalogGraph.Proofs.Accounts

/-!
# No node comes from nowhere

A conversion never says anything about a node before it has said how the node is reached and what class it
has.  The first statement about a node is its class, and it stands right behind a statement whose object is
the node (`IsIntroduced`).  So a node can be reached from the record through statements that come before
everything that is said about it (`Reaches`).

Both are proved by induction over the account of the record.  Accounts are put one behind the other, and a
node may be made more than once; what counts is that the first account in which a node comes introduces it,
and that statements in front do not undo this.

A node is always a URI with a host.  A text that did not become a URI stays a literal, and nothing is said
about it, unless it happens to be the URI of the record itself, whose host nobody checks.
-/

namespace CatalogGraph.Conversion

open CatalogGraph.Mapping CatalogGraph.Marc CatalogGraph.Rdf

/-! ## Introduced nodes -/

/-- The first statement about a node gives it a class, and the statement right before has it as object. -/
def IsIntroduced (statements : List Statement) (node : String) : Prop :=
  ∃ earlier link first later, statements = earlier ++ link :: first :: later ∧
    (∀ t ∈ earlier ++ [link], t.subject ≠ node) ∧ link.object = .iri node ∧
      first.subject = node ∧ first.predicate = Vocabulary.rdfType

/-- Some statement is about the node. -/
def IsDescribed (statements : List Statement) (node : String) : Prop :=
  ∃ t ∈ statements, t.subject = node

section Introduced

variable {a b : List Statement} {node : String}

theorem IsIntroduced.append_right (h : IsIntroduced a node) (b : List Statement) :
    IsIntroduced (a ++ b) node := by
  obtain ⟨earlier, link, first, later, rfl, hFirst, hLink⟩ := h
  exact ⟨earlier, link, first, later ++ b, by simp, hFirst, hLink⟩

/-- Statements about other nodes may come first. -/
theorem IsIntroduced.append_left (h : IsIntroduced b node) (ha : ¬IsDescribed a node) :
    IsIntroduced (a ++ b) node := by
  obtain ⟨earlier, link, first, later, rfl, hFirst, hLink⟩ := h
  refine ⟨a ++ earlier, link, first, later, by simp, ?_, hLink⟩
  intro t ht
  rw [List.append_assoc, List.mem_append] at ht
  rcases ht with hFront | hBack
  · exact fun hSubject => ha ⟨t, hFront, hSubject⟩
  · exact hFirst t hBack

theorem isDescribed_append_iff :
    IsDescribed (a ++ b) node ↔ IsDescribed a node ∨ IsDescribed b node := by
  simp only [IsDescribed, List.mem_append, or_and_right, exists_or]

theorem isDescribed_singleton_iff {t : Statement} : IsDescribed [t] node ↔ t.subject = node := by
  simp [IsDescribed]

/-- Two lists that introduce a node if they describe it do so together. -/
theorem isIntroduced_append (ha : IsDescribed a node → IsIntroduced a node)
    (hb : IsDescribed b node → IsIntroduced b node) (h : IsDescribed (a ++ b) node) :
    IsIntroduced (a ++ b) node := by
  by_cases hFront : IsDescribed a node
  · exact (ha hFront).append_right b
  · exact (hb ((isDescribed_append_iff.mp h).resolve_left hFront)).append_left hFront

end Introduced

variable {v : Vocabulary} {terms : List Term} {specs : List ObjectSpec} {root : String}
  {statements : List Statement}

/-- An account of a node introduces every other node that it describes. -/
theorem Account.isIntroduced (h : Account v terms specs root statements) {node : String}
    (hNode : node ≠ root) (hDescribed : IsDescribed statements node) :
    IsIntroduced statements node := by
  induction h with
  | nothing root =>
      obtain ⟨t, ht, -⟩ := hDescribed
      exact absurd ht List.not_mem_nil
  | append _ _ iha ihb => exact isIntroduced_append (iha hNode) (ihb hNode) hDescribed
  | value _ => exact absurd (isDescribed_singleton_iff.mp hDescribed).symm hNode
  | link _ => exact absurd (isDescribed_singleton_iff.mp hDescribed).symm hNode
  | @described root predicate uri type spec text rest _ _ _ _ ih =>
      by_cases hUri : node = uri
      · -- the node made here: no statement before its class has another subject than the root
        subst hUri
        refine ⟨[], ⟨root, predicate, .iri node⟩, typeStatement node type, rest, rfl, ?_, rfl, rfl, rfl⟩
        intro t ht
        rw [List.mem_singleton.mp ht]
        exact hNode.symm
      · have hFront : ¬IsDescribed [⟨root, predicate, .iri uri⟩, typeStatement uri type] node := by
          rintro ⟨t, ht, rfl⟩
          rcases List.mem_cons.mp ht with rfl | hType
          · exact hNode rfl
          · rw [List.mem_singleton.mp hType] at hUri
            exact hUri rfl
        have hRest : IsDescribed rest node :=
          (isDescribed_append_iff.mp hDescribed).resolve_left hFront
        exact (ih hUri hRest).append_left hFront

/-! ## Reached nodes -/

/-- A node can be reached from another one through some statements. -/
inductive Reaches (statements : List Statement) (root : String) : String → Prop
  | root : Reaches statements root root
  | step {t : Statement} {node : String} :
    Reaches statements root t.subject → t ∈ statements → t.object = .iri node →
      Reaches statements root node

namespace Reaches

variable {a b : List Statement} {middle node : String}

theorem mono (h : Reaches a root node) (hSubset : a ⊆ b) : Reaches b root node := by
  induction h with
  | root => exact .root
  | step _ hMem hObject ih => exact .step ih (hSubset hMem) hObject

theorem trans (h : Reaches a root middle) (h' : Reaches a middle node) : Reaches a root node := by
  induction h' with
  | root => exact h
  | step _ hMem hObject ih => exact .step ih hMem hObject

end Reaches

/-- If what two lists describe is reached from a node through what is before it, then so it is in both
lists together. -/
theorem reaches_append {a b : List Statement}
    (ha : ∀ i t, a[i]? = some t → Reaches (a.take i) root t.subject)
    (hb : ∀ i t, b[i]? = some t → Reaches (b.take i) root t.subject) {i : Nat} {t : Statement}
    (hAt : (a ++ b)[i]? = some t) : Reaches ((a ++ b).take i) root t.subject := by
  by_cases hFront : i < a.length
  · rw [List.getElem?_append_left hFront] at hAt
    rw [List.take_append_of_le_length (Nat.le_of_lt hFront)]
    exact ha i t hAt
  · rw [List.getElem?_append_right (by omega)] at hAt
    refine (hb _ t hAt).mono ?_
    rw [List.take_append]
    exact List.subset_append_right _ _

/-- Whatever an account of a node describes is reached from the node through the statements before. -/
theorem Account.reaches (h : Account v terms specs root statements) (i : Nat) (t : Statement)
    (hAt : statements[i]? = some t) : Reaches (statements.take i) root t.subject := by
  induction h generalizing i t with
  | nothing root => simp at hAt
  | append _ _ iha ihb => exact reaches_append iha ihb hAt
  | value _ =>
      rw [List.mem_singleton.mp (List.mem_of_getElem? hAt)]
      exact .root
  | link _ =>
      rw [List.mem_singleton.mp (List.mem_of_getElem? hAt)]
      exact .root
  | @described root predicate uri type spec text rest _ _ _ _ ih =>
      match i with
      | 0 =>
          obtain rfl := Option.some.inj hAt
          exact .root
      | 1 =>
          obtain rfl := Option.some.inj hAt
          exact .step .root List.mem_cons_self rfl
      | i + 2 =>
          have hNode : Reaches (List.take (i + 2) (⟨root, predicate, .iri uri⟩ ::
              typeStatement uri type :: rest)) root uri := .step .root List.mem_cons_self rfl
          refine hNode.trans ((ih i t hAt).mono ?_)
          exact fun u hu => List.mem_cons_of_mem _ (List.mem_cons_of_mem _ hu)

/-! ## Texts that became no URI -/

/-- Everything that an account of a node describes is the node or a URI with a host. -/
theorem Account.subject_eq_or_isHostedIri (h : Account v terms specs root statements) {t : Statement}
    (ht : t ∈ statements) : t.subject = root ∨ Uri.isHostedIri t.subject = true := by
  induction h with
  | nothing root => exact absurd ht List.not_mem_nil
  | append _ _ iha ihb =>
      rcases List.mem_append.mp ht with ha | hb
      · exact iha ha
      · exact ihb hb
  | value _ => exact Or.inl (by rw [List.mem_singleton.mp ht])
  | link _ => exact Or.inl (by rw [List.mem_singleton.mp ht])
  | @described root predicate uri type spec text rest _ hUri _ _ ih =>
      have hHosted : Uri.isHostedIri uri = true := by
        unfold objectUri at hUri
        split at hUri
        · next h => rwa [← Object.iri.inj hUri]
        · simp at hUri
      rcases List.mem_cons.mp ht with rfl | ht
      · exact Or.inl rfl
      rcases List.mem_cons.mp ht with rfl | ht
      · exact Or.inr hHosted
      rcases ih ht with hSubject | hOther
      · exact Or.inr (hSubject ▸ hHosted)
      · exact Or.inr hOther

theorem isHostedIri_eq_false_of_isLiteral {value base : String}
    (h : (objectUri value base).isLiteral = true) : Uri.isHostedIri (base ++ value) = false := by
  unfold objectUri at h
  split at h
  · simp [Object.isLiteral] at h
  · next hHost => exact Bool.eq_false_iff.mpr hHost

/-! ## Records -/

namespace Converter

/-- The classes of a record describe nothing but the record. -/
theorem subject_of_mem_typeStatements {c : Converter} {r : Record} {t : Statement}
    (h : t ∈ c.typeStatements r) : t.subject = c.subjectOf r := by
  obtain ⟨type, -, rfl⟩ := List.mem_map.mp h
  rfl

/-- **No node comes from nowhere.**  In a conversion every node but the record is introduced: the first
statement about it is its class, right behind a statement whose object it is.  What a statement is about is
reached from the record through the statements before it.  And nothing is said about a text that did not
become a URI, unless the record itself has this text as its URI. -/
theorem convert_introduces_nodes {c : Converter} {r : Record} {statements : List Statement}
    (h : c.convert r = .ok statements) :
    (∀ node, node ≠ c.subjectOf r → IsDescribed statements node → IsIntroduced statements node) ∧
    (∀ i t, statements[i]? = some t → Reaches (statements.take i) (c.subjectOf r) t.subject) ∧
    ∀ value base, (objectUri value base).isLiteral = true → IsDescribed statements (base ++ value) →
      base ++ value = c.subjectOf r := by
  obtain ⟨rest, rfl, hAccount⟩ := account_of_convert h
  refine ⟨fun node hNode hDescribed => ?_, fun i t hAt => ?_, ?_⟩
  · refine isIntroduced_append (fun hTypes => ?_) (hAccount.isIntroduced hNode) hDescribed
    obtain ⟨t, ht, rfl⟩ := hTypes
    exact absurd (subject_of_mem_typeStatements ht) hNode
  · refine reaches_append (fun j u hu => ?_) hAccount.reaches hAt
    rw [subject_of_mem_typeStatements (List.mem_of_getElem? hu)]
    exact .root
  · rintro value base hLiteral ⟨t, ht, hSubject⟩
    have hNoHost := isHostedIri_eq_false_of_isLiteral hLiteral
    rcases List.mem_append.mp ht with hType | hRest
    · rw [← hSubject, subject_of_mem_typeStatements hType]
    · rcases hAccount.subject_eq_or_isHostedIri hRest with hRoot | hHosted
      · exact hSubject.symm.trans hRoot
      · rw [hSubject, hNoHost] at hHosted
        exact absurd hHosted (by simp)

/-- A topic with a broader one below it, and a topic whose name makes no URI: the broader topic comes in
with the first topic, and about the second one nothing is said. -/
theorem convert_introduces_nodes_topics :
    let broader : SubfieldRule :=
      .related ⟨"a", .fixed (.iri "urn:broader"), { base := "urn://topics/" }⟩ (.iri "urn:Topic") []
    let topic : SubfieldRule :=
      .related ⟨"x", .fixed (.iri "urn:topic"), { base := "urn://topics/" }⟩ (.iri "urn:Topic") [broader]
    let c : Converter := ⟨⟨[⟨"650", .data [topic]⟩]⟩, .core, "placeholder.com", ["urn:Book"]⟩
    let r := Record.ofFields
      [.data ⟨"650", ' ', '0', [⟨'a', "animals"⟩, ⟨'x', "cats"⟩, ⟨'x', "wet newts"⟩]⟩]
    let statements : List Statement := [
      typeStatement (c.subjectOf r) "urn:Book",
      ⟨c.subjectOf r, "urn:topic", .iri "urn://topics/cats"⟩,
      typeStatement "urn://topics/cats" "urn:Topic",
      ⟨"urn://topics/cats", "urn:broader", .iri "urn://topics/animals"⟩,
      typeStatement "urn://topics/animals" "urn:Topic",
      ⟨c.subjectOf r, "urn:topic", .plain "urn://topics/wet newts"⟩]
    c.convert r = .ok statements ∧
      ("urn://topics/animals" ≠ c.subjectOf r ∧ IsDescribed statements "urn://topics/animals" ∧
        IsIntroduced statements "urn://topics/animals") ∧
      Reaches (statements.take 4) (c.subjectOf r) "urn://topics/animals" ∧
      (objectUri "wet newts" "urn://topics/").isLiteral = true ∧
        ¬IsDescribed statements "urn://topics/wet newts" := by
  intro broader topic c r statements
  have hConvert : c.convert r = .ok statements := by
    rw [convert, Assertions.outcome_eq_ok_iff]
    decide +kernel
  obtain ⟨hIntroduced, hReaches, hLiteral⟩ := convert_introduces_nodes hConvert
  have hAnimals : "urn://topics/animals" ≠ c.subjectOf r := by decide +kernel
  have hNewts : "urn://topics/" ++ "wet newts" ≠ c.subjectOf r := by decide +kernel
  have hDescribed : IsDescribed statements "urn://topics/animals" :=
    ⟨typeStatement "urn://topics/animals" "urn:Topic", by simp [statements], rfl⟩
  have hNoUri : (objectUri "wet newts" "urn://topics/").isLiteral = true := by decide +kernel
  refine ⟨hConvert, ⟨hAnimals, hDescribed, hIntroduced _ hAnimals hDescribed⟩, ?_, hNoUri, ?_⟩
  · exact hReaches 4 (typeStatement "urn://topics/animals" "urn:Topic") rfl
  · exact fun hNode => hNewts (hLiteral "wet newts" "urn://topics/" hNoUri hNode)

end Converter

end CatalogGraph.Conversion
