import CatalogGraph.Mapping.Document
import Mathlib.Data.List.Induction

/-!
# Vocabularies built step by step

A vocabulary is built on the core by binding one label, several labels, or all labels of another vocabulary,
in any order.  Each of these steps binds some pairs one after the other (`Step.apply_eq_bindAll`), so a whole
build is one list of pairs (`build_eq_bindAll`), and the final table is told from that list:

* `namespace?_bindAll` — a label has the namespace that it was bound to last, in whatever case of its ASCII
  letters, or else the one it had before;
* `labels_bindAll` — the old labels keep their places, the new ones follow in the order in which they were
  first bound;
* `HasSmallLabels` — every label that is ever bound is put into lower case.

The vocabulary of a mapping document is built in this way as well (`Mapping.Document.vocabulary_eq_bindAll`).
-/

namespace CatalogGraph

open Text

namespace Vocabulary

/-! ## Binding several labels -/

/-- The labels in the order in which they were first bound. -/
def labels (v : Vocabulary) : List String := v.bindings.keys

/-- Every label is without capitals of ASCII. -/
def HasSmallLabels (v : Vocabulary) : Prop :=
  ∀ label ∈ v.labels, ∀ c ∈ label.toList, c.isUpper = false

instance (v : Vocabulary) : Decidable v.HasSmallLabels :=
  decidable_of_iff (v.labels.all fun label => label.toList.all (! ·.isUpper)) (by simp [HasSmallLabels])

/-- What a label was bound to last among some pairs, in whatever case of its ASCII letters. -/
def lastBinding? (pairs : List (String × String)) (label : String) : Option String :=
  (pairs.reverse.find? fun pair => lowercaseAscii pair.1 == lowercaseAscii label).map Prod.snd

variable {v : Vocabulary}

/-- Binding gives values to the labels in lower case. -/
theorem bindings_bindAll (v : Vocabulary) (pairs : List (String × String)) :
    (v.bindAll pairs).bindings =
      v.bindings.insertAll (pairs.map fun pair => (lowercaseAscii pair.1, pair.2)) := by
  induction pairs generalizing v with
  | nil => rfl
  | cons pair rest ih => exact ih (v.bind pair.1 pair.2)

theorem bindAll_append (v : Vocabulary) (pairs more : List (String × String)) :
    v.bindAll (pairs ++ more) = (v.bindAll pairs).bindAll more :=
  List.foldl_append ..

/-- The last binding of a label counts, or else what was bound before. -/
theorem namespace?_bindAll (v : Vocabulary) (pairs : List (String × String)) (label : String) :
    (v.bindAll pairs).namespace? label = (lastBinding? pairs label).or (v.namespace? label) := by
  rw [namespace?, bindings_bindAll, OrderedMap.find?_insertAll, ← List.map_reverse, List.find?_map,
    Option.map_map]
  rfl

/-- Old labels keep their places, and new ones follow in the order in which they were first bound. -/
theorem labels_bindAll (v : Vocabulary) (pairs : List (String × String)) :
    (v.bindAll pairs).labels =
      v.labels ++
        ((pairs.map fun pair => lowercaseAscii pair.1).filter (!v.labels.contains ·)).eraseDups := by
  rw [labels, bindings_bindAll, OrderedMap.keys_insertAll, List.map_map]
  rfl

theorem HasSmallLabels.bindAll (h : v.HasSmallLabels) (pairs : List (String × String)) :
    (v.bindAll pairs).HasSmallLabels := by
  intro label hLabel
  rw [labels_bindAll, List.mem_append, List.mem_eraseDups, List.mem_filter, List.mem_map] at hLabel
  rcases hLabel with hOld | ⟨⟨pair, -, rfl⟩, -⟩
  · exact h label hOld
  · exact isUpper_of_mem_lowercaseAscii pair.1

/-- In a vocabulary without capitals every label is bound once, so its last binding is its namespace. -/
theorem HasSmallLabels.lastBinding?_toList (h : v.HasSmallLabels) (label : String) :
    lastBinding? v.toList label = v.namespace? label := by
  have hPairs : (v.toList.map fun pair => (lowercaseAscii pair.1, pair.2)) = v.toList := by
    refine (List.map_congr_left fun pair hPair => ?_).trans (List.map_id _)
    rw [lowercaseAscii_eq_self (h pair.1 (List.mem_map_of_mem hPair))]
    rfl
  have hMade : (⟨.empty⟩ : Vocabulary).bindAll v.toList = v := by
    have hBindings := bindings_bindAll ⟨.empty⟩ v.toList
    rw [hPairs] at hBindings
    exact congrArg Vocabulary.mk (hBindings.trans v.bindings.ofList_entries)
  calc lastBinding? v.toList label
      = (lastBinding? v.toList label).or ((⟨.empty⟩ : Vocabulary).namespace? label) :=
        Option.or_none.symm
    _ = v.namespace? label := by rw [← namespace?_bindAll, hMade]

/-! ## Steps -/

/-- A step in building a vocabulary. -/
inductive Step
  | bind (label iri : String)
  | bindAll (pairs : List (String × String))
  | extend (other : Vocabulary)

namespace Step

/-- The vocabulary after the step. -/
def apply (v : Vocabulary) : Step → Vocabulary
  | bind label iri => v.bind label iri
  | bindAll pairs => v.bindAll pairs
  | extend other => v.extend other

/-- What the step binds, one after the other. -/
def pairs : Step → List (String × String)
  | bind label iri => [(label, iri)]
  | bindAll pairs => pairs
  | extend other => other.toList

/-- Whatever the step, it binds its pairs. -/
theorem apply_eq_bindAll (v : Vocabulary) (step : Step) : step.apply v = v.bindAll step.pairs := by
  cases step with
  | bind label iri => rfl
  | bindAll pairs => rfl
  | extend other => rfl

end Step

/-- The vocabulary that some steps build on the core. -/
def build (steps : List Step) : Vocabulary := steps.foldl Step.apply core

/-- A build binds the pairs of its steps. -/
theorem build_eq_bindAll (steps : List Step) : build steps = core.bindAll (steps.flatMap Step.pairs) := by
  unfold build
  induction steps using List.reverseRecOn with
  | nil => rfl
  | append_singleton steps step ih =>
      rw [List.foldl_append, List.foldl_cons, List.foldl_nil, ih, Step.apply_eq_bindAll, List.flatMap_append,
        List.flatMap_singleton, bindAll_append]

theorem hasSmallLabels_core : core.HasSmallLabels := by
  decide +kernel

end Vocabulary

/-- The vocabulary of a document binds the labels of the base, and then those of the document. -/
theorem Mapping.Document.vocabulary_eq_bindAll (d : Mapping.Document) (base : Vocabulary) :
    d.vocabulary base = Vocabulary.core.bindAll (base.toList ++ d.bindings.entries) :=
  (Vocabulary.bindAll_append ..).symm

namespace Vocabulary

/-- **A vocabulary is what its bindings say.**  Build a vocabulary on the core by any steps.  Then every label
stands in it once and without capitals.  A label has the namespace that it was bound to last in whatever case of
its ASCII letters, or else that of the core, or none.  The five labels of the core come first, and then the others
in the order in which they were first bound, so binding a label again leaves it in its place; each stands there
with its namespace, and there is always one.  So for a document and any base whose labels are without capitals, as
those of every built vocabulary are, a label has the last namespace that the document gives it, or else the one of
the base, or else that of the core. -/
theorem namespace?_build (steps : List Step) :
    let bound := steps.flatMap Step.pairs
    let v := build steps
    (v.labels.Nodup ∧ v.HasSmallLabels) ∧
      (∀ label, v.namespace? label = (lastBinding? bound label).or (core.namespace? label)) ∧
      v.labels = ["rdf", "rdfs", "xsd", "dc", "bibo"] ++
        ((bound.map fun pair => lowercaseAscii pair.1).filter
          (! ["rdf", "rdfs", "xsd", "dc", "bibo"].contains ·)).eraseDups ∧
      (∀ pair ∈ v.toList, v.namespace? pair.1 = some pair.2) ∧ 0 < v.size ∧
      ∀ (d : Mapping.Document) (base : Vocabulary), base.HasSmallLabels → ∀ label,
        (d.vocabulary base).namespace? label =
          ((lastBinding? d.bindings.entries label).or (base.namespace? label)).or
            (core.namespace? label) := by
  intro bound v
  have hBuild : v = core.bindAll bound := build_eq_bindAll steps
  have hCore : core.labels = ["rdf", "rdfs", "xsd", "dc", "bibo"] := rfl
  have hSmall : v.HasSmallLabels := hBuild ▸ hasSmallLabels_core.bindAll bound
  have hLabels : v.labels = ["rdf", "rdfs", "xsd", "dc", "bibo"] ++
      ((bound.map fun pair => lowercaseAscii pair.1).filter
        (! ["rdf", "rdfs", "xsd", "dc", "bibo"].contains ·)).eraseDups := by
    rw [hBuild, labels_bindAll, hCore]
  refine ⟨⟨v.bindings.nodup, hSmall⟩, fun label => ?_, hLabels, fun pair hPair => ?_, ?_, ?_⟩
  · rw [hBuild, namespace?_bindAll]
  · have hLabel : pair.1 ∈ v.labels := List.mem_map_of_mem hPair
    rw [namespace?, lowercaseAscii_eq_self (hSmall pair.1 hLabel)]
    exact OrderedMap.find?_of_mem hPair
  · have hSize : v.size = v.labels.length := (List.length_map _).symm
    rw [hSize, hLabels, List.length_append]
    exact Nat.add_pos_left (by decide) _
  · intro d base hBase label
    rw [d.vocabulary_eq_bindAll, bindAll_append, namespace?_bindAll, namespace?_bindAll,
      hBase.lastBinding?_toList, Option.or_assoc]

/-- A core label and a new one are bound in several spellings, the new one by three steps.  A base that has
one label only leaves the others to the core. -/
theorem namespace?_build_spellings :
    let other : Vocabulary := ⟨.ofList [("EX", "urn:c#"), ("Dc", "urn:dc#")]⟩
    let steps : List Step := [.bind "Ex" "urn:a#", .bindAll [("zz", "urn:z#"), ("eX", "urn:b#")], .extend other]
    let base : Vocabulary := ⟨.ofList [("ex", "urn:base#")]⟩
    let d : Mapping.Document := { bindings := .ofList [("ZZ", "urn:d1#"), ("Zz", "urn:d2#")] }
    (build steps).labels = ["rdf", "rdfs", "xsd", "dc", "bibo", "ex", "zz"] ∧
      (build steps).namespace? "EX" = some "urn:c#" ∧ (build steps).namespace? "dC" = some "urn:dc#" ∧
      (build steps).namespace? "BIBO" = some "http://purl.org/ontology/bibo/" ∧
      base.HasSmallLabels ∧
      (d.vocabulary base).namespace? "zZ" = some "urn:d2#" ∧
      (d.vocabulary base).namespace? "EX" = some "urn:base#" ∧
      (d.vocabulary base).namespace? "DC" = some "http://purl.org/dc/terms/" := by
  intro other steps base d
  have hBase : base.HasSmallLabels := by decide +kernel
  obtain ⟨-, hNamespace, hLabels, -, -, hDocument⟩ := namespace?_build steps
  refine ⟨hLabels.trans (by decide +kernel), (hNamespace "EX").trans (by decide +kernel),
    (hNamespace "dC").trans (by decide +kernel), (hNamespace "BIBO").trans (by decide +kernel), hBase, ?_⟩
  exact ⟨(hDocument d base hBase "zZ").trans (by decide +kernel),
    (hDocument d base hBase "EX").trans (by decide +kernel),
    (hDocument d base hBase "DC").trans (by decide +kernel)⟩

end Vocabulary

end CatalogGraph
