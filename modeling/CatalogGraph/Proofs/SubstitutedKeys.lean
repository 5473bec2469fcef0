import CatalogGraph.Proofs.ChosenPredicates
import Mathlib.Data.List.Forall2

/-!
# Substituted keys

What a table finds in a text is told from the keys that the matches in it stand for (`StandsFor`), and from
nothing else:

* `lookup_eq_error_iff` — it fails exactly if it lacks one of the keys, and the first of these is told;
* `lookup_eq_of_getLast?` — if it has them all, the entry of the last one is found;
* `lookup_congr` — tables that have the same for each of the keys find the same, whatever else is in them.

The matches may be empty or repeat a key; no bound is set to their number.
-/

namespace CatalogGraph

theorem OrderedMap.isNone_find?_iff {α : Type} {m : OrderedMap α} {key : String} :
    (m.find? key).isNone = true ↔ key ∉ m.keys := by
  rw [Option.isNone_iff_eq_none]
  constructor
  · intro h hMem
    obtain ⟨entry, hEntry, rfl⟩ := List.mem_map.mp hMem
    exact absurd (find?_of_mem hEntry) (by simp [h])
  · intro h
    by_contra hSome
    obtain ⟨value, hValue⟩ := Option.ne_none_iff_exists'.mp hSome
    exact h (mem_keys_of_find? hValue)

namespace Mapping

open CatalogGraph.Regex (Match Span matchesIn)

/-- A match stands for the text of its first group if that took part, and otherwise for its whole text. -/
inductive StandsFor (text : List Char) (m : Match) : String → Prop
  | firstGroup (group : Span) (h : m.groups[0]? = some (some group)) : StandsFor text m (group.text text)
  | whole (h : ∀ group, m.groups[0]? ≠ some (some group)) : StandsFor text m (m.span.text text)

theorem standsFor_iff {text : List Char} {m : Match} {key : String} :
    StandsFor text m key ↔ key = keyOf text m := by
  rw [keyOf, List.head?_eq_getElem?]
  constructor
  · intro h
    cases h with
    | firstGroup group h => rw [h]
    | whole h =>
        split
        · next group hGroup => exact absurd hGroup (h group)
        · rfl
  · rintro rfl
    split
    · next group hGroup => exact .firstGroup group hGroup
    · next hNone => exact .whole hNone

/-- The keys that some matches stand for, one for each of them and in their order. -/
theorem forall₂_standsFor_iff {text : List Char} {ms : List Match} {keys : List String} :
    List.Forall₂ (StandsFor text) ms keys ↔ keys = ms.map (keyOf text) := by
  induction ms generalizing keys with
  | nil => exact List.forall₂_nil_left_iff
  | cons m ms ih =>
      rw [List.forall₂_cons_left_iff, List.map_cons]
      simp only [standsFor_iff, ih]
      constructor
      · rintro ⟨key, rest, rfl, rfl, rfl⟩
        rfl
      · rintro rfl
        exact ⟨_, _, rfl, rfl, rfl⟩

namespace Substitutions

variable {α : Type} {t u : Substitutions α} {input : String}

/-- The first key that a table lacks, with all keys before it found. -/
theorem firstMissing?_eq_some_iff {key : String} :
    t.firstMissing? input = some key ↔ ∃ before after, t.keysIn input = before ++ key :: after ∧
      (∀ k ∈ before, k ∈ t.replacements.keys) ∧ key ∉ t.replacements.keys := by
  have hFound (k : String) :
      (!(t.replacements.find? k).isNone) = true ↔ k ∈ t.replacements.keys := by
    rw [Bool.not_eq_true', ← Bool.not_eq_true, OrderedMap.isNone_find?_iff, not_not]
  rw [firstMissing?, List.find?_eq_some_iff_append]
  simp only [OrderedMap.isNone_find?_iff, hFound]
  constructor
  · rintro ⟨hMissing, before, after, hKeys, hBefore⟩
    exact ⟨before, after, hKeys, hBefore, hMissing⟩
  · rintro ⟨before, after, hKeys, hBefore, hMissing⟩
    exact ⟨hMissing, before, after, hKeys, hBefore⟩

theorem firstMissing?_eq_none (h : ∀ key ∈ t.keysIn input, key ∈ t.replacements.keys) :
    t.firstMissing? input = none := by
  rw [firstMissing?, List.find?_eq_none]
  intro key hKey hMissing
  exact OrderedMap.isNone_find?_iff.mp hMissing (h key hKey)

/-- A table fails exactly if it lacks a key in the text, and tells the first such key. -/
theorem lookup_eq_error_iff {fault : Fault} :
    t.lookup input = .error fault ↔
      ∃ key, t.firstMissing? input = some key ∧ fault = Cause.missingSubstitution key := by
  cases hFirst : t.firstMissing? input with
  | none => simp [lookup_of_found hFirst]
  | some key =>
      rw [lookup_of_missing hFirst]
      constructor
      · rintro ⟨⟩
        exact ⟨key, rfl, rfl⟩
      · rintro ⟨key', hKey, rfl⟩
        rw [Option.some.inj hKey]

theorem lookup_of_keysIn_eq_nil (h : t.keysIn input = []) : t.lookup input = .ok none := by
  rw [lookup, h, replaceKeys]

/-- If a table has all keys in the text, it finds the entry of the last one. -/
theorem lookup_eq_of_getLast? {last : String} (hLast : (t.keysIn input).getLast? = some last)
    (h : ∀ key ∈ t.keysIn input, key ∈ t.replacements.keys) :
    ∃ value, (last, value) ∈ t.replacements.entries ∧ t.lookup input = .ok (some value) := by
  have hMem : last ∈ t.replacements.keys := h last (List.mem_of_getLast? hLast)
  obtain ⟨⟨key, value⟩, hEntry, rfl⟩ := List.mem_map.mp hMem
  refine ⟨value, hEntry, ?_⟩
  rw [lookup_of_found (firstMissing?_eq_none h), lastHit?, hLast, Option.bind_some,
    OrderedMap.find?_of_mem hEntry]

theorem replaceKeys_congr {keys : List String}
    (h : ∀ key ∈ keys, u.replacements.find? key = t.replacements.find? key) (found : Option α) :
    u.replaceKeys keys found = t.replaceKeys keys found := by
  induction keys generalizing found with
  | nil => rfl
  | cons key keys ih =>
      obtain ⟨hKey, hRest⟩ := List.forall_mem_cons.mp h
      rw [replaceKeys, replaceKeys, hKey]
      cases t.replacements.find? key with
      | none => rfl
      | some value => exact ih hRest (some value)

/-- Only the entries of the keys in the text count. -/
theorem lookup_congr (hPattern : u.pattern = t.pattern)
    (h : ∀ key ∈ t.keysIn input, u.replacements.find? key = t.replacements.find? key) :
    u.lookup input = t.lookup input := by
  have hSame : u.keysIn input = t.keysIn input := by rw [keysIn, keysIn, hPattern]
  rw [lookup, lookup, hSame, replaceKeys_congr h]

/-- **A table answers by the keys in a text.**  It fails exactly if one of them has no entry, with the first such
key, even if keys behind it have one.  Otherwise the entry of the last key is found, or nothing where there is no
match.  Any other table with the same entries for these keys gives the same answer: entries of other keys may be
added, changed or taken away. -/
theorem lookup_by_keys (t : Substitutions α) (input : String) {keys : List String}
    (hKeys : List.Forall₂ (StandsFor input.toList) (matchesIn t.pattern input.toList) keys) :
    (∀ fault, t.lookup input = .error fault ↔
      ∃ before key after, keys = before ++ key :: after ∧ (∀ k ∈ before, k ∈ t.replacements.keys) ∧
        key ∉ t.replacements.keys ∧ fault = Cause.missingSubstitution key) ∧
    ((∀ key ∈ keys, key ∈ t.replacements.keys) →
      (keys = [] → t.lookup input = .ok none) ∧
      ∀ last, keys.getLast? = some last →
        ∃ value, (last, value) ∈ t.replacements.entries ∧ t.lookup input = .ok (some value)) ∧
    ∀ u : Substitutions α, u.pattern = t.pattern →
      (∀ key ∈ keys, u.replacements.find? key = t.replacements.find? key) →
      u.lookup input = t.lookup input := by
  obtain rfl : keys = t.keysIn input := forall₂_standsFor_iff.mp hKeys
  refine ⟨fun fault => ?_, fun h => ?_, fun u hPattern h => lookup_congr hPattern h⟩
  · rw [lookup_eq_error_iff]
    simp only [firstMissing?_eq_some_iff]
    constructor
    · rintro ⟨key, ⟨before, after, hSplit, hBefore, hMissing⟩, rfl⟩
      exact ⟨before, key, after, hSplit, hBefore, hMissing, rfl⟩
    · rintro ⟨before, key, after, hSplit, hBefore, hMissing, rfl⟩
      exact ⟨key, ⟨before, after, hSplit, hBefore, hMissing⟩, rfl⟩
  · exact ⟨lookup_of_keysIn_eq_nil, fun last hLast => lookup_eq_of_getLast? hLast h⟩

/-- In `1 red 1` the keys are a digit in the first group, a word outside of it, and the digit again: the last one
counts.  Without the word in the table it is told, though the digit behind it is there. -/
theorem lookup_by_keys_roles :
    let roles : Regex := (Regex.compile? "([0-9])|[a-z]+").get (by decide +kernel)
    let digits : OrderedMap String := .ofList [("1", "author"), ("2", "editor")]
    let both := digits.insert "red" "redactor"
    let changed := both.insert "2" "translator"
    let keys := ["1", "red", "1"]
    List.Forall₂ (StandsFor "1 red 1".toList) (matchesIn roles "1 red 1".toList) keys ∧
      (∀ key ∈ keys, key ∈ both.keys) ∧ lookup ⟨roles, both⟩ "1 red 1" = .ok (some "author") ∧
      (∀ key ∈ keys, changed.find? key = both.find? key) ∧
      lookup ⟨roles, changed⟩ "1 red 1" = lookup ⟨roles, both⟩ "1 red 1" ∧
      lookup ⟨roles, digits⟩ "1 red 1" = .error (Cause.missingSubstitution "red") := by
  intro roles digits both changed keys
  have hKeys : List.Forall₂ (StandsFor "1 red 1".toList) (matchesIn roles "1 red 1".toList) keys :=
    forall₂_standsFor_iff.mpr (by decide +kernel)
  have hFound : ∀ key ∈ keys, key ∈ both.keys := by decide +kernel
  have hAuthor : ∀ entry ∈ both.entries, entry.1 = "1" → entry.2 = "author" := by decide +kernel
  have hSame : ∀ key ∈ keys, changed.find? key = both.find? key := by decide +kernel
  have hDigit : ∀ key ∈ ["1"], key ∈ digits.keys := by decide +kernel
  have hWord : "red" ∉ digits.keys := by decide +kernel
  -- from here on only the keys and the entries count
  clear_value roles digits both changed
  obtain ⟨-, hLast, hCongr⟩ := lookup_by_keys ⟨roles, both⟩ "1 red 1" hKeys
  obtain ⟨hMissing, -, -⟩ := lookup_by_keys ⟨roles, digits⟩ "1 red 1" hKeys
  obtain ⟨value, hEntry, hValue⟩ := (hLast hFound).2 "1" rfl
  obtain rfl : value = "author" := hAuthor _ hEntry rfl
  refine ⟨hKeys, hFound, hValue, hSame, hCongr ⟨roles, changed⟩ rfl hSame, ?_⟩
  exact (hMissing _).mpr ⟨["1"], "red", ["1"], rfl, hDigit, hWord, rfl⟩

end Substitutions

end Mapping

end CatalogGraph
