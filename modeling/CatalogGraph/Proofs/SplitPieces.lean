import CatalogGraph.Conversion.Pipeline
import CatalogGraph.Proofs.MatchPlaces

/-!
# Pieces of a split value

A value that is split at some matches becomes the texts of the gaps around the matches, with the texts of the groups
of each match between the gaps at its sides (`splitAt_eq_alternate`).  Of matches that lie in order

* all gaps lie in the value (`gaps_within`), so none is cut at a place before its start or behind the value;
* gaps and matches make up the value (`drop_eq_alternate`), so of a value only what the matches hold outside of their
  groups is lost, and only what groups share is repeated.

Whether a gap is empty makes no difference here; blank pieces are dropped later.
-/

namespace CatalogGraph.Conversion

open CatalogGraph.Mapping
open CatalogGraph.Regex (Match Span matchesIn InOrder inOrder_cons_iff inOrder_matchesIn)

variable {α β γ δ : Type}

/-- The lists for some things, with the lists for others in between: first that of `a`, then that of `b`, and so on.
There is one `a` more than there are `b`s. -/
def alternate (f : α → List γ) (g : β → List γ) : List α → List β → List γ
  | a :: as, b :: bs => f a ++ g b ++ alternate f g as bs
  | as, _ => as.flatMap f

theorem flatMap_alternate (h : γ → List δ) (f : α → List γ) (g : β → List γ) (as : List α) (bs : List β) :
    (alternate f g as bs).flatMap h =
      alternate (fun a => (f a).flatMap h) (fun b => (g b).flatMap h) as bs := by
  fun_induction alternate f g as bs with
  | case1 a as b bs ih => rw [List.flatMap_append, List.flatMap_append, ih, alternate]
  | case2 as bs hNotBoth =>
      rw [alternate, List.flatMap_assoc]
      exact hNotBoth

theorem alternate_congr {f : α → List γ} {g g' : β → List γ} (as : List α) {bs : List β}
    (h : ∀ b ∈ bs, g b = g' b) : alternate f g as bs = alternate f g' as bs := by
  induction bs generalizing as with
  | nil => cases as <;> rfl
  | cons b bs ih =>
      obtain ⟨hFirst, hRest⟩ := List.forall_mem_cons.mp h
      cases as with
      | nil => rfl
      | cons a as => rw [alternate, alternate, hFirst, ih as hRest]

/-- The gaps around some matches between two places: each reaches from the end of a match to the start of the next
one. -/
def gaps (first last : Nat) (ms : List Match) : List Span :=
  List.zipWith Span.mk (first :: ms.map (·.span.stop)) (ms.map (·.span.start) ++ [last])

theorem gaps_nil (first last : Nat) : gaps first last [] = [⟨first, last⟩] := rfl

theorem gaps_cons (first last : Nat) (m : Match) (ms : List Match) :
    gaps first last (m :: ms) = ⟨first, m.span.start⟩ :: gaps m.span.stop last ms := rfl

theorem length_gaps (first last : Nat) (ms : List Match) : (gaps first last ms).length = ms.length + 1 := by
  simp [gaps]

variable {text : List Char} {ms : List Match} {first last : Nat}

theorem gaps_within (hFirst : first ≤ last) (h : InOrder first last ms) :
    ∀ gap ∈ gaps first last ms, gap.Within first last := by
  induction ms generalizing first with
  | nil => exact List.forall_mem_singleton.mpr ⟨Nat.le_refl first, hFirst, Nat.le_refl last⟩
  | cons m ms ih =>
      obtain ⟨hMatch, hRest⟩ := inOrder_cons_iff.mp h
      have hSpan := hMatch.span
      have hLater := ih hSpan.stop_le hRest
      have hBehind : first ≤ m.span.stop := Nat.le_trans hSpan.first_le hSpan.start_le_stop
      refine List.forall_mem_cons.mpr ⟨?_, fun gap hGap => (hLater gap hGap).mono hBehind (Nat.le_refl last)⟩
      exact ⟨Nat.le_refl first, hSpan.first_le, Nat.le_trans hSpan.start_le_stop hSpan.stop_le⟩

/-- What is from the start of a span on is the span, and what is from its end on. -/
theorem chars_append_drop {s : Span} (h : s.start ≤ s.stop) (text : List Char) :
    s.chars text ++ text.drop s.stop = text.drop s.start := by
  have hStop : s.start + (s.stop - s.start) = s.stop := Nat.add_sub_cancel' h
  rw [Span.chars, ← hStop, ← List.drop_drop, Nat.add_sub_cancel_left, List.take_append_drop]

theorem chars_to_end (text : List Char) (first : Nat) :
    (Span.mk first text.length).chars text = text.drop first := by
  rw [Span.chars, List.take_of_length_le (Nat.le_of_eq List.length_drop)]

/-- Gaps and matches make up the text. -/
theorem drop_eq_alternate (h : InOrder first text.length ms) :
    text.drop first =
      alternate (·.chars text) (·.span.chars text) (gaps first text.length ms) ms := by
  induction ms generalizing first with
  | nil => rw [gaps_nil, alternate, List.flatMap_singleton, chars_to_end]; simp
  | cons m ms ih =>
      obtain ⟨hMatch, hRest⟩ := inOrder_cons_iff.mp h
      have hGap := chars_append_drop (s := ⟨first, m.span.start⟩) hMatch.span.first_le text
      rw [gaps_cons, alternate, ← ih hRest, List.append_assoc, chars_append_drop hMatch.span.start_le_stop, hGap]

/-- The texts of the groups that took part in a match, in the order of the groups. -/
theorem groupTexts_eq_map_reduceOption (text : List Char) (m : Match) :
    groupTexts text m = m.groups.reduceOption.map (·.text text) := by
  have hTaken : m.groups.reduceOption = m.groups.filterMap id := rfl
  rw [groupTexts, hTaken, List.map_filterMap]
  rfl

theorem splitAt_eq_alternate (text : List Char) (first : Nat) (ms : List Match) :
    splitAt text first ms = alternate (fun gap => [gap.text text])
      (fun m => m.groups.reduceOption.map (·.text text)) (gaps first text.length ms) ms := by
  induction ms generalizing first with
  | nil => rw [gaps_nil, alternate, List.flatMap_singleton, Span.text, chars_to_end, splitAt]; simp
  | cons m ms ih => rw [gaps_cons, alternate, ← ih, splitAt, groupTexts_eq_map_reduceOption]; rfl

/-- The pieces make up the text again, if each match is one group. -/
theorem join_splitAt (hOrder : InOrder first text.length ms) (hGroups : ∀ m ∈ ms, m.groups.reduceOption = [m.span]) :
    String.join (splitAt text first ms) = String.ofList (text.drop first) := by
  have hGroup : ∀ m ∈ ms,
      (m.groups.reduceOption.map (·.text text)).flatMap String.toList = m.span.chars text := by
    intro m hm
    rw [hGroups m hm, List.map_singleton, List.flatMap_singleton, Span.text, String.toList_ofList]
  apply String.toList_injective
  rw [String.toList_join, splitAt_eq_alternate, flatMap_alternate, alternate_congr _ hGroup, String.toList_ofList,
    drop_eq_alternate hOrder]
  simp only [List.flatMap_singleton, Span.text, String.toList_ofList]

/-- **Splitting conserves the value.**  Of matches that lie in a value one behind the other, with their groups inside
of them, the value is made up of the gaps around them and of the matches, by turns, and no gap reaches out of the
value.  The pieces are these gaps and, by turns, the groups that took part in each match.  So the pieces make up the
value if each match is exactly one group.  This is how a value is split at the matches of any pattern, and those lie
so. -/
theorem split_conserves_value (value : String) :
    (∀ pattern, InOrder 0 value.toList.length (matchesIn pattern value.toList) ∧
      extract value (.split pattern) = splitAt value.toList 0 (matchesIn pattern value.toList)) ∧
    ∀ ms, InOrder 0 value.toList.length ms →
      (gaps 0 value.toList.length ms).length = ms.length + 1 ∧
      (∀ gap ∈ gaps 0 value.toList.length ms, gap.Within 0 value.toList.length) ∧
      splitAt value.toList 0 ms = alternate (fun gap => [gap.text value.toList])
        (fun m => m.groups.reduceOption.map (·.text value.toList)) (gaps 0 value.toList.length ms) ms ∧
      value.toList = alternate (·.chars value.toList) (·.span.chars value.toList)
        (gaps 0 value.toList.length ms) ms ∧
      ((∀ m ∈ ms, m.groups.reduceOption = [m.span]) → String.join (splitAt value.toList 0 ms) = value) := by
  refine ⟨fun pattern => ⟨inOrder_matchesIn pattern value.toList, rfl⟩, fun ms hOrder => ?_⟩
  refine ⟨length_gaps _ _ ms, gaps_within (Nat.zero_le _) hOrder, splitAt_eq_alternate _ 0 ms, ?_, ?_⟩
  · exact drop_eq_alternate hOrder
  · intro hGroups
    rw [join_splitAt hOrder hGroups, List.drop_zero, String.ofList_toList]

/-- A value with two hyphens side by side.  Where only digits are a group, the hyphens are lost; where each match is a
group, nothing is. -/
theorem split_conserves_value_hyphens :
    let digits : Regex := (Regex.compile? "([0-9])|-").get (by decide +kernel)
    let all : Regex := (Regex.compile? "([0-9]|-)").get (by decide +kernel)
    let value := "a1b--c"
    extract value (.split digits) = ["a", "1", "b", "", "c"] ∧
      InOrder 0 value.toList.length (matchesIn all value.toList) ∧
      (∀ m ∈ matchesIn all value.toList, m.groups.reduceOption = [m.span]) ∧
      extract value (.split all) = ["a", "1", "b", "-", "", "-", "c"] ∧
      String.join (extract value (.split all)) = value := by
  intro digits all value
  have hDigits : extract value (.split digits) = ["a", "1", "b", "", "c"] := by decide +kernel
  have hPieces : extract value (.split all) = ["a", "1", "b", "-", "", "-", "c"] := by decide +kernel
  have hGroups : ∀ m ∈ matchesIn all value.toList, m.groups.reduceOption = [m.span] := by decide +kernel
  -- from here on the patterns do not count
  clear_value digits all
  obtain ⟨hSplit, hConserves⟩ := split_conserves_value value
  obtain ⟨hOrder, hExtract⟩ := hSplit all
  obtain ⟨-, -, -, -, hJoin⟩ := hConserves _ hOrder
  refine ⟨hDigits, hOrder, hGroups, hPieces, ?_⟩
  rw [hExtract]
  exact hJoin hGroups

end CatalogGraph.Conversion
