import CatalogGraph.Text.White
import Mathlib.Data.List.TakeWhile

/-!
# Lists of characters

Letters and digits are none of the characters that texts are cut at (`ne_of_isAlphanum`), they are in ASCII
(`isAscii_of_isAlphanum`) and not white (`isWhite_of_isAlphanum`).  What stands before the first occurrence of a
character, and what is from there on (`takeWhile_append_cons`, `dropWhile_append_cons`).  A run of characters never
goes on beyond one that is not of its kind (`takeWhile_append_stop`, `dropWhile_append_stop`).  Functions that work in
rounds do not depend on the number of rounds (`eq_of_enough_rounds`).
-/

namespace CatalogGraph.Text

variable {sep : Char} {xs ys : List Char}

theorem ne_of_isAlphanum {c d : Char} (h : c.isAlphanum = true) (hd : d.isAlphanum = false) : c ≠ d := by
  rintro rfl
  rw [h] at hd
  exact absurd hd (by decide)

theorem toNat_of_isAlphanum {c : Char} (h : c.isAlphanum = true) : 48 ≤ c.toNat ∧ c.toNat ≤ 122 := by
  delta Char.isAlphanum Char.isAlpha Char.isUpper Char.isLower Char.isDigit at h
  simp only [Bool.or_eq_true, Bool.and_eq_true, decide_eq_true_eq, ge_iff_le, UInt32.le_iff_toNat_le] at h
  have hNat : c.toNat = c.val.toNat := rfl
  have hEnds : 'A'.val.toNat = 65 ∧ 'Z'.val.toNat = 90 ∧ 'a'.val.toNat = 97 ∧ 'z'.val.toNat = 122 ∧
      '0'.val.toNat = 48 ∧ '9'.val.toNat = 57 := by decide
  omega

theorem isAscii_of_isAlphanum {c : Char} (h : c.isAlphanum = true) : c.toNat < 0x80 :=
  Nat.lt_of_le_of_lt (toNat_of_isAlphanum h).2 (by decide)

theorem isWhite_of_isAlphanum {c : Char} (h : c.isAlphanum = true) : isWhite c = false := by
  have hRange := toNat_of_isAlphanum h
  have hSpace : c ≠ ' ' := ne_of_isAlphanum h (by decide)
  simp only [isWhite, Bool.or_eq_false_iff, Bool.and_eq_false_iff, beq_eq_false_iff_ne, decide_eq_false_iff_not,
    ne_eq, hSpace, not_false_eq_true, true_and]
  omega

theorem all_ne_of_notMem (h : sep ∉ xs) : ∀ c ∈ xs, (c != sep) = true :=
  fun _ hc => bne_iff_ne.mpr fun hSame => h (hSame ▸ hc)

theorem takeWhile_of_notMem (h : sep ∉ xs) : xs.takeWhile (· != sep) = xs :=
  List.takeWhile_eq_self_iff.mpr (all_ne_of_notMem h)

theorem takeWhile_append_cons (h : sep ∉ xs) : (xs ++ sep :: ys).takeWhile (· != sep) = xs := by
  rw [List.takeWhile_append_of_pos (all_ne_of_notMem h), List.takeWhile_cons_of_neg (by simp),
    List.append_nil]

theorem dropWhile_append_cons (h : sep ∉ xs) : (xs ++ sep :: ys).dropWhile (· != sep) = sep :: ys := by
  rw [List.dropWhile_append_of_pos (all_ne_of_notMem h), List.dropWhile_cons_of_neg (by simp)]

/-- Of characters before one that is not wanted, as many are taken as without it. -/
theorem takeWhile_append_stop {p : Char → Bool} {c : Char} (h : ¬p c = true) (cs more : List Char) :
    (cs ++ c :: more).takeWhile p = cs.takeWhile p := by
  induction cs with
  | nil => exact List.takeWhile_cons_of_neg h
  | cons d cs ih => rw [List.cons_append, List.takeWhile_cons, List.takeWhile_cons, ih]

theorem dropWhile_append_stop {p : Char → Bool} {c : Char} (h : ¬p c = true) (cs more : List Char) :
    (cs ++ c :: more).dropWhile p = cs.dropWhile p ++ c :: more := by
  induction cs with
  | nil => exact List.dropWhile_cons_of_neg h
  | cons d cs ih =>
      rw [List.cons_append, List.dropWhile_cons, List.dropWhile_cons, ih]
      split
      · rfl
      · rfl

theorem drop_length_takeWhile (p : Char → Bool) (cs : List Char) :
    cs.drop (cs.takeWhile p).length = cs.dropWhile p := by
  calc cs.drop (cs.takeWhile p).length
      = (cs.takeWhile p ++ cs.dropWhile p).drop (cs.takeWhile p).length := by
        rw [List.takeWhile_append_dropWhile]
    _ = cs.dropWhile p := List.drop_left

/-- A text is made up of what stands before its last characters of a kind, and of these. -/
theorem dropWhile_reverse_append (p : Char → Bool) (cs : List Char) :
    (cs.reverse.dropWhile p).reverse ++ (cs.reverse.takeWhile p).reverse = cs := by
  rw [← List.reverse_append, List.takeWhile_append_dropWhile, List.reverse_reverse]

/-- A function that works in rounds, each on fewer characters than the one before, comes to the same for any
numbers of rounds that are not less than the number of characters. -/
theorem eq_of_enough_rounds {β : Type} {f : Nat → List Char → β} (hNil : ∀ n m, f n [] = f m [])
    (hRound : ∀ n m c cs, (∀ ds : List Char, ds.length ≤ cs.length → f n ds = f m ds) →
      f (n + 1) (c :: cs) = f (m + 1) (c :: cs))
    {n m : Nat} {cs : List Char} (hn : cs.length ≤ n) (hm : cs.length ≤ m) : f n cs = f m cs := by
  induction n generalizing m cs with
  | zero =>
      obtain rfl := List.length_eq_zero_iff.mp (Nat.le_zero.mp hn)
      exact hNil 0 m
  | succ n ih =>
      cases cs with
      | nil => exact hNil (n + 1) m
      | cons c cs =>
          cases m with
          | zero => exact absurd hm (Nat.not_succ_le_zero _)
          | succ m =>
              refine hRound n m c cs fun ds hds => ih ?_ ?_
              · exact Nat.le_trans hds (Nat.le_of_succ_le_succ hn)
              · exact Nat.le_trans hds (Nat.le_of_succ_le_succ hm)

end CatalogGraph.Text
