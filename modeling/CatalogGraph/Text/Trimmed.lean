import CatalogGraph.Text.White
import Mathlib.Data.List.DropRight

/-!
# Trimmed characters

What trimming leaves neither begins nor ends with white space (`isTrimmed_trimChars`), and from such characters nothing
is taken away but white space around them (`IsTrimmed.trimChars_append`).  So nothing is left of white space alone
(`trimChars_eq_nil_iff`), and more white space around a text makes no difference (`trimChars_append`).
-/

namespace CatalogGraph.Text

variable {cs before after : List Char}

/-- There is no white space at either end. -/
structure IsTrimmed (cs : List Char) : Prop where
  start : ∀ c ∈ cs.head?, isWhite c = false
  stop : ∀ c ∈ cs.getLast?, isWhite c = false

theorem trimChars_eq_rdropWhile (cs : List Char) : trimChars cs = (cs.dropWhile isWhite).rdropWhile isWhite := rfl

/-- What trimming leaves begins and ends with a character that is not white. -/
theorem isTrimmed_trimChars (cs : List Char) : IsTrimmed (trimChars cs) where
  start c hc := by
    obtain ⟨more, hMore⟩ := List.rdropWhile_prefix isWhite (cs.dropWhile isWhite)
    have hHead : (cs.dropWhile isWhite).head? = some c := by
      rw [← hMore, List.head?_append, ← trimChars_eq_rdropWhile, Option.mem_def.mp hc, Option.some_or]
    simpa [hHead] using List.head?_dropWhile_not isWhite cs
  stop c hc := by
    obtain ⟨hNil, rfl⟩ := List.mem_getLast?_eq_getLast hc
    exact Bool.eq_false_iff.mpr (List.rdropWhile_last_not isWhite (cs.dropWhile isWhite) hNil)

/-- White space around trimmed characters is all that trimming takes away. -/
theorem IsTrimmed.trimChars_append (h : IsTrimmed cs) (hBefore : ∀ c ∈ before, isWhite c = true)
    (hAfter : ∀ c ∈ after, isWhite c = true) : trimChars (before ++ cs ++ after) = cs := by
  have hStop : (cs ++ after).rdropWhile isWhite = cs := by
    have hReverse : ∀ c ∈ after.reverse, isWhite c = true := fun c hc => hAfter c (List.mem_reverse.mp hc)
    rw [List.rdropWhile, List.reverse_append, List.dropWhile_append_of_pos hReverse]
    exact List.rdropWhile_eq_self_iff.mpr fun hNil =>
      Bool.eq_false_iff.mp (h.stop _ (List.getLast_mem_getLast? hNil))
  rw [trimChars_eq_rdropWhile, List.append_assoc, List.dropWhile_append_of_pos hBefore]
  cases cs with
  | nil => rw [List.nil_append, List.dropWhile_eq_nil_iff.mpr hAfter, List.rdropWhile_nil]
  | cons c rest =>
      rwa [List.cons_append, List.dropWhile_cons_of_neg (Bool.eq_false_iff.mp (h.start c rfl)), ← List.cons_append]

theorem IsTrimmed.trimChars_eq (h : IsTrimmed cs) : trimChars cs = cs := by
  simpa using h.trimChars_append (List.forall_mem_nil _) (List.forall_mem_nil _)

/-- Characters are what trimming leaves of them between white space. -/
theorem exists_append_trimChars (cs : List Char) :
    ∃ before after, cs = before ++ trimChars cs ++ after ∧ (∀ c ∈ before, isWhite c = true) ∧
      ∀ c ∈ after, isWhite c = true := by
  refine ⟨cs.takeWhile isWhite, (cs.dropWhile isWhite).rtakeWhile isWhite, ?_, ?_, ?_⟩
  · rw [List.append_assoc, trimChars_eq_rdropWhile, List.rdropWhile_append_rtakeWhile, List.takeWhile_append_dropWhile]
  · exact fun c hc => List.mem_takeWhile_imp hc
  · exact fun c hc => List.mem_rtakeWhile_imp hc

theorem trimChars_eq_nil_iff : trimChars cs = [] ↔ ∀ c ∈ cs, isWhite c = true := by
  constructor
  · intro h
    obtain ⟨before, after, hParts, hBefore, hAfter⟩ := exists_append_trimChars cs
    rw [hParts, h, List.append_nil]
    exact List.forall_mem_append.mpr ⟨hBefore, hAfter⟩
  · intro h
    have hNil : IsTrimmed [] := ⟨by simp, by simp⟩
    simpa using hNil.trimChars_append h (List.forall_mem_nil _)

/-- More white space around some characters makes no difference. -/
theorem trimChars_append (hBefore : ∀ c ∈ before, isWhite c = true) (hAfter : ∀ c ∈ after, isWhite c = true) :
    trimChars (before ++ cs ++ after) = trimChars cs := by
  obtain ⟨start, stop, hParts, hStart, hStop⟩ := exists_append_trimChars cs
  have hAround : before ++ cs ++ after = (before ++ start) ++ trimChars cs ++ (stop ++ after) := by
    conv_lhs => rw [hParts]
    simp only [List.append_assoc]
  rw [hAround, (isTrimmed_trimChars cs).trimChars_append]
  · exact List.forall_mem_append.mpr ⟨hBefore, hStart⟩
  · exact List.forall_mem_append.mpr ⟨hStop, hAfter⟩

end CatalogGraph.Text
