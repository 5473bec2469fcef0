import CatalogGraph.Conversion.Pipeline

/-!
# Substrings by offset and length

An extraction by offset and length takes the characters between two places of a value.  The end of these characters is
computed in words of 64 bits, and a sum that is too large for them counts as the largest word
(`Conversion.saturatingSum`).  No value has that many characters, so this is never taken for a place in the value
(`Conversion.saturatingSum_le_iff`), and it makes no difference to the sum of the numbers themselves.

Places are counted in characters, not in the bytes that these take up.
-/

namespace CatalogGraph.Conversion

open CatalogGraph.Text CatalogGraph.Mapping CatalogGraph.Marc

/-- Of numbers below the largest word, the same are reached by a sum that stops there. -/
theorem saturatingSum_le_iff {m n bound : Nat} (h : bound < UInt64.size - 1) :
    saturatingSum m n ≤ bound ↔ m + n ≤ bound := by
  unfold saturatingSum
  omega

variable {value : String} {offset length : Nat}

/-- A value is what stands before a substring, the substring, and what stands behind it. -/
theorem exists_substring (h : offset + length ≤ value.length) :
    ∃ before taken after : String, value = before ++ taken ++ after ∧ before.length = offset ∧ taken.length = length ∧
      taken = String.ofList ((value.toList.drop offset).take length) := by
  have hLength : offset + length ≤ value.toList.length := by rwa [String.length_toList]
  refine ⟨String.ofList (value.toList.take offset), String.ofList ((value.toList.drop offset).take length),
    String.ofList ((value.toList.drop offset).drop length), ?_, ?_, ?_, rfl⟩
  · apply String.toList_injective
    simp only [String.toList_append, String.toList_ofList, List.append_assoc, List.take_append_drop]
  · rw [String.length_ofList, List.length_take]
    omega
  · rw [String.length_ofList, List.length_take, List.length_drop]
    omega

/-- Where no stage is set, the candidates that are not blank are the objects. -/
theorem generate_of_extraction (value : String) (field : Option DataField) (e : Extraction) :
    generate value field { extraction := e } = .ok ((extract value e).filter fun s => !isBlank s) := rfl

/-- **A substring is exact at every boundary.**  Take a substring of a value by any offset and length of 64 bits, with
no other stage.  If both together are at most the number of characters, the value is made up of as many characters
as the offset says, of as many as the length says, and of a rest; the second part is the one object, unless it is
blank.  If they are more, even more than 64 bits can hold, there is no object.  There is never a fault.  A value has
fewer characters than the largest word, as every text has that fits into the memory of a machine with such words. -/
theorem generate_substring (value : String) (hFits : value.length < UInt64.size - 1) (field : Option DataField)
    (offset length : UInt64) :
    let p : Pipeline := { extraction := .substring offset.toNat length.toNat }
    (offset.toNat + length.toNat ≤ value.length →
      ∃ before taken after : String, value = before ++ taken ++ after ∧ before.length = offset.toNat ∧
        taken.length = length.toNat ∧ generate value field p = .ok (if isBlank taken then [] else [taken])) ∧
    (value.length < offset.toNat + length.toNat → generate value field p = .ok []) := by
  intro p
  constructor
  · intro hInside
    obtain ⟨before, taken, after, hParts, hBefore, hLength, hTaken⟩ := exists_substring hInside
    refine ⟨before, taken, after, hParts, hBefore, hLength, ?_⟩
    rw [generate_of_extraction, extract, if_pos ((saturatingSum_le_iff hFits).mpr hInside), ← hTaken]
    cases hBlank : isBlank taken <;> simp [hBlank]
  · intro hOutside
    rw [generate_of_extraction, extract, if_neg, List.filter_nil]
    exact fun hWord => Nat.not_le_of_lt hOutside ((saturatingSum_le_iff hFits).mp hWord)

/-- Three characters at the very end of a value, behind two that are more than a byte long.  With the largest word as
offset, any length but zero makes the sum too large for 64 bits. -/
theorem generate_substring_language :
    let value := "øønob"
    let atEnd : Pipeline := { extraction := .substring (2 : UInt64).toNat (3 : UInt64).toNat }
    let beyond : Pipeline := { extraction := .substring (18446744073709551615 : UInt64).toNat (2 : UInt64).toNat }
    value.length < UInt64.size - 1 ∧ generate value none atEnd = .ok ["nob"] ∧
      (∃ before taken after : String, value = before ++ taken ++ after ∧ before.length = 2 ∧ taken.length = 3 ∧
        generate value none atEnd = .ok (if isBlank taken then [] else [taken])) ∧
      generate value none beyond = .ok [] := by
  intro value atEnd beyond
  have hFits : value.length < UInt64.size - 1 := by decide
  have hInside : (2 : UInt64).toNat + (3 : UInt64).toNat ≤ value.length := by decide
  have hOutside : value.length < (18446744073709551615 : UInt64).toNat + (2 : UInt64).toNat := by decide
  have hTaken : (extract value atEnd.extraction).filter (fun s => !isBlank s) = ["nob"] := by decide +kernel
  exact ⟨hFits, congrArg Except.ok hTaken, (generate_substring value hFits none 2 3).1 hInside,
    (generate_substring value hFits none 18446744073709551615 2).2 hOutside⟩

end CatalogGraph.Conversion
