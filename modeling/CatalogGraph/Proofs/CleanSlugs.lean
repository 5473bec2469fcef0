import CatalogGraph.Conversion.Slug
import CatalogGraph.Proofs.LowercaseTable
import CatalogGraph.Proofs.RemovedCharacters
import CatalogGraph.Text.Characters
import CatalogGraph.Text.Trimmed

/-!
# Clean slugs

A slug holds ASCII letters, digits, hyphens and underscores only, and no capital where letters become small
(`isSlug_slug`).  A text like that stays as it is: it has no white space to trim or to replace, no letter to write
otherwise, and nothing to drop (`slug_of_isSlug`).  So a slug is its own slug.

This is so when the options do not say what is dropped, and when they say it by the pattern of all other characters:
both drop the same (`stripSlug_eq_filter`).
-/

namespace CatalogGraph

namespace Regex.CharSet

theorem contains_interval (first last c : Char) :
    (interval first last).contains c = decide (first ≤ c ∧ c ≤ last) :=
  (Bool.decide_and _ _).symm

theorem contains_single (d c : Char) : (single d).contains c = (c == d) := by
  rw [single, contains_interval, Bool.eq_iff_iff, decide_eq_true_eq, beq_iff_eq]
  constructor
  · exact fun h => Char.le_antisymm h.2 h.1
  · rintro rfl
    exact ⟨Char.le_refl c, Char.le_refl c⟩

end Regex.CharSet

namespace Conversion

open CatalogGraph.Text CatalogGraph.Mapping
open CatalogGraph.Regex (CharSet TakesOne exists_takesOne_of_read?)

variable {o : SlugOptions} {cs : List Char}

/-! ## What is dropped -/

/-- All characters that a slug does not keep, as a pattern has them. -/
def outsideSlugs : CharSet :=
  .outside (.union (.union (.union (.union (.single '-') (.single '_')) (.interval 'A' 'Z')) (.interval 'a' 'z'))
    (.interval '0' '9'))

theorem contains_outsideSlugs (c : Char) : outsideSlugs.contains c = !isSlugChar c := by
  have hUpper : (CharSet.interval 'A' 'Z').contains c = c.isUpper := CharSet.contains_interval _ _ c
  have hLower : (CharSet.interval 'a' 'z').contains c = c.isLower := rfl
  have hDigit : (CharSet.interval '0' '9').contains c = c.isDigit := rfl
  have hAlphanum : c.isAlphanum = (c.isUpper || c.isLower || c.isDigit) := rfl
  have hParts : outsideSlugs.contains c = !((CharSet.single '-').contains c || (CharSet.single '_').contains c ||
      (CharSet.interval 'A' 'Z').contains c || (CharSet.interval 'a' 'z').contains c ||
      (CharSet.interval '0' '9').contains c) := rfl
  rw [hParts, CharSet.contains_single, CharSet.contains_single, hUpper, hLower, hDigit, isSlugChar, hAlphanum]
  ac_rfl

theorem exists_takesOne_outsideSlugs :
    ∃ re, Regex.compile? "[^-_A-Za-z0-9]" = some re ∧ TakesOne re outsideSlugs :=
  exists_takesOne_of_read? rfl

/-! ## What is kept -/

theorem isAscii_of_isSlugChar {c : Char} (h : isSlugChar c = true) : c.toNat < 0x80 := by
  simp only [isSlugChar, Bool.or_eq_true, beq_iff_eq] at h
  obtain (hAlphanum | rfl) | rfl := h
  · exact isAscii_of_isAlphanum hAlphanum
  · decide
  · decide

theorem isWhite_of_isSlugChar {c : Char} (h : isSlugChar c = true) : isWhite c = false := by
  simp only [isSlugChar, Bool.or_eq_true, beq_iff_eq] at h
  obtain (hAlphanum | rfl) | rfl := h
  · exact isWhite_of_isAlphanum hAlphanum
  · decide
  · decide

/-- The characters of a slug, without capitals where letters become small. -/
structure IsSlug (downcase : Bool) (cs : List Char) : Prop where
  kept : ∀ c ∈ cs, isSlugChar c = true
  small : downcase = true → NoCapital cs

theorem noCapital_underscoreWhite (inRun : Bool) (h : NoCapital cs) : NoCapital (underscoreWhite inRun cs) := by
  induction cs generalizing inRun with
  | nil => exact .nil
  | cons c cs ih =>
      obtain ⟨hc, hRest⟩ := List.forall_mem_cons.mp h
      rw [underscoreWhite]
      split
      · split
        · exact ih true hRest
        · exact .cons (by decide) (ih true hRest)
      · exact .cons hc (ih false hRest)

/-! ## What stays as it is -/

theorem trimChars_of_not_white (h : ∀ c ∈ cs, isWhite c = false) : trimChars cs = cs :=
  IsTrimmed.trimChars_eq ⟨fun c hc => h c (List.mem_of_mem_head? hc), fun c hc => h c (List.mem_of_getLast? hc)⟩

theorem transliterate_of_isAscii (h : ∀ c ∈ cs, c.toNat < 0x80) : transliterate cs = cs := by
  have hStays : ∀ c ∈ cs, transliterateChar c = [c] := fun c hc => if_pos (h c hc)
  rw [transliterate, List.flatMap_congr hStays, List.flatMap_singleton']

theorem lowercaseAfter_of_noCapital (hAscii : ∀ c ∈ cs, c.toNat < 0x80) (h : NoCapital cs) (before : List Char) :
    lowercaseAfter before cs = cs := by
  rw [lowercaseAfter_of_ascii hAscii]
  exact (List.map_congr_left fun c hc => lowerAscii_of_isUpper_eq_false (h c hc)).trans (List.map_id _)

theorem underscoreWhite_of_not_white (h : ∀ c ∈ cs, isWhite c = false) : underscoreWhite false cs = cs := by
  induction cs with
  | nil => rfl
  | cons c cs ih =>
      obtain ⟨hc, hRest⟩ := List.forall_mem_cons.mp h
      rw [underscoreWhite, hc, ih hRest]
      rfl

/-! ## The slug of a text -/

section

variable (hStrip : ∀ re, o.strip = some re → Regex.compile? "[^-_A-Za-z0-9]" = some re)
include hStrip

/-- Options that name the pattern of all other characters drop what options without a pattern drop. -/
theorem stripSlug_eq_filter (s : String) : stripSlug o.strip s = String.ofList (s.toList.filter isSlugChar) := by
  cases hPattern : o.strip with
  | none => rfl
  | some pattern =>
      obtain ⟨re, hCompile, hTakes⟩ := exists_takesOne_outsideSlugs
      obtain rfl := Option.some.inj ((hStrip pattern hPattern).symm.trans hCompile)
      have hKept : (fun c => !outsideSlugs.contains c) = isSlugChar :=
        funext fun c => by rw [contains_outsideSlugs, Bool.not_not]
      rw [stripSlug, hTakes.remove_eq_filter, hKept]

theorem isSlug_slug (s : String) : IsSlug o.downcase (slug o s).toList := by
  unfold slug
  rw [stripSlug_eq_filter hStrip, String.toList_ofList, String.toList_ofList]
  refine ⟨fun c hc => (List.mem_filter.mp hc).2, fun hSmall => .filter isSlugChar ?_⟩
  -- what comes after the lower case brings in underscores only
  rw [if_pos hSmall]
  split
  · exact noCapital_underscoreWhite false (noCapital_lowercaseAfter _ _)
  · exact noCapital_lowercaseAfter _ _

/-- No step of the slug changes the characters of a slug. -/
theorem slug_of_isSlug {s : String} (h : IsSlug o.downcase s.toList) : slug o s = s := by
  have hAscii : ∀ c ∈ s.toList, c.toNat < 0x80 := fun c hc => isAscii_of_isSlugChar (h.kept c hc)
  have hNotWhite : ∀ c ∈ s.toList, isWhite c = false := fun c hc => isWhite_of_isSlugChar (h.kept c hc)
  have hLower : (if o.downcase then lowercaseAfter [] s.toList else s.toList) = s.toList := by
    split
    · next hSmall => exact lowercaseAfter_of_noCapital hAscii (h.small hSmall) []
    · rfl
  have hSpaces : (if o.convertSpaces then underscoreWhite false s.toList else s.toList) = s.toList := by
    rw [underscoreWhite_of_not_white hNotWhite, ite_self]
  -- step by step: trimming, spelling, lower case, white space, and then what is dropped
  unfold slug
  simp only [trimChars_of_not_white hNotWhite, transliterate_of_isAscii hAscii, hLower, hSpaces]
  rw [String.ofList_toList, stripSlug_eq_filter hStrip, List.filter_eq_self.mpr h.kept, String.ofList_toList]

end

/-- **Slugs are clean and stable.**  Of any text, whether letters become small and white space becomes underscores or
not: when what is dropped is left to the program or said by its pattern, the slug holds only ASCII letters, digits,
hyphens and underscores, no capital where letters become small, and it is its own slug. -/
theorem slug_clean_and_stable {o : SlugOptions}
    (hStrip : ∀ re, o.strip = some re → Regex.compile? "[^-_A-Za-z0-9]" = some re) (s : String) :
    (∀ c ∈ (slug o s).toList, c.isAlphanum = true ∨ c = '-' ∨ c = '_') ∧
      (o.downcase = true → ∀ c ∈ (slug o s).toList, c.isUpper = false) ∧
      slug o (slug o s) = slug o s := by
  have hSlug := isSlug_slug hStrip s
  refine ⟨fun c hc => ?_, hSlug.small, slug_of_isSlug hStrip hSlug⟩
  have hKept := hSlug.kept c hc
  simpa only [isSlugChar, Bool.or_eq_true, beq_iff_eq, or_assoc] using hKept

/-- Letters that are written otherwise, white space at the ends and inside, and a character that is dropped. -/
theorem slug_clean_and_stable_ligature :
    let re : Regex := (Regex.compile? "[^-_A-Za-z0-9]").get (by decide +kernel)
    let o : SlugOptions := { strip := some re }
    let text := "  Ægir &\tØygard-2 "
    (∀ pattern, o.strip = some pattern → Regex.compile? "[^-_A-Za-z0-9]" = some pattern) ∧
      slug o text = "aegir__oygard-2" ∧ slug o (slug o text) = "aegir__oygard-2" := by
  intro re o text
  have hStrip : ∀ pattern, o.strip = some pattern → Regex.compile? "[^-_A-Za-z0-9]" = some pattern := by
    rintro pattern h
    rw [← Option.some.inj h]
    exact (Option.some_get _).symm
  have hSlug : slug o text = "aegir__oygard-2" := by decide +kernel
  obtain ⟨-, -, hStable⟩ := slug_clean_and_stable hStrip text
  exact ⟨hStrip, hSlug, hStable.trans hSlug⟩

end Conversion

end CatalogGraph
