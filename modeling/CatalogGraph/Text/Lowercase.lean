import CatalogGraph.Unicode.LowercaseRows
import CatalogGraph.Unicode.Property

/-!
# Lower case

The full lower-case mapping: each character has a lower case that depends on it alone, which for one
character (`İ`) is two characters long.  The only character that looks at its neighbours is the Greek
capital sigma: at the end of a word it becomes `ς`.

The case of ASCII letters makes no difference to the lower case of a text, not even next to a sigma
(`lowercaseAfter_lowerAscii`).
-/

namespace CatalogGraph.Text

open CatalogGraph.Unicode

/-- The lower case of characters that do not depend on their neighbours, ASCII apart. -/
def lowercaseMap : CodeMap := CodeMap.ofText lowercaseText

/-- The lower case of an ASCII capital; any other character stays. -/
def lowerAscii (c : Char) : Char :=
  if 'A' ≤ c ∧ c ≤ 'Z' then Char.ofNat (c.toNat + 32) else c

/-- A text with its ASCII letters in lower case. -/
def lowercaseAscii (s : String) : String :=
  String.ofList (s.toList.map lowerAscii)

/-- Whether, past the characters that do not count, the next one has case. -/
def seesCased (cs : List Char) : Bool :=
  match cs.dropWhile isCaseIgnorable with
  | c :: _ => isCased c
  | [] => false

/-- The lower case of one character between the characters before it, the nearest first, and those
after it. -/
def lowerChar (before : List Char) (c : Char) (after : List Char) : List Char :=
  if c.toNat < 0x80 then [lowerAscii c]
  else if c == 'Σ' then
    if seesCased before && !seesCased after then ['ς'] else ['σ']
  else (lowercaseMap.find? c).getD [c]

/-- The lower case of the rest of a text, after the characters `before`, the nearest first. -/
def lowercaseAfter (before : List Char) : List Char → List Char
  | [] => []
  | c :: cs => lowerChar before c cs ++ lowercaseAfter (c :: before) cs

/-- The lower case of a text. -/
def lowercase (s : String) : String :=
  String.ofList (lowercaseAfter [] s.toList)

/-! ## The case of ASCII letters -/

theorem lowerAscii_of_isUpper_eq_false {c : Char} (h : c.isUpper = false) : lowerAscii c = c := by
  unfold lowerAscii
  rw [if_neg]
  rintro ⟨hFrom, hTo⟩
  exact of_decide_eq_false h ⟨hFrom, hTo⟩

theorem exists_of_isUpper {c : Char} (h : c.isUpper = true) : ∃ n < 26, c = Char.ofNat (65 + n) := by
  obtain ⟨hFrom, hTo⟩ := of_decide_eq_true h
  have hFrom : 65 ≤ c.toNat := hFrom
  have hTo : c.toNat ≤ 90 := hTo
  exact ⟨c.toNat - 65, by omega, by rw [Nat.add_sub_cancel' hFrom, Char.ofNat_toNat]⟩

theorem isUpper_of_not_ascii {c : Char} (h : ¬c.toNat < 0x80) : c.isUpper = false := by
  cases hUpper : c.isUpper with
  | false => rfl
  | true =>
      obtain ⟨n, hn, rfl⟩ := exists_of_isUpper hUpper
      exact absurd ((by decide : ∀ n < 26, (Char.ofNat (65 + n)).toNat < 0x80) n hn) h

theorem isUpper_lowerAscii (c : Char) : (lowerAscii c).isUpper = false := by
  cases hCapital : c.isUpper with
  | false => rwa [lowerAscii_of_isUpper_eq_false hCapital]
  | true =>
      have hAll : ∀ n < 26, (lowerAscii (Char.ofNat (65 + n))).isUpper = false := by decide
      obtain ⟨n, hn, rfl⟩ := exists_of_isUpper hCapital
      exact hAll n hn

theorem lowerAscii_lowerAscii (c : Char) : lowerAscii (lowerAscii c) = lowerAscii c :=
  lowerAscii_of_isUpper_eq_false (isUpper_lowerAscii c)

/-- What does not tell a capital from its small letter does not tell any character from its lower case. -/
theorem apply_lowerAscii {α : Type} {f : Char → α}
    (h : ∀ n < 26, f (lowerAscii (Char.ofNat (65 + n))) = f (Char.ofNat (65 + n))) (c : Char) :
    f (lowerAscii c) = f c := by
  cases hCapital : c.isUpper with
  | false => rw [lowerAscii_of_isUpper_eq_false hCapital]
  | true =>
      obtain ⟨n, hn, rfl⟩ := exists_of_isUpper hCapital
      exact h n hn

theorem isUpper_of_mem_lowercaseAscii (s : String) :
    ∀ c ∈ (lowercaseAscii s).toList, c.isUpper = false := by
  intro c hc
  rw [lowercaseAscii, String.toList_ofList] at hc
  obtain ⟨d, -, rfl⟩ := List.mem_map.mp hc
  exact isUpper_lowerAscii d

theorem lowercaseAscii_eq_self {s : String} (h : ∀ c ∈ s.toList, c.isUpper = false) :
    lowercaseAscii s = s := by
  have hSame : s.toList.map lowerAscii = s.toList :=
    List.map_congr_left (fun c hc => lowerAscii_of_isUpper_eq_false (h c hc)) |>.trans (List.map_id _)
  rw [lowercaseAscii, hSame, String.ofList_toList]

/-! ## The case of neighbours -/

theorem isCased_lowerAscii (c : Char) : isCased (lowerAscii c) = isCased c :=
  apply_lowerAscii (by decide) c

theorem isCaseIgnorable_lowerAscii (c : Char) : isCaseIgnorable (lowerAscii c) = isCaseIgnorable c :=
  apply_lowerAscii (by decide) c

theorem seesCased_lowerAscii (cs : List Char) : seesCased (cs.map lowerAscii) = seesCased cs := by
  have hPassed : isCaseIgnorable ∘ lowerAscii = isCaseIgnorable := funext isCaseIgnorable_lowerAscii
  unfold seesCased
  rw [List.dropWhile_map, hPassed]
  cases cs.dropWhile isCaseIgnorable with
  | nil => rfl
  | cons c rest => exact isCased_lowerAscii c

theorem lowerChar_lowerAscii (before : List Char) (c : Char) (after : List Char) :
    lowerChar (before.map lowerAscii) (lowerAscii c) (after.map lowerAscii) =
      lowerChar before c after := by
  have hAscii : decide ((lowerAscii c).toNat < 0x80) = decide (c.toNat < 0x80) :=
    apply_lowerAscii (f := fun c => decide (c.toNat < 0x80)) (by decide) c
  unfold lowerChar
  by_cases hSmall : c.toNat < 0x80
  · rw [if_pos hSmall, if_pos (by simpa [hSmall] using hAscii), lowerAscii_lowerAscii]
  · have hSame : lowerAscii c = c := lowerAscii_of_isUpper_eq_false (isUpper_of_not_ascii hSmall)
    rw [hSame, if_neg hSmall, if_neg hSmall, seesCased_lowerAscii, seesCased_lowerAscii]

/-- The lower case of a text is that of the text with its ASCII letters in lower case. -/
theorem lowercaseAfter_lowerAscii (before cs : List Char) :
    lowercaseAfter (before.map lowerAscii) (cs.map lowerAscii) = lowercaseAfter before cs := by
  induction cs generalizing before with
  | nil => rfl
  | cons c rest ih =>
      rw [List.map_cons, lowercaseAfter, lowercaseAfter, lowerChar_lowerAscii, ← List.map_cons, ih]

/-- Of ASCII characters, the lower case is that of each capital. -/
theorem lowercaseAfter_of_ascii {cs : List Char} (h : ∀ c ∈ cs, c.toNat < 0x80) (before : List Char) :
    lowercaseAfter before cs = cs.map lowerAscii := by
  induction cs generalizing before with
  | nil => rfl
  | cons c rest ih =>
      obtain ⟨hc, hRest⟩ := List.forall_mem_cons.mp h
      rw [lowercaseAfter, ih hRest, lowerChar, if_pos hc]
      rfl

end CatalogGraph.Text
