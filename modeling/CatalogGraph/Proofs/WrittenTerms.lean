import CatalogGraph.Text.Characters
import CatalogGraph.Text.Trimmed
import CatalogGraph.Vocabulary

/-!
# Ways to write a term

A term is read from more than one text: white space may stand around it, and the letters of a label may be capitals
or small.

* `Term.Spells` — what characters write, rule by rule: whatever holds `://` is an IRI as it stands, and a label, a full
  stop and a name without `://` are a name in a vocabulary;
* `Term.read_eq_ok_iff` — a text is read as the term that its trimmed characters spell;
* `Term.Spells.recased` — a label in other letters spells the same term.  A name may hold full stops, white space and
  any other letters, but its end is never white, and neither is any character of a label, so nothing is trimmed from
  this form either (`Term.Spells.isTrimmed_recased`);
* `Term.read_display` — the form in which a term is displayed is one of these, with the label in capitals.

Nothing is claimed of a name or an IRI in other letters: these are other terms.
-/

namespace CatalogGraph

theorem Text.lowerAscii_upperAscii (c : Char) : lowerAscii (upperAscii c) = lowerAscii c := by
  unfold upperAscii
  split
  · next hSmall =>
      have hAll : ∀ n < 26, lowerAscii (Char.ofNat (97 + n - 32)) = lowerAscii (Char.ofNat (97 + n)) := by decide
      have hFrom : 97 ≤ c.toNat := hSmall.1
      have hTo : c.toNat ≤ 122 := hSmall.2
      have hLetter := hAll (c.toNat - 97) (by omega)
      rwa [Nat.add_sub_cancel' hFrom, Char.ofNat_toNat] at hLetter
  · rfl

namespace Term

open Text

/-! ## What characters write -/

variable {cs written other name : List Char} {t : Term}

theorem isLabelChar_lowerAscii (c : Char) : isLabelChar (lowerAscii c) = isLabelChar c :=
  apply_lowerAscii (by decide) c

theorem ne_of_isLabelChar {c d : Char} (h : isLabelChar c = true) (hd : isLabelChar d = false) : c ≠ d := by
  rintro rfl
  rw [h] at hd
  exact absurd hd (by decide)

theorem notMem_of_isLabelChar {d : Char} (h : ∀ c ∈ cs, isLabelChar c = true) (hd : isLabelChar d = false) : d ∉ cs :=
  fun hMem => ne_of_isLabelChar (h d hMem) hd rfl

theorem isAscii_of_isLabelChar {c : Char} (h : isLabelChar c = true) : c.toNat < 0x80 := by
  simp only [isLabelChar, Bool.or_eq_true, beq_iff_eq] at h
  rcases h with (hAlphanum | rfl) | rfl
  · exact isAscii_of_isAlphanum hAlphanum
  · decide
  · decide

theorem isWhite_of_isLabelChar {c : Char} (h : isLabelChar c = true) : isWhite c = false := by
  simp only [isLabelChar, Bool.or_eq_true, beq_iff_eq] at h
  rcases h with (hAlphanum | rfl) | rfl
  · exact isWhite_of_isAlphanum hAlphanum
  · decide
  · decide

/-- A part is not looked for where its first character does not stand. -/
theorem hasPart_append_of_notMem {c : Char} {part : List Char} (h : c ∉ written) (cs : List Char) :
    hasPart (c :: part) (written ++ cs) = hasPart (c :: part) cs := by
  induction written with
  | nil => rfl
  | cons d rest ih =>
      obtain ⟨hFirst, hRest⟩ := not_or.mp (mt List.mem_cons.mpr h)
      have hNot : (c :: part).isPrefixOf (d :: (rest ++ cs)) = false := by
        rw [List.isPrefixOf_cons_cons, beq_false_of_ne hFirst, Bool.false_and]
      rw [List.cons_append, hasPart, hNot, Bool.false_or, ih hRest]

/-- What characters without white space around them write. -/
inductive Spells : List Char → Term → Prop
  /-- Whatever holds `://` is an IRI. -/
  | iri (cs : List Char) (hMark : hasPart [':', '/', '/'] cs = true) : Spells cs (.iri (String.ofList cs))
  /-- A label in any letters, a full stop and a name are a name in a vocabulary. -/
  | qualified (written name : List Char) (hWritten : written ≠ []) (hLabel : ∀ c ∈ written, isLabelChar c = true)
      (hName : name ≠ []) (hMark : hasPart [':', '/', '/'] name = false) :
      Spells (written ++ '.' :: name) (.qualified (String.ofList (written.map lowerAscii)) (String.ofList name))

/-- `://` stands in a qualified name if it stands behind the first full stop. -/
theorem hasMark_qualified (hLabel : ∀ c ∈ written, isLabelChar c = true) (name : List Char) :
    hasPart [':', '/', '/'] (written ++ '.' :: name) = hasPart [':', '/', '/'] name := by
  have hBefore : ':' ∉ written ++ ['.'] := by
    rw [List.mem_append, not_or]
    exact ⟨notMem_of_isLabelChar hLabel (by decide), by decide⟩
  have hParts : written ++ '.' :: name = (written ++ ['.']) ++ name := by simp
  rw [hParts, hasPart_append_of_notMem hBefore]

theorem Spells.ofChars?_eq (h : Spells cs t) : ofChars? cs = some t := by
  cases h with
  | iri cs hMark => rw [ofChars?, if_pos hMark]
  | qualified written name hWritten hLabel hName hMark =>
      have hStop : '.' ∉ written := notMem_of_isLabelChar hLabel (by decide)
      have hAll : written.all isLabelChar = true := List.all_eq_true.mpr hLabel
      rw [ofChars?, if_neg (by rw [hasMark_qualified hLabel, hMark]; decide)]
      obtain ⟨first, rest, rfl⟩ := List.exists_cons_of_ne_nil hName
      simp only [takeWhile_append_cons hStop, List.drop_left]
      simp [hWritten, hAll]

theorem spells_of_ofChars? (h : ofChars? cs = some t) : Spells cs t := by
  rw [ofChars?] at h
  split at h
  · next hMark =>
      obtain rfl := Option.some.inj h
      exact .iri cs hMark
  · next hNoMark =>
      dsimp only at h
      rw [drop_length_takeWhile] at h
      have hParts := cs.takeWhile_append_dropWhile (p := (· != '.'))
      generalize cs.takeWhile (· != '.') = written at h hParts
      split at h
      · next first rest hBehind =>
          rw [hBehind] at hParts
          obtain rfl := hParts
          split at h
          · cases h
          · next hLabel =>
              obtain rfl := Option.some.inj h
              simp only [Bool.or_eq_true, Bool.not_eq_true', not_or, Bool.not_eq_false, List.isEmpty_iff,
                List.all_eq_true] at hLabel
              refine .qualified written (first :: rest) hLabel.1 hLabel.2 (List.cons_ne_nil _ _) ?_
              rw [← hasMark_qualified hLabel.2]
              exact Bool.eq_false_iff.mpr hNoMark
      · cases h

/-- A text is read as what it spells without the white space around it. -/
theorem read_eq_ok_iff {s : String} : read s = .ok t ↔ Spells (trimChars s.toList) t := by
  rw [read]
  constructor
  · intro h
    cases hChars : ofChars? (trimChars s.toList) with
    | none => simp [hChars] at h
    | some t' =>
        rw [hChars] at h
        obtain rfl := Except.ok.inj h
        exact spells_of_ofChars? hChars
  · intro h
    rw [h.ofChars?_eq]

/-! ## Other spellings -/

section

variable {label name : String}

/-- The characters of a name in a vocabulary: its label in some letters, a full stop and the name itself. -/
theorem Spells.exists_label (h : Spells cs (.qualified label name)) :
    ∃ written, cs = written ++ '.' :: name.toList ∧ written.map lowerAscii = label.toList ∧ written ≠ [] ∧
      (∀ c ∈ written, isLabelChar c = true) ∧ name.toList ≠ [] ∧ hasPart [':', '/', '/'] name.toList = false := by
  generalize hTerm : Term.qualified label name = t at h
  cases h with
  | iri cs hMark => cases hTerm
  | qualified written chars hWritten hLabel hName hMark =>
      obtain ⟨rfl, rfl⟩ := Term.qualified.inj hTerm
      simp only [String.toList_ofList]
      exact ⟨written, rfl, rfl, hWritten, hLabel, hName, hMark⟩

theorem Spells.isLabelChar_of_mem (h : Spells cs (.qualified label name)) :
    ∀ c ∈ label.toList, isLabelChar c = true := by
  obtain ⟨written, -, hWritten, -, hLabel, -, -⟩ := h.exists_label
  intro c hc
  rw [← hWritten] at hc
  obtain ⟨d, hd, rfl⟩ := List.mem_map.mp hc
  rw [isLabelChar_lowerAscii, hLabel d hd]

theorem Spells.isLabelChar_of_recased (h : Spells cs (.qualified label name))
    (hOther : other.map lowerAscii = label.toList) : ∀ c ∈ other, isLabelChar c = true := by
  intro c hc
  rw [← isLabelChar_lowerAscii]
  exact h.isLabelChar_of_mem _ (hOther ▸ List.mem_map_of_mem hc)

theorem Spells.ne_nil_of_recased (h : Spells cs (.qualified label name))
    (hOther : other.map lowerAscii = label.toList) : other ≠ [] := by
  obtain ⟨written, -, hWritten, hNil, -⟩ := h.exists_label
  rintro rfl
  exact hNil (List.map_eq_nil_iff.mp (hWritten.trans hOther.symm))

/-- In other letters a label is still the same. -/
theorem Spells.recased (h : Spells cs (.qualified label name)) (hOther : other.map lowerAscii = label.toList) :
    Spells (other ++ '.' :: name.toList) (.qualified label name) := by
  obtain ⟨-, -, -, -, -, hName, hMark⟩ := h.exists_label
  have hSpells := Spells.qualified other name.toList (h.ne_nil_of_recased hOther) (h.isLabelChar_of_recased hOther)
    hName hMark
  rwa [hOther, String.ofList_toList, String.ofList_toList] at hSpells

/-- Nothing is trimmed from a term whose label is written in other letters. -/
theorem Spells.isTrimmed_recased (h : Spells cs (.qualified label name)) (hTrimmed : IsTrimmed cs)
    (hOther : other.map lowerAscii = label.toList) : IsTrimmed (other ++ '.' :: name.toList) where
  start c hc := by
    obtain ⟨first, rest, rfl⟩ := List.exists_cons_of_ne_nil (h.ne_nil_of_recased hOther)
    obtain rfl := Option.some.inj hc
    exact isWhite_of_isLabelChar (h.isLabelChar_of_recased hOther first List.mem_cons_self)
  stop c hc := by
    obtain ⟨written, rfl, -⟩ := h.exists_label
    -- the last character is one of the full stop and the name, in whatever letters the label is
    refine hTrimmed.stop c ?_
    rwa [List.getLast?_append_of_ne_nil _ (List.cons_ne_nil _ _)] at hc ⊢

/-- A label in capitals is the same label. -/
theorem Spells.lowercaseAscii_uppercase (h : Spells cs (.qualified label name)) :
    lowercaseAscii (uppercase label) = label := by
  obtain ⟨written, -, hWritten, -⟩ := h.exists_label
  have hAscii : ∀ c ∈ label.toList, c.toNat < 0x80 := fun c hc => isAscii_of_isLabelChar (h.isLabelChar_of_mem c hc)
  rw [lowercaseAscii, uppercase, String.toList_ofList, flatMap_upperChar_of_ascii hAscii, List.map_map,
    ← String.ofList_toList (s := label), String.toList_ofList, ← hWritten, List.map_map]
  congr 1
  exact List.map_congr_left fun c _ => (lowerAscii_upperAscii _).trans (lowerAscii_lowerAscii c)

/-- A name in a vocabulary is read with its label in any letters, between any white space. -/
theorem read_recased {s before after other : String} (h : read s = .ok (.qualified label name))
    (hBefore : isBlank before = true) (hAfter : isBlank after = true) (hOther : lowercaseAscii other = label) :
    read (before ++ other ++ "." ++ name ++ after) = .ok (.qualified label name) := by
  have hSpells := read_eq_ok_iff.mp h
  have hLetters : other.toList.map lowerAscii = label.toList := by
    rw [← hOther, lowercaseAscii, String.toList_ofList]
  have hTrimmed := hSpells.isTrimmed_recased (isTrimmed_trimChars _) hLetters
  have hText : (before ++ other ++ "." ++ name ++ after).toList =
      before.toList ++ (other.toList ++ '.' :: name.toList) ++ after.toList := by
    simp
  rw [read_eq_ok_iff, hText, hTrimmed.trimChars_append (List.all_eq_true.mp hBefore) (List.all_eq_true.mp hAfter)]
  exact hSpells.recased hLetters

end

/-- White space around a text makes no difference. -/
theorem read_append {s before after : String} (hBefore : isBlank before = true) (hAfter : isBlank after = true) :
    read (before ++ s ++ after) = read s := by
  have hTrim : trimChars (before ++ s ++ after).toList = trimChars s.toList := by
    rw [String.toList_append, String.toList_append]
    exact trimChars_append (List.all_eq_true.mp hBefore) (List.all_eq_true.mp hAfter)
  rw [read, read, trim, trim, hTrim]

theorem Spells.toList_eq {text : String} (h : Spells cs (.iri text)) : text.toList = cs := by
  generalize hTerm : Term.iri text = t at h
  cases h with
  | iri cs hMark =>
      obtain rfl := Term.iri.inj hTerm
      exact String.toList_ofList
  | qualified written chars hWritten hLabel hName hMark => cases hTerm

/-- A term is read from the text that it is displayed as. -/
theorem read_display {s : String} (h : read s = .ok t) : read t.display = .ok t := by
  have hSpells := read_eq_ok_iff.mp h
  cases t with
  | qualified label name =>
      have hEmpty : isBlank "" = true := by decide
      have hRead : read ("" ++ uppercase label ++ "." ++ name ++ "") = .ok (.qualified label name) :=
        read_recased h hEmpty hEmpty hSpells.lowercaseAscii_uppercase
      rwa [String.empty_append, String.append_empty] at hRead
  | iri text =>
      rw [display, read_eq_ok_iff, hSpells.toList_eq, (isTrimmed_trimChars _).trimChars_eq]
      exact hSpells

/-- **A term is read from its displayed form and from every spelling.**  Let a text be read as a term.  Then this term
is read from the form in which it is displayed, and from the text between any white space.  If it is a name in a
vocabulary, the text is a label, a full stop and the name between white space, and the same term is read from it if
ASCII letters of the label are in another case.  So in every vocabulary the displayed form comes to the same IRI as
the term, or to the same fault. -/
theorem read_spellings {s : String} (h : read s = .ok t) :
    read t.display = .ok t ∧
    (∀ before after, isBlank before = true → isBlank after = true → read (before ++ s ++ after) = .ok t) ∧
    (∀ label name, t = .qualified label name →
      ∃ before written after, s = before ++ written ++ "." ++ name ++ after ∧
        isBlank before = true ∧ isBlank after = true ∧ (∀ c ∈ written.toList, isLabelChar c = true) ∧
        ∀ other, lowercaseAscii other = lowercaseAscii written →
          read (before ++ other ++ "." ++ name ++ after) = .ok t) ∧
    ∀ v : Vocabulary, (read t.display >>= v.resolve) = v.resolve t := by
  refine ⟨read_display h, fun before after hBefore hAfter => ?_, ?_, fun v => ?_⟩
  · rw [read_append hBefore hAfter, h]
  · rintro label name rfl
    have hSpells := read_eq_ok_iff.mp h
    obtain ⟨before, after, hParts, hBefore, hAfter⟩ := exists_append_trimChars s.toList
    obtain ⟨written, hTrimmed, hWritten, -, hLabel, -, -⟩ := hSpells.exists_label
    have hStart : isBlank (String.ofList before) = true := by simpa [isBlank] using hBefore
    have hStop : isBlank (String.ofList after) = true := by simpa [isBlank] using hAfter
    refine ⟨String.ofList before, String.ofList written, String.ofList after, ?_, hStart, hStop, ?_, ?_⟩
    · apply String.toList_injective
      rw [hParts, hTrimmed]
      simp
    · rwa [String.toList_ofList]
    · intro other hOther
      refine read_recased h hStart hStop (hOther.trans ?_)
      rw [lowercaseAscii, String.toList_ofList, hWritten, String.ofList_toList]
  · rw [read_display h]
    rfl

/-- A label in mixed letters behind white space, and a name with white space, a full stop and capitals of its own.  In
the displayed form only the label is in other letters. -/
theorem read_spellings_title :
    let s := "\t Dc-x.Title. Ærlig: a//b\u00a0"
    let t : Term := .qualified "dc-x" "Title. Ærlig: a//b"
    read s = .ok t ∧ t.display = "DC-X.Title. Ærlig: a//b" ∧ read t.display = .ok t ∧
      read ("\u2003" ++ s ++ "\n") = .ok t ∧
      (Vocabulary.core.bind "DC-X" "urn:x#").resolve t = .ok "urn:x#Title. Ærlig: a//b" ∧
      (read t.display >>= (Vocabulary.core.bind "DC-X" "urn:x#").resolve) = .ok "urn:x#Title. Ærlig: a//b" := by
  intro s t
  have hRead : read s = .ok t := by decide +kernel
  have hResolve : (Vocabulary.core.bind "DC-X" "urn:x#").resolve t = .ok "urn:x#Title. Ærlig: a//b" := by
    decide +kernel
  obtain ⟨hDisplay, hAround, -, hSame⟩ := read_spellings hRead
  exact ⟨hRead, by decide +kernel, hDisplay, hAround _ _ (by decide) (by decide), hResolve, (hSame _).trans hResolve⟩

end Term

end CatalogGraph
