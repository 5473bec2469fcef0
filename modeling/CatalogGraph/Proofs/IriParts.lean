import CatalogGraph.Text.Characters
import CatalogGraph.Uri.Iri

/-!
# The parts of an IRI

An IRI is taken apart at its delimiters, and nothing gets lost (`chars_of_iriParts?`).  So what is known about the
characters of each part is known about the whole: an IRI holds letters, digits, characters beyond ASCII and some
marks (`HoldsIriChars.of_isIri`), but no blank, no quotation mark and no angle bracket.
-/

namespace CatalogGraph.Uri

open Text

/-! ## Cutting -/

variable {sep : Char} {xs ys : List Char}

theorem cut_of_notMem (h : sep ∉ xs) : cut sep xs = (xs, none) := by
  unfold cut
  simp only [takeWhile_of_notMem h, List.drop_length]

theorem cut_append_cons (h : sep ∉ xs) : cut sep (xs ++ sep :: ys) = (xs, some ys) := by
  unfold cut
  simp only [takeWhile_append_cons h, List.drop_left]

/-- A text is cut behind its first character, unless this is where it is cut. -/
theorem cut_cons {c : Char} (h : sep ≠ c) (xs : List Char) :
    cut sep (c :: xs) = (c :: (cut sep xs).1, (cut sep xs).2) := by
  by_cases hSep : sep ∈ xs
  · obtain ⟨before, after, rfl, hBefore⟩ := List.eq_append_cons_of_mem hSep
    have hNot : sep ∉ c :: before := List.not_mem_cons_of_ne_of_not_mem h hBefore
    rw [cut_append_cons hBefore, ← List.cons_append, cut_append_cons hNot]
  · rw [cut_of_notMem hSep, cut_of_notMem (List.not_mem_cons_of_ne_of_not_mem h hSep)]

/-- A text is left whole, or it is cut at the first occurrence. -/
theorem cut_cases (sep : Char) (cs : List Char) :
    (sep ∉ cs ∧ cut sep cs = (cs, none)) ∨
      ∃ before after, cs = before ++ sep :: after ∧ sep ∉ before ∧ cut sep cs = (before, some after) := by
  by_cases hMem : sep ∈ cs
  · obtain ⟨before, after, rfl, hBefore⟩ := List.eq_append_cons_of_mem hMem
    exact Or.inr ⟨before, after, rfl, hBefore, cut_append_cons hBefore⟩
  · exact Or.inl ⟨hMem, cut_of_notMem hMem⟩

/-- What stands before a cut, with what is cut off behind its delimiter. -/
def joined (sep : Char) (part : List Char × Option (List Char)) : List Char :=
  part.1 ++ part.2.elim [] (sep :: ·)

theorem joined_cut (sep : Char) (cs : List Char) : joined sep (cut sep cs) = cs := by
  rcases cut_cases sep cs with ⟨-, hCut⟩ | ⟨before, after, rfl, -, hCut⟩
  · rw [hCut, joined, Option.elim_none, List.append_nil]
  · rw [hCut, joined, Option.elim_some]

/-- Every character is the delimiter or stands in one of the parts between its occurrences. -/
theorem mem_splitOnChar (sep : Char) {c : Char} {cs : List Char} (h : c ∈ cs) :
    c = sep ∨ ∃ part ∈ splitOnChar sep cs, c ∈ part := by
  induction cs with
  | nil => exact absurd h List.not_mem_nil
  | cons d cs ih =>
      rw [splitOnChar]
      cases hParts : splitOnChar sep cs with
      | nil =>
          rcases List.mem_cons.mp h with rfl | hMem
          · exact Or.inr ⟨[c], by simp, by simp⟩
          · rcases ih hMem with hSep | ⟨part, hPart, -⟩
            · exact Or.inl hSep
            · rw [hParts] at hPart
              exact absurd hPart List.not_mem_nil
      | cons first parts =>
          rw [hParts] at ih
          by_cases hSep : d = sep
          · subst hSep
            rcases List.mem_cons.mp h with rfl | hMem
            · exact Or.inl rfl
            · simpa using ih hMem
          · simp only [beq_iff_eq, hSep, if_false]
            rcases List.mem_cons.mp h with rfl | hMem
            · exact Or.inr ⟨c :: first, by simp, by simp⟩
            · refine Or.imp_right ?_ (ih hMem)
              rintro ⟨part, hPart, hc⟩
              rcases List.mem_cons.mp hPart with rfl | hPart
              · exact ⟨d :: part, by simp, List.mem_cons_of_mem d hc⟩
              · exact ⟨part, List.mem_cons_of_mem _ hPart, hc⟩

/-! ## Nothing gets lost -/

/-- The text that some parts make up. -/
def IriParts.chars (p : IriParts) : List Char :=
  p.scheme ++ ':' :: (p.authority.elim [] ('/' :: '/' :: ·) ++ p.path ++ p.query.elim [] ('?' :: ·) ++
    p.fragment.elim [] ('#' :: ·))

/-- A text that is taken apart is made up of its parts. -/
theorem chars_of_iriParts? {cs : List Char} {p : IriParts} (h : iriParts? cs = some p) : p.chars = cs := by
  unfold iriParts? at h
  rcases cut_cases ':' cs with ⟨-, hColon⟩ | ⟨scheme, rest, rfl, -, hColon⟩
  · rw [hColon] at h
    cases h
  rw [hColon] at h
  have hHash := joined_cut '#' rest
  have hMark := joined_cut '?' (cut '#' rest).1
  unfold joined at hHash hMark
  simp only at h
  split at h
  · next more hSlashes =>
      obtain rfl := Option.some.inj h
      have hMore := List.takeWhile_append_dropWhile (p := (· != '/')) (l := more)
      rw [← drop_length_takeWhile] at hMore
      rw [hSlashes, List.cons_append, List.cons_append] at hMark
      simp only [IriParts.chars, Option.elim_some, List.cons_append, hMore]
      exact congrArg (scheme ++ ':' :: ·) ((congrArg (· ++ _) hMark).trans hHash)
  · next path =>
      obtain rfl := Option.some.inj h
      simp only [IriParts.chars, Option.elim_none, List.nil_append]
      rw [hMark, hHash]

/-! ## Characters -/

/-- The characters that an IRI may hold. -/
def isIriChar (c : Char) : Bool := isQueryChar c || c == '%' || c == '#' || c == '[' || c == ']'

theorem isIriChar_of_isQueryChar {c : Char} (h : isQueryChar c = true) : isIriChar c = true := by
  simp [isIriChar, h]

theorem isIriChar_of_isFragmentChar {c : Char} (h : isFragmentChar c = true) : isIriChar c = true :=
  isIriChar_of_isQueryChar (by simp [isQueryChar, h])

theorem isIriChar_of_isPathChar {c : Char} (h : isPathChar c = true) : isIriChar c = true :=
  isIriChar_of_isFragmentChar (by simp [isFragmentChar, h])

theorem isIriChar_of_isNameChar {c : Char} (h : isNameChar c = true) : isIriChar c = true :=
  isIriChar_of_isPathChar (by simp [isPathChar, h])

theorem isIriChar_of_isAlphanum {c : Char} (h : c.isAlphanum = true) : isIriChar c = true :=
  isIriChar_of_isNameChar (by simp [isNameChar, isUnreserved, h])

theorem isAlphanum_of_isHexDigit {c : Char} (h : isHexDigit c = true) : c.isAlphanum = true := by
  have hLast : 'f' ≤ 'z' ∧ 'F' ≤ 'Z' := by decide
  delta Char.isAlphanum Char.isAlpha Char.isUpper Char.isLower
  simp only [isHexDigit, Bool.or_eq_true, Bool.and_eq_true, decide_eq_true_eq] at h ⊢
  rcases h with (hDigit | ⟨hFrom, hTo⟩) | ⟨hFrom, hTo⟩
  · exact Or.inr hDigit
  · exact Or.inl (Or.inr ⟨hFrom, Char.le_trans hTo hLast.1⟩)
  · exact Or.inl (Or.inl ⟨hFrom, Char.le_trans hTo hLast.2⟩)

theorem isIriChar_of_isHexDigit {c : Char} (h : isHexDigit c = true) : isIriChar c = true :=
  isIriChar_of_isAlphanum (isAlphanum_of_isHexDigit h)

theorem isIriChar_of_isDigit {c : Char} (h : c.isDigit = true) : isIriChar c = true :=
  isIriChar_of_isAlphanum (by simp [Char.isAlphanum, h])

/-- All characters of a text may stand in an IRI. -/
def HoldsIriChars (cs : List Char) : Prop := ∀ c ∈ cs, isIriChar c = true

namespace HoldsIriChars

theorem nil : HoldsIriChars [] := fun _ h => absurd h List.not_mem_nil

theorem cons {c : Char} {cs : List Char} (hc : isIriChar c = true) (h : HoldsIriChars cs) :
    HoldsIriChars (c :: cs) :=
  List.forall_mem_cons.mpr ⟨hc, h⟩

theorem append {cs ds : List Char} (h : HoldsIriChars cs) (h' : HoldsIriChars ds) : HoldsIriChars (cs ++ ds) :=
  List.forall_mem_append.mpr ⟨h, h'⟩

theorem of_isEncoded {allowed : Char → Bool} (hAllowed : ∀ c, allowed c = true → isIriChar c = true)
    {cs : List Char} (h : isEncoded allowed cs = true) : HoldsIriChars cs := by
  fun_induction isEncoded allowed cs with
  | case1 => exact nil
  | case2 a b rest ih =>
      simp only [Bool.and_eq_true] at h
      obtain ⟨⟨ha, hb⟩, hRest⟩ := h
      exact cons (by decide) (cons (isIriChar_of_isHexDigit ha) (cons (isIriChar_of_isHexDigit hb) (ih hRest)))
  | case3 c rest hNoCode ih =>
      simp only [Bool.and_eq_true] at h
      exact cons (hAllowed c h.1.2) (ih h.2)

/-- Of a text in parts, if the delimiter may stand there as well. -/
theorem of_splitOnChar (sep : Char) {cs : List Char} (hSep : isIriChar sep = true)
    (h : ∀ part ∈ splitOnChar sep cs, HoldsIriChars part) : HoldsIriChars cs := by
  intro c hc
  rcases mem_splitOnChar sep hc with rfl | ⟨part, hPart, hMem⟩
  · exact hSep
  · exact h part hPart c hMem

/-! ### Hosts -/

theorem of_isDottedQuad {cs : List Char} (h : isDottedQuad cs = true) : HoldsIriChars cs := by
  simp only [isDottedQuad, Bool.and_eq_true, List.all_eq_true] at h
  refine of_splitOnChar '.' (by decide) fun part hPart c hc => ?_
  have hOctet := h.2 part hPart
  simp only [isOctet, Bool.and_eq_true, List.all_eq_true] at hOctet
  exact isIriChar_of_isDigit (hOctet.1.1.2 c hc)

theorem of_groupsIn? {mayEndInQuad : Bool} {parts : List (List Char)} {n : Nat}
    (h : groupsIn? mayEndInQuad parts = some n) : ∀ part ∈ parts, HoldsIriChars part := by
  induction parts generalizing n with
  | nil => exact fun part hPart => absurd hPart List.not_mem_nil
  | cons part parts ih =>
      rw [groupsIn?] at h
      split at h
      · next hGroup =>
          obtain ⟨m, hRest, -⟩ := Option.map_eq_some_iff.mp h
          simp only [isGroup, Bool.and_eq_true, List.all_eq_true] at hGroup
          exact List.forall_mem_cons.mpr ⟨fun c hc => isIriChar_of_isHexDigit (hGroup.2 c hc), ih hRest⟩
      · split at h
        · next hQuad =>
            simp only [Bool.and_eq_true, List.isEmpty_iff] at hQuad
            obtain ⟨⟨-, rfl⟩, hQuad⟩ := hQuad
            exact List.forall_mem_singleton.mpr (of_isDottedQuad hQuad)
        · cases h

theorem of_groupCount? {mayEndInQuad : Bool} {cs : List Char} {n : Nat}
    (h : groupCount? mayEndInQuad cs = some n) : HoldsIriChars cs := by
  unfold groupCount? at h
  split at h
  · next hNil => rw [List.isEmpty_iff.mp hNil]; exact nil
  · exact of_splitOnChar ':' (by decide) (of_groupsIn? h)

theorem of_splitOnGap {cs head tail : List Char} (h : splitOnGap cs = some (head, tail))
    (hHead : HoldsIriChars head) (hTail : HoldsIriChars tail) : HoldsIriChars cs := by
  fun_induction splitOnGap cs generalizing head with
  | case1 rest =>
      obtain ⟨rfl, rfl⟩ := Prod.mk.inj (Option.some.inj h)
      exact cons (by decide) (cons (by decide) hTail)
  | case2 c rest hNoGap ih =>
      obtain ⟨⟨first, second⟩, hRest, hSplit⟩ := Option.map_eq_some_iff.mp h
      obtain ⟨rfl, rfl⟩ := Prod.mk.inj hSplit
      obtain ⟨hc, hFirst⟩ := List.forall_mem_cons.mp hHead
      exact cons hc (ih hRest hFirst)
  | case3 => cases h

theorem of_isIpv6 {cs : List Char} (h : isIpv6 cs = true) : HoldsIriChars cs := by
  unfold isIpv6 at h
  cases hGap : splitOnGap cs with
  | none =>
      rw [hGap] at h
      exact of_groupCount? (beq_iff_eq.mp h)
  | some parts =>
      obtain ⟨head, tail⟩ := parts
      rw [hGap] at h
      cases hHead : groupCount? false head with
      | none => simp [hHead] at h
      | some m =>
          cases hTail : groupCount? true tail with
          | none => simp [hHead, hTail] at h
          | some n => exact of_splitOnGap hGap (of_groupCount? hHead) (of_groupCount? hTail)

theorem of_isFutureAddress {cs : List Char} (h : isFutureAddress cs = true) : HoldsIriChars cs := by
  cases cs with
  | nil => exact nil
  | cons v cs =>
      rw [isFutureAddress] at h
      have hVersion := List.takeWhile_append_dropWhile (p := isHexDigit) (l := cs)
      rw [← drop_length_takeWhile] at hVersion
      cases hRest : cs.drop (cs.takeWhile isHexDigit).length with
      | nil => simp [hRest] at h
      | cons dot rest =>
          simp only [hRest] at h
          split at h
          · next rest' hDot =>
              obtain ⟨rfl, rfl⟩ := List.cons.inj hDot
              simp only [Bool.and_eq_true, Bool.or_eq_true, beq_iff_eq, List.all_eq_true] at h
              obtain ⟨⟨⟨hv, -⟩, -⟩, hChars⟩ := h
              rw [← hVersion, hRest]
              refine cons (by rcases hv with rfl | rfl <;> decide) (append (fun c hc => ?_)
                (cons (by decide) fun c hc => ?_))
              · exact isIriChar_of_isHexDigit (List.mem_takeWhile_imp hc)
              · rcases hChars c hc with (hUnreserved | hDelimiter) | rfl
                · exact isIriChar_of_isNameChar (by simp [isNameChar, hUnreserved])
                · exact isIriChar_of_isNameChar (by simp [isNameChar, hDelimiter])
                · decide
          · cases h

theorem of_isHostPort {cs : List Char} (h : isHostPort cs = true) : HoldsIriChars cs := by
  have hPort {port : List Char} (h : port.all Char.isDigit = true) : HoldsIriChars port :=
    fun c hc => isIriChar_of_isDigit (List.all_eq_true.mp h c hc)
  unfold isHostPort at h
  split at h
  · next rest =>
      rcases cut_cases ']' rest with ⟨-, hCut⟩ | ⟨address, after, rfl, -, hCut⟩
      · simp [hCut] at h
      · simp only [hCut, Bool.and_eq_true, Bool.or_eq_true] at h
        obtain ⟨hAddress, hAfter⟩ := h
        refine cons (by decide) (append ?_ (cons (by decide) ?_))
        · exact hAddress.elim of_isFutureAddress of_isIpv6
        · split at hAfter
          · exact nil
          · exact cons (by decide) (hPort hAfter)
          · cases hAfter
  · rcases cut_cases ':' cs with ⟨-, hCut⟩ | ⟨name, port, rfl, -, hCut⟩
    · rw [hCut] at h
      exact of_isEncoded (fun _ => isIriChar_of_isNameChar) h
    · simp only [hCut, Bool.and_eq_true] at h
      exact append (of_isEncoded (fun _ => isIriChar_of_isNameChar) h.1) (cons (by decide) (hPort h.2))

theorem of_isAuthority {cs : List Char} (h : isAuthority cs = true) : HoldsIriChars cs := by
  have hUser {c : Char} (h : isUserChar c = true) : isIriChar c = true :=
    isIriChar_of_isPathChar (by simp_all [isUserChar, isPathChar])
  unfold isAuthority at h
  rcases cut_cases '@' cs with ⟨-, hCut⟩ | ⟨user, host, rfl, -, hCut⟩
  · rw [hCut] at h
    exact of_isHostPort h
  · simp only [hCut, Bool.and_eq_true] at h
    exact append (of_isEncoded (fun _ => hUser) h.1) (cons (by decide) (of_isHostPort h.2))

theorem of_isScheme {cs : List Char} (h : isScheme cs = true) : HoldsIriChars cs := by
  cases cs with
  | nil => exact nil
  | cons c cs =>
      simp only [isScheme, Bool.and_eq_true, List.all_eq_true] at h
      refine cons (isIriChar_of_isAlphanum (by simp [Char.isAlphanum, h.1])) fun d hd => ?_
      have hd := h.2 d hd
      simp only [Bool.or_eq_true, beq_iff_eq] at hd
      rcases hd with ((hAlphanum | rfl) | rfl) | rfl
      · exact isIriChar_of_isAlphanum hAlphanum
      · decide
      · decide
      · decide

/-- If every part holds what it may hold, so does the whole. -/
theorem of_isValid {p : IriParts} (h : p.isValid = true) : HoldsIriChars p.chars := by
  obtain ⟨scheme, authority, path, query, fragment⟩ := p
  simp only [IriParts.isValid, Bool.and_eq_true] at h
  obtain ⟨⟨⟨⟨hScheme, hAuthority⟩, hPath⟩, hQuery⟩, hFragment⟩ := h
  have hBehind {c : Char} {part : Option (List Char)} (hc : isIriChar c = true)
      (h : ∀ cs, part = some cs → HoldsIriChars cs) : HoldsIriChars (part.elim [] (c :: ·)) := by
    cases part with
    | none => exact nil
    | some cs => exact cons hc (h cs rfl)
  refine append (of_isScheme hScheme) (cons (by decide) (append (append (append ?_ ?_) ?_) ?_))
  · cases authority with
    | none => exact nil
    | some cs => exact cons (by decide) (cons (by decide) (of_isAuthority hAuthority))
  · exact of_isEncoded (fun _ => isIriChar_of_isPathChar) hPath
  · refine hBehind (by decide) ?_
    rintro cs rfl
    exact of_isEncoded (fun _ => isIriChar_of_isQueryChar) hQuery
  · refine hBehind (by decide) ?_
    rintro cs rfl
    exact of_isEncoded (fun _ => isIriChar_of_isFragmentChar) hFragment

theorem of_isIri {s : String} (h : isIri s = true) : HoldsIriChars s.toList := by
  rw [isIri, isIriChars] at h
  cases hParts : iriParts? s.toList with
  | none => simp [hParts] at h
  | some p =>
      rw [hParts] at h
      rw [← chars_of_iriParts? hParts]
      exact of_isValid h

/-- A character that no IRI holds. -/
theorem notMem {cs : List Char} (h : HoldsIriChars cs) {c : Char} (hc : isIriChar c = false) : c ∉ cs := by
  intro hMem
  rw [h c hMem] at hc
  cases hc

end HoldsIriChars

end CatalogGraph.Uri
