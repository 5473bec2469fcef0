import CatalogGraph.Marc.NamespaceFree
import CatalogGraph.Marc.RecordXml
import CatalogGraph.Proofs.WrittenXml

/-!
# Written elements without declarations

Declarations of namespaces are taken out of the characters of a document, without regard to markup.  Written
elements are safe from this, but for the declaration of the root:

* `dropDeclarations_cons` — a character stays unless it is white and a declaration comes next, and a
  declaration needs a raw quotation mark before any bracket (`afterDeclaration?_eq_none`);
* `Undeclared` — characters that stay, whatever comes after them: elements with escaped text
  (`Undeclared.elementText`), as long as no value of an attribute has white space but at its end;
* `NamespaceForm.dropDeclarations_elementText` — a root with a declaration is left without it.

Escaped text may well hold what looks like a declaration; what is missing in it is the quotation mark.
-/

namespace CatalogGraph.Marc

open CatalogGraph.Text CatalogGraph.Unicode CatalogGraph.Xml

/-! ## Reading a declaration -/

theorem afterLabel?_colon (cs : List Char) :
    afterLabel? (':' :: cs) =
      if cs.takeWhile isWord = [] then none else some (cs.dropWhile isWord) := by
  rw [← drop_length_takeWhile isWord cs]
  cases h : cs.takeWhile isWord with
  | nil => simp [afterLabel?, h]
  | cons c label => simp [afterLabel?, h]

theorem afterLabel?_of_head?_ne {cs : List Char} (h : cs.head? ≠ some ':') : afterLabel? cs = some cs := by
  unfold afterLabel?
  split
  · next cs => exact absurd rfl h
  · rfl

/-- What stands between `xmlns` and the equals sign of a declaration has neither quotation marks nor
brackets. -/
theorem exists_of_afterLabel? {cs rest : List Char} (h : afterLabel? cs = some rest) :
    ∃ label, cs = label ++ rest ∧ ∀ c ∈ label, c = ':' ∨ isWord c = true := by
  by_cases hHead : cs.head? = some ':'
  · obtain ⟨tail, rfl⟩ : ∃ tail, cs = ':' :: tail := by
      cases cs with
      | nil => simp at hHead
      | cons c tail => exact ⟨tail, by rw [Option.some.inj hHead]⟩
    rw [afterLabel?_colon] at h
    split at h
    · exact absurd h (by simp)
    · rw [Option.some.injEq] at h
      refine ⟨':' :: tail.takeWhile isWord, ?_, ?_⟩
      · rw [List.cons_append, ← h, List.takeWhile_append_dropWhile]
      · intro c hc
        rcases List.mem_cons.mp hc with rfl | hc
        · exact Or.inl rfl
        · exact Or.inr (List.mem_takeWhile_imp hc)
  · rw [afterLabel?_of_head?_ne hHead, Option.some.injEq] at h
    exact ⟨[], h, by simp⟩

/-- A declaration has a quotation mark before any bracket, and ends behind it. -/
theorem exists_of_afterDeclaration? {cs rest : List Char} (h : afterDeclaration? cs = some rest) :
    ∃ before after, cs = before ++ '"' :: after ∧ '<' ∉ before ∧ rest <:+ after := by
  unfold afterDeclaration? at h
  obtain ⟨afterName, hName, hNext⟩ := Option.bind_eq_some_iff.mp h
  obtain ⟨afterLabel, hLabel, hNext⟩ := Option.bind_eq_some_iff.mp hNext
  obtain ⟨value, hValue, hRest⟩ := Option.bind_eq_some_iff.mp hNext
  rw [dropText?_eq_some_iff] at hName hValue
  obtain ⟨label, hSplit, hWord⟩ := exists_of_afterLabel? hLabel
  refine ⟨"xmlns".toList ++ (label ++ ['=']), value, by simp [hName, hSplit, hValue], ?_, ?_⟩
  · rw [List.mem_append, List.mem_append]
    rintro (hMem | hMem | hMem)
    · exact absurd hMem (by decide)
    · rcases hWord _ hMem with hColon | hIsWord
      · exact absurd hColon (by decide)
      · exact absurd hIsWord (by decide)
    · exact absurd hMem (by decide)
  · split at hRest
    · next hTail =>
        obtain rfl := Option.some.inj hRest
        exact (List.suffix_cons _ _).trans (hTail ▸ List.dropWhile_suffix _)
    · exact absurd hRest (by simp)

/-- Without a raw quotation mark before the next bracket there is no declaration. -/
theorem afterDeclaration?_eq_none {cs rest : List Char} (h : '"' ∉ cs) :
    afterDeclaration? (cs ++ '<' :: rest) = none := by
  cases hNone : afterDeclaration? (cs ++ '<' :: rest) with
  | none => rfl
  | some tail =>
      obtain ⟨before, after, hSplit, hBefore, -⟩ := exists_of_afterDeclaration? hNone
      rcases List.append_eq_append_iff.mp hSplit with ⟨more, hMore, hRest⟩ | ⟨more, hMore, hRest⟩
      · cases more with
        | nil => simp at hRest
        | cons c more =>
            obtain ⟨rfl, -⟩ := List.cons.inj hRest
            exact absurd (hMore ▸ by simp) hBefore
      · cases more with
        | nil => simp at hRest
        | cons c more =>
            obtain ⟨rfl, -⟩ := List.cons.inj hRest
            exact absurd (hMore ▸ by simp) h

theorem afterDeclaration?_cons_eq_none {c : Char} (h : c ≠ 'x') (cs : List Char) :
    afterDeclaration? (c :: cs) = none := by
  unfold afterDeclaration?
  cases hName : dropText? "xmlns".toList (c :: cs) with
  | none => rfl
  | some rest => exact absurd (List.cons.inj (dropText?_eq_some_iff.mp hName)).1 h

/-- A declaration is read to the end of its value. -/
theorem afterDeclaration?_append {label value rest : List Char}
    (hLabel : afterLabel? (label ++ '=' :: '"' :: (value ++ '"' :: rest)) =
      some ('=' :: '"' :: (value ++ '"' :: rest))) (h : '"' ∉ value) :
    afterDeclaration? ("xmlns".toList ++ (label ++ '=' :: '"' :: (value ++ '"' :: rest))) = some rest := by
  have hName := dropText?_eq_some_iff.mpr
    (rfl : "xmlns".toList ++ (label ++ '=' :: '"' :: (value ++ '"' :: rest)) = _)
  have hQuote : dropText? "=\"".toList ('=' :: '"' :: (value ++ '"' :: rest)) =
      some (value ++ '"' :: rest) := dropText?_eq_some_iff.mpr rfl
  have hValue : (value ++ '"' :: rest).dropWhile (· != '"') = '"' :: rest := dropWhile_append_cons h
  unfold afterDeclaration?
  simp only [hName, hLabel, hQuote, hValue, Option.bind_eq_bind, Option.bind_some]

/-! ## Dropping declarations -/

theorem afterDeclaration?_suffix {cs rest : List Char} (h : afterDeclaration? cs = some rest) : rest <:+ cs := by
  obtain ⟨before, after, rfl, -, hSuffix⟩ := exists_of_afterDeclaration? h
  exact hSuffix.trans ((List.suffix_cons _ _).trans (List.suffix_append _ _))

theorem afterDeclaration?_length {cs rest : List Char} (h : afterDeclaration? cs = some rest) :
    rest.length < cs.length := by
  obtain ⟨before, after, rfl, -, hSuffix⟩ := exists_of_afterDeclaration? h
  have hLength := hSuffix.length_le
  rw [List.length_append, List.length_cons]
  omega

/-- As many rounds as there are characters are enough. -/
theorem dropDeclarationsIn_of_le {rounds : Nat} {cs : List Char} (h : cs.length ≤ rounds) :
    dropDeclarationsIn rounds cs = dropDeclarations cs := by
  refine eq_of_enough_rounds (fun n m => by cases n <;> cases m <;> rfl) ?_ h (Nat.le_refl _)
  intro n m c cs hSame
  have hDrop : (cs.dropWhile isWhite).length ≤ cs.length := (List.dropWhile_sublist _).length_le
  rw [dropDeclarationsIn, dropDeclarationsIn]
  split
  · split
    · next rest hRest => exact hSame rest (Nat.le_trans (Nat.le_of_lt (afterDeclaration?_length hRest)) hDrop)
    · rw [hSame _ hDrop]
  · rw [hSame cs (Nat.le_refl _)]

@[simp] theorem dropDeclarations_nil : dropDeclarations [] = [] := rfl

/-- A declaration goes, with the white space before it. -/
theorem dropDeclarations_of_declaration {c : Char} {cs rest : List Char} (hWhite : isWhite c = true)
    (h : afterDeclaration? (cs.dropWhile isWhite) = some rest) :
    dropDeclarations (c :: cs) = dropDeclarations rest := by
  have hLength := afterDeclaration?_length h
  have hDrop : (cs.dropWhile isWhite).length ≤ cs.length := (List.dropWhile_sublist _).length_le
  rw [dropDeclarations, List.length_cons, dropDeclarationsIn, if_pos hWhite, h]
  exact dropDeclarationsIn_of_le (by omega)

/-- White space before anything else stays as a whole. -/
theorem dropDeclarations_white {c : Char} {cs : List Char} (hWhite : isWhite c = true)
    (h : afterDeclaration? (cs.dropWhile isWhite) = none) :
    dropDeclarations (c :: cs) = c :: (cs.takeWhile isWhite ++ dropDeclarations (cs.dropWhile isWhite)) := by
  rw [dropDeclarations, List.length_cons, dropDeclarationsIn, if_pos hWhite, h]
  rw [dropDeclarationsIn_of_le (List.dropWhile_sublist _).length_le, List.cons_append]

/-- A character stays, unless it is white and a declaration comes next. -/
theorem dropDeclarations_cons {c : Char} {cs : List Char}
    (h : isWhite c = true → afterDeclaration? (cs.dropWhile isWhite) = none) :
    dropDeclarations (c :: cs) = c :: dropDeclarations cs := by
  cases hWhite : isWhite c with
  | false =>
      rw [dropDeclarations, List.length_cons, dropDeclarationsIn, hWhite]
      rfl
  | true =>
      rw [dropDeclarations_white hWhite (h hWhite), List.cons.injEq]
      refine ⟨rfl, ?_⟩
      -- what comes next is the rest of the same white space, or the end of it
      cases cs with
      | nil => rfl
      | cons d ds =>
          cases hNext : isWhite d with
          | false =>
              rw [List.takeWhile_cons_of_neg (by simp [hNext]),
                List.dropWhile_cons_of_neg (by simp [hNext]), List.nil_append]
          | true =>
              have hSame := h hWhite
              rw [List.dropWhile_cons_of_pos hNext] at hSame ⊢
              rw [List.takeWhile_cons_of_pos hNext, dropDeclarations_white hNext hSame,
                List.cons_append]

/-- Characters in which no declaration starts, whatever comes after them. -/
def Undeclared (cs : List Char) : Prop :=
  ∀ rest, dropDeclarations (cs ++ rest) = cs ++ dropDeclarations rest

namespace Undeclared

variable {cs ds : List Char}

theorem nil : Undeclared [] := fun _ => rfl

theorem append (hc : Undeclared cs) (hd : Undeclared ds) : Undeclared (cs ++ ds) := by
  intro rest
  rw [List.append_assoc, hc, hd, List.append_assoc]

theorem cons {c : Char} (hc : isWhite c = false) (hd : Undeclared ds) : Undeclared (c :: ds) := by
  intro rest
  rw [List.cons_append, dropDeclarations_cons (by simp [hc]), hd, List.cons_append]

theorem flatMap {α : Type} {f : α → List Char} {xs : List α} (h : ∀ x ∈ xs, Undeclared (f x)) :
    Undeclared (xs.flatMap f) := by
  induction xs with
  | nil => exact nil
  | cons x xs ih =>
      obtain ⟨hHead, hRest⟩ := List.forall_mem_cons.mp h
      exact hHead.append (ih hRest)

theorem of_not_white (h : ∀ c ∈ cs, isWhite c = false) : Undeclared cs := by
  induction cs with
  | nil => exact nil
  | cons c cs ih =>
      obtain ⟨hHead, hRest⟩ := List.forall_mem_cons.mp h
      exact cons hHead (ih hRest)

end Undeclared

/-- Text without quotation marks stays, up to the next bracket. -/
theorem dropDeclarations_text {cs : List Char} (h : '"' ∉ cs) (rest : List Char) :
    dropDeclarations (cs ++ '<' :: rest) = cs ++ dropDeclarations ('<' :: rest) := by
  induction cs with
  | nil => rfl
  | cons c cs ih =>
      rw [List.mem_cons, not_or] at h
      have hQuote : '"' ∉ cs.dropWhile isWhite := fun hMem => h.2 ((List.dropWhile_sublist _).mem hMem)
      rw [List.cons_append, dropDeclarations_cons, ih h.2, List.cons_append]
      -- white space ends before the bracket, so what comes next still has no quotation mark before it
      intro _
      rw [dropWhile_append_stop (by decide)]
      exact afterDeclaration?_eq_none hQuote

/-! ## Written tags without declarations -/

/-- Nothing, or a label of letters and digits with its colon. -/
def IsPlainLabel (label : List Char) : Prop :=
  label = [] ∨ ∃ word, label = word ++ [':'] ∧ word ≠ [] ∧ ∀ c ∈ word, c.isAlphanum = true

namespace Undeclared

variable {label content : List Char} {name : String} {attrs : List (String × String)}

theorem of_isPlainName (h : isPlainName name = true) : Undeclared name.toList :=
  of_not_white fun c hc => isWhite_of_isAlphanum ((isPlainName_iff.mp h).2 c hc)

theorem of_isPlainLabel (h : IsPlainLabel label) : Undeclared label := by
  rcases h with rfl | ⟨word, rfl, -, hWord⟩
  · exact nil
  · exact append (of_not_white fun c hc => isWhite_of_isAlphanum (hWord c hc)) (cons (by decide) nil)

/-- A value in which white space comes at most last stays, with the quotation mark after it. -/
theorem quoted {value : List Char} (h : ∀ c ∈ value.dropLast, isWhite c = false) :
    Undeclared (escape value ++ ['"']) := by
  have hEscaped : ∀ c, isWhite c = false → Undeclared (escapeChar c) := by
    intro c hc
    refine of_not_white fun d hd => ?_
    rcases mem_escapeChar hd with ⟨rfl, -⟩ | rfl | rfl | hAlpha
    · exact hc
    · decide
    · decide
    · exact isWhite_of_isAlphanum (by rw [Char.isAlphanum, hAlpha, Bool.true_or])
  induction value with
  | nil => exact cons (by decide) nil
  | cons c cs ih =>
      rw [escape_cons, List.append_assoc]
      cases cs with
      | cons d ds =>
          rw [List.dropLast_cons_cons, List.forall_mem_cons] at h
          exact (hEscaped c h.1).append (ih h.2)
      | nil =>
          cases hWhite : isWhite c with
          | false => exact (hEscaped c hWhite).append (ih (by simp))
          | true =>
              -- white space that comes last has the quotation mark next to it
              have hPlain : escapeChar c = [c] := by
                unfold escapeChar
                split <;> first | exact absurd hWhite (by decide) | rfl
              intro rest
              have hLast : dropDeclarations (c :: '"' :: rest) = c :: dropDeclarations ('"' :: rest) := by
                refine dropDeclarations_cons fun _ => ?_
                rw [List.dropWhile_cons_of_neg (by decide)]
                exact afterDeclaration?_cons_eq_none (by decide) rest
              calc dropDeclarations (escapeChar c ++ (escape [] ++ ['"']) ++ rest)
                  = c :: dropDeclarations ('"' :: rest) := by rw [hPlain]; exact hLast
                _ = escapeChar c ++ (escape [] ++ ['"']) ++ dropDeclarations rest := by
                  rw [dropDeclarations_cons (by simp [show isWhite '"' = false from by decide]), hPlain]
                  rfl

/-- An attribute whose name is plain and not like that of a declaration stays. -/
theorem attrText {name value : String} (hName : isPlainName name = true)
    (hHead : name.toList.head? ≠ some 'x') (hValue : ∀ c ∈ value.toList.dropLast, isWhite c = false) :
    Undeclared (attrText (name, value)) := by
  have hRest : Undeclared (name.toList ++ '=' :: '"' :: (escape value.toList ++ ['"'])) :=
    (of_isPlainName hName).append (cons (by decide) (cons (by decide) (quoted hValue)))
  intro rest
  rw [Xml.attrText, List.cons_append, dropDeclarations_cons, hRest, List.cons_append]
  obtain ⟨hNil, hAlphanum⟩ := isPlainName_iff.mp hName
  -- the only white space outside of the value is the blank, and the name comes next
  intro _
  cases hChars : name.toList with
  | nil => exact absurd hChars hNil
  | cons c cs =>
      rw [hChars] at hHead hAlphanum
      have hWhite := isWhite_of_isAlphanum (hAlphanum c List.mem_cons_self)
      rw [List.cons_append, List.cons_append, List.dropWhile_cons_of_neg (by simp [hWhite])]
      exact afterDeclaration?_cons_eq_none (fun hSame => hHead (hSame ▸ rfl)) _

theorem startTag (hLabel : IsPlainLabel label) (hName : isPlainName name = true)
    (hAttrs : ∀ a ∈ attrs, Undeclared (Xml.attrText a)) : Undeclared (startTag label name attrs) :=
  cons (by decide) ((of_isPlainLabel hLabel).append ((of_isPlainName hName).append
    ((flatMap hAttrs).append (cons (by decide) nil))))

theorem endTag (hLabel : IsPlainLabel label) (hName : isPlainName name = true) :
    Undeclared (endTag label name) :=
  cons (by decide) (cons (by decide) ((of_isPlainLabel hLabel).append
    ((of_isPlainName hName).append (cons (by decide) nil))))

/-- An element stays, if its attributes do, and its content does before the bracket of the end tag. -/
theorem elementText (hLabel : IsPlainLabel label) (hName : isPlainName name = true)
    (hAttrs : ∀ a ∈ attrs, Undeclared (Xml.attrText a))
    (hContent : ∀ rest,
      dropDeclarations (content ++ '<' :: rest) = content ++ dropDeclarations ('<' :: rest)) :
    Undeclared (elementText label name attrs content) := by
  intro rest
  have hEnd := endTag hLabel hName rest
  rw [Xml.endTag, List.cons_append] at hEnd
  rw [Xml.elementText, List.append_assoc, startTag hLabel hName hAttrs, List.append_assoc, Xml.endTag,
    List.cons_append, hContent, hEnd, List.append_assoc, List.append_assoc, List.cons_append]

end Undeclared

/-! ## The declaration of the root -/

theorem isWord_of_isAlphanum {c : Char} (h : c.isAlphanum = true) : isWord c = true := by
  have := toNat_of_isAlphanum h
  rw [isWord, if_pos (by omega), h, Bool.true_or]

/-- Without a label, or with one of letters and digits, a name goes on with the equals sign. -/
theorem afterLabel?_append {label : List Char}
    (h : label = [] ∨ ∃ word, label = ':' :: word ∧ word ≠ [] ∧ ∀ c ∈ word, c.isAlphanum = true)
    (rest : List Char) : afterLabel? (label ++ '=' :: rest) = some ('=' :: rest) := by
  rcases h with rfl | ⟨word, rfl, hNil, hWord⟩
  · exact afterLabel?_of_head?_ne (by simp)
  · have hAll : ∀ c ∈ word, isWord c = true := fun c hc => isWord_of_isAlphanum (hWord c hc)
    have hEquals : ¬ isWord '=' = true := by decide
    rw [List.cons_append, afterLabel?_colon, List.takeWhile_append_of_pos hAll,
      List.takeWhile_cons_of_neg hEquals, List.append_nil, if_neg hNil, List.dropWhile_append_of_pos hAll,
      List.dropWhile_cons_of_neg hEquals]

theorem dropDeclarations_attrText (suffix : List Char) (name iri : String)
    (hName : name.toList = "xmlns".toList ++ suffix)
    (h : suffix = [] ∨ ∃ word, suffix = ':' :: word ∧ word ≠ [] ∧ ∀ c ∈ word, c.isAlphanum = true)
    (rest : List Char) : dropDeclarations (attrText (name, iri) ++ rest) = dropDeclarations rest := by
  have hDeclaration : afterDeclaration?
      ("xmlns".toList ++ (suffix ++ '=' :: '"' :: (escape iri.toList ++ '"' :: rest))) = some rest :=
    afterDeclaration?_append (afterLabel?_append h _) (notMem_escape (by decide) _)
  have hText : attrText (name, iri) ++ rest =
      ' ' :: ("xmlns".toList ++ (suffix ++ '=' :: '"' :: (escape iri.toList ++ '"' :: rest))) := by
    simp [attrText, hName]
  rw [hText]
  exact dropDeclarations_of_declaration (by decide) hDeclaration

namespace NamespaceForm

variable {form : NamespaceForm}

theorem isPlainLabel_label (h : form.hasPlainLabel = true) : IsPlainLabel form.label := by
  cases form with
  | bare => exact Or.inl rfl
  | default iri => exact Or.inl rfl
  | labelled label iri =>
      obtain ⟨hNil, hAlphanum⟩ := isPlainName_iff.mp h
      exact Or.inr ⟨label.toList, rfl, hNil, hAlphanum⟩

/-- A root is left without the declaration. -/
theorem dropDeclarations_startTag (h : form.hasPlainLabel = true) {name : String}
    (hName : isPlainName name = true) (rest : List Char) :
    dropDeclarations (startTag form.label name form.declaration ++ rest) =
      startTag form.label name [] ++ dropDeclarations rest := by
  have hStart : Undeclared ('<' :: (form.label ++ name.toList)) :=
    .cons (by decide) ((Undeclared.of_isPlainLabel (isPlainLabel_label h)).append (.of_isPlainName hName))
  have hDeclaration : dropDeclarations (form.declaration.flatMap attrText ++ '>' :: rest) =
      dropDeclarations ('>' :: rest) := by
    cases form with
    | bare => rfl
    | default iri =>
        rw [declaration, List.flatMap_singleton]
        exact dropDeclarations_attrText [] "xmlns" iri (by decide) (Or.inl rfl) _
    | labelled label iri =>
        obtain ⟨hNil, hAlphanum⟩ := isPlainName_iff.mp h
        rw [declaration, List.flatMap_singleton]
        exact dropDeclarations_attrText (':' :: label.toList) ("xmlns:" ++ label) iri
          (by rw [String.toList_append]; rfl) (Or.inr ⟨label.toList, rfl, hNil, hAlphanum⟩) _
  calc dropDeclarations (startTag form.label name form.declaration ++ rest)
      = dropDeclarations ('<' :: (form.label ++ name.toList) ++
          (form.declaration.flatMap attrText ++ '>' :: rest)) := by simp [startTag]
    _ = '<' :: (form.label ++ name.toList) ++ dropDeclarations ('>' :: rest) := by
        rw [hStart, hDeclaration]
    _ = startTag form.label name [] ++ dropDeclarations rest := by
        rw [dropDeclarations_cons (by simp [show isWhite '>' = false from by decide])]
        simp [startTag]

/-- An element whose content stays is left without the declaration in it. -/
theorem dropDeclarations_elementText (h : form.hasPlainLabel = true) {name : String} {content : List Char}
    (hName : isPlainName name = true) (hContent : Undeclared content) :
    dropDeclarations (elementText form.label name form.declaration content) =
      elementText form.label name [] content := by
  have hEnd : Undeclared (endTag form.label name) := .endTag (isPlainLabel_label h) hName
  have hNil : dropDeclarations (endTag form.label name) = endTag form.label name := by
    simpa using hEnd []
  rw [elementText, dropDeclarations_startTag h hName, hContent, hNil, elementText]

end NamespaceForm

end CatalogGraph.Marc
