import CatalogGraph.Proofs.DroppedDeclarations

/-!
# Written elements without labels

The labels of tags are taken out of the characters of a document, wherever a bracket stands.  Escaped text has
no brackets, so what loses its labels are the tags:

* `Unlabelled` — characters that become others when labels are dropped, whatever comes after them; an element
  becomes the same element without labels (`Unlabelled.elementText`);
* `withoutNamespaces_elementText` — in each of the three forms a document becomes the same one, without its
  declaration and without labels.
-/

namespace CatalogGraph.Marc

open CatalogGraph.Text CatalogGraph.Unicode CatalogGraph.Xml

/-! ## Dropping labels -/

/-- Up to the first character that does not stand in words there is a label, if that character is a colon. -/
theorem withoutLabel_append {word : List Char} {c : Char} (hNil : word ≠ [])
    (hWord : ∀ d ∈ word, isWord d = true) (hc : isWord c = false) (rest : List Char) :
    withoutLabel (word ++ c :: rest) = if c = ':' then rest else word ++ c :: rest := by
  have hTake : (word ++ c :: rest).takeWhile isWord = word := by
    rw [List.takeWhile_append_of_pos hWord, List.takeWhile_cons_of_neg (by simp [hc]), List.append_nil]
  unfold withoutLabel
  rw [hTake]
  cases word with
  | nil => exact absurd rfl hNil
  | cons d ds =>
      simp only [List.drop_left]
      split
      · next hColon =>
          obtain ⟨rfl, rfl⟩ := List.cons.inj hColon
          rw [if_pos rfl]
      · next hOther =>
          rw [if_neg]
          rintro rfl
          exact hOther _ rfl

theorem withoutLabel_suffix (cs : List Char) : withoutLabel cs <:+ cs := by
  unfold withoutLabel
  split
  · exact List.suffix_rfl
  · split
    · next label _ rest hDrop =>
        have hCut : ':' :: rest <:+ cs := hDrop ▸ List.drop_suffix _ _
        exact (List.suffix_cons _ _).trans hCut
    · exact List.suffix_rfl

variable {c : Char} {cs : List Char}

theorem dropLabelsIn_open (h : cs.head? ≠ some '/') (rounds : Nat) :
    dropLabelsIn (rounds + 1) ('<' :: cs) = '<' :: dropLabelsIn rounds (withoutLabel cs) := by
  rw [dropLabelsIn]
  rintro tail rfl
  exact h rfl

theorem dropLabelsIn_cons (h : c ≠ '<') (cs : List Char) (rounds : Nat) :
    dropLabelsIn (rounds + 1) (c :: cs) = c :: dropLabelsIn rounds cs := by
  rw [dropLabelsIn]
  · rintro tail rfl
    exact absurd rfl h
  · rintro rfl
    exact absurd rfl h

/-- As many rounds as there are characters are enough. -/
theorem dropLabelsIn_of_le {rounds : Nat} (h : cs.length ≤ rounds) :
    dropLabelsIn rounds cs = dropLabels cs := by
  refine eq_of_enough_rounds (fun n m => by cases n <;> cases m <;> rfl) ?_ h (Nat.le_refl _)
  intro n m c cs hSame
  by_cases hBracket : c = '<'
  · subst hBracket
    by_cases hSlash : cs.head? = some '/'
    · obtain ⟨tail, rfl⟩ := List.head?_eq_some_iff.mp hSlash
      have hTail : (withoutLabel tail).length ≤ ('/' :: tail).length :=
        ((withoutLabel_suffix tail).trans (List.suffix_cons '/' tail)).length_le
      rw [dropLabelsIn, dropLabelsIn, hSame _ hTail]
    · rw [dropLabelsIn_open hSlash, dropLabelsIn_open hSlash, hSame _ (withoutLabel_suffix cs).length_le]
  · rw [dropLabelsIn_cons hBracket, dropLabelsIn_cons hBracket, hSame cs (Nat.le_refl _)]

theorem dropLabels_open (h : cs.head? ≠ some '/') :
    dropLabels ('<' :: cs) = '<' :: dropLabels (withoutLabel cs) := by
  rw [dropLabels, List.length_cons, dropLabelsIn_open h,
    dropLabelsIn_of_le (withoutLabel_suffix cs).length_le]

theorem dropLabels_close (cs : List Char) :
    dropLabels ('<' :: '/' :: cs) = '<' :: '/' :: dropLabels (withoutLabel cs) := by
  have hLength := (withoutLabel_suffix cs).length_le
  rw [dropLabels, List.length_cons, dropLabelsIn, dropLabelsIn_of_le (by rw [List.length_cons]; omega)]

theorem dropLabels_cons (h : c ≠ '<') (cs : List Char) : dropLabels (c :: cs) = c :: dropLabels cs := by
  rw [dropLabels, List.length_cons, dropLabelsIn_cons h, dropLabels]

/-- Characters that become others when labels are dropped, whatever comes after them. -/
def Unlabelled (labelled bare : List Char) : Prop :=
  ∀ rest, dropLabels (labelled ++ rest) = bare ++ dropLabels rest

/-- A label goes from before a name, and where there is none the name stays. -/
theorem withoutLabel_name {label : List Char} {name : String} (hLabel : IsPlainLabel label)
    (hName : isPlainName name = true) (hc : isWord c = false) (hColon : c ≠ ':') (rest : List Char) :
    withoutLabel (label ++ (name.toList ++ c :: rest)) = name.toList ++ c :: rest := by
  obtain ⟨hNil, hAlphanum⟩ := isPlainName_iff.mp hName
  rcases hLabel with rfl | ⟨word, rfl, hWordNil, hWord⟩
  · rw [List.nil_append, withoutLabel_append hNil (fun d hd => isWord_of_isAlphanum (hAlphanum d hd)) hc,
      if_neg hColon]
  · rw [List.append_assoc, List.singleton_append,
      withoutLabel_append hWordNil (fun d hd => isWord_of_isAlphanum (hWord d hd)) (by decide), if_pos rfl]

theorem head?_append_ne_slash {word : List Char} (hNil : word ≠ [])
    (hWord : ∀ d ∈ word, d.isAlphanum = true) (rest : List Char) : (word ++ rest).head? ≠ some '/' := by
  cases word with
  | nil => exact absurd rfl hNil
  | cons d ds =>
      intro hSlash
      exact ne_of_isAlphanum (hWord d List.mem_cons_self) (by decide) (Option.some.inj hSlash)

namespace Unlabelled

variable {label content content' : List Char} {name : String} {attrs : List (String × String)}
  {a a' b b' : List Char}

theorem append (ha : Unlabelled a a') (hb : Unlabelled b b') : Unlabelled (a ++ b) (a' ++ b') := by
  intro rest
  rw [List.append_assoc, ha, hb, List.append_assoc]

theorem of_notMem (h : '<' ∉ cs) : Unlabelled cs cs := by
  induction cs with
  | nil => exact fun _ => rfl
  | cons c cs ih =>
      rw [List.mem_cons, not_or] at h
      intro rest
      rw [List.cons_append, dropLabels_cons (Ne.symm h.1), ih h.2, List.cons_append]

theorem flatMap {α : Type} {f g : α → List Char} {xs : List α} (h : ∀ x ∈ xs, Unlabelled (f x) (g x)) :
    Unlabelled (xs.flatMap f) (xs.flatMap g) := by
  induction xs with
  | nil => exact fun _ => rfl
  | cons x xs ih =>
      obtain ⟨hHead, hRest⟩ := List.forall_mem_cons.mp h
      exact hHead.append (ih hRest)

theorem attrTexts (h : ∀ a ∈ attrs, isPlainName a.1 = true) :
    Unlabelled (attrs.flatMap attrText) (attrs.flatMap attrText) := by
  refine flatMap fun a ha => of_notMem ?_
  obtain ⟨-, hAlphanum⟩ := isPlainName_iff.mp (h a ha)
  have hName : '<' ∉ a.1.toList := fun hMem => absurd (hAlphanum _ hMem) (by decide)
  have hValue : '<' ∉ escape a.2.toList := notMem_escape (by decide) _
  simp [attrText, hName, hValue]

theorem startTag (hLabel : IsPlainLabel label) (hName : isPlainName name = true)
    (hAttrs : ∀ a ∈ attrs, isPlainName a.1 = true) :
    Unlabelled (startTag label name attrs) (startTag [] name attrs) := by
  intro rest
  obtain ⟨hNil, hAlphanum⟩ := isPlainName_iff.mp hName
  -- after the name there is a blank or the closing bracket
  obtain ⟨c, tail, hTail, hWord, hColon⟩ : ∃ c tail, attrs.flatMap attrText ++ '>' :: rest = c :: tail ∧
      isWord c = false ∧ c ≠ ':' := by
    cases attrs with
    | nil => exact ⟨'>', rest, rfl, by decide, by decide⟩
    | cons a attrs => exact ⟨' ', _, rfl, by decide, by decide⟩
  have hSlash : (label ++ (name.toList ++ c :: tail)).head? ≠ some '/' := by
    rcases hLabel with rfl | ⟨word, rfl, hWordNil, hWordChars⟩
    · exact head?_append_ne_slash hNil hAlphanum _
    · rw [List.append_assoc]
      exact head?_append_ne_slash hWordNil hWordChars _
  have hText : '<' ∉ name.toList := fun hMem => absurd (hAlphanum _ hMem) (by decide)
  calc dropLabels (Xml.startTag label name attrs ++ rest)
      = dropLabels ('<' :: (label ++ (name.toList ++ c :: tail))) := by
        rw [← hTail]
        simp [Xml.startTag]
    _ = '<' :: dropLabels (name.toList ++ (attrs.flatMap attrText ++ '>' :: rest)) := by
        rw [dropLabels_open hSlash, withoutLabel_name hLabel hName hWord hColon, hTail]
    _ = Xml.startTag [] name attrs ++ dropLabels rest := by
        rw [of_notMem hText, attrTexts hAttrs, dropLabels_cons (by decide)]
        simp [Xml.startTag]

theorem endTag (hLabel : IsPlainLabel label) (hName : isPlainName name = true) :
    Unlabelled (endTag label name) (endTag [] name) := by
  intro rest
  obtain ⟨-, hAlphanum⟩ := isPlainName_iff.mp hName
  have hText : '<' ∉ name.toList := fun hMem => absurd (hAlphanum _ hMem) (by decide)
  calc dropLabels (Xml.endTag label name ++ rest)
      = dropLabels ('<' :: '/' :: (label ++ (name.toList ++ '>' :: rest))) := by simp [Xml.endTag]
    _ = '<' :: '/' :: dropLabels (name.toList ++ '>' :: rest) := by
        rw [dropLabels_close, withoutLabel_name hLabel hName (by decide) (by decide)]
    _ = Xml.endTag [] name ++ dropLabels rest := by
        rw [of_notMem hText, dropLabels_cons (by decide)]
        simp [Xml.endTag]

theorem elementText (hLabel : IsPlainLabel label) (hName : isPlainName name = true)
    (hAttrs : ∀ a ∈ attrs, isPlainName a.1 = true) (hContent : Unlabelled content content') :
    Unlabelled (elementText label name attrs content) (elementText [] name attrs content') :=
  (startTag hLabel hName hAttrs).append (hContent.append (endTag hLabel hName))

end Unlabelled

/-- In every form a document becomes the one without a namespace. -/
theorem withoutNamespaces_elementText {form : NamespaceForm} (h : form.hasPlainLabel = true) {name : String}
    {content content' : List Char} (hName : isPlainName name = true) (hDeclarations : Undeclared content)
    (hLabels : Unlabelled content content') :
    withoutNamespaces (elementText form.label name form.declaration content) =
      elementText [] name [] content' := by
  have hElement : Unlabelled (elementText form.label name [] content) (elementText [] name [] content') :=
    .elementText (NamespaceForm.isPlainLabel_label h) hName (by simp) hLabels
  have hText := hElement []
  rw [withoutNamespaces, NamespaceForm.dropDeclarations_elementText h hName hDeclarations]
  rwa [List.append_nil, show dropLabels [] = [] from rfl, List.append_nil] at hText

end CatalogGraph.Marc
