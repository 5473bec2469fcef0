import CatalogGraph.Proofs.DroppedDeclarations

/-!
# Declarations in text

Text may hold quotation marks, and then it may hold what has the form of a declaration of a namespace.  Such a
declaration is taken out of the text.  If its value is still open where the text ends, it goes on through the tags
behind the text up to the next quotation mark there, and takes all of this with it.

* `afterDeclaration?_append_cases` — the beginning of a declaration before a bracket: there is none, or it ends before
  the bracket, or its value is open there;
* `standsAlone_or_leavesOpen` — so there are two kinds of text: one is treated as by itself, whatever comes behind the
  next bracket, and the other leaves a declaration open; `standsAlone_iff` tells them apart;
* `dropDeclarations_sublist`, `head?_dropDeclarations`, `getLast?_dropDeclarations` — characters only go, and what is
  left of a text without white space at its ends has none there either.
-/

namespace CatalogGraph.Marc

open CatalogGraph.Text CatalogGraph.Unicode

/-! ## The beginning of a declaration -/

/-- The value of the declaration that the characters start with, and all that is behind it. -/
def declarationValue? (cs : List Char) : Option (List Char) :=
  ((dropText? "xmlns".toList cs).bind afterLabel?).bind (dropText? "=\"".toList)

/-- What is after a value and its quotation mark. -/
def afterValue? (cs : List Char) : Option (List Char) :=
  match cs.dropWhile (· != '"') with
  | _ :: rest => some rest
  | [] => none

theorem afterDeclaration?_eq_bind (cs : List Char) :
    afterDeclaration? cs = (declarationValue? cs).bind afterValue? := by
  rw [declarationValue?, Option.bind_assoc, Option.bind_assoc]
  rfl

theorem afterValue?_of_notMem {value : List Char} (h : '"' ∉ value) : afterValue? value = none := by
  have hNil : value.dropWhile (· != '"') = [] := List.dropWhile_eq_nil_iff.mpr (all_ne_of_notMem h)
  rw [afterValue?, hNil]

theorem afterValue?_append {value : List Char} (h : '"' ∉ value) (rest : List Char) :
    afterValue? (value ++ '"' :: rest) = some rest := by
  rw [afterValue?, dropWhile_append_cons h]

theorem dropText?_append {text : List Char} (h : '<' ∉ text) (cs more : List Char) :
    dropText? text (cs ++ '<' :: more) = (dropText? text cs).map (· ++ '<' :: more) := by
  cases hText : dropText? text cs with
  | some rest =>
      rw [dropText?_eq_some_iff] at hText
      rw [Option.map_some, dropText?_eq_some_iff, hText, List.append_assoc]
  | none =>
      rw [Option.map_none, Option.eq_none_iff_forall_ne_some]
      intro rest hRest
      rw [dropText?_eq_some_iff] at hRest
      -- the text is not longer than what is before the bracket, so it stands there
      rcases List.append_eq_append_iff.mp hRest with ⟨tail, rfl, hTail⟩ | ⟨tail, rfl, -⟩
      · cases tail with
        | nil =>
            rw [List.append_nil, dropText?_eq_some_iff.mpr (List.append_nil cs).symm] at hText
            exact absurd hText (by simp)
        | cons c tail =>
            obtain ⟨rfl, -⟩ := List.cons.inj hTail
            exact h (by simp)
      · rw [dropText?_eq_some_iff.mpr rfl] at hText
        exact absurd hText (by simp)

theorem afterLabel?_append_bracket (cs more : List Char) :
    afterLabel? (cs ++ '<' :: more) = (afterLabel? cs).map (· ++ '<' :: more) := by
  cases cs with
  | nil => exact afterLabel?_of_head?_ne (by simp)
  | cons c cs =>
      by_cases hColon : c = ':'
      · subst hColon
        have hBracket : ¬isWord '<' = true := by decide
        rw [List.cons_append, afterLabel?_colon, afterLabel?_colon, takeWhile_append_stop hBracket,
          dropWhile_append_stop hBracket]
        split
        · rfl
        · rfl
      · rw [List.cons_append, afterLabel?_of_head?_ne (by simpa using hColon),
          afterLabel?_of_head?_ne (by simpa using hColon)]
        rfl

/-- A declaration does not begin with a bracket in it. -/
theorem declarationValue?_append (cs more : List Char) :
    declarationValue? (cs ++ '<' :: more) = (declarationValue? cs).map (· ++ '<' :: more) := by
  unfold declarationValue?
  rw [dropText?_append (by decide)]
  cases dropText? "xmlns".toList cs with
  | none => rfl
  | some afterName =>
      rw [Option.map_some, Option.bind_some, Option.bind_some, afterLabel?_append_bracket]
      cases afterLabel? afterName with
      | none => rfl
      | some afterLabel =>
          rw [Option.map_some, Option.bind_some, Option.bind_some, dropText?_append (by decide)]

/-- A declaration that ends before a bracket does not depend on what is behind it. -/
theorem afterDeclaration?_append_bracket {cs rest : List Char} (h : afterDeclaration? cs = some rest)
    (more : List Char) : afterDeclaration? (cs ++ '<' :: more) = some (rest ++ '<' :: more) := by
  rw [afterDeclaration?_eq_bind] at h ⊢
  obtain ⟨value, hValue, hRest⟩ := Option.bind_eq_some_iff.mp h
  have hQuote : '"' ∈ value := by
    by_contra hNone
    rw [afterValue?_of_notMem hNone] at hRest
    exact absurd hRest (by simp)
  obtain ⟨start, tail, rfl, hStart⟩ := List.eq_append_cons_of_mem hQuote
  obtain rfl : tail = rest := Option.some.inj ((afterValue?_append hStart tail).symm.trans hRest)
  rw [declarationValue?_append, hValue, Option.map_some, Option.bind_some, List.append_assoc, List.cons_append,
    afterValue?_append hStart]

/-- Where no declaration ends before a bracket, none has begun, or its value is open at the bracket.  In this case
it ends with the next quotation mark, wherever that is. -/
theorem afterDeclaration?_append_cases {cs : List Char} (h : afterDeclaration? cs = none) :
    (∀ more, afterDeclaration? (cs ++ '<' :: more) = none) ∨
    (∀ more, '"' ∉ more → afterDeclaration? (cs ++ '<' :: more) = none) ∧
      ∀ skipped rest, '"' ∉ skipped → afterDeclaration? (cs ++ '<' :: (skipped ++ '"' :: rest)) = some rest := by
  simp only [afterDeclaration?_eq_bind, declarationValue?_append] at h ⊢
  cases hValue : declarationValue? cs with
  | none => exact Or.inl fun _ => rfl
  | some value =>
      rw [hValue, Option.bind_some] at h
      simp only [Option.map_some, Option.bind_some]
      have hQuote : '"' ∉ value := by
        intro hMem
        obtain ⟨start, tail, rfl, hStart⟩ := List.eq_append_cons_of_mem hMem
        rw [afterValue?_append hStart] at h
        exact absurd h (by simp)
      refine Or.inr ⟨fun more hMore => afterValue?_of_notMem (by simp [hQuote, hMore]), ?_⟩
      intro skipped rest hSkipped
      have hSkippedValue : '"' ∉ value ++ '<' :: skipped := by simp [hQuote, hSkipped]
      have hEnd := afterValue?_append hSkippedValue rest
      rwa [List.append_assoc, List.cons_append] at hEnd

/-! ## Character by character -/

/-- A character stays, or a declaration goes that it is the white space before. -/
theorem dropDeclarations_step (c : Char) (cs : List Char) :
    (isWhite c = true → afterDeclaration? (cs.dropWhile isWhite) = none) ∨
      isWhite c = true ∧ ∃ rest, afterDeclaration? (cs.dropWhile isWhite) = some rest := by
  cases afterDeclaration? (cs.dropWhile isWhite) with
  | none => exact Or.inl fun _ => rfl
  | some rest =>
      cases isWhite c with
      | false => exact Or.inl fun hWhite => by cases hWhite
      | true => exact Or.inr ⟨rfl, rest, rfl⟩

/-- A property of a text, from the same property of what is behind a character that stays, and of what is behind a
declaration. -/
@[elab_as_elim]
theorem dropDeclarations_induction {motive : List Char → Prop} (nil : motive [])
    (keep : ∀ c cs, (isWhite c = true → afterDeclaration? (cs.dropWhile isWhite) = none) → motive cs →
      motive (c :: cs))
    (drop : ∀ c cs rest, isWhite c = true → afterDeclaration? (cs.dropWhile isWhite) = some rest → rest <:+ cs →
      motive rest → motive (c :: cs))
    (cs : List Char) : motive cs :=
  match cs with
  | [] => nil
  | c :: cs =>
    match dropDeclarations_step c cs with
    | .inl hKeep => keep c cs hKeep (dropDeclarations_induction nil keep drop cs)
    | .inr ⟨hWhite, rest, hRest⟩ =>
      have hSuffix : rest <:+ cs := (afterDeclaration?_suffix hRest).trans (List.dropWhile_suffix _)
      drop c cs rest hWhite hRest hSuffix (dropDeclarations_induction nil keep drop rest)
termination_by cs.length
decreasing_by
  · exact Nat.lt_succ_self cs.length
  · exact Nat.lt_succ_of_le hSuffix.length_le

theorem dropDeclarations_sublist (cs : List Char) : (dropDeclarations cs).Sublist cs := by
  induction cs using dropDeclarations_induction with
  | nil => exact List.Sublist.refl _
  | keep c cs hKeep ih =>
      rw [dropDeclarations_cons hKeep]
      exact ih.cons_cons c
  | drop c cs rest hWhite hRest hSuffix ih =>
      rw [dropDeclarations_of_declaration hWhite hRest]
      exact (ih.trans hSuffix.sublist).cons c

/-- What does not begin with white space keeps its first character. -/
theorem dropDeclarations_of_head {c : Char} (h : isWhite c = false) (cs : List Char) :
    dropDeclarations (c :: cs) = c :: dropDeclarations cs :=
  dropDeclarations_cons fun hWhite => absurd hWhite (by simp [h])

theorem head?_dropDeclarations {cs : List Char} (h : cs.head?.any isWhite = false) :
    (dropDeclarations cs).head?.any isWhite = false := by
  cases cs with
  | nil => rfl
  | cons c cs =>
      rw [dropDeclarations_of_head h]
      exact h

/-- Of characters only a declaration with its white space goes entirely. -/
theorem exists_of_dropDeclarations_eq_nil {cs : List Char} (hNil : cs ≠ []) (h : dropDeclarations cs = []) :
    ∃ rest, afterDeclaration? (cs.dropWhile isWhite) = some rest := by
  cases cs with
  | nil => exact absurd rfl hNil
  | cons c cs =>
      rcases dropDeclarations_step c cs with hKeep | ⟨hWhite, hDeclaration⟩
      · rw [dropDeclarations_cons hKeep] at h
        exact absurd h (by simp)
      · rw [List.dropWhile_cons_of_pos hWhite]
        exact hDeclaration

/-- What does not end with white space does not do so without its declarations. -/
theorem getLast?_dropDeclarations {cs : List Char} (h : cs.getLast?.any isWhite = false) :
    (dropDeclarations cs).getLast?.any isWhite = false := by
  induction cs using dropDeclarations_induction with
  | nil => rfl
  | keep c cs hKeep ih =>
      rw [dropDeclarations_cons hKeep]
      by_cases hNil : cs = []
      · subst hNil
        exact h
      · have hRest : cs.getLast?.any isWhite = false := by
          rwa [List.getLast?_cons_of_ne_nil hNil] at h
        by_cases hGone : dropDeclarations cs = []
        · -- a declaration comes next, so the character would not have stayed if it were white
          obtain ⟨rest, hDeclaration⟩ := exists_of_dropDeclarations_eq_nil hNil hGone
          cases hWhite : isWhite c with
          | false => rw [hGone]; exact hWhite
          | true =>
              rw [hKeep hWhite] at hDeclaration
              exact absurd hDeclaration (by simp)
        · rw [List.getLast?_cons_of_ne_nil hGone]
          exact ih hRest
  | drop c cs rest hWhite hRest hSuffix ih =>
      rw [dropDeclarations_of_declaration hWhite hRest]
      refine ih ?_
      by_cases hNil : rest = []
      · subst hNil
        rfl
      · obtain ⟨start, rfl⟩ := hSuffix
        rwa [← List.cons_append, List.getLast?_append, List.getLast?_eq_some_getLast hNil, Option.some_or,
          ← List.getLast?_eq_some_getLast hNil] at h

/-! ## Text before a bracket -/

/-- Text that is treated as by itself, whatever comes behind the next bracket. -/
def StandsAlone (text : List Char) : Prop :=
  ∀ more, dropDeclarations (text ++ '<' :: more) = dropDeclarations text ++ dropDeclarations ('<' :: more)

/-- Text that leaves a declaration open.  All up to the next quotation mark behind the bracket goes, and of the text
itself only this is kept. -/
def LeavesOpen (text kept : List Char) : Prop :=
  ∀ skipped rest, '"' ∉ skipped →
    dropDeclarations (text ++ '<' :: (skipped ++ '"' :: rest)) = kept ++ dropDeclarations rest

theorem dropWhile_isWhite_append (cs more : List Char) :
    (cs ++ '<' :: more).dropWhile isWhite = cs.dropWhile isWhite ++ '<' :: more :=
  dropWhile_append_stop (by decide) cs more

theorem dropDeclarations_append_of_declaration {c : Char} {cs rest : List Char} (hWhite : isWhite c = true)
    (hRest : afterDeclaration? (cs.dropWhile isWhite) = some rest) (more : List Char) :
    dropDeclarations (c :: cs ++ '<' :: more) = dropDeclarations (rest ++ '<' :: more) := by
  rw [List.cons_append]
  refine dropDeclarations_of_declaration hWhite ?_
  rw [dropWhile_isWhite_append, afterDeclaration?_append_bracket hRest]

/-- Without a quotation mark behind the next bracket, text is treated as by itself. -/
theorem dropDeclarations_append_of_notMem {more : List Char} (hMore : '"' ∉ more) (text : List Char) :
    dropDeclarations (text ++ '<' :: more) = dropDeclarations text ++ dropDeclarations ('<' :: more) := by
  induction text using dropDeclarations_induction with
  | nil => rfl
  | keep c cs hKeep ih =>
      rw [List.cons_append, dropDeclarations_cons, dropDeclarations_cons hKeep, ih, List.cons_append]
      intro hWhite
      rw [dropWhile_isWhite_append]
      rcases afterDeclaration?_append_cases (hKeep hWhite) with hNone | ⟨hNone, -⟩
      · exact hNone more
      · exact hNone more hMore
  | drop c cs rest hWhite hRest hSuffix ih =>
      rw [dropDeclarations_append_of_declaration hWhite hRest, ih, dropDeclarations_of_declaration hWhite hRest]

/-- Text is treated as by itself, or else it leaves a declaration open.  In this case it keeps the characters before
the declaration. -/
theorem standsAlone_or_leavesOpen (text : List Char) :
    StandsAlone text ∨ ∃ kept, kept.Sublist text ∧
      (∀ c, text.head? = some c → isWhite c = false → kept.head? = some c) ∧ LeavesOpen text kept := by
  induction text using dropDeclarations_induction with
  | nil => exact Or.inl fun _ => rfl
  | keep c cs hKeep ih =>
      have hAlone : dropDeclarations (c :: cs) = c :: dropDeclarations cs := dropDeclarations_cons hKeep
      -- whether the character stays depends on what comes behind the bracket only if a declaration is open there
      have hEither : (∀ more, dropDeclarations (c :: cs ++ '<' :: more) = c :: dropDeclarations (cs ++ '<' :: more)) ∨
          isWhite c = true ∧ LeavesOpen (c :: cs) [] := by
        cases hWhite : isWhite c with
        | false => exact Or.inl fun more => dropDeclarations_of_head hWhite _
        | true =>
            rcases afterDeclaration?_append_cases (hKeep hWhite) with hNone | ⟨-, hOpen⟩
            · refine Or.inl fun more => ?_
              rw [List.cons_append, dropDeclarations_cons]
              exact fun _ => (dropWhile_isWhite_append cs more).symm ▸ hNone more
            · refine Or.inr ⟨rfl, fun skipped rest hSkipped => ?_⟩
              have hRest := hOpen skipped rest hSkipped
              rw [← dropWhile_isWhite_append] at hRest
              exact dropDeclarations_of_declaration hWhite hRest
      rcases hEither with hStays | ⟨hWhite, hOpen⟩
      · rcases ih with hStands | ⟨kept, hKept, -, hOpen⟩
        · refine Or.inl fun more => ?_
          rw [hStays, hStands, hAlone, List.cons_append]
        · refine Or.inr ⟨c :: kept, hKept.cons_cons c, fun d hd _ => hd, fun skipped rest hSkipped => ?_⟩
          rw [hStays, hOpen skipped rest hSkipped, List.cons_append]
      · refine Or.inr ⟨[], List.nil_sublist _, fun d hd hNotWhite => ?_, hOpen⟩
        rw [← Option.some.inj hd, hWhite] at hNotWhite
        exact absurd hNotWhite (by decide)
  | drop c cs rest hWhite hRest hSuffix ih =>
      have hAlone : dropDeclarations (c :: cs) = dropDeclarations rest :=
        dropDeclarations_of_declaration hWhite hRest
      have hBefore := dropDeclarations_append_of_declaration hWhite hRest
      rcases ih with hStands | ⟨kept, hKept, -, hOpen⟩
      · refine Or.inl fun more => ?_
        rw [hBefore, hStands, hAlone]
      · refine Or.inr ⟨kept, (hKept.trans hSuffix.sublist).cons c, fun d hd hNotWhite => ?_,
          fun skipped rest' hSkipped => ?_⟩
        · rw [← Option.some.inj hd, hWhite] at hNotWhite
          exact absurd hNotWhite (by decide)
        · rw [hBefore, hOpen skipped rest' hSkipped]

/-- Whether text is treated as by itself can be told from one quotation mark behind a bracket. -/
theorem standsAlone_iff {text : List Char} (h : '<' ∉ text) :
    StandsAlone text ↔ dropDeclarations (text ++ ['<', '"']) = dropDeclarations text ++ ['<', '"'] := by
  refine ⟨fun hAlone => hAlone ['"'], fun hSame => ?_⟩
  rcases standsAlone_or_leavesOpen text with hAlone | ⟨kept, hKept, -, hOpen⟩
  · exact hAlone
  · -- what is kept would have the bracket
    have hEnd : dropDeclarations (text ++ ['<', '"']) = kept := by
      simpa using hOpen [] [] (by simp)
    have hMem : '<' ∈ kept := by
      rw [← hEnd, hSame]
      simp
    exact absurd (hKept.mem hMem) h

example : StandsAlone "The attribute xmlns=\"urn:x\" in XML".toList :=
  (standsAlone_iff (by decide)).mpr (by decide +kernel)

example : ¬StandsAlone "The attribute xmlns=\"".toList :=
  fun h => absurd ((standsAlone_iff (by decide)).mp h) (by decide +kernel)

/-- Text that leaves a declaration open has characters before the declaration, unless it begins with white space. -/
theorem LeavesOpen.ne_nil {text kept : List Char} (h : LeavesOpen text kept) (hKept : kept.Sublist text)
    (hStart : text.head?.any isWhite = false)
    (hHead : ∀ c, text.head? = some c → isWhite c = false → kept.head? = some c) :
    kept ≠ [] ∧ kept.head?.any isWhite = false := by
  cases text with
  | nil =>
      obtain rfl : kept = [] := List.sublist_nil.mp hKept
      exact absurd (h [] [] (by simp)) (by decide)
  | cons c cs =>
      have hFirst := hHead c rfl hStart
      refine ⟨fun hNil => ?_, ?_⟩
      · rw [hNil] at hFirst
        exact absurd hFirst (by simp)
      · rw [hFirst]
        exact hStart

end CatalogGraph.Marc
