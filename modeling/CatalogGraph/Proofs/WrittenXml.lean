import CatalogGraph.Text.Characters
import CatalogGraph.Xml.Element
import CatalogGraph.Xml.Written

/-!
# Reading written tags

What a reader of markup makes of written text and tags.

* `resolve?_escape_append` — resolving references undoes escaping, and no bracket or quotation mark is left in
  what is escaped (`notMem_escape`);
* `markup` — the markup of characters, without the bound on the number of rounds: what is after a piece of
  markup is always an end of the text (`markupAfter_suffix`), so the bound is never reached (`markupIn_of_le`);
* `Balanced` — characters of a tag that the reader goes through with every quotation mark closed, which the
  name and the attributes of a written tag are;
* `markupAfter_startTag`, `markupAfter_endTag` — a written tag is read as that tag, up to its bracket.

Names are made of letters and digits here; the reader itself takes any characters up to a blank.
-/

namespace CatalogGraph.Xml

open Text

/-! ## Escaped characters -/

/-- A character is written as it is, or as a reference to it. -/
theorem escapeChar_cases (c : Char) :
    (c ∉ ['&', '<', '>', '"', '\x27'] ∧ escapeChar c = [c]) ∨
      ∃ name, escapeChar c = '&' :: (name ++ [';']) ∧ referenced? name = some c ∧
        ∀ d ∈ name, d.isAlpha = true := by
  unfold escapeChar
  split
  · exact Or.inr ⟨"amp".toList, rfl, rfl, List.all_eq_true.mp (by decide)⟩
  · exact Or.inr ⟨"lt".toList, rfl, rfl, List.all_eq_true.mp (by decide)⟩
  · exact Or.inr ⟨"gt".toList, rfl, rfl, List.all_eq_true.mp (by decide)⟩
  · exact Or.inr ⟨"quot".toList, rfl, rfl, List.all_eq_true.mp (by decide)⟩
  · exact Or.inr ⟨"apos".toList, rfl, rfl, List.all_eq_true.mp (by decide)⟩
  · next hAmp hLt hGt hQuote hApos =>
      refine Or.inl ⟨?_, rfl⟩
      simp only [List.mem_cons, List.not_mem_nil, or_false, not_or]
      exact ⟨hAmp, hLt, hGt, hQuote, hApos⟩

/-- What a character is written with: itself, or letters between `&` and `;`. -/
theorem mem_escapeChar {c d : Char} (h : d ∈ escapeChar c) :
    d = c ∧ c ∉ ['&', '<', '>', '"', '\x27'] ∨ d = '&' ∨ d = ';' ∨ d.isAlpha = true := by
  rcases escapeChar_cases c with ⟨hPlain, hc⟩ | ⟨name, hc, -, hName⟩
  · rw [hc, List.mem_singleton] at h
    exact Or.inl ⟨h, hPlain⟩
  · rw [hc, List.mem_cons, List.mem_append, List.mem_singleton] at h
    rcases h with hd | hd | hd
    · exact Or.inr (Or.inl hd)
    · exact Or.inr (Or.inr (Or.inr (hName d hd)))
    · exact Or.inr (Or.inr (Or.inl hd))

/-- No bracket and no quotation mark is left of what is escaped. -/
theorem notMem_escape {d : Char} (h : d ∈ ['<', '>', '"', '\x27']) (cs : List Char) :
    d ∉ escape cs := by
  intro hMem
  obtain ⟨c, -, hd⟩ := List.mem_flatMap.mp hMem
  have hMarks : ['<', '>', '"', '\x27'].all (fun d => !d.isAlpha && d != '&' && d != ';') = true := by decide
  have hMark := List.all_eq_true.mp hMarks d h
  simp only [Bool.and_eq_true, Bool.not_eq_true', bne_iff_ne] at hMark
  obtain ⟨⟨hAlpha, hAmp⟩, hSemicolon⟩ := hMark
  rcases mem_escapeChar hd with ⟨rfl, hPlain⟩ | rfl | rfl | hLetter
  · exact hPlain (List.mem_cons_of_mem _ h)
  · exact hAmp rfl
  · exact hSemicolon rfl
  · rw [hAlpha] at hLetter
    exact absurd hLetter (by decide)

theorem escape_cons (c : Char) (cs : List Char) : escape (c :: cs) = escapeChar c ++ escape cs :=
  List.flatMap_cons

/-- The name of a reference is collected up to its semicolon. -/
theorem resolveFrom_reference {name read : List Char} (h : ∀ d ∈ name, d.isAlpha = true)
    (rest : List Char) :
    resolveFrom (some read) (name ++ ';' :: rest) =
      (referenced? (read.reverse ++ name)).bind fun d => (resolveFrom none rest).map (d :: ·) := by
  induction name generalizing read with
  | nil => simp [resolveFrom]
  | cons c name ih =>
      obtain ⟨hc, hName⟩ := List.forall_mem_cons.mp h
      have hSemicolon : c ≠ ';' := fun hSame => absurd (hSame ▸ hc) (by decide)
      have hAmp : c ≠ '&' := fun hSame => absurd (hSame ▸ hc) (by decide)
      rw [List.cons_append, resolveFrom]
      simp only [beq_iff_eq, hSemicolon, hAmp, if_false]
      rw [ih hName, List.reverse_cons, List.append_assoc, List.singleton_append]

/-- Resolving references undoes escaping, and goes on behind it. -/
theorem resolve?_escape_append (cs more : List Char) :
    resolve? (escape cs ++ more) = (resolve? more).map (cs ++ ·) := by
  unfold resolve?
  induction cs with
  | nil => exact Option.map_id'.symm
  | cons c cs ih =>
      rw [escape_cons, List.append_assoc]
      rcases escapeChar_cases c with ⟨hPlain, hc⟩ | ⟨name, hc, hReferenced, hName⟩
      · have hAmp : c ≠ '&' := fun hSame => hPlain (hSame ▸ List.mem_cons_self)
        rw [hc, List.singleton_append, resolveFrom]
        simp [hAmp, ih, Function.comp_def]
      · rw [hc, List.cons_append, List.append_assoc, List.singleton_append, resolveFrom]
        simp only [beq_self_eq_true, if_true]
        rw [resolveFrom_reference hName, List.reverse_nil, List.nil_append, hReferenced, ih]
        simp [Function.comp_def]

theorem resolve?_escape (cs : List Char) : resolve? (escape cs) = some cs := by
  have hAll := resolve?_escape_append cs []
  rw [List.append_nil] at hAll
  rw [hAll, show resolve? [] = some [] from rfl, Option.map_some, List.append_nil]

/-- Text without references stands for itself. -/
theorem resolve?_append_of_notMem {text : List Char} (h : '&' ∉ text) (more : List Char) :
    resolve? (text ++ more) = (resolve? more).map (text ++ ·) := by
  unfold resolve?
  induction text with
  | nil => exact Option.map_id'.symm
  | cons c text ih =>
      rw [List.mem_cons, not_or] at h
      rw [List.cons_append, resolveFrom]
      simp [Ne.symm h.1, ih h.2, Function.comp_def]

/-! ## What is after markup -/

/-- The content of a tag and its bracket stand before what is after it. -/
theorem eq_of_tagContent? {quote : Option Char} {cs content after : List Char}
    (h : tagContent? quote cs = some (content, after)) : cs = content ++ '>' :: after := by
  induction cs generalizing quote content with
  | nil => simp [tagContent?] at h
  | cons c cs ih =>
      cases quote with
      | some q =>
          rw [tagContent?] at h
          obtain ⟨⟨more, rest⟩, hMore, hPair⟩ := Option.map_eq_some_iff.mp h
          obtain ⟨rfl, rfl⟩ := Prod.mk.inj hPair
          rw [ih hMore, List.cons_append]
      | none =>
          rw [tagContent?] at h
          split at h
          · next hBracket =>
              obtain ⟨rfl, rfl⟩ := Prod.mk.inj (Option.some.inj h)
              rw [eq_of_beq hBracket, List.nil_append]
          · obtain ⟨⟨more, rest⟩, hMore, hPair⟩ := Option.map_eq_some_iff.mp h
            obtain ⟨rfl, rfl⟩ := Prod.mk.inj hPair
            rw [ih hMore, List.cons_append]

theorem cutAt?_suffix {mark cs before after : List Char} (h : cutAt? mark cs = some (before, after)) :
    after <:+ cs := by
  induction cs generalizing before with
  | nil => simp [cutAt?] at h
  | cons c cs ih =>
      rw [cutAt?] at h
      split at h
      · obtain ⟨-, rfl⟩ := Prod.mk.inj (Option.some.inj h)
        exact List.drop_suffix _ _
      · obtain ⟨⟨more, rest⟩, hMore, hPair⟩ := Option.map_eq_some_iff.mp h
        obtain ⟨-, rfl⟩ := Prod.mk.inj hPair
        exact (ih hMore).trans (List.suffix_cons c cs)

theorem afterDoctype?_suffix {depth : Nat} {cs after : List Char}
    (h : afterDoctype? depth cs = some after) : after <:+ cs := by
  fun_induction afterDoctype? depth cs with
  | case1 => simp at h
  | case2 depth cs ih => exact (ih h).trans (List.suffix_cons _ _)
  | case3 cs =>
      obtain rfl := Option.some.inj h
      exact List.suffix_cons _ _
  | case4 depth cs ih => exact (ih h).trans (List.suffix_cons _ _)
  | case5 depth c cs _ _ _ ih => exact (ih h).trans (List.suffix_cons _ _)

theorem upTo_suffix (c : Char) (cs : List Char) : (upTo c cs).2 <:+ cs :=
  (List.drop_suffix _ _).trans (List.dropWhile_suffix _)

theorem declaration_suffix (cs : List Char) : (declaration cs).2 <:+ cs := by
  unfold declaration
  split
  · split
    · next h => exact (cutAt?_suffix h).trans ((List.suffix_cons _ _).trans (List.suffix_cons _ _))
    · exact List.nil_suffix
  · split
    · next h =>
        split
        · exact cutAt?_suffix h
        · exact List.nil_suffix
    · exact List.nil_suffix
  · split
    · next h =>
        simp only
        split
        · exact afterDoctype?_suffix h
        · exact List.nil_suffix
    · exact List.nil_suffix

theorem instruction_suffix (cs : List Char) : (instruction cs).2 <:+ cs := by
  unfold instruction
  simp only
  split
  · exact upTo_suffix '>' cs
  · exact List.nil_suffix

/-- What is after markup is an end of the text. -/
theorem markupAfter_suffix (cs : List Char) : (markupAfter cs).2 <:+ cs := by
  unfold markupAfter
  split
  · exact List.nil_suffix
  · next cs => exact (declaration_suffix cs).trans (List.suffix_cons _ _)
  · next cs => exact (instruction_suffix cs).trans (List.suffix_cons _ _)
  · next cs => exact (upTo_suffix '>' cs).trans (List.suffix_cons _ _)
  · split
    · next content after h =>
        rw [eq_of_tagContent? h]
        exact (List.suffix_cons _ _).trans (List.suffix_append _ _)
    · exact List.nil_suffix

/-- The markup and text of characters that no byte order mark is dropped from. -/
def markup (cs : List Char) : List Markup := markupIn cs.length cs

/-- As many rounds as there are characters are enough. -/
theorem markupIn_of_le {rounds : Nat} {cs : List Char} (h : cs.length ≤ rounds) :
    markupIn rounds cs = markup cs := by
  refine eq_of_enough_rounds (fun n m => by cases n <;> cases m <;> rfl) ?_ h (Nat.le_refl _)
  intro n m c cs hSame
  rw [markupIn, markupIn]
  split
  · simp only [hSame _ (markupAfter_suffix cs).length_le]
  · simp only [hSame (cs.dropWhile (· != '<')) (List.dropWhile_sublist _).length_le]

theorem markup_bracket (cs : List Char) :
    markup ('<' :: cs) = (markupAfter cs).1 ++ markup (markupAfter cs).2 := by
  rw [markup, List.length_cons, markupIn, if_pos (by rfl)]
  simp only [markupIn_of_le (markupAfter_suffix cs).length_le]

/-- Text goes on up to the next bracket. -/
theorem markup_text {c : Char} (h : c ≠ '<') (cs : List Char) :
    markup (c :: cs) =
      .text (c :: cs.takeWhile (· != '<')) :: markup (cs.dropWhile (· != '<')) := by
  rw [markup, List.length_cons, markupIn, if_neg (by simpa using h)]
  rw [markupIn_of_le (List.dropWhile_sublist _).length_le]

/-! ## Tags -/

theorem isBlankChar_of_isAlphanum {c : Char} (h : c.isAlphanum = true) : isBlankChar c = false := by
  unfold isBlankChar
  simp only [Bool.or_eq_false_iff, beq_eq_false_iff_ne]
  refine ⟨⟨⟨?_, ?_⟩, ?_⟩, ?_⟩
  all_goals exact ne_of_isAlphanum h (by decide)

/-- Characters of a tag with every quotation mark closed, and no bracket outside of quotation marks. -/
def Balanced (cs : List Char) : Prop :=
  ∀ rest, tagContent? none (cs ++ rest) = (tagContent? none rest).map fun p => (cs ++ p.1, p.2)

namespace Balanced

variable {cs ds : List Char}

theorem nil : Balanced [] := by
  intro rest
  simp

theorem append (hc : Balanced cs) (hd : Balanced ds) : Balanced (cs ++ ds) := by
  intro rest
  rw [List.append_assoc, hc, hd, Option.map_map]
  congr 1
  funext p
  simp

theorem cons {c : Char} (hc : c ∉ ['>', '"', '\x27']) (hd : Balanced ds) : Balanced (c :: ds) := by
  intro rest
  simp only [List.mem_cons, List.not_mem_nil, or_false, not_or] at hc
  obtain ⟨hBracket, hQuote, hApostrophe⟩ := hc
  rw [List.cons_append, tagContent?]
  simp only [beq_iff_eq, hBracket, if_false, Bool.or_false, Bool.false_eq_true,
    beq_eq_false_iff_ne.mpr hQuote, beq_eq_false_iff_ne.mpr hApostrophe]
  rw [hd, Option.map_map]
  rfl

theorem of_isAlphanum (h : ∀ c ∈ cs, c.isAlphanum = true) : Balanced cs := by
  induction cs with
  | nil => exact nil
  | cons c cs ih =>
      obtain ⟨hHead, hRest⟩ := List.forall_mem_cons.mp h
      refine cons ?_ (ih hRest)
      simp only [List.mem_cons, List.not_mem_nil, or_false, not_or]
      exact ⟨ne_of_isAlphanum hHead (by decide), ne_of_isAlphanum hHead (by decide),
        ne_of_isAlphanum hHead (by decide)⟩

theorem flatMap {α : Type} {f : α → List Char} {xs : List α} (h : ∀ x ∈ xs, Balanced (f x)) :
    Balanced (xs.flatMap f) := by
  induction xs with
  | nil => exact nil
  | cons x xs ih =>
      obtain ⟨hHead, hRest⟩ := List.forall_mem_cons.mp h
      exact append hHead (ih hRest)

end Balanced

/-- A quoted value is read up to the same quotation mark. -/
theorem tagContent?_quoted {quote : Char} {value : List Char} (h : quote ∉ value) (rest : List Char) :
    tagContent? (some quote) (value ++ quote :: rest) =
      (tagContent? none rest).map fun p => (value ++ quote :: p.1, p.2) := by
  induction value with
  | nil => simp [tagContent?]
  | cons c value ih =>
      rw [List.mem_cons, not_or] at h
      obtain ⟨hHead, hRest⟩ := h
      rw [List.cons_append, tagContent?, if_neg (by simpa using Ne.symm hHead), ih hRest,
        Option.map_map]
      rfl

theorem balanced_attrText {attr : String × String} (h : isPlainName attr.1 = true) :
    Balanced (attrText attr) := by
  obtain ⟨-, hName⟩ := isPlainName_iff.mp h
  have hQuote : '"' ∉ escape attr.2.toList := notMem_escape (by decide) _
  have hValue : Balanced ('"' :: (escape attr.2.toList ++ ['"'])) := by
    intro rest
    rw [List.cons_append, List.append_assoc, List.singleton_append, tagContent?]
    simp only [show ('"' == '>') = false from rfl, beq_self_eq_true, Bool.true_or, if_true,
      Bool.false_eq_true, if_false]
    rw [tagContent?_quoted hQuote, Option.map_map]
    congr 1
    funext p
    simp
  exact .cons (by decide) (.append (.of_isAlphanum hName) (.cons (by decide) hValue))

theorem getLast?_attrTexts (attrs : List (String × String)) :
    (attrs.flatMap attrText).getLast? = none ∨ (attrs.flatMap attrText).getLast? = some '"' := by
  induction attrs with
  | nil => exact Or.inl rfl
  | cons attr attrs ih =>
      have hLast : (attrText attr).getLast? = some '"' := by
        simp [attrText, List.getLast?_cons, List.getLast?_append]
      rw [List.flatMap_cons, List.getLast?_append]
      rcases ih with hNone | hSome
      · rw [hNone, hLast]
        exact Or.inr rfl
      · rw [hSome]
        exact Or.inr rfl

theorem takeWhile_name {name : String} (h : isPlainName name = true) (attrs : List (String × String)) :
    (name.toList ++ attrs.flatMap attrText).takeWhile (fun c => !isBlankChar c) = name.toList := by
  obtain ⟨-, hName⟩ := isPlainName_iff.mp h
  have hNotBlank : ∀ c ∈ name.toList, (!isBlankChar c) = true := fun c hc => by
    rw [isBlankChar_of_isAlphanum (hName c hc)]
    rfl
  rw [List.takeWhile_append_of_pos hNotBlank]
  cases attrs with
  | nil => exact List.append_nil _
  | cons attr attrs =>
      have hStart : ((attr :: attrs).flatMap attrText).takeWhile (fun c => !isBlankChar c) = [] := rfl
      rw [hStart, List.append_nil]

theorem markupAfter_startTag {name : String} {attrs : List (String × String)}
    (hName : isPlainName name = true) (hAttrs : ∀ a ∈ attrs, isPlainName a.1 = true)
    (rest : List Char) :
    markupAfter (name.toList ++ (attrs.flatMap attrText ++ '>' :: rest)) =
      ([.start name.toList (attrs.flatMap attrText)], rest) := by
  obtain ⟨hNil, hAlphanum⟩ := isPlainName_iff.mp hName
  have hBalanced : Balanced (name.toList ++ attrs.flatMap attrText) :=
    .append (.of_isAlphanum hAlphanum) (.flatMap fun a ha => balanced_attrText (hAttrs a ha))
  have hContent : tagContent? none (name.toList ++ (attrs.flatMap attrText ++ '>' :: rest)) =
      some (name.toList ++ attrs.flatMap attrText, rest) := by
    rw [← List.append_assoc, hBalanced, tagContent?]
    simp
  -- a written tag never ends in a slash, so it is not closed at once
  have hTag : tagOf (name.toList ++ attrs.flatMap attrText) =
      [.start name.toList (attrs.flatMap attrText)] := by
    have hLast : (name.toList ++ attrs.flatMap attrText).getLast? ≠ some '/' := by
      rw [List.getLast?_append]
      rcases getLast?_attrTexts attrs with hNone | hSome
      · rw [hNone, Option.none_or]
        intro hSlash
        exact ne_of_isAlphanum (hAlphanum _ (List.mem_of_getLast? hSlash)) (by decide) rfl
      · rw [hSome, Option.some_or]
        decide
    unfold tagOf startOf
    rw [if_neg (by simpa using hLast)]
    simp only [takeWhile_name hName, List.drop_left]
  -- the first character of a name starts no other markup
  cases hChars : name.toList with
  | nil => exact absurd hChars hNil
  | cons c cs =>
      have hc : c.isAlphanum = true := hAlphanum c (hChars ▸ List.mem_cons_self)
      rw [hChars] at hContent hTag
      rw [List.cons_append] at hContent hTag ⊢
      unfold markupAfter
      split
      · next h => exact absurd h (by simp)
      · next h => exact absurd (List.cons.inj h).1 (ne_of_isAlphanum hc (by decide))
      · next h => exact absurd (List.cons.inj h).1 (ne_of_isAlphanum hc (by decide))
      · next h => exact absurd (List.cons.inj h).1 (ne_of_isAlphanum hc (by decide))
      · rw [hContent]
        exact Prod.ext hTag rfl

theorem markupAfter_endTag {name : String} (h : isPlainName name = true) (rest : List Char) :
    markupAfter ('/' :: (name.toList ++ '>' :: rest)) = ([.stop name.toList], rest) := by
  obtain ⟨-, hName⟩ := isPlainName_iff.mp h
  have hBracket : '>' ∉ name.toList := fun hMem => ne_of_isAlphanum (hName _ hMem) (by decide) rfl
  have hUpTo : upTo '>' (name.toList ++ '>' :: rest) = (name.toList, rest) := by
    unfold upTo
    rw [takeWhile_append_cons hBracket, dropWhile_append_cons hBracket]
    rfl
  have hStop : stopOf name.toList = .stop name.toList := by
    unfold stopOf Text.dropEndWhile
    have hReverse : name.toList.reverse.dropWhile isBlankChar = name.toList.reverse := by
      rw [List.dropWhile_eq_self_iff]
      intro hLength
      have hMem := List.mem_reverse.mp (List.getElem_mem hLength)
      rw [isBlankChar_of_isAlphanum (hName _ hMem)]
      exact Bool.false_ne_true
    rw [hReverse, List.reverse_reverse]
  rw [markupAfter]
  simp only [hUpTo, hStop]

end CatalogGraph.Xml
