import Mathlib.Data.List.Nodup
import CatalogGraph.Proofs.WrittenXml

/-!
# Reading written elements

* `Reads` — characters that are read as some nodes, wherever they stand; these may be put together
  (`Reads.append`, `Reads.flatMap`);
* `Fills` — characters that are read as the whole content of an element, which text is as well
  (`fills_escape`), if it neither begins nor ends with a blank;
* `Fills.elementFrom?_elementText`, `Fills.reads_elementText`, `read?_elementText` — a written element is read as an
  element with that content;
* `attrs?_attrTexts` — its attributes are read as they were written, their values still escaped.
-/

namespace CatalogGraph.Xml

open Text

/-! ## Nodes -/

theorem OpenElement.flush_of_parts_nil {e : OpenElement} (h : e.parts = []) : e.flush = e := by
  obtain ⟨name, attrs, content, parts⟩ := e
  subst h
  rfl

/-- Characters that are read as some nodes, in whatever element they stand and whatever comes after them. -/
def Reads (cs : List Char) (nodes : List Node) : Prop :=
  ∀ (e : OpenElement) (outer : List OpenElement) (rest : List Char), e.parts = [] →
    elementFrom? e outer (markup (cs ++ rest)) =
      elementFrom? { e with content := nodes.reverse ++ e.content } outer (markup rest)

/-- Characters that are read as the whole content of an element. -/
def Fills (cs : List Char) (nodes : List Node) : Prop :=
  ∀ (e : OpenElement) (outer : List OpenElement) (rest : List Char), e.content = [] → e.parts = [] →
    ∃ filled : OpenElement, filled.name = e.name ∧ filled.close = .element e.name e.attrs nodes ∧
      elementFrom? e outer (markup (cs ++ '<' :: rest)) = elementFrom? filled outer (markup ('<' :: rest))

namespace Reads

variable {cs ds : List Char} {nodes more : List Node}

theorem nil : Reads [] [] := fun _ _ _ _ => rfl

theorem append (hc : Reads cs nodes) (hd : Reads ds more) : Reads (cs ++ ds) (nodes ++ more) := by
  intro e outer rest hParts
  rw [List.append_assoc, hc e outer _ hParts,
    hd { e with content := nodes.reverse ++ e.content } outer rest hParts, List.reverse_append,
    List.append_assoc]

theorem flatMap {α : Type} {f : α → List Char} {g : α → Node} {xs : List α}
    (h : ∀ x ∈ xs, Reads (f x) [g x]) : Reads (xs.flatMap f) (xs.map g) := by
  induction xs with
  | nil => exact nil
  | cons x xs ih =>
      obtain ⟨hHead, hRest⟩ := List.forall_mem_cons.mp h
      exact hHead.append (ih hRest)

theorem fills (h : Reads cs nodes) : Fills cs nodes := by
  intro e outer rest hContent hParts
  have hFlush := OpenElement.flush_of_parts_nil (e := { e with content := nodes.reverse }) hParts
  refine ⟨{ e with content := nodes.reverse }, rfl, ?_, ?_⟩
  · rw [OpenElement.close, hFlush, List.reverse_reverse]
  · rw [h e outer _ hParts, hContent, List.append_nil]

end Reads

/-! ## Text -/

/-- Whether a text neither begins nor ends with a blank. -/
def isTrimmed (cs : List Char) : Bool :=
  !cs.head?.any isBlankChar && !cs.getLast?.any isBlankChar

/-- The nodes that a text is read as. -/
def textNodes (cs : List Char) : List Node :=
  if cs.isEmpty then [] else [.text (some (String.ofList cs))]

/-- At its two ends an escaped character is a blank only if the character is. -/
theorem escapeChar_ends {c : Char} (h : isBlankChar c = false) :
    (∃ d more, escapeChar c = d :: more ∧ isBlankChar d = false) ∧
      ∃ more d, escapeChar c = more ++ [d] ∧ isBlankChar d = false := by
  rcases escapeChar_cases c with ⟨-, hc⟩ | ⟨name, hc, -, -⟩
  · exact ⟨⟨c, [], hc, h⟩, [], c, hc, h⟩
  · exact ⟨⟨'&', name ++ [';'], hc, by decide⟩, '&' :: name, ';', hc, by decide⟩

theorem isTrimmed_escape {cs : List Char} (h : isTrimmed cs = true) : isTrimmed (escape cs) = true := by
  simp only [isTrimmed, Bool.and_eq_true, Bool.not_eq_true'] at h ⊢
  constructor
  · cases cs with
    | nil => rfl
    | cons c cs =>
        obtain ⟨⟨d, more, hEscape, hd⟩, -⟩ := escapeChar_ends (c := c) h.1
        rw [escape_cons, hEscape]
        exact hd
  · rcases List.eq_nil_or_concat cs with rfl | ⟨init, c, rfl⟩
    · rfl
    · have hc : isBlankChar c = false := by
        have hLast := h.2
        rwa [List.concat_eq_append, List.getLast?_concat] at hLast
      obtain ⟨-, more, d, hEscape, hd⟩ := escapeChar_ends hc
      have hSplit : escape (init.concat c) = escape init ++ more ++ [d] := by
        rw [List.concat_eq_append, escape, List.flatMap_append, List.flatMap_singleton, hEscape,
          List.append_assoc, escape]
      rw [hSplit, List.getLast?_concat]
      exact hd

theorem dropWhile_of_isTrimmed {cs : List Char} (h : isTrimmed cs = true) : cs.dropWhile isBlankChar = cs := by
  cases cs with
  | nil => rfl
  | cons c cs =>
      simp only [isTrimmed, List.head?_cons, Option.any_some, Bool.and_eq_true, Bool.not_eq_true'] at h
      exact List.dropWhile_cons_of_neg (by simp [h.1])

theorem dropEndWhile_of_isTrimmed {cs : List Char} (h : isTrimmed cs = true) :
    dropEndWhile isBlankChar cs = cs := by
  rcases List.eq_nil_or_concat cs with rfl | ⟨init, c, rfl⟩
  · rfl
  · simp only [isTrimmed, List.concat_eq_append, List.getLast?_concat, Option.any_some, Bool.and_eq_true,
      Bool.not_eq_true'] at h
    rw [List.concat_eq_append, dropEndWhile, List.reverse_append, List.reverse_singleton, List.singleton_append,
      List.dropWhile_cons_of_neg (by simp [h.2]), List.reverse_cons, List.reverse_reverse]

/-- Text that is not trimmed by the reader is read as what its references stand for. -/
theorem textOf_written {raw cs : List Char} (hNil : raw ≠ []) (h : isTrimmed raw = true)
    (hResolve : resolve? raw = some cs) : textOf [.written raw] = [.text (some (String.ofList cs))] := by
  have hBlank : (Part.written raw).isBlank = false := by
    have hStays := dropWhile_of_isTrimmed h
    rw [Part.isBlank, Bool.eq_false_iff]
    intro hAll
    rw [List.dropWhile_eq_nil_iff.mpr (List.all_eq_true.mp hAll)] at hStays
    exact hNil hStays.symm
  rw [textOf, List.dropWhile_cons_of_neg (by simp [hBlank])]
  simp [trimLast, Part.trimStart, Part.trimEnd, Part.chars?, dropWhile_of_isTrimmed h,
    dropEndWhile_of_isTrimmed h, hResolve]

theorem markup_text_append {text : List Char} (hNil : text ≠ []) (h : '<' ∉ text) (rest : List Char) :
    markup (text ++ '<' :: rest) = .text text :: markup ('<' :: rest) := by
  cases text with
  | nil => exact absurd rfl hNil
  | cons c cs =>
      rw [List.mem_cons, not_or] at h
      rw [List.cons_append, markup_text (Ne.symm h.1), takeWhile_append_cons h.2, dropWhile_append_cons h.2]

/-- Text is read as the content of an element. -/
theorem fills_written {raw cs : List Char} (hNil : cs ≠ []) (hTrimmed : isTrimmed raw = true)
    (hBracket : '<' ∉ raw) (hResolve : resolve? raw = some cs) : Fills raw (textNodes cs) := by
  have hRaw : raw ≠ [] := by
    rintro rfl
    exact hNil (Option.some.inj hResolve).symm
  intro e outer rest hContent hParts
  have hText : textNodes cs = [.text (some (String.ofList cs))] := by
    rw [textNodes, if_neg (by simpa using hNil)]
  refine ⟨e.addPart (.written raw), rfl, ?_, ?_⟩
  · rw [OpenElement.close, OpenElement.flush, OpenElement.addPart, hParts, List.reverse_singleton,
      textOf_written hRaw hTrimmed hResolve, hContent, List.append_nil, List.reverse_singleton, hText]
  · rw [markup_text_append hRaw hBracket, elementFrom?]

/-- Text without references is read as it is. -/
theorem fills_literal {cs : List Char} (hTrimmed : isTrimmed cs = true) (hBracket : '<' ∉ cs)
    (hReference : '&' ∉ cs) : Fills cs (textNodes cs) := by
  by_cases hNil : cs = []
  · subst hNil
    exact Reads.nil.fills
  · have hResolve := resolve?_append_of_notMem hReference []
    rw [List.append_nil, show resolve? [] = some [] from rfl, Option.map_some, List.append_nil] at hResolve
    exact fills_written hNil hTrimmed hBracket hResolve

/-- Escaped text is read as the content of an element. -/
theorem fills_escape {cs : List Char} (h : isTrimmed cs = true) : Fills (escape cs) (textNodes cs) := by
  by_cases hNil : cs = []
  · subst hNil
    exact Reads.nil.fills
  · exact fills_written hNil (isTrimmed_escape h) (notMem_escape (by decide) cs) (resolve?_escape cs)

/-! ## Elements -/

section Elements

variable {name : String} {attrs : List (String × String)} {content : List Char} {nodes : List Node}

theorem markup_startTag (hName : isPlainName name = true) (hAttrs : ∀ a ∈ attrs, isPlainName a.1 = true)
    (rest : List Char) :
    markup (startTag [] name attrs ++ rest) = .start name.toList (attrs.flatMap attrText) :: markup rest := by
  have hSplit : startTag [] name attrs ++ rest =
      '<' :: (name.toList ++ (attrs.flatMap attrText ++ '>' :: rest)) := by simp [startTag]
  rw [hSplit, markup_bracket, markupAfter_startTag hName hAttrs, List.singleton_append]

/-- What a start tag and the content do to the reader, up to the end tag. -/
theorem markup_elementText (hName : isPlainName name = true) (hAttrs : ∀ a ∈ attrs, isPlainName a.1 = true)
    (content rest : List Char) :
    markup (elementText [] name attrs content ++ rest) =
      .start name.toList (attrs.flatMap attrText) ::
        markup (content ++ '<' :: '/' :: (name.toList ++ '>' :: rest)) := by
  have hSplit : elementText [] name attrs content ++ rest =
      startTag [] name attrs ++ (content ++ '<' :: '/' :: (name.toList ++ '>' :: rest)) := by
    simp [elementText, endTag]
  rw [hSplit, markup_startTag hName hAttrs]

theorem markup_endTag (hName : isPlainName name = true) (rest : List Char) :
    markup ('<' :: '/' :: (name.toList ++ '>' :: rest)) = .stop name.toList :: markup rest := by
  rw [markup_bracket, markupAfter_endTag hName, List.singleton_append]

/-- A written element completes the text before it, and is added as an element with what its content is read as. -/
theorem Fills.elementFrom?_elementText (h : Fills content nodes) (hName : isPlainName name = true)
    (hAttrs : ∀ a ∈ attrs, isPlainName a.1 = true) (e : OpenElement) (outer : List OpenElement)
    (rest : List Char) :
    elementFrom? e outer (markup (elementText [] name attrs content ++ rest)) =
      elementFrom? (e.flush.addNode (.element name.toList (attrs.flatMap attrText) nodes)) outer
        (markup rest) := by
  obtain ⟨filled, hFilledName, hClose, hFilled⟩ :=
    h ⟨name.toList, attrs.flatMap attrText, [], []⟩ (e.flush :: outer)
      ('/' :: (name.toList ++ '>' :: rest)) rfl rfl
  -- the start tag opens the element inside `e`, the content fills it, and the end tag closes it
  rw [markup_elementText hName hAttrs, elementFrom?, hFilled, markup_endTag hName, elementFrom?,
    if_pos hFilledName.symm]
  simp only [hClose]

/-- A written element is read as an element with what its content is read as. -/
theorem Fills.reads_elementText (h : Fills content nodes) (hName : isPlainName name = true)
    (hAttrs : ∀ a ∈ attrs, isPlainName a.1 = true) :
    Reads (elementText [] name attrs content) [.element name.toList (attrs.flatMap attrText) nodes] := by
  intro e outer rest hParts
  rw [h.elementFrom?_elementText hName hAttrs, OpenElement.flush_of_parts_nil hParts]
  rfl

/-- A document of a written element is read as that element. -/
theorem read?_elementText (h : Fills content nodes) (hName : isPlainName name = true)
    (hAttrs : ∀ a ∈ attrs, isPlainName a.1 = true) :
    read? (elementText [] name attrs content) =
      some (.element name.toList (attrs.flatMap attrText) nodes) := by
  obtain ⟨filled, hFilledName, hClose, hFilled⟩ :=
    h ⟨name.toList, attrs.flatMap attrText, [], []⟩ [] ('/' :: (name.toList ++ ['>'])) rfl rfl
  have hMarkup : markupOf (elementText [] name attrs content) =
      markup (elementText [] name attrs content ++ []) := by
    rw [List.append_nil]
    rfl
  rw [read?, hMarkup, markup_elementText hName hAttrs, root?, hFilled, markup_endTag hName, elementFrom?,
    if_pos hFilledName.symm]
  simp only [hClose]

end Elements

/-! ## Attributes -/

/-- An attribute is read up to its second quotation mark. -/
theorem readAttr?_attrText {name : String} (hName : isPlainName name = true) (value : String)
    (rest : List Char) :
    readAttr? (name.toList ++ '=' :: '"' :: (escape value.toList ++ '"' :: rest)) =
      some ((name.toList, escape value.toList), rest) := by
  obtain ⟨hNil, hAlphanum⟩ := isPlainName_iff.mp hName
  have hQuote : '"' ∉ escape value.toList := notMem_escape (by decide) _
  cases hChars : name.toList with
  | nil => exact absurd hChars hNil
  | cons c cs =>
      have hNameChar : ∀ d ∈ cs, (d != '=' && !isBlankChar d) = true := by
        intro d hd
        have hd : d.isAlphanum = true := hAlphanum d (hChars ▸ List.mem_cons_of_mem c hd)
        simp [ne_of_isAlphanum hd (show '='.isAlphanum = false from by decide), isBlankChar_of_isAlphanum hd]
      have hTake : (cs ++ '=' :: '"' :: (escape value.toList ++ '"' :: rest)).takeWhile
          (fun d => d != '=' && !isBlankChar d) = cs := by
        rw [List.takeWhile_append_of_pos hNameChar, List.takeWhile_cons_of_neg (by decide), List.append_nil]
      rw [List.cons_append, readAttr?]
      simp only [hTake, List.length_cons, Nat.add_sub_cancel, List.drop_left]
      rw [List.dropWhile_cons_of_neg (by decide)]
      simp only
      rw [List.dropWhile_cons_of_neg (by decide)]
      simp [takeWhile_append_cons hQuote]

theorem readAttrs?_succ {cs text : List Char} (hText : cs.dropWhile isBlankChar = text) (hNil : text ≠ [])
    (rounds : Nat) (seen : List (List Char)) :
    readAttrs? (rounds + 1) seen cs =
      (readAttr? text).bind fun p =>
        if seen.contains p.1.1 then none else (p.1 :: ·) <$> readAttrs? rounds (p.1.1 :: seen) p.2 := by
  rw [readAttrs?, hText]
  cases text with
  | nil => exact absurd rfl hNil
  | cons c cs => rfl

/-- Attributes with different names are read one after the other. -/
theorem readAttrs?_attrTexts {attrs : List (String × String)} {rounds : Nat} {seen : List (List Char)}
    (hNames : ∀ a ∈ attrs, isPlainName a.1 = true)
    (hNodup : (seen ++ attrs.map (·.1.toList)).Nodup) (hRounds : attrs.length ≤ rounds) :
    readAttrs? rounds seen (attrs.flatMap attrText) =
      some (attrs.map fun a => (a.1.toList, escape a.2.toList)) := by
  induction attrs generalizing rounds seen with
  | nil => cases rounds <;> rfl
  | cons a attrs ih =>
      obtain ⟨hHead, hRest⟩ := List.forall_mem_cons.mp hNames
      obtain ⟨hNil, hAlphanum⟩ := isPlainName_iff.mp hHead
      obtain ⟨rounds, rfl⟩ : ∃ n, rounds = n + 1 :=
        Nat.exists_eq_add_one_of_ne_zero (by simp at hRounds; omega)
      have hText : ((a :: attrs).flatMap attrText).dropWhile isBlankChar =
          a.1.toList ++ '=' :: '"' :: (escape a.2.toList ++ '"' :: attrs.flatMap attrText) := by
        have hStart : ∀ more, (a.1.toList ++ more).dropWhile isBlankChar = a.1.toList ++ more := by
          intro more
          cases hChars : a.1.toList with
          | nil => exact absurd hChars hNil
          | cons c cs =>
              have hc := isBlankChar_of_isAlphanum (hAlphanum c (hChars ▸ List.mem_cons_self))
              rw [List.cons_append, List.dropWhile_cons_of_neg (by simp [hc])]
        rw [List.flatMap_cons, attrText, List.cons_append, List.dropWhile_cons_of_pos (by decide),
          List.append_assoc, hStart]
        simp
      have hAll : (a.1.toList :: seen ++ attrs.map (·.1.toList)).Nodup := List.nodup_middle.mp hNodup
      have hSeen : a.1.toList ∉ seen := fun hMem =>
        (List.nodup_cons.mp hAll).1 (List.mem_append_left _ hMem)
      have hTail := ih hRest hAll (Nat.le_of_succ_le_succ hRounds)
      -- the name that is read next was not seen, and is seen from then on
      rw [readAttrs?_succ hText (by simp), readAttr?_attrText hHead, Option.bind_some, hTail]
      simp [hSeen]

theorem length_le_length_attrTexts (attrs : List (String × String)) :
    attrs.length ≤ (attrs.flatMap attrText).length := by
  induction attrs with
  | nil => exact Nat.le_refl _
  | cons a attrs ih =>
      rw [List.flatMap_cons, List.length_append, attrText, List.length_cons, List.length_cons]
      omega

/-- The attributes of a tag are read as they were written, their values still escaped. -/
theorem attrs?_attrTexts {attrs : List (String × String)} (hNames : ∀ a ∈ attrs, isPlainName a.1 = true)
    (hNodup : (attrs.map (·.1.toList)).Nodup) :
    attrs? (attrs.flatMap attrText) = some (attrs.map fun a => (a.1.toList, escape a.2.toList)) := by
  unfold attrs?
  exact readAttrs?_attrTexts hNames hNodup (length_le_length_attrTexts attrs)

end CatalogGraph.Xml
