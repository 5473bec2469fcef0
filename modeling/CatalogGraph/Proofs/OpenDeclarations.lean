import CatalogGraph.Proofs.LiteralText

/-!
# Text that leaves a declaration open

The value of a declaration ends with a quotation mark.  If there is none behind it in the text of a subfield, the
declaration ends in the tags behind the text: in the start tag of the next subfield, or else of the next field.  A
start tag without its beginning is text.

* `Opens`, `read?_of_opens` — an element that is open, and then only subfields come before the end tag of another
  element: this is not a document;
* `readAs_of_later` — the next subfield ends up in the value of this one;
* `readAs_of_hasField` — without a next subfield the end tag of this one is gone, and nothing is read;
* `readXml_literalXml` — which texts are read as they are, and what is read instead of the others.
-/

namespace CatalogGraph.Xml

open Text

/-! ## Elements that are not closed -/

/-- Characters of a document after which an element of this name is open, with no text in it that goes on. -/
def Opens (cs name : List Char) : Prop :=
  ∃ (e : OpenElement) (outer : List OpenElement), e.name = name ∧ e.parts = [] ∧
    ∀ rest, read? (cs ++ rest) = elementFrom? e outer (markup rest)

namespace Opens

variable {cs ds name : List Char} {tag : String} {attrs : List (String × String)}

theorem root (hTag : isPlainName tag = true) (hAttrs : ∀ a ∈ attrs, isPlainName a.1 = true) :
    Opens (startTag [] tag attrs) tag.toList := by
  refine ⟨⟨tag.toList, attrs.flatMap attrText, [], []⟩, [], rfl, rfl, fun rest => ?_⟩
  have hMarkup : markupOf (startTag [] tag attrs ++ rest) = markup (startTag [] tag attrs ++ rest) := rfl
  rw [read?, hMarkup, markup_startTag hTag hAttrs, root?]

theorem startTag (h : Opens cs name) (hTag : isPlainName tag = true)
    (hAttrs : ∀ a ∈ attrs, isPlainName a.1 = true) : Opens (cs ++ startTag [] tag attrs) tag.toList := by
  obtain ⟨e, outer, -, -, hRead⟩ := h
  refine ⟨⟨tag.toList, attrs.flatMap attrText, [], []⟩, e.flush :: outer, rfl, rfl, fun rest => ?_⟩
  rw [List.append_assoc, hRead, markup_startTag hTag hAttrs, elementFrom?]

theorem append (h : Opens cs name) {nodes : List Node} (hReads : Reads ds nodes) : Opens (cs ++ ds) name := by
  obtain ⟨e, outer, rfl, hParts, hRead⟩ := h
  refine ⟨{ e with content := nodes.reverse ++ e.content }, outer, rfl, hParts, fun rest => ?_⟩
  rw [List.append_assoc, hRead, hReads e outer rest hParts]

end Opens

/-- An element does not end with the end tag of another one. -/
theorem elementFrom?_endTag {e : OpenElement} {tag : String} (hTag : isPlainName tag = true)
    (hName : tag.toList ≠ e.name) (outer : List OpenElement) (rest : List Char) :
    elementFrom? e outer (markup (endTag [] tag ++ rest)) = none := by
  have hSplit : endTag [] tag ++ rest = '<' :: '/' :: (tag.toList ++ '>' :: rest) := by simp [endTag]
  rw [hSplit, markup_endTag hTag]
  cases outer with
  | nil => rw [elementFrom?, if_neg hName]
  | cons parent outer => rw [elementFrom?, if_neg hName]

end CatalogGraph.Xml

namespace CatalogGraph.Marc

open CatalogGraph.Text CatalogGraph.Unicode CatalogGraph.Xml

/-- Subfields do not help an element that ends with the end tag of another one. -/
theorem elementFrom?_subfields {tag : String} (hTag : isPlainName tag = true) {subfields : List Subfield}
    (h : ∀ s ∈ subfields, isTrimmed s.value.toList = true) (outer : List OpenElement) (rest : List Char)
    {e : OpenElement} (hName : tag.toList ≠ e.name) :
    elementFrom? e outer (markup (subfields.flatMap (Subfield.toXml []) ++ (endTag [] tag ++ rest))) = none := by
  -- a subfield joins the content of the open element, which keeps its name
  induction subfields generalizing e with
  | nil => exact elementFrom?_endTag hTag hName outer rest
  | cons s subfields ih =>
      obtain ⟨hHead, hRest⟩ := List.forall_mem_cons.mp h
      rw [List.flatMap_cons, List.append_assoc, Subfield.toXml,
        (fills_escape hHead).elementFrom?_elementText (by decide) s.isPlainName_attributes]
      exact ih hRest hName

/-- A document in which text, subfields and another end tag come after the start tag of an element. -/
theorem read?_of_opens {cs name text : List Char} (h : Opens cs name) (hBracket : '<' ∉ text) {tag : String}
    (hTag : isPlainName tag = true) (hName : tag.toList ≠ name) {subfields : List Subfield}
    (hSubfields : ∀ s ∈ subfields, isTrimmed s.value.toList = true) (rest : List Char) :
    read? (cs ++ (text ++ (subfields.flatMap (Subfield.toXml []) ++ (endTag [] tag ++ rest)))) = none := by
  obtain ⟨e, outer, rfl, -, hRead⟩ := h
  rw [hRead]
  obtain ⟨tail, hTail⟩ : ∃ tail, subfields.flatMap (Subfield.toXml []) ++ (endTag [] tag ++ rest) = '<' :: tail := by
    cases subfields with
    | nil => exact ⟨_, rfl⟩
    | cons s subfields => exact ⟨_, rfl⟩
  by_cases hNil : text = []
  · subst hNil
    exact elementFrom?_subfields hTag hSubfields outer rest hName
  · rw [hTail, markup_text_append hNil hBracket, elementFrom?, ← hTail]
    exact elementFrom?_subfields hTag hSubfields outer rest hName

/-! ## Where a declaration ends -/

/-- Escaped text stays up to a bracket, and so does what is behind it. -/
theorem Bare.escape_append {cs : List Char} (h : Bare ('<' :: cs)) (text : List Char) :
    Bare (escape text ++ '<' :: cs) where
  undeclared := by
    intro rest
    rw [List.append_assoc, List.cons_append, dropDeclarations_text (notMem_escape (by decide) _),
      ← List.cons_append, h.undeclared, List.append_assoc]
  unlabelled := (Unlabelled.of_notMem (notMem_escape (by decide) _)).append h.unlabelled

/-- A field up to its first quotation mark, and what is behind it: text up to a bracket, then subfields, and at last
the end tag of the field. -/
theorem Field.exists_toXml_eq {f : Field} (h : f.isPlain = true) :
    ∃ (start text : List Char) (subfields : List Subfield) (tag : String),
      let tail := text ++ (subfields.flatMap (Subfield.toXml []) ++ endTag [] tag)
      f.toXml [] = '<' :: (start ++ '"' :: tail) ∧ '"' ∉ start ∧ '<' ∉ text ∧
        (∀ s ∈ subfields, isTrimmed s.value.toList = true) ∧ isPlainName tag = true ∧
        tag.toList ≠ "subfield".toList ∧ Bare tail := by
  have hBracket (text : List Char) : '<' ∉ escape text := notMem_escape (by decide) text
  -- in both kinds of fields the first quotation mark opens the value of the tag
  cases f with
  | control f =>
      have hTag := (Bool.and_eq_true_iff.mp h).1
      refine ⟨"controlfield tag=".toList, escape f.tag.toList ++ '"' :: '>' :: escape f.value.toList, [],
        "controlfield", ?_, by decide, by simp [hBracket], by simp, by decide, by decide, ?_⟩
      · simp [Field.toXml, ControlField.toXml, elementText, Xml.startTag, ControlField.attributes, attrText]
      · have hText : Bare (escape f.tag.toList ++ ['"'] ++ ['>']) :=
          ⟨(Undeclared.quoted (notWhite_of_all hTag)).append (.cons (by decide) .nil),
            .of_notMem (by simp [hBracket])⟩
        have hEnd : Bare (escape f.value.toList ++ endTag [] "controlfield") :=
          Bare.escape_append (.endTag (by decide : isPlainName "controlfield" = true)) _
        simpa using hText.append hEnd
  | data f =>
      have hTag := (Bool.and_eq_true_iff.mp h).1
      have hSubfields := List.all_eq_true.mp (Bool.and_eq_true_iff.mp h).2
      let indicators := attrText ("ind1", String.singleton f.indicator1) ++
        (attrText ("ind2", String.singleton f.indicator2) ++ ['>'])
      have hIndicators : '<' ∉ indicators := by simp [indicators, attrText, hBracket]
      refine ⟨"datafield tag=".toList, escape f.tag.toList ++ '"' :: indicators, f.subfields, "datafield", ?_,
        by decide, by simp [hBracket, hIndicators], hSubfields, by decide, by decide, ?_⟩
      · simp [Field.toXml, DataField.toXml, elementText, Xml.startTag, DataField.attributes, attrText, indicators]
      · have hText : Bare (escape f.tag.toList ++ ['"'] ++ indicators) :=
          ⟨(Undeclared.quoted (notWhite_of_all hTag)).append
              ((Undeclared.attrText (by decide) (by decide) (notWhite_singleton f.indicator1)).append
                ((Undeclared.attrText (by decide) (by decide) (notWhite_singleton f.indicator2)).append
                  (.cons (by decide) .nil))),
            .of_notMem (by simp [hBracket, hIndicators])⟩
        simpa using hText.append ((Bare.subfields f.subfields).append (.endTag (by decide)))

/-- Fields and records of a document hold no quotation mark, or else a field comes first that does. -/
def HasField (cs : List Char) : Prop :=
  ∃ (skipped : List Char) (f : Field) (more : List Char), cs = skipped ++ (f.toXml [] ++ more) ∧ '"' ∉ skipped ∧
    f.isPlain = true ∧ Bare more

theorem HasField.append {cs start : List Char} (h : HasField cs) (hStart : '"' ∉ start) :
    HasField (start ++ cs) := by
  obtain ⟨skipped, f, more, rfl, hSkipped, hPlain, hMore⟩ := h
  exact ⟨start ++ skipped, f, more, by rw [List.append_assoc], by simp [hStart, hSkipped], hPlain, hMore⟩

theorem hasField_fields {fields : List Field} (h : ∀ f ∈ fields, f.isPlain = true) (hNil : fields ≠ [])
    {more : List Char} (hMore : Bare more) : HasField (fields.flatMap (Field.toXml []) ++ more) := by
  cases fields with
  | nil => exact absurd rfl hNil
  | cons f fields =>
      obtain ⟨hHead, hRest⟩ := List.forall_mem_cons.mp h
      refine ⟨[], f, fields.flatMap (Field.toXml []) ++ more, by simp, by simp, hHead, ?_⟩
      exact (Bare.fields hRest).append hMore

theorem notMem_or_hasField_records {records : List Record} (h : ∀ r ∈ records, r.IsPlain) {more : List Char}
    (hMore : Bare more) (hQuote : '"' ∉ more) :
    '"' ∉ records.flatMap (Record.toXml []) ++ more ∨ HasField (records.flatMap (Record.toXml []) ++ more) := by
  induction records with
  | nil => exact Or.inl hQuote
  | cons r records ih =>
      obtain ⟨hHead, hRest⟩ := List.forall_mem_cons.mp h
      have hSplit : (r :: records).flatMap (Record.toXml []) ++ more = "<record>".toList ++
          (r.fields.flatMap (Field.toXml []) ++ ("</record>".toList ++
            (records.flatMap (Record.toXml []) ++ more))) := by
        simp [Record.toXml, elementText, Xml.startTag, Xml.endTag]
      rw [hSplit]
      by_cases hNil : r.fields = []
      · -- a record without fields is passed over
        rw [hNil, List.flatMap_nil, List.nil_append]
        rcases ih hRest with hNone | hField
        · exact Or.inl (by simpa using hNone)
        · exact Or.inr ((hField.append (by decide)).append (by decide))
      · refine Or.inr (HasField.append (hasField_fields hHead.fields hNil ?_) (by decide))
        exact (Bare.endTag (by decide : isPlainName "record" = true)).append ((Bare.records hRest).append hMore)

section Document

variable {w : Wrapping} {p : SubfieldPlace}

/-- Behind the last subfield of a field there is no quotation mark, or else another field comes first. -/
theorem notMem_or_hasField_textBehind (hPlace : p.isPlain = true) (hOthers : ∀ r ∈ w.others, r.IsPlain)
    (hLast : p.later = []) : '"' ∉ textBehind w p ∨ HasField (textBehind w p) := by
  obtain ⟨-, -, hAfter⟩ := p.forall_isPlain hPlace
  have hSplit : textBehind w p = "</subfield></datafield>".toList ++
      (p.fieldsAfter.flatMap (Field.toXml []) ++ ("</record>".toList ++ w.closing)) := by
    simp [textBehind, SubfieldPlace.closing, hLast, Xml.endTag]
  rw [hSplit]
  have hEnd : Bare "</record>".toList := Bare.endTag (by decide : isPlainName "record" = true)
  by_cases hNil : p.fieldsAfter = []
  · rw [hNil, List.flatMap_nil, List.nil_append]
    cases w with
    | alone => exact Or.inl (by decide)
    | collection earlier later =>
        have hLater : ∀ r ∈ later, r.IsPlain := fun r hr => hOthers r (List.mem_append_right _ hr)
        have hClosing : Bare (Xml.endTag [] "collection") := .endTag (by decide)
        rcases notMem_or_hasField_records hLater hClosing (by decide) with hNone | hField
        · exact Or.inl (by simpa [Wrapping.closing] using hNone)
        · exact Or.inr ((hField.append (by decide)).append (by decide))
  · exact Or.inr (HasField.append (hasField_fields hAfter hNil (hEnd.append (w.bare_closing hOthers))) (by decide))

theorem opens_textBefore (hPlace : p.isPlain = true) (hOthers : ∀ r ∈ w.others, r.IsPlain) :
    Opens (textBefore w p) "subfield".toList := by
  obtain ⟨hBefore, hField, -⟩ := p.forall_isPlain hPlace
  have hRecord : Opens (w.opening ++ Xml.startTag [] "record" []) "record".toList := by
    cases w with
    | alone => exact .root (by decide) (by simp)
    | collection earlier later =>
        have hEarlier : Reads (earlier.flatMap (Record.toXml [])) (earlier.map Record.node) :=
          .flatMap fun r hr => Record.reads_toXml (hOthers r (List.mem_append_left _ hr))
        exact ((Opens.root (by decide) (by simp)).append hEarlier).startTag (by decide) (by simp)
  have hFields : Reads (p.fieldsBefore.flatMap (Field.toXml [])) (p.fieldsBefore.map Field.node) :=
    .flatMap fun f hf => Field.reads_toXml (hBefore f hf)
  have hEarlier : Reads (p.earlier.flatMap (Subfield.toXml [])) (p.earlier.map Subfield.node) :=
    .flatMap fun s hs => s.reads_toXml (isTrimmed_of_isPlain hField (by simp [SubfieldPlace.field, hs]))
  have hDatafield : Opens (w.opening ++ Xml.startTag [] "record" [] ++ p.fieldsBefore.flatMap (Field.toXml []) ++
      Xml.startTag [] "datafield" (p.field "").attributes) "datafield".toList :=
    (hRecord.append hFields).startTag (by decide) (p.field "").isPlainName_attributes
  have hSubfield := (hDatafield.append hEarlier).startTag (by decide : isPlainName "subfield" = true)
    (p.subfield "").isPlainName_attributes
  simpa [textBefore, SubfieldPlace.opening] using hSubfield

/-- What a document becomes whose text leaves a declaration open. -/
theorem withoutNamespaces_of_leavesOpen (hPlace : p.isPlain = true) (hOthers : ∀ r ∈ w.others, r.IsPlain)
    {text kept skipped rest : List Char} (hBracket : '<' ∉ kept) (hOpen : LeavesOpen text kept)
    (hBehind : textBehind w p = '<' :: (skipped ++ '"' :: rest)) (hSkipped : '"' ∉ skipped) (hRest : Bare rest) :
    withoutNamespaces (literalXml w p text) = textBefore w p ++ (kept ++ rest) := by
  have hBefore : Bare (textBefore w p) := bare_textBefore hPlace hOthers
  rw [literalXml_eq_append, withoutNamespaces, hBefore.undeclared, hBehind, hOpen skipped rest hSkipped,
    hRest.dropDeclarations_eq, hBefore.unlabelled, Unlabelled.of_notMem hBracket, hRest.dropLabels_eq]

/-- What is said of a document that cannot be read, by what its root stands for. -/
def RootKind.fault : RootKind → Fault
  | .record => Cause.unreadable .record
  | .collection => Cause.unreadable .collection

/-- If another field comes next, the start tag of this field is lost but for its end, and the document cannot be
read. -/
theorem readAs_of_hasField (hPlace : p.isPlain = true) (hOthers : ∀ r ∈ w.others, r.IsPlain)
    {text kept : List Char} (hBracket : '<' ∉ kept) (hOpen : LeavesOpen text kept)
    (hField : HasField (textBehind w p)) :
    readAs (String.ofList (literalXml w p text)) (some w.kind) = .error w.kind.fault := by
  obtain ⟨skipped, f, more, hBehind, hSkipped, hPlain, hMore⟩ := hField
  obtain ⟨start, text', subfields, tag, hXml, hStart, hText', hSubfields, hTag, hName, hTail⟩ :=
    Field.exists_toXml_eq hPlain
  obtain ⟨skipped', hCut, hSkipped'⟩ : ∃ skipped', textBehind w p = '<' :: (skipped' ++ '"' ::
      (text' ++ (subfields.flatMap (Subfield.toXml []) ++ endTag [] tag) ++ more)) ∧ '"' ∉ skipped' := by
    rw [hXml] at hBehind
    cases skipped with
    | nil => exact ⟨start, by simpa using hBehind, hStart⟩
    | cons c skipped =>
        have hFirst : '<' = c := (List.cons.inj hBehind).1
        refine ⟨skipped ++ '<' :: start, by simpa [← hFirst] using hBehind, ?_⟩
        rw [List.mem_cons, not_or] at hSkipped
        simp [hSkipped.2, hStart]
  have hDocument := withoutNamespaces_of_leavesOpen hPlace hOthers hBracket hOpen hCut hSkipped' (hTail.append hMore)
  -- the subfield is still open there, and the field behind it has lost its start tag but not its end tag
  have hRead : Xml.read? (withoutNamespaces (literalXml w p text)) = none := by
    have hKeptText : '<' ∉ kept ++ text' := by simp [hBracket, hText']
    have hNone := read?_of_opens (opens_textBefore hPlace hOthers) hKeptText hTag hName hSubfields more
    rw [hDocument]
    simpa using hNone
  cases w with
  | alone =>
      simp only [readAs, Wrapping.kind, recordOfXml, rootOf?, String.toList_ofList, hRead]
      rfl
  | collection earlier later =>
      simp only [readAs, Wrapping.kind, recordsOfXml, rootOf?, String.toList_ofList, hRead]
      rfl

/-! ## The next subfield -/

/-- The place with other subfields behind it. -/
def SubfieldPlace.withLater (p : SubfieldPlace) (later : List Subfield) : SubfieldPlace := { p with later := later }

theorem SubfieldPlace.isPlain_withLater {s : Subfield} {later : List Subfield} (hPlace : p.isPlain = true)
    (hLater : p.later = s :: later) : (p.withLater later).isPlain = true := by
  simp only [isPlain, fields, field, fieldsBefore, fieldsAfter, withLater, Field.isPlain, DataField.isPlain, hLater,
    List.all_append, List.all_cons, Bool.and_eq_true] at hPlace ⊢
  obtain ⟨hBefore, ⟨hTag, hEarlier, hHere, -, hRest⟩, hAfter⟩ := hPlace
  exact ⟨hBefore, ⟨hTag, hEarlier, hHere, hRest⟩, hAfter⟩

/-- What a subfield leaves as text if its start tag is cut behind the first quotation mark. -/
def Subfield.cutXml (s : Subfield) : List Char := escape [s.code] ++ '"' :: '>' :: escape s.value.toList

/-- The same without references. -/
def Subfield.cutText (s : Subfield) : List Char := s.code :: '"' :: '>' :: s.value.toList

theorem Subfield.resolve?_cutXml (s : Subfield) : resolve? s.cutXml = some s.cutText := by
  have hValue : resolve? (['"', '>'] ++ escape s.value.toList) = some (['"', '>'] ++ s.value.toList) := by
    rw [resolve?_append_of_notMem (by decide), resolve?_escape, Option.map_some]
  have hAll := resolve?_escape_append [s.code] (['"', '>'] ++ escape s.value.toList)
  rwa [hValue] at hAll

theorem textBehind_of_later {s : Subfield} {later : List Subfield} (hLater : p.later = s :: later) :
    textBehind w p = '<' :: ("/subfield><subfield code=".toList ++ '"' ::
      (s.cutXml ++ textBehind w (p.withLater later))) := by
  have hClosing : p.closing = s.toXml [] ++ (p.withLater later).closing := by
    rw [SubfieldPlace.closing, hLater, List.flatMap_cons, List.append_assoc]
    rfl
  have hSubfield : s.toXml [] = "<subfield code=".toList ++ '"' :: (s.cutXml ++ endTag [] "subfield") := by
    simp [Subfield.toXml, elementText, Xml.startTag, Subfield.attributes, attrText, Subfield.cutXml]
  rw [textBehind, hClosing, hSubfield, textBehind]
  simp [Xml.endTag]

theorem Subfield.bare_cutXml (s : Subfield) {cs : List Char} (h : Bare ('<' :: cs)) :
    Bare (s.cutXml ++ '<' :: cs) := by
  have hQuoted : Undeclared (escape [s.code] ++ ['"']) := .quoted (by simp)
  have hCode : Bare (escape [s.code] ++ ['"'] ++ ['>']) :=
    ⟨hQuoted.append (.cons (by decide) .nil), .of_notMem (by simp [notMem_escape])⟩
  simpa [cutXml] using hCode.append (h.escape_append s.value.toList)

theorem isTrimmed_append_cutXml {s : Subfield} (hValue : isTrimmed s.value.toList = true) {kept : List Char}
    (hNil : kept ≠ []) (hStart : kept.head?.any isBlankChar = false) : isTrimmed (kept ++ s.cutXml) = true := by
  have hEnd := isTrimmed_escape hValue
  simp only [isTrimmed, Bool.and_eq_true, Bool.not_eq_true'] at hEnd ⊢
  constructor
  · rwa [List.head?_append_of_ne_nil _ hNil]
  · rw [Subfield.cutXml, ← List.append_assoc, List.getLast?_append, List.getLast?_cons_cons, List.getLast?_cons,
      Option.some_or]
    cases hLast : (escape s.value.toList).getLast? with
    | none => decide
    | some c => exact hLast ▸ hEnd.2

/-- If another subfield comes next, the two subfields become one.  Its value goes on with the code and the value of
the other one, and with what stood between them. -/
theorem readAs_of_later (hPlace : p.isPlain = true) (hOthers : ∀ r ∈ w.others, r.IsPlain) {text kept : List Char}
    (hBracket : '<' ∉ kept) (hReference : '&' ∉ kept) (hOpen : LeavesOpen text kept) (hNil : kept ≠ [])
    (hStart : kept.head?.any isBlankChar = false) {s : Subfield} {later : List Subfield}
    (hLater : p.later = s :: later) :
    readAs (String.ofList (literalXml w p text)) (some w.kind) =
      .ok (w.records (.ofFields ((p.withLater later).fields (String.ofList (kept ++ s.cutText))))) := by
  have hNext := SubfieldPlace.isPlain_withLater hPlace hLater
  have hValue : isTrimmed s.value.toList = true := by
    obtain ⟨-, hField, -⟩ := p.forall_isPlain hPlace
    exact isTrimmed_of_isPlain hField (by simp [SubfieldPlace.field, hLater])
  have hResolve : resolve? (kept ++ s.cutXml) = some (kept ++ s.cutText) := by
    rw [resolve?_append_of_notMem hReference, s.resolve?_cutXml, Option.map_some]
  have hRead : Fills (kept ++ s.cutXml) (textNodes (String.ofList (kept ++ s.cutText)).toList) := by
    rw [String.toList_ofList]
    refine fills_written (by simp [Subfield.cutText]) (isTrimmed_append_cutXml hValue hNil hStart) ?_ hResolve
    simp [Subfield.cutXml, hBracket, notMem_escape]
  have hCut : Bare (s.cutXml ++ textBehind w (p.withLater later)) := s.bare_cutXml (bare_textBehind hNext hOthers)
  refine readAs_literalXml hNext hOthers hRead ?_
  rw [String.toList_ofList, withoutNamespaces_of_leavesOpen hPlace hOthers hBracket hOpen
    (textBehind_of_later hLater) (by decide) hCut, literalXml_eq_append, List.append_assoc]
  rfl

/-! ## Documents -/

theorem SubfieldPlace.ofFields_inj {later : List Subfield} {value value' : String}
    (h : Record.ofFields ((p.withLater later).fields value) = Record.ofFields (p.fields value')) :
    later = p.later ∧ value = value' := by
  have hUnder (value : String) (q : SubfieldPlace) : (q.fields value).filter (·.tag == q.tag) =
      q.fieldsBefore.filter (·.tag == q.tag) ++ .data (q.field value) :: q.fieldsAfter.filter (·.tag == q.tag) := by
    rw [fields, List.filter_append, List.filter_cons_of_pos (by simp [Field.tag, field])]
  -- the fields with the tag of the place are in the order of the document, so the one with the place is found there
  have hFields : (Record.ofFields ((p.withLater later).fields value)).fieldsOf p.tag =
      (Record.ofFields (p.fields value')).fieldsOf p.tag := by rw [h]
  rw [Record.fieldsOf_ofFields, Record.fieldsOf_ofFields, hUnder value' p] at hFields
  have hField := (List.cons.inj (List.append_cancel_left ((hUnder value (p.withLater later)).symm.trans hFields))).1
  have hSubfields := congrArg DataField.subfields (Field.data.inj hField)
  obtain ⟨hHere, hLater⟩ := List.cons.inj (List.append_cancel_left hSubfields)
  exact ⟨hLater, congrArg Subfield.value hHere⟩

theorem Wrapping.records_inj {r r' : Record} (h : w.records r = w.records r') : r = r' := by
  cases w with
  | alone => exact (List.cons.inj h).1
  | collection earlier later => exact (List.cons.inj (List.append_cancel_left h)).1

/-- A document begins with the tag of its root. -/
theorem rootKind?_literalXml (hPlace : p.isPlain = true) (hOthers : ∀ r ∈ w.others, r.IsPlain) (raw : List Char) :
    rootKind? (withoutNamespaces (literalXml w p raw)) = some w.kind := by
  have hBefore : Bare (textBefore w p) := bare_textBefore hPlace hOthers
  rw [literalXml_eq_append, withoutNamespaces, hBefore.undeclared, hBefore.unlabelled]
  cases w with
  | alone => rfl
  | collection earlier later => rfl

/-- What is behind text that leaves a declaration open is cut by it. -/
theorem dropDeclarations_ne_of_leavesOpen (hPlace : p.isPlain = true) (hOthers : ∀ r ∈ w.others, r.IsPlain)
    {text kept : List Char} (hKept : kept.Sublist text) (hOpen : LeavesOpen text kept)
    (hQuote : '"' ∈ textBehind w p) :
    dropDeclarations (literalXml w p text) ≠ literalXml w p text := by
  obtain ⟨behind, hBehind⟩ : ∃ behind, textBehind w p = '<' :: behind := ⟨_, rfl⟩
  rw [hBehind, List.mem_cons] at hQuote
  obtain ⟨skipped, rest, hCut, hSkipped⟩ :=
    List.eq_append_cons_of_mem (hQuote.resolve_left (by decide))
  intro hSame
  have hBefore : Bare (textBefore w p) := bare_textBefore hPlace hOthers
  rw [literalXml_eq_append, hBefore.undeclared, hBehind, hCut, hOpen skipped rest hSkipped] at hSame
  -- no character is added, and those from the bracket to the quotation mark are gone
  have hLength := congrArg List.length (List.append_cancel_left hSame)
  have hKeptLength := hKept.length_le
  have hRestLength := (dropDeclarations_sublist rest).length_le
  simp only [List.length_append, List.length_cons] at hLength
  omega

/-- Text that is treated as by itself is read without its declarations, so as it is if it has none. -/
theorem readAs_iff_of_eq {text : String} (hPlace : p.isPlain = true) (hOthers : ∀ r ∈ w.others, r.IsPlain)
    (hText : IsLiteral text)
    (hSame : dropDeclarations (text.toList ++ textBehind w p) = dropDeclarations text.toList ++ textBehind w p) :
    readAs (String.ofList (literalXml w p text.toList)) (some w.kind) = .ok (w.records (.ofFields (p.fields text))) ↔
      dropDeclarations (literalXml w p text.toList) = literalXml w p text.toList := by
  have hBefore : Bare (textBefore w p) := bare_textBefore hPlace hOthers
  have hDocument : dropDeclarations (literalXml w p text.toList) = literalXml w p text.toList ↔
      dropDeclarations text.toList = text.toList := by
    rw [literalXml_eq_append, hBefore.undeclared, hSame, List.append_right_inj, List.append_left_inj]
  rw [readAs_of_eq hPlace hOthers hText hSame, hDocument, Except.ok.injEq]
  constructor
  · intro hRecords
    have hFields : Record.ofFields ((p.withLater p.later).fields (String.ofList (dropDeclarations text.toList))) =
        Record.ofFields (p.fields text) := w.records_inj hRecords
    rw [← String.toList_ofList (l := dropDeclarations text.toList), (SubfieldPlace.ofFields_inj hFields).2]
  · intro hNone
    rw [hNone, String.ofList_toList]

/-- Text that leaves a declaration open is not read as it is where a quotation mark is behind it, and the document is
not left as it is. -/
theorem readAs_of_not_standsAlone {text : String} (hPlace : p.isPlain = true) (hOthers : ∀ r ∈ w.others, r.IsPlain)
    (hText : IsLiteral text) (hAlone : ¬StandsAlone text.toList) (hQuote : '"' ∈ textBehind w p) :
    let document := literalXml w p text.toList
    let result := readAs (String.ofList document) (some w.kind)
    (∃ kept, kept.Sublist text.toList ∧
      (∀ s later, p.later = s :: later → result =
        .ok (w.records (.ofFields ((p.withLater later).fields (String.ofList (kept ++ s.cutText)))))) ∧
      (p.later = [] → result = .error w.kind.fault)) ∧
    result ≠ .ok (w.records (.ofFields (p.fields text))) ∧ dropDeclarations document ≠ document := by
  intro document result
  obtain ⟨kept, hKept, hHead, hOpen⟩ := (standsAlone_or_leavesOpen text.toList).resolve_left hAlone
  have hBracket : '<' ∉ kept := fun hMem => hText.bracket (hKept.mem hMem)
  have hReference : '&' ∉ kept := fun hMem => hText.reference (hKept.mem hMem)
  obtain ⟨hNil, hStart⟩ := hOpen.ne_nil hKept hText.ends.1 hHead
  have hLater (s : Subfield) (later : List Subfield) (h : p.later = s :: later) : result =
      .ok (w.records (.ofFields ((p.withLater later).fields (String.ofList (kept ++ s.cutText))))) :=
    readAs_of_later hPlace hOthers hBracket hReference hOpen hNil (any_isBlankChar_of_isWhite hStart) h
  have hLast (h : p.later = []) : result = .error w.kind.fault := by
    rcases notMem_or_hasField_textBehind hPlace hOthers h with hNone | hField
    · exact absurd hQuote hNone
    · exact readAs_of_hasField hPlace hOthers hBracket hOpen hField
  refine ⟨⟨kept, hKept, hLater, hLast⟩, fun hSame => ?_,
    dropDeclarations_ne_of_leavesOpen hPlace hOthers hKept hOpen hQuote⟩
  cases hSubfields : p.later with
  | nil =>
      rw [hLast hSubfields] at hSame
      cases hSame
  | cons s later =>
      rw [hLater s later hSubfields, Except.ok.injEq] at hSame
      have hLess := (SubfieldPlace.ofFields_inj (w.records_inj hSame)).1
      exact List.cons_ne_self s later (hSubfields.symm.trans hLess.symm)

/-- **Text is read as it is if and only if nothing in the document has the form of a declaration.**  Let a subfield
of a document, at any place in a record and with the record as the root or in a collection, hold a text as it is;
let the text have no bracket, no reference and no white space at its ends.  The document is read by what its root
stands for.  It is read with the text as the value of the subfield if and only if it is left as it is when
declarations are taken out of it.

If the text leaves no declaration open, or no quotation mark is behind it, the value is the text without what has the
form of a declaration in it, and all else is read as it was written.  If it does leave one open, the tag with the
next quotation mark is cut: with another subfield next, that one ends up in the value, and otherwise the document
cannot be read. -/
theorem readXml_literalXml {text : String} (hPlace : p.isPlain = true) (hOthers : ∀ r ∈ w.others, r.IsPlain)
    (hText : IsLiteral text) :
    let xml := String.ofList (literalXml w p text.toList)
    readXml xml = readAs xml (some w.kind) ∧
      (readXml xml = .ok (w.records (.ofFields (p.fields text))) ↔ dropDeclarations xml.toList = xml.toList) ∧
      (StandsAlone text.toList ∨ '"' ∉ textBehind w p → readXml xml =
        .ok (w.records (.ofFields (p.fields (String.ofList (dropDeclarations text.toList)))))) ∧
      (¬StandsAlone text.toList → '"' ∈ textBehind w p → ∃ kept, kept.Sublist text.toList ∧
        (∀ s later, p.later = s :: later → readXml xml =
          .ok (w.records (.ofFields ((p.withLater later).fields (String.ofList (kept ++ s.cutText)))))) ∧
        (p.later = [] → readXml xml = .error w.kind.fault)) := by
  intro xml
  have hRoot : readXml xml = readAs xml (some w.kind) := by
    rw [readXml_eq_readAs, String.toList_ofList, rootKind?_literalXml hPlace hOthers]
  have hBehind : Bare (textBehind w p) := bare_textBehind hPlace hOthers
  have hStanding : StandsAlone text.toList ∨ '"' ∉ textBehind w p →
      dropDeclarations (text.toList ++ textBehind w p) = dropDeclarations text.toList ++ textBehind w p := by
    obtain ⟨behind, hBracket⟩ : ∃ behind, textBehind w p = '<' :: behind := ⟨_, rfl⟩
    have hSame := hBehind.dropDeclarations_eq
    rw [hBracket] at hSame ⊢
    rintro (hAlone | hQuote)
    · rw [hAlone, hSame]
    · rw [dropDeclarations_append_of_notMem (fun hMem => hQuote (List.mem_cons_of_mem _ hMem)), hSame]
  rw [hRoot, String.toList_ofList]
  refine ⟨rfl, ?_, fun h => readAs_of_eq hPlace hOthers hText (hStanding h), fun hAlone hQuote =>
    (readAs_of_not_standsAlone hPlace hOthers hText hAlone hQuote).1⟩
  by_cases hQuote : StandsAlone text.toList ∨ '"' ∉ textBehind w p
  · exact readAs_iff_of_eq hPlace hOthers hText (hStanding hQuote)
  · obtain ⟨hAlone, hQuote⟩ := not_or.mp hQuote
    obtain ⟨-, hOther, hChanged⟩ :=
      readAs_of_not_standsAlone hPlace hOthers hText hAlone (not_not.mp hQuote)
    exact iff_of_false hOther hChanged

end Document

/-- Quotation marks alone are no harm, and neither is `xmlns` without a value in them. -/
theorem readXml_literalXml_quoted :
    let p : SubfieldPlace := ⟨[⟨"001", "7"⟩], [], "245", '1', '0', [], 'a', [⟨'c', "R. Carroll"⟩], []⟩
    let text := "The word \"xmlns\" in \"XML\""
    (p.isPlain = true ∧ IsLiteral text) ∧
      String.ofList (literalXml (.collection [] []) p text.toList) = "<collection><record>" ++
        "<controlfield tag=\"001\">7</controlfield><datafield tag=\"245\" ind1=\"1\" ind2=\"0\">" ++
        "<subfield code=\"a\">The word \"xmlns\" in \"XML\"</subfield>" ++
        "<subfield code=\"c\">R. Carroll</subfield></datafield></record></collection>" ∧
      readXml (String.ofList (literalXml (.collection [] []) p text.toList)) =
        .ok [Record.ofFields (p.fields text)] := by
  intro p text
  have hPlace : p.isPlain = true := by decide +kernel
  have hOthers : ∀ r ∈ (Wrapping.collection [] []).others, r.IsPlain := List.forall_mem_nil _
  have hText : IsLiteral text := ⟨by decide, by decide, by decide +kernel⟩
  refine ⟨⟨hPlace, hText⟩, by decide +kernel, ?_⟩
  refine (readXml_literalXml hPlace hOthers hText).2.1.mpr ?_
  rw [String.toList_ofList]
  decide +kernel

/-- A title that mentions a declaration loses it. -/
theorem readXml_literalXml_declaration :
    let p : SubfieldPlace := ⟨[], [], "245", '1', '0', [], 'a', [], []⟩
    let text := "The attribute xmlns=\"urn:x\" in XML"
    let xml := "<record><datafield tag=\"245\" ind1=\"1\" ind2=\"0\"><subfield code=\"a\">" ++
      "The attribute xmlns=\"urn:x\" in XML</subfield></datafield></record>"
    let r := Record.ofFields (p.fields "The attribute in XML")
    (p.isPlain = true ∧ IsLiteral text) ∧ String.ofList (literalXml .alone p text.toList) = xml ∧
      recordOfXml xml = .ok r ∧ readXml xml = .ok [r] ∧ r ≠ Record.ofFields (p.fields text) := by
  intro p text xml r
  have hText : IsLiteral text := ⟨by decide, by decide, by decide +kernel⟩
  exact ⟨⟨by decide +kernel, hText⟩, by decide +kernel, by decide +kernel, by decide +kernel,
    by decide +kernel⟩

end CatalogGraph.Marc
