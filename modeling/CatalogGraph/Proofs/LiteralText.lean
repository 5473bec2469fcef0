import Mathlib.Data.List.DropRight
import CatalogGraph.Proofs.RecordsAsXml
import CatalogGraph.Proofs.RootElement
import CatalogGraph.Proofs.TextDeclarations

/-!
# Subfields that hold text as it is

Quotation marks need no reference in the text of a subfield.  A document can hold them as they are, and then
declarations can be seen in the text where there are none.

* `SubfieldPlace`, `Wrapping`, `literalXml` — a document with any characters between the tags of one subfield, at any
  place of a record, with the record alone or among others in a collection;
* `Bare`, `bare_textBefore`, `bare_textBehind` — all around these characters stays when namespaces are dropped;
* `readAs_literalXml` — what an element with other characters is read as is read there, and nothing else changes;
* `readAs_of_eq` — text that is treated as by itself is read without its declarations.
-/

namespace CatalogGraph.Marc

open CatalogGraph.Text CatalogGraph.Unicode CatalogGraph.Xml

/-! ## Places -/

/-- A place for a subfield in a record: all that stands around it. -/
structure SubfieldPlace where
  controls : List ControlField
  before : List DataField
  tag : String
  indicator1 : Char
  indicator2 : Char
  earlier : List Subfield
  code : Char
  later : List Subfield
  after : List DataField

namespace SubfieldPlace

/-- The fields before the one with the place. -/
def fieldsBefore (p : SubfieldPlace) : List Field := p.controls.map Field.control ++ p.before.map Field.data

/-- The fields behind the one with the place. -/
def fieldsAfter (p : SubfieldPlace) : List Field := p.after.map Field.data

/-- The subfield with a value in the place. -/
def subfield (p : SubfieldPlace) (value : String) : Subfield := ⟨p.code, value⟩

/-- The field with a value in the place. -/
def field (p : SubfieldPlace) (value : String) : DataField :=
  ⟨p.tag, p.indicator1, p.indicator2, p.earlier ++ p.subfield value :: p.later⟩

/-- The fields of the record with a value in the place. -/
def fields (p : SubfieldPlace) (value : String) : List Field :=
  p.fieldsBefore ++ .data (p.field value) :: p.fieldsAfter

/-- Whether all that stands around the place is plain. -/
def isPlain (p : SubfieldPlace) : Bool := (p.fields "").all Field.isPlain

/-- The field as an element, with these characters between the tags of the subfield in the place. -/
def fieldXml (p : SubfieldPlace) (raw : List Char) : List Char :=
  elementText [] "datafield" (p.field "").attributes (p.earlier.flatMap (Subfield.toXml []) ++
    (elementText [] "subfield" (p.subfield "").attributes raw ++ p.later.flatMap (Subfield.toXml [])))

/-- The record as an element, with these characters between the tags of the subfield in the place. -/
def toXml (p : SubfieldPlace) (raw : List Char) : List Char :=
  elementText [] "record" [] (p.fieldsBefore.flatMap (Field.toXml []) ++
    (p.fieldXml raw ++ p.fieldsAfter.flatMap (Field.toXml [])))

/-- The tags and fields of the record before the content of the subfield. -/
def opening (p : SubfieldPlace) : List Char :=
  p.fieldsBefore.flatMap (Field.toXml []) ++ (startTag [] "datafield" (p.field "").attributes ++
    (p.earlier.flatMap (Subfield.toXml []) ++ startTag [] "subfield" (p.subfield "").attributes))

/-- The tags and fields of the record behind the subfield. -/
def closing (p : SubfieldPlace) : List Char :=
  p.later.flatMap (Subfield.toXml []) ++ (endTag [] "datafield" ++
    (p.fieldsAfter.flatMap (Field.toXml []) ++ endTag [] "record"))

theorem toXml_eq_append (p : SubfieldPlace) (raw : List Char) :
    p.toXml raw = startTag [] "record" [] ++ (p.opening ++ (raw ++ (endTag [] "subfield" ++ p.closing))) := by
  simp [toXml, fieldXml, elementText, opening, closing]

end SubfieldPlace

/-- What is around a record in a document: nothing, or a collection with other records. -/
inductive Wrapping
  | alone
  | collection (earlier later : List Record)

namespace Wrapping

/-- The kind of the document. -/
def kind : Wrapping → RootKind
  | alone => .record
  | collection _ _ => .collection

/-- The other records. -/
def others : Wrapping → List Record
  | alone => []
  | collection earlier later => earlier ++ later

/-- The records of the document, each of them made of its fields. -/
def records (w : Wrapping) (r : Record) : List Record :=
  match w with
  | alone => [r]
  | collection earlier later =>
    earlier.map (fun r => .ofFields r.fields) ++ r :: later.map (fun r => .ofFields r.fields)

/-- What is before the record. -/
def opening : Wrapping → List Char
  | alone => []
  | collection earlier _ => startTag [] "collection" [] ++ earlier.flatMap (Record.toXml [])

/-- What is behind the record. -/
def closing : Wrapping → List Char
  | alone => []
  | collection _ later => later.flatMap (Record.toXml []) ++ endTag [] "collection"

end Wrapping

/-- A document of a record, with these characters between the tags of the subfield in the place. -/
def literalXml (w : Wrapping) (p : SubfieldPlace) (raw : List Char) : List Char :=
  w.opening ++ (p.toXml raw ++ w.closing)

/-- What is before the characters in the place. -/
def textBefore (w : Wrapping) (p : SubfieldPlace) : List Char :=
  w.opening ++ (startTag [] "record" [] ++ p.opening)

/-- What is behind the characters in the place. -/
def textBehind (w : Wrapping) (p : SubfieldPlace) : List Char :=
  endTag [] "subfield" ++ (p.closing ++ w.closing)

theorem literalXml_eq_append (w : Wrapping) (p : SubfieldPlace) (raw : List Char) :
    literalXml w p raw = textBefore w p ++ (raw ++ textBehind w p) := by
  simp [literalXml, p.toXml_eq_append, textBefore, textBehind]

/-! ## Characters that stay -/

/-- Characters that stay when namespaces are dropped, whatever comes after them. -/
structure Bare (cs : List Char) : Prop where
  undeclared : Undeclared cs
  unlabelled : Unlabelled cs cs

/-- The label of elements that are in no namespace. -/
theorem isPlainLabel_nil : IsPlainLabel [] := Or.inl rfl

namespace Bare

variable {cs ds : List Char}

theorem nil : Bare [] := ⟨.nil, .of_notMem (by simp)⟩

theorem append (hc : Bare cs) (hd : Bare ds) : Bare (cs ++ ds) :=
  ⟨hc.undeclared.append hd.undeclared, hc.unlabelled.append hd.unlabelled⟩

theorem flatMap {α : Type} {f : α → List Char} {xs : List α} (h : ∀ x ∈ xs, Bare (f x)) : Bare (xs.flatMap f) :=
  ⟨.flatMap fun x hx => (h x hx).undeclared, .flatMap fun x hx => (h x hx).unlabelled⟩

theorem dropDeclarations_eq (h : Bare cs) : dropDeclarations cs = cs := by
  simpa using h.undeclared []

theorem dropLabels_eq (h : Bare cs) : dropLabels cs = cs := by
  simpa [show dropLabels [] = [] from rfl] using h.unlabelled []

theorem startTag {name : String} {attrs : List (String × String)} (hName : isPlainName name = true)
    (hNames : ∀ a ∈ attrs, isPlainName a.1 = true) (hAttrs : ∀ a ∈ attrs, Undeclared (attrText a)) :
    Bare (startTag [] name attrs) :=
  ⟨.startTag isPlainLabel_nil hName hAttrs, .startTag isPlainLabel_nil hName hNames⟩

theorem endTag {name : String} (hName : isPlainName name = true) : Bare (endTag [] name) :=
  ⟨.endTag isPlainLabel_nil hName, .endTag isPlainLabel_nil hName⟩

theorem subfields (subfields : List Subfield) : Bare (subfields.flatMap (Subfield.toXml [])) :=
  flatMap fun s _ => ⟨s.undeclared_toXml isPlainLabel_nil, s.unlabelled_toXml isPlainLabel_nil⟩

theorem fields {fields : List Field} (h : ∀ f ∈ fields, f.isPlain = true) :
    Bare (fields.flatMap (Field.toXml [])) :=
  flatMap fun f hf =>
    ⟨Field.undeclared_toXml isPlainLabel_nil (h f hf), f.unlabelled_toXml isPlainLabel_nil⟩

theorem records {records : List Record} (h : ∀ r ∈ records, r.IsPlain) :
    Bare (records.flatMap (Record.toXml [])) :=
  flatMap fun r hr => ⟨Record.undeclared_toXml isPlainLabel_nil (h r hr), r.unlabelled_toXml isPlainLabel_nil⟩

end Bare

section Document

variable {w : Wrapping} {p : SubfieldPlace}

theorem SubfieldPlace.forall_isPlain (hPlace : p.isPlain = true) :
    (∀ f ∈ p.fieldsBefore, f.isPlain = true) ∧ (Field.data (p.field "")).isPlain = true ∧
      ∀ f ∈ p.fieldsAfter, f.isPlain = true := by
  simpa only [isPlain, fields, List.all_append, List.all_cons, Bool.and_eq_true, List.all_eq_true]
    using hPlace

theorem bare_textBefore (hPlace : p.isPlain = true) (hOthers : ∀ r ∈ w.others, r.IsPlain) :
    Bare (textBefore w p) := by
  obtain ⟨hBefore, hField, -⟩ := p.forall_isPlain hPlace
  have hTag := (Bool.and_eq_true_iff.mp hField).1
  have hWrapping : Bare w.opening := by
    cases w with
    | alone => exact .nil
    | collection earlier later =>
        exact (Bare.startTag (by decide) (by simp) (by simp)).append
          (.records fun r hr => hOthers r (List.mem_append_left _ hr))
  exact hWrapping.append ((Bare.startTag (by decide) (by simp) (by simp)).append
    ((Bare.fields hBefore).append ((Bare.startTag (by decide) (p.field "").isPlainName_attributes
      (DataField.undeclared_attributes hTag)).append ((Bare.subfields _).append
        (.startTag (by decide) (p.subfield "").isPlainName_attributes (p.subfield "").undeclared_attributes)))))

theorem Wrapping.bare_closing (hOthers : ∀ r ∈ w.others, r.IsPlain) : Bare w.closing := by
  cases w with
  | alone => exact .nil
  | collection earlier later =>
      exact (Bare.records fun r hr => hOthers r (List.mem_append_right _ hr)).append (.endTag (by decide))

theorem bare_textBehind (hPlace : p.isPlain = true) (hOthers : ∀ r ∈ w.others, r.IsPlain) :
    Bare (textBehind w p) := by
  obtain ⟨-, -, hAfter⟩ := p.forall_isPlain hPlace
  have hClosing : Bare p.closing := (Bare.subfields _).append ((Bare.endTag (by decide)).append
    ((Bare.fields hAfter).append (.endTag (by decide))))
  exact (Bare.endTag (by decide)).append (hClosing.append (w.bare_closing hOthers))

/-! ## Reading a document with a value in the place -/

theorem SubfieldPlace.ordered (p : SubfieldPlace) (value : String) :
    p.fields value = p.controls.map Field.control ++ (p.before ++ p.field value :: p.after).map Field.data := by
  simp [fields, fieldsBefore, fieldsAfter]

theorem isTrimmed_of_isPlain {s : Subfield} {f : DataField} (h : (Field.data f).isPlain = true)
    (hs : s ∈ f.subfields) : isTrimmed s.value.toList = true :=
  List.all_eq_true.mp (Bool.and_eq_true_iff.mp h).2 s hs

/-- What is written around the place is read as it is, and what is in it as the value. -/
theorem SubfieldPlace.reads_content (hPlace : p.isPlain = true) {raw : List Char} {value : String}
    (hRaw : Fills raw (textNodes value.toList)) :
    Reads (p.fieldsBefore.flatMap (Field.toXml []) ++ (p.fieldXml raw ++ p.fieldsAfter.flatMap (Field.toXml [])))
      ((p.fields value).map Field.node) := by
  obtain ⟨hBefore, hField, hAfter⟩ := p.forall_isPlain hPlace
  have hSubfields : Reads (p.earlier.flatMap (Subfield.toXml []) ++
      (elementText [] "subfield" (p.subfield "").attributes raw ++ p.later.flatMap (Subfield.toXml [])))
      ((p.field value).subfields.map Subfield.node) := by
    have hEarlier : Reads (p.earlier.flatMap (Subfield.toXml [])) (p.earlier.map Subfield.node) :=
      .flatMap fun s hs => s.reads_toXml (isTrimmed_of_isPlain hField (by simp [field, hs]))
    have hLater : Reads (p.later.flatMap (Subfield.toXml [])) (p.later.map Subfield.node) :=
      .flatMap fun s hs => s.reads_toXml (isTrimmed_of_isPlain hField (by simp [field, hs]))
    have hHere : Reads (elementText [] "subfield" (p.subfield "").attributes raw) [(p.subfield value).node] :=
      hRaw.reads_elementText (by decide) (p.subfield "").isPlainName_attributes
    rw [field, List.map_append, List.map_cons]
    exact hEarlier.append (hHere.append hLater)
  have hFieldXml : Reads (p.fieldXml raw) [(Field.data (p.field value)).node] :=
    hSubfields.fills.reads_elementText (by decide) (p.field "").isPlainName_attributes
  rw [fields, List.map_append, List.map_cons]
  exact (Reads.flatMap fun f hf => Field.reads_toXml (hBefore f hf)).append
    (hFieldXml.append (.flatMap fun f hf => Field.reads_toXml (hAfter f hf)))

/-- A document whose subfield is written with other characters is read with what these are read as. -/
theorem readAs_literalXml (hPlace : p.isPlain = true) (hOthers : ∀ r ∈ w.others, r.IsPlain) {raw : List Char}
    {value : String} (hRaw : Fills raw (textNodes value.toList)) {xml : String}
    (hText : withoutNamespaces xml.toList = literalXml w p raw) :
    readAs xml (some w.kind) = .ok (w.records (.ofFields (p.fields value))) := by
  have hContent := (p.reads_content hPlace hRaw).fills
  cases w with
  | alone =>
      obtain ⟨given, hGiven, hRecord⟩ :=
        exists_givenRecord?_fields p.controls (p.before ++ p.field value :: p.after)
      rw [← p.ordered value] at hGiven hRecord
      have hRoot : Xml.read? (literalXml .alone p raw) =
          some (.element "record".toList [] ((p.fields value).map Field.node)) := by
        rw [literalXml, Wrapping.opening, Wrapping.closing, List.nil_append, List.append_nil]
        exact read?_elementText hContent (by decide) (by simp)
      simp only [readAs, Wrapping.kind, recordOfXml, rootOf?, hText, hRoot, hGiven, hRecord]
      rfl
  | collection earlier later =>
      have hEarlier : ∀ r ∈ earlier, r.IsPlain := fun r hr => hOthers r (List.mem_append_left _ hr)
      have hLater : ∀ r ∈ later, r.IsPlain := fun r hr => hOthers r (List.mem_append_right _ hr)
      -- the fields of all records; the record with the place is not written as a record, the others are
      let contents := earlier.map Record.fields ++ p.fields value :: later.map Record.fields
      have hRecords : Reads (earlier.flatMap (Record.toXml []) ++ (p.toXml raw ++ later.flatMap (Record.toXml [])))
          (contents.map recordNode) := by
        have hHere : Reads (p.toXml raw) [recordNode (p.fields value)] :=
          hContent.reads_elementText (by decide) (by simp)
        have hNodes : contents.map recordNode =
            earlier.map Record.node ++ ([recordNode (p.fields value)] ++ later.map Record.node) := by
          rw [List.map_append, List.map_cons, List.map_map, List.map_map]
          rfl
        rw [hNodes]
        exact (Reads.flatMap fun r hr => Record.reads_toXml (hEarlier r hr)).append
          (hHere.append (.flatMap fun r hr => Record.reads_toXml (hLater r hr)))
      have hRoot : Xml.read? (literalXml (.collection earlier later) p raw) =
          some (.element "collection".toList [] (contents.map recordNode)) := by
        have hSplit : literalXml (.collection earlier later) p raw = elementText [] "collection" []
            (earlier.flatMap (Record.toXml []) ++ (p.toXml raw ++ later.flatMap (Record.toXml []))) := by
          simp [literalXml, Wrapping.opening, Wrapping.closing, elementText]
        rw [hSplit]
        exact read?_elementText hRecords.fills (by decide) (by simp)
      have hOrdered : ∀ fields ∈ contents, ∃ (controls : List ControlField) (datas : List DataField),
          fields = controls.map Field.control ++ datas.map Field.data := by
        simp only [contents, List.forall_mem_append, List.forall_mem_cons, List.forall_mem_map]
        exact ⟨fun r hr => (hEarlier r hr).ordered, ⟨_, _, p.ordered value⟩, fun r hr => (hLater r hr).ordered⟩
      obtain ⟨given, hGiven, hAll⟩ := exists_givenRecords?_fields hOrdered
      simp only [readAs, Wrapping.kind, recordsOfXml, rootOf?, hText, hRoot, hGiven, hAll]
      simp [contents, Wrapping.records, Function.comp_def]

end Document

/-! ## Text that is written as it is -/

/-- Text that an element can hold as it is, and that the reader does not trim. -/
structure IsLiteral (text : String) : Prop where
  bracket : '<' ∉ text.toList
  reference : '&' ∉ text.toList
  trimmed : trim text = text

namespace IsLiteral

variable {text : String}

theorem ends (h : IsLiteral text) :
    text.toList.head?.any isWhite = false ∧ text.toList.getLast?.any isWhite = false := by
  have hTrim : (text.toList.dropWhile isWhite).rdropWhile isWhite = text.toList := by
    have hText := congrArg String.toList h.trimmed
    rwa [trim, String.toList_ofList] at hText
  have hStart : text.toList.dropWhile isWhite = text.toList := by
    refine (List.dropWhile_sublist _).eq_of_length_le ?_
    calc text.toList.length = ((text.toList.dropWhile isWhite).rdropWhile isWhite).length := by rw [hTrim]
      _ ≤ (text.toList.dropWhile isWhite).length := (List.rdropWhile_prefix isWhite _).length_le
  rw [hStart] at hTrim
  constructor
  · cases hText : text.toList with
    | nil => rfl
    | cons c cs =>
        rw [hText] at hStart
        simpa using List.dropWhile_eq_self_iff.mp hStart
  · rcases List.eq_nil_or_concat text.toList with hNil | ⟨init, c, hText⟩
    · rw [hNil]
      rfl
    · rw [hText] at hTrim ⊢
      simpa using List.rdropWhile_eq_self_iff.mp hTrim

end IsLiteral

theorem any_isBlankChar_of_isWhite {o : Option Char} (h : o.any isWhite = false) : o.any isBlankChar = false := by
  have hBlank (c : Char) (hChar : isBlankChar c = true) : isWhite c = true := by
    simp only [isBlankChar, Bool.or_eq_true, beq_iff_eq] at hChar
    rcases hChar with ((rfl | rfl) | rfl) | rfl <;> decide
  cases o with
  | none => rfl
  | some c => exact Bool.eq_false_iff.mpr fun hChar => absurd (hBlank c hChar) (by simpa using h)

/-- What has no white space at its ends has no blanks there. -/
theorem isTrimmed_of_ends {cs : List Char} (hStart : cs.head?.any isWhite = false)
    (hEnd : cs.getLast?.any isWhite = false) : isTrimmed cs = true := by
  rw [isTrimmed, any_isBlankChar_of_isWhite hStart, any_isBlankChar_of_isWhite hEnd]
  rfl

section Standing

variable {w : Wrapping} {p : SubfieldPlace} {text : String}

/-- Text without its declarations is read as it is. -/
theorem fills_dropDeclarations (h : IsLiteral text) :
    Fills (dropDeclarations text.toList) (textNodes (dropDeclarations text.toList)) := by
  have hSublist := dropDeclarations_sublist text.toList
  refine fills_literal (isTrimmed_of_ends (head?_dropDeclarations h.ends.1) (getLast?_dropDeclarations h.ends.2)) ?_ ?_
  · exact fun hMem => h.bracket (hSublist.mem hMem)
  · exact fun hMem => h.reference (hSublist.mem hMem)

/-- Text that is treated as by itself in a document is read without its declarations, and all around it is read as
it is. -/
theorem readAs_of_eq (hPlace : p.isPlain = true) (hOthers : ∀ r ∈ w.others, r.IsPlain) (h : IsLiteral text)
    (hSame : dropDeclarations (text.toList ++ textBehind w p) = dropDeclarations text.toList ++ textBehind w p) :
    readAs (String.ofList (literalXml w p text.toList)) (some w.kind) =
      .ok (w.records (.ofFields (p.fields (String.ofList (dropDeclarations text.toList))))) := by
  have hBefore : Bare (textBefore w p) := bare_textBefore hPlace hOthers
  have hBehind : Bare (textBehind w p) := bare_textBehind hPlace hOthers
  have hLabels : Unlabelled (dropDeclarations text.toList) (dropDeclarations text.toList) :=
    .of_notMem fun hMem => h.bracket ((dropDeclarations_sublist _).mem hMem)
  have hRead : Fills (dropDeclarations text.toList)
      (textNodes (String.ofList (dropDeclarations text.toList)).toList) := by
    rw [String.toList_ofList]
    exact fills_dropDeclarations h
  refine readAs_literalXml hPlace hOthers hRead ?_
  rw [String.toList_ofList, literalXml_eq_append, literalXml_eq_append, withoutNamespaces, hBefore.undeclared,
    hSame, hBefore.unlabelled, hLabels, hBehind.dropLabels_eq]

end Standing

end CatalogGraph.Marc
