import CatalogGraph.Marc.MarcXml
import CatalogGraph.Proofs.DroppedLabels
import CatalogGraph.Proofs.RecordFields
import CatalogGraph.Proofs.WrittenElements

/-!
# Reading written records

A collection that was written is read as its records, in each of the three forms
(`readXml_collectionXml`).  Four things are put together:

* without its namespaces every form is the same text (`withoutNamespaces_collectionXml`);
* that text is read as the elements that were written (`Record.reads_toXml`);
* elements of one name come in one run, control fields before data fields (`inRuns_fields`), and each is
  taken as what it was written from (`givenField?_node`);
* the fields are then added to a record one by one.  This makes the same record if it was made so; a group
  without fields, or under another tag than that of its fields, does not come back.

The order of control fields and data fields, the tags and the ends of the values matter (`Record.IsPlain`);
indicators and codes of subfields may be any characters.
-/

namespace CatalogGraph.Marc

open CatalogGraph.Text CatalogGraph.Unicode CatalogGraph.Xml

/-! ## Records that can be written -/

/-- Whether a control field has a plain tag, and a value without blanks at its ends. -/
def ControlField.isPlain (f : ControlField) : Bool :=
  f.tag.toList.all Char.isAlphanum && isTrimmed f.value.toList

/-- Whether a data field has a plain tag, and values without blanks at their ends. -/
def DataField.isPlain (f : DataField) : Bool :=
  f.tag.toList.all Char.isAlphanum && f.subfields.all fun s => isTrimmed s.value.toList

/-- Whether a field has a plain tag, and values without blanks at their ends. -/
def Field.isPlain : Field → Bool
  | control f => f.isPlain
  | data f => f.isPlain

/-- Records with plain fields in which all control fields come before the data fields. -/
structure Record.IsPlain (r : Record) : Prop where
  fields : ∀ f ∈ r.fields, f.isPlain = true
  ordered : ∃ (controls : List ControlField) (datas : List DataField),
    r.fields = controls.map Field.control ++ datas.map Field.data

/-! ## Attributes -/

theorem Subfield.isPlainName_attributes (s : Subfield) : ∀ a ∈ s.attributes, isPlainName a.1 = true :=
  List.forall_mem_singleton.mpr (show isPlainName "code" = true by decide)

theorem ControlField.isPlainName_attributes (f : ControlField) :
    ∀ a ∈ f.attributes, isPlainName a.1 = true :=
  List.forall_mem_singleton.mpr (show isPlainName "tag" = true by decide)

theorem DataField.isPlainName_attributes (f : DataField) : ∀ a ∈ f.attributes, isPlainName a.1 = true := by
  have hNames : isPlainName "tag" = true ∧ isPlainName "ind1" = true ∧ isPlainName "ind2" = true := by
    decide
  simpa [DataField.attributes] using hNames

/-! ## Namespaces -/

section Namespaces

variable {label : List Char}

theorem notWhite_of_all {tag : String} (h : tag.toList.all Char.isAlphanum = true) :
    ∀ c ∈ tag.toList.dropLast, isWhite c = false := fun c hc =>
  isWhite_of_isAlphanum (List.all_eq_true.mp h c ((List.dropLast_sublist _).mem hc))

theorem notWhite_singleton (c : Char) : ∀ d ∈ (String.singleton c).toList.dropLast, isWhite d = false := by
  simp

theorem Subfield.undeclared_attributes (s : Subfield) : ∀ a ∈ s.attributes, Undeclared (attrText a) :=
  List.forall_mem_singleton.mpr (.attrText (by decide) (by decide) (notWhite_singleton s.code))

theorem ControlField.undeclared_attributes {f : ControlField} (h : f.tag.toList.all Char.isAlphanum = true) :
    ∀ a ∈ f.attributes, Undeclared (attrText a) :=
  List.forall_mem_singleton.mpr (.attrText (by decide) (by decide) (notWhite_of_all h))

theorem DataField.undeclared_attributes {f : DataField} (h : f.tag.toList.all Char.isAlphanum = true) :
    ∀ a ∈ f.attributes, Undeclared (attrText a) := by
  simp only [DataField.attributes, List.forall_mem_cons, List.not_mem_nil, false_implies, implies_true, and_true]
  exact ⟨.attrText (by decide) (by decide) (notWhite_of_all h),
    .attrText (by decide) (by decide) (notWhite_singleton f.indicator1),
    .attrText (by decide) (by decide) (notWhite_singleton f.indicator2)⟩

theorem Subfield.undeclared_toXml (hLabel : IsPlainLabel label) (s : Subfield) :
    Undeclared (s.toXml label) :=
  .elementText hLabel (by decide) s.undeclared_attributes (dropDeclarations_text (notMem_escape (by decide) _))

theorem Field.undeclared_toXml (hLabel : IsPlainLabel label) {f : Field} (h : f.isPlain = true) :
    Undeclared (f.toXml label) := by
  cases f with
  | control f =>
      have hTag := (Bool.and_eq_true_iff.mp h).1
      exact .elementText hLabel (by decide) (ControlField.undeclared_attributes hTag)
        (dropDeclarations_text (notMem_escape (by decide) _))
  | data f =>
      have hTag := (Bool.and_eq_true_iff.mp h).1
      exact .elementText hLabel (by decide) (DataField.undeclared_attributes hTag) fun rest =>
        Undeclared.flatMap (fun s _ => s.undeclared_toXml hLabel) _

theorem Record.undeclared_toXml (hLabel : IsPlainLabel label) {r : Record} (h : r.IsPlain) :
    Undeclared (r.toXml label) :=
  .elementText hLabel (by decide) (by simp) fun _ =>
    Undeclared.flatMap (fun f hf => Field.undeclared_toXml hLabel (h.fields f hf)) _

theorem Subfield.unlabelled_toXml (hLabel : IsPlainLabel label) (s : Subfield) :
    Unlabelled (s.toXml label) (s.toXml []) :=
  .elementText hLabel (by decide) s.isPlainName_attributes (.of_notMem (notMem_escape (by decide) _))

theorem Field.unlabelled_toXml (hLabel : IsPlainLabel label) (f : Field) :
    Unlabelled (f.toXml label) (f.toXml []) := by
  cases f with
  | control f =>
      exact .elementText hLabel (by decide) f.isPlainName_attributes
        (.of_notMem (notMem_escape (by decide) _))
  | data f =>
      exact .elementText hLabel (by decide) f.isPlainName_attributes
        (.flatMap fun s _ => s.unlabelled_toXml hLabel)

theorem Record.unlabelled_toXml (hLabel : IsPlainLabel label) (r : Record) :
    Unlabelled (r.toXml label) (r.toXml []) :=
  .elementText hLabel (by decide) (by simp) (.flatMap fun f _ => f.unlabelled_toXml hLabel)

/-- Without its namespaces a collection is the same in every form. -/
theorem withoutNamespaces_collectionXml {form : NamespaceForm} {records : List Record}
    (hForm : form.hasPlainLabel = true) (hRecords : ∀ r ∈ records, r.IsPlain) :
    withoutNamespaces (collectionXml form records).toList =
      elementText [] "collection" [] (records.flatMap (Record.toXml [])) := by
  have hLabel := NamespaceForm.isPlainLabel_label hForm
  rw [collectionXml, String.toList_ofList]
  exact withoutNamespaces_elementText hForm (by decide)
    (.flatMap fun r hr => Record.undeclared_toXml hLabel (hRecords r hr))
    (.flatMap fun r _ => r.unlabelled_toXml hLabel)

end Namespaces

/-! ## Elements -/

/-- The element that a subfield is read as. -/
def Subfield.node (s : Subfield) : Node :=
  .element "subfield".toList (s.attributes.flatMap attrText) (textNodes s.value.toList)

/-- The element that a control field is read as. -/
def ControlField.node (f : ControlField) : Node :=
  .element "controlfield".toList (f.attributes.flatMap attrText) (textNodes f.value.toList)

/-- The element that a data field is read as. -/
def DataField.node (f : DataField) : Node :=
  .element "datafield".toList (f.attributes.flatMap attrText) (f.subfields.map Subfield.node)

/-- The element that a field is read as. -/
def Field.node : Field → Node
  | control f => f.node
  | data f => f.node

/-- The element that a record with these fields is read as. -/
def recordNode (fields : List Field) : Node := .element "record".toList [] (fields.map Field.node)

/-- The element that a record is read as. -/
def Record.node (r : Record) : Node := recordNode r.fields

theorem Subfield.reads_toXml {s : Subfield} (h : isTrimmed s.value.toList = true) :
    Reads (s.toXml []) [s.node] :=
  (fills_escape h).reads_elementText (by decide) s.isPlainName_attributes

theorem Field.reads_toXml {f : Field} (h : f.isPlain = true) : Reads (f.toXml []) [f.node] := by
  cases f with
  | control f =>
      have hValue := (Bool.and_eq_true_iff.mp h).2
      exact (fills_escape hValue).reads_elementText (by decide) f.isPlainName_attributes
  | data f =>
      have hValues := List.all_eq_true.mp (Bool.and_eq_true_iff.mp h).2
      exact (Reads.flatMap fun s hs => s.reads_toXml (hValues s hs)).fills.reads_elementText (by decide)
        f.isPlainName_attributes

theorem Record.reads_toXml {r : Record} (h : r.IsPlain) : Reads (r.toXml []) [r.node] :=
  (Reads.flatMap fun f hf => Field.reads_toXml (h.fields f hf)).fills.reads_elementText (by decide) (by simp)

/-! ## Values of attributes -/

theorem localName_plain {name : String} (h : isPlainName name = true) :
    localName name.toList = name.toList := by
  have hColon : ':' ∉ name.toList := fun hMem => absurd ((isPlainName_iff.mp h).2 _ hMem) (by decide)
  rw [localName, if_neg (by simpa using hColon)]

theorem isNamespaceName_plain {name : String} (h : isPlainName name = true) (hOther : name ≠ "xmlns") :
    isNamespaceName name.toList = false := by
  rw [isNamespaceName, Bool.or_eq_false_iff, beq_eq_false_iff_ne, Bool.eq_false_iff]
  refine ⟨fun hSame => hOther (String.toList_inj.mp hSame), fun hStart => ?_⟩
  have hColon : ':' ∈ name.toList := (List.isPrefixOf_iff_prefix.mp hStart).mem (by decide)
  exact absurd ((isPlainName_iff.mp h).2 _ hColon) (by decide)

/-- Among attributes with different names, there is one of each name. -/
theorem filter_localName {attrs : List (String × String)} (hNames : ∀ a ∈ attrs, isPlainName a.1 = true)
    (hNodup : (attrs.map (·.1.toList)).Nodup) {a : String × String} (ha : a ∈ attrs) :
    ((attrs.map fun b => (b.1.toList, escape b.2.toList)).filter fun b => localName b.1 = a.1.toList) =
      [(a.1.toList, escape a.2.toList)] := by
  have hOther : ∀ more : List (String × String), (∀ b ∈ more, isPlainName b.1 = true) →
      a.1.toList ∉ more.map (·.1.toList) →
      ((more.map fun b => (b.1.toList, escape b.2.toList)).filter fun b => localName b.1 = a.1.toList) =
        [] := by
    intro more hMore hMem
    rw [List.filter_eq_nil_iff]
    rintro b hb
    obtain ⟨c, hc, rfl⟩ := List.mem_map.mp hb
    rw [decide_eq_true_eq, localName_plain (hMore c hc)]
    exact fun hSame => hMem (hSame ▸ List.mem_map_of_mem hc)
  -- no attribute before this one or after it has its name
  obtain ⟨before, after, rfl⟩ := List.append_of_mem ha
  rw [List.map_append, List.map_cons, List.nodup_middle, List.nodup_cons, List.mem_append, not_or] at hNodup
  rw [List.map_append, List.filter_append, List.map_cons,
    List.filter_cons_of_pos (by simp [localName_plain (hNames a ha)]),
    hOther before (fun b hb => hNames b (List.mem_append_left _ hb)) hNodup.1.1,
    hOther after (fun b hb => hNames b (List.mem_append_right _ (List.mem_cons_of_mem _ hb))) hNodup.1.2,
    List.nil_append]

theorem mapM_map_pure {m : Type → Type} [Monad m] [LawfulMonad m] {α β γ : Type} {f : β → m γ}
    {g : α → β} {z : α → γ} {xs : List α} (h : ∀ x ∈ xs, f (g x) = pure (z x)) :
    (xs.map g).mapM f = pure (xs.map z) := by
  induction xs with
  | nil => rfl
  | cons x xs ih =>
      obtain ⟨hHead, hRest⟩ := List.forall_mem_cons.mp h
      simp [hHead, ih hRest]

/-- The values of attributes are those that were written. -/
theorem attrValues?_attrTexts (attrs : List (String × String))
    (hNames : ∀ a ∈ attrs, isPlainName a.1 = true) (hDeclaration : ∀ a ∈ attrs, a.1 ≠ "xmlns")
    (hNodup : (attrs.map (·.1.toList)).Nodup) :
    attrValues? (attrs.map (·.1.toList)) (attrs.flatMap attrText) = some (attrs.map fun a => some a.2) := by
  have hKept : (attrs.map fun a => (a.1.toList, escape a.2.toList)).filter
      (fun a => !isNamespaceName a.1) = attrs.map fun a => (a.1.toList, escape a.2.toList) := by
    rw [List.filter_eq_self]
    intro b hb
    obtain ⟨a, ha, rfl⟩ := List.mem_map.mp hb
    rw [isNamespaceName_plain (hNames a ha) (hDeclaration a ha)]
    rfl
  unfold attrValues?
  rw [attrs?_attrTexts hNames hNodup]
  simp only [Option.bind_eq_bind, Option.bind_some, hKept]
  refine mapM_map_pure fun a ha => ?_
  rw [filter_localName hNames hNodup ha]
  simp [resolve?_escape]

/-! ## What is given -/

theorem textOnly?_textNodes (text : String) : textOnly? (textNodes text.toList) = some text := by
  unfold textNodes
  split
  · next hEmpty =>
      have hText : text = "" := String.toList_inj.mp (List.isEmpty_iff.mp hEmpty)
      rw [hText]
      rfl
  · rw [String.ofList_toList]
    rfl

/-- A subfield as it is given. -/
def Subfield.given (s : Subfield) : GivenSubfield := ⟨String.singleton s.code, s.value⟩

/-- A data field as it is given. -/
def DataField.given (f : DataField) : GivenField :=
  ⟨f.tag, String.singleton f.indicator1, String.singleton f.indicator2, f.subfields.map Subfield.given⟩

theorem givenSubfield?_node (s : Subfield) :
    givenSubfield? (s.attributes.flatMap attrText) (textNodes s.value.toList) = some s.given := by
  have hValues : attrValues? ["code".toList] (s.attributes.flatMap attrText) =
      some [some (String.singleton s.code)] :=
    attrValues?_attrTexts s.attributes s.isPlainName_attributes
      (List.forall_mem_singleton.mpr (show "code" ≠ "xmlns" by decide)) (List.nodup_singleton _)
  rw [givenSubfield?, hValues, textOnly?_textNodes]
  rfl

theorem controlField?_node (f : ControlField) :
    controlField? (f.attributes.flatMap attrText) (textNodes f.value.toList) = some f := by
  have hValues : attrValues? ["tag".toList] (f.attributes.flatMap attrText) = some [some f.tag] :=
    attrValues?_attrTexts f.attributes f.isPlainName_attributes
      (List.forall_mem_singleton.mpr (show "tag" ≠ "xmlns" by decide)) (List.nodup_singleton _)
  rw [controlField?, hValues, textOnly?_textNodes]
  rfl

/-! ## Runs -/

section Runs

variable {α : Type} {g : α → Node} {name : List Char} {attrs : α → List Char} {inner : α → List Node}
  {names seen : List (List Char)}

/-- Elements of the name of a run go on with it. -/
theorem inRuns_append_of_run (hg : ∀ x, g x = .element name (attrs x) (inner x)) (xs : List α)
    (rest : List Node) :
    inRuns names seen (some name) (xs.map g ++ rest) = inRuns names seen (some name) rest := by
  induction xs with
  | nil => rfl
  | cons x xs ih => rw [List.map_cons, List.cons_append, hg, inRuns, if_pos rfl, ih]

/-- Elements of a name that did not come before make a run. -/
theorem inRuns_append (hg : ∀ x, g x = .element name (attrs x) (inner x)) {xs : List α} (hNil : xs ≠ [])
    {run : Option (List Char)} (hRun : run ≠ some name) (hKnown : names.contains (localName name) = true)
    (hNew : seen.contains (localName name) = false) (rest : List Node) :
    inRuns names seen run (xs.map g ++ rest) = inRuns names (localName name :: seen) (some name) rest := by
  cases xs with
  | nil => exact absurd rfl hNil
  | cons x xs =>
      rw [List.map_cons, List.cons_append, hg, inRuns, if_neg hRun, if_pos hKnown, hNew,
        inRuns_append_of_run hg]
      rfl

theorem inRuns_map (hg : ∀ x, g x = .element name (attrs x) (inner x)) (xs : List α)
    {run : Option (List Char)} (hRun : run ≠ some name) (hKnown : names.contains (localName name) = true)
    (hNew : seen.contains (localName name) = false) : inRuns names seen run (xs.map g) = true := by
  by_cases hNil : xs = []
  · subst hNil
    rfl
  · have hAll := inRuns_append hg hNil hRun hKnown hNew []
    rw [List.append_nil] at hAll
    exact hAll

theorem elementsOf_map (hg : ∀ x, g x = .element name (attrs x) (inner x)) (xs : List α)
    (wanted : List Char) :
    elementsOf wanted (xs.map g) =
      if localName name = wanted then xs.map fun x => (attrs x, inner x) else [] := by
  induction xs with
  | nil => simp [elementsOf]
  | cons x xs ih =>
      unfold elementsOf at ih ⊢
      rw [List.map_cons, List.filterMap_cons, ih, hg]
      split <;> simp_all

theorem elementsOf_append (wanted : List Char) (before after : List Node) :
    elementsOf wanted (before ++ after) = elementsOf wanted before ++ elementsOf wanted after :=
  List.filterMap_append

end Runs

theorem givenField?_node (f : DataField) :
    givenField? (f.attributes.flatMap attrText) (f.subfields.map Subfield.node) = some f.given := by
  have hValues : attrValues? ["tag".toList, "ind1".toList, "ind2".toList] (f.attributes.flatMap attrText) =
      some [some f.tag, some (String.singleton f.indicator1), some (String.singleton f.indicator2)] :=
    attrValues?_attrTexts f.attributes f.isPlainName_attributes (by simp [DataField.attributes])
      (show ["tag".toList, "ind1".toList, "ind2".toList].Nodup by decide)
  have hRuns : inRuns ["subfield".toList] [] none (f.subfields.map Subfield.node) = true :=
    inRuns_map (fun _ => rfl) _ (by decide) (by decide) (by decide)
  have hSubfields : (f.subfields.map fun s => (s.attributes.flatMap attrText, textNodes s.value.toList)).mapM
      (fun e => givenSubfield? e.1 e.2) = some (f.subfields.map Subfield.given) :=
    mapM_map_pure fun s _ => givenSubfield?_node s
  have hElements : elementsOf "subfield".toList (f.subfields.map Subfield.node) =
      f.subfields.map fun s => (s.attributes.flatMap attrText, textNodes s.value.toList) := by
    rw [elementsOf_map (g := Subfield.node) (fun _ => rfl), if_pos (by decide)]
  rw [givenField?, hValues]
  simp only [Option.bind_eq_bind, Option.bind_some, hRuns, if_true, hElements, hSubfields]
  rfl

theorem inRuns_fields (controls : List ControlField) (datas : List DataField) :
    inRuns ["controlfield".toList, "datafield".toList] [] none
      (controls.map ControlField.node ++ datas.map DataField.node) = true := by
  by_cases hNil : controls = []
  · subst hNil
    exact inRuns_map (fun _ => rfl) datas (by decide) (by decide) (by decide)
  · rw [inRuns_append (g := ControlField.node) (fun _ => rfl) hNil (by decide) (by decide) (by decide)]
    exact inRuns_map (fun _ => rfl) datas (by decide) (by decide) (by decide)

/-! ## Records and collections -/

theorem coded_given (tag : String) (subfields : List Subfield) :
    GivenField.coded tag (subfields.map Subfield.given) = .ok subfields := by
  induction subfields with
  | nil => rfl
  | cons s rest ih =>
      rw [List.map_cons, GivenField.coded, Subfield.given]
      simp only [String.toList_singleton, ih]
      rfl

theorem dataField_given (f : DataField) : f.given.dataField = .ok f := by
  rw [GivenField.dataField, DataField.given, coded_given]
  simp only [String.toList_singleton]
  rfl

/-- A record is given as its control fields and its data fields, and made of both again. -/
theorem exists_givenRecord?_fields (controls : List ControlField) (datas : List DataField) :
    ∃ given, givenRecord? [] ((controls.map Field.control ++ datas.map Field.data).map Field.node) = some given ∧
      given.record = .ok (.ofFields (controls.map Field.control ++ datas.map Field.data)) := by
  have hNodes : (controls.map Field.control ++ datas.map Field.data).map Field.node =
      controls.map ControlField.node ++ datas.map DataField.node := by
    rw [List.map_append, List.map_map, List.map_map]
    rfl
  have hControls : elementsOf "controlfield".toList (controls.map ControlField.node ++ datas.map DataField.node) =
      controls.map fun f => (f.attributes.flatMap attrText, textNodes f.value.toList) := by
    rw [elementsOf_append, elementsOf_map (g := ControlField.node) (fun _ => rfl), if_pos (by decide),
      elementsOf_map (g := DataField.node) (fun _ => rfl), if_neg (by decide), List.append_nil]
  have hDatas : elementsOf "datafield".toList (controls.map ControlField.node ++ datas.map DataField.node) =
      datas.map fun f => (f.attributes.flatMap attrText, f.subfields.map Subfield.node) := by
    rw [elementsOf_append, elementsOf_map (g := ControlField.node) (fun _ => rfl), if_neg (by decide),
      elementsOf_map (g := DataField.node) (fun _ => rfl), if_pos (by decide), List.nil_append]
  -- both kinds are picked from the same nodes, each in its order
  refine ⟨⟨controls, datas.map DataField.given⟩, ?_, ?_⟩
  · have hReadControls : (controls.map fun f => (f.attributes.flatMap attrText, textNodes f.value.toList)).mapM
        (fun e => controlField? e.1 e.2) = some (controls.map id) :=
      mapM_map_pure fun f _ => controlField?_node f
    have hReadDatas : (datas.map fun f => (f.attributes.flatMap attrText, f.subfields.map Subfield.node)).mapM
        (fun e => givenField? e.1 e.2) = some (datas.map DataField.given) :=
      mapM_map_pure fun f _ => givenField?_node f
    rw [hNodes, givenRecord?, show attrs? [] = some [] from rfl]
    simp only [Option.bind_eq_bind, Option.bind_some, inRuns_fields controls datas, if_true, hControls, hDatas,
      hReadControls, hReadDatas, List.map_id]
  · have hDataFields : (datas.map DataField.given).mapM GivenField.dataField = .ok (datas.map id) :=
      mapM_map_pure fun f _ => dataField_given f
    rw [GivenRecord.record, hDataFields, List.map_id]
    rfl

/-- The records of a collection are made of the fields of each. -/
theorem exists_givenRecords?_fields {contents : List (List Field)}
    (h : ∀ fields ∈ contents, ∃ (controls : List ControlField) (datas : List DataField),
      fields = controls.map Field.control ++ datas.map Field.data) :
    ∃ given, givenRecords? [] (contents.map recordNode) = some given ∧
      given.mapM GivenRecord.record = .ok (contents.map Record.ofFields) := by
  have hRuns : inRuns ["record".toList] [] none (contents.map recordNode) = true :=
    inRuns_map (fun _ => rfl) contents (by decide) (by decide) (by decide)
  have hElements : elementsOf "record".toList (contents.map recordNode) =
      contents.map fun fields => ([], fields.map Field.node) := by
    rw [elementsOf_map (g := recordNode) (fun _ => rfl), if_pos (by decide)]
  rw [givenRecords?, show attrs? [] = some [] from rfl]
  simp only [Option.bind_eq_bind, Option.bind_some, hRuns, if_true, hElements]
  clear hRuns hElements
  induction contents with
  | nil => exact ⟨[], rfl, rfl⟩
  | cons fields contents ih =>
      obtain ⟨⟨controls, datas, rfl⟩, hRest⟩ := List.forall_mem_cons.mp h
      obtain ⟨given, hGiven, hRecord⟩ := exists_givenRecord?_fields controls datas
      obtain ⟨more, hMore, hRecords⟩ := ih hRest
      refine ⟨given :: more, ?_, ?_⟩
      · rw [List.map_cons, List.mapM_cons, hGiven, hMore]
        rfl
      · rw [List.map_cons, List.mapM_cons, hRecord, hRecords]
        rfl

theorem givenRecords?_node {records : List Record} (h : ∀ r ∈ records, r.IsPlain) :
    ∃ given, givenRecords? [] (records.map Record.node) = some given ∧
      given.mapM GivenRecord.record = .ok (records.map fun r => .ofFields r.fields) := by
  have hContents : ∀ fields ∈ records.map Record.fields, ∃ (controls : List ControlField)
      (datas : List DataField), fields = controls.map Field.control ++ datas.map Field.data :=
    List.forall_mem_map.mpr fun r hr => (h r hr).ordered
  have hAll := exists_givenRecords?_fields hContents
  rwa [List.map_map, List.map_map] at hAll

theorem rootKind?_collection (rest : List Char) :
    rootKind? ('<' :: ("collection".toList ++ '>' :: rest)) = some .collection := by
  have hName : dropText? "collection".toList ("collection".toList ++ '>' :: rest) = some ('>' :: rest) :=
    dropText?_eq_some_iff.mpr rfl
  have hKind : rootKindAt? ("collection".toList ++ '>' :: rest) = some .collection := by
    rw [rootKindAt?, hName, Option.any_some, if_pos (by rfl)]
  rw [rootKind?, hKind, Option.some_or]

/-- **Reading undoes writing.**  In each of the three forms a collection that was written is read as its
records with their fields added one by one; these are the same records if and only if every one of them was
made so. -/
theorem readXml_collectionXml {form : NamespaceForm} {records : List Record}
    (hForm : form.hasPlainLabel = true) (hRecords : ∀ r ∈ records, r.IsPlain) :
    readXml (collectionXml form records) = .ok (records.map fun r => .ofFields r.fields) ∧
      (readXml (collectionXml form records) = .ok records ↔
        ∀ r ∈ records, ∃ fields, r = .ofFields fields) := by
  have hText := withoutNamespaces_collectionXml hForm hRecords
  have hReads : Reads (records.flatMap (Record.toXml [])) (records.map Record.node) :=
    .flatMap fun r hr => Record.reads_toXml (hRecords r hr)
  have hRoot : Xml.read? (elementText [] "collection" [] (records.flatMap (Record.toXml []))) =
      some (.element "collection".toList [] (records.map Record.node)) :=
    read?_elementText hReads.fills (by decide) (by simp)
  have hKind : rootKind? (withoutNamespaces (collectionXml form records).toList) = some .collection := by
    rw [hText]
    exact rootKind?_collection _
  obtain ⟨given, hGiven, hAll⟩ := givenRecords?_node hRecords
  have hRead : readXml (collectionXml form records) = .ok (records.map fun r => .ofFields r.fields) := by
    rw [readXml, hKind]
    simp only [recordsOfXml, rootOf?, hText, hRoot, hGiven]
    exact hAll
  refine ⟨hRead, ?_⟩
  have hSame : (records.map fun r => Record.ofFields r.fields) = records ↔
      ∀ r ∈ records, Record.ofFields r.fields = r := by
    conv_lhs => rhs; rw [← List.map_id records]
    exact List.map_inj_left
  rw [hRead, Except.ok.injEq, hSame]
  exact forall₂_congr fun r _ => Record.ofFields_fields_eq_self_iff

/-- A record with a control field and a title, under a label. -/
theorem readXml_collectionXml_emma :
    let form := NamespaceForm.labelled "m" "urn:marc"
    let controls : List ControlField := [⟨"001", "7"⟩]
    let datas : List DataField := [⟨"245", '1', ' ', [⟨'a', "Emma & co"⟩]⟩]
    let r := Record.ofFields (controls.map .control ++ datas.map .data)
    (form.hasPlainLabel = true ∧ r.fields = controls.map .control ++ datas.map .data) ∧
      collectionXml form [r] = "<m:collection xmlns:m=\"urn:marc\"><m:record>" ++
        "<m:controlfield tag=\"001\">7</m:controlfield><m:datafield tag=\"245\" ind1=\"1\" ind2=\" \">" ++
        "<m:subfield code=\"a\">Emma &amp; co</m:subfield></m:datafield></m:record></m:collection>" ∧
      readXml (collectionXml form [r]) = .ok [r] := by
  intro form controls datas r
  have hForm : form.hasPlainLabel = true := by decide
  have hFields : r.fields = controls.map .control ++ datas.map .data := by decide +kernel
  have hPlain : r.IsPlain := by
    refine ⟨?_, controls, datas, hFields⟩
    rw [hFields]
    decide +kernel
  refine ⟨⟨hForm, hFields⟩, by decide +kernel, ?_⟩
  refine (readXml_collectionXml hForm (List.forall_mem_singleton.mpr hPlain)).2.mpr ?_
  exact List.forall_mem_singleton.mpr ⟨_, rfl⟩

/-- A tag without fields is not written, so the record that has it comes back as one that has none. -/
theorem readXml_collectionXml_emptyGroup :
    let r : Record := ⟨.ofList [("245", [])]⟩
    (r.fields = [] ∧ r.IsPlain) ∧
      collectionXml .bare [r] = "<collection><record></record></collection>" ∧
      readXml (collectionXml .bare [r]) = .ok [Record.empty] ∧
      readXml (collectionXml .bare [r]) ≠ .ok [r] := by
  intro r
  have hFields : r.fields = [] := by decide +kernel
  have hText : collectionXml .bare [r] = "<collection><record></record></collection>" := by decide +kernel
  have hRead : readXml (collectionXml .bare [r]) = .ok [Record.empty] := by
    rw [hText]
    rfl
  have hOther : Record.empty ≠ r := by decide +kernel
  refine ⟨⟨hFields, by simp [hFields], [], [], hFields⟩, hText, hRead, fun hSame => hOther ?_⟩
  rw [hRead, Except.ok.injEq] at hSame
  exact (List.cons.inj hSame).1

end CatalogGraph.Marc
