import CatalogGraph.Marc.Record

/-!
# The fields of a record

A record that fields were added to one by one holds, under each tag, the fields with that tag in the order
in which they were added (`fieldsOf_ofFields`), so every field stands under its own tag.  Records that are
given otherwise need not be so.  A record is made of its own fields again if and only if it was made of fields
(`ofFields_fields_eq_self_iff`); what this takes is that every group has fields of its tag and no others
(`IsGrouped`).

A field may be replaced where it stands (`setField`).  The tags and the other fields stay, and so does the
identifier of the record, unless the value of a control field changes (`controlNumber?_setField`).  What
changes the identifier and nothing else is another value in the first control field 001
(`setControlNumber`).
-/

namespace CatalogGraph.Marc

namespace Record

theorem fieldsOf_empty (tag : String) : empty.fieldsOf tag = [] := by
  unfold fieldsOf empty
  rw [OrderedMap.find?_empty, Option.getD_none]

/-- A new field comes after the other fields of its tag. -/
theorem fieldsOf_add (r : Record) (field : Field) (tag : String) :
    (r.add field).fieldsOf tag =
      if tag = field.tag then r.fieldsOf tag ++ [field] else r.fieldsOf tag := by
  unfold fieldsOf add
  rw [OrderedMap.find?_alter]
  by_cases h : tag = field.tag
  · rw [if_pos h, if_pos h, Option.getD_some, h]
  · rw [if_neg h, if_neg h]

/-- The fields added to a record stand under their tags, after the fields that were there. -/
theorem fieldsOf_foldl_add (fields : List Field) (r : Record) (tag : String) :
    (fields.foldl add r).fieldsOf tag = r.fieldsOf tag ++ fields.filter (·.tag == tag) := by
  induction fields generalizing r with
  | nil => rw [List.foldl_nil, List.filter_nil, List.append_nil]
  | cons field rest ih =>
      rw [List.foldl_cons, ih, fieldsOf_add]
      by_cases h : tag = field.tag
      · rw [if_pos h, List.filter_cons_of_pos (by simp [h]), List.append_assoc, List.singleton_append]
      · rw [if_neg h, List.filter_cons_of_neg (by simpa using fun e => h e.symm)]

theorem fieldsOf_ofFields (fields : List Field) (tag : String) :
    (ofFields fields).fieldsOf tag = fields.filter (·.tag == tag) := by
  rw [ofFields, fieldsOf_foldl_add, fieldsOf_empty, List.nil_append]

/-- What stands under a tag is a field of the record. -/
theorem mem_fields_of_mem_fieldsOf {r : Record} {tag : String} {field : Field}
    (h : field ∈ r.fieldsOf tag) : field ∈ r.fields := by
  unfold fieldsOf at h
  cases hFind : r.groups.find? tag with
  | none =>
      rw [hFind, Option.getD_none] at h
      exact absurd h List.not_mem_nil
  | some group =>
      rw [hFind, Option.getD_some] at h
      exact List.mem_flatten.mpr ⟨group, OrderedMap.mem_values_of_find? hFind, h⟩

/-- In a record that fields were added to, every field stands under its own tag. -/
theorem tag_of_mem_fieldsOf_ofFields {fields : List Field} {tag : String} {field : Field}
    (h : field ∈ (ofFields fields).fieldsOf tag) : field.tag = tag := by
  rw [fieldsOf_ofFields] at h
  exact eq_of_beq (List.mem_filter.mp h).2

/-! ## Fields by tag -/

/-- Whether every group has fields, and none but those with its tag. -/
def IsGrouped (r : Record) : Prop :=
  ∀ group ∈ r.groups.entries, group.2 ≠ [] ∧ ∀ field ∈ group.2, field.tag = group.1

theorem isGrouped_empty : empty.IsGrouped := fun _ h => absurd h List.not_mem_nil

theorem groups_add (r : Record) (field : Field) :
    (r.add field).groups.entries =
      alterEntries field.tag (fun fields => fields.getD [] ++ [field]) r.groups.entries := rfl

/-- Where a group was found, or where there was none, a field is added. -/
theorem entries_add (r : Record) (field : Field) :
    (∃ before fields after, r.groups.entries = before ++ (field.tag, fields) :: after ∧
        (r.add field).groups.entries = before ++ (field.tag, fields ++ [field]) :: after) ∨
      field.tag ∉ r.tags ∧ (r.add field).groups.entries = r.groups.entries ++ [(field.tag, [field])] := by
  cases hFind : r.groups.find? field.tag with
  | some fields =>
      obtain ⟨before, after, hBefore, hAfter⟩ :=
        alterEntries_of_find? (fun fields => fields.getD [] ++ [field]) hFind
      exact Or.inl ⟨before, fields, after, hBefore, hAfter⟩
  | none =>
      have hNew : field.tag ∉ r.groups.entries.map Prod.fst := by
        intro hMem
        obtain ⟨entry, hEntry, hTag⟩ := List.mem_map.mp hMem
        have hNone := List.find?_eq_none.mp (Option.map_eq_none_iff.mp hFind) entry hEntry
        exact hNone (beq_iff_eq.mpr hTag)
      exact Or.inr ⟨hNew, alterEntries_of_notMem _ hNew⟩

theorem isGrouped_add {r : Record} (h : r.IsGrouped) (field : Field) : (r.add field).IsGrouped := by
  intro group hGroup
  rcases entries_add r field with ⟨before, fields, after, hBefore, hAfter⟩ | ⟨-, hAfter⟩
  · rw [hAfter, List.mem_append, List.mem_cons] at hGroup
    unfold IsGrouped at h
    rw [hBefore] at h
    rcases hGroup with hMem | rfl | hMem
    · exact h group (List.mem_append_left _ hMem)
    · refine ⟨by simp, fun other hOther => ?_⟩
      rcases List.mem_append.mp hOther with hMem | hMem
      · exact (h (field.tag, fields) (by simp)).2 other hMem
      · rw [List.mem_singleton.mp hMem]
    · exact h group (List.mem_append_right _ (List.mem_cons_of_mem _ hMem))
  · rw [hAfter, List.mem_append, List.mem_singleton] at hGroup
    rcases hGroup with hMem | rfl
    · exact h group hMem
    · exact ⟨by simp, fun other hOther => by rw [List.mem_singleton.mp hOther]⟩

theorem isGrouped_ofFields (fields : List Field) : (ofFields fields).IsGrouped := by
  unfold ofFields
  suffices ∀ r : Record, r.IsGrouped → (fields.foldl add r).IsGrouped from this _ isGrouped_empty
  intro r hr
  induction fields generalizing r with
  | nil => exact hr
  | cons field rest ih => exact ih (r.add field) (isGrouped_add hr field)

/-- The fields of a tag that is new make a group of their own, at the end. -/
theorem entries_foldl_add {tag : String} {group : List Field} (hNil : group ≠ [])
    (hTags : ∀ field ∈ group, field.tag = tag) {r : Record} (hNew : tag ∉ r.tags) :
    (group.foldl add r).groups.entries = r.groups.entries ++ [(tag, group)] := by
  -- the first field makes the group, and `more` go behind what is `before` them in it
  suffices ∀ (more before : List Field) (s : Record), (∀ field ∈ more, field.tag = tag) →
      s.groups.entries = r.groups.entries ++ [(tag, before)] →
      (more.foldl add s).groups.entries = r.groups.entries ++ [(tag, before ++ more)] by
    cases group with
    | nil => exact absurd rfl hNil
    | cons field rest =>
        obtain ⟨hField, hRest⟩ := List.forall_mem_cons.mp hTags
        refine this rest [field] (r.add field) hRest ?_
        rw [groups_add, hField]
        exact alterEntries_of_notMem _ hNew
  intro more
  induction more with
  | nil => intro before s _ hs; rw [List.foldl_nil, hs, List.append_nil]
  | cons field rest ih =>
      intro before s hMore hs
      obtain ⟨hField, hRest⟩ := List.forall_mem_cons.mp hMore
      have hAdd : (s.add field).groups.entries = r.groups.entries ++ [(tag, before ++ [field])] := by
        rw [groups_add, hField, hs]
        exact alterEntries_concat _ hNew before
      rw [List.foldl_cons, ih (before ++ [field]) (s.add field) hRest hAdd, List.append_assoc,
        List.singleton_append]

/-- Adding the fields of a record one by one makes the record again, if every group has fields of its tag. -/
theorem ofFields_fields {r : Record} (h : r.IsGrouped) : ofFields r.fields = r := by
  -- `todo` are the groups whose fields are still to be added to `s`
  have hAll : ∀ (todo : List (String × List Field)) (s : Record),
      (∀ group ∈ todo, group.2 ≠ [] ∧ ∀ field ∈ group.2, field.tag = group.1) →
      ((s.groups.entries ++ todo).map Prod.fst).Nodup →
      ((todo.map Prod.snd).flatten.foldl add s).groups.entries = s.groups.entries ++ todo := by
    intro todo
    induction todo with
    | nil => intro s _ _; exact (List.append_nil _).symm
    | cons group todo ih =>
        intro s hTodo hNodup
        obtain ⟨⟨hNil, hTags⟩, hRest⟩ := List.forall_mem_cons.mp hTodo
        have hNew : group.1 ∉ s.tags := by
          rw [List.map_append, List.nodup_append] at hNodup
          exact fun hMem => hNodup.2.2 _ hMem _ List.mem_cons_self rfl
        have hGroup := entries_foldl_add hNil hTags hNew
        rw [List.map_cons, List.flatten_cons, List.foldl_append, ih _ hRest, hGroup, List.append_assoc,
          List.singleton_append]
        rw [hGroup, List.append_assoc, List.singleton_append]
        exact hNodup
  have hEntries := hAll r.groups.entries empty h r.groups.nodup
  obtain ⟨groups⟩ := r
  exact congrArg Record.mk (OrderedMap.ext hEntries)

/-- The records that are made of their own fields are those that fields were added to one by one. -/
theorem ofFields_fields_eq_self_iff {r : Record} :
    ofFields r.fields = r ↔ ∃ fields, r = ofFields fields := by
  constructor
  · exact fun h => ⟨r.fields, h.symm⟩
  · rintro ⟨fields, rfl⟩
    exact ofFields_fields (isGrouped_ofFields fields)

/-! ## Replacing a field -/

/-- The record with another field at a place among the fields of a tag. -/
def setField (r : Record) (tag : String) (index : Nat) (field : Field) : Record :=
  ⟨r.groups.alter tag fun fields => (fields.getD []).set index field⟩

theorem fieldsOf_setField (r : Record) (tag : String) (index : Nat) (field : Field) (t : String) :
    (r.setField tag index field).fieldsOf t =
      if t = tag then (r.fieldsOf tag).set index field else r.fieldsOf t := by
  unfold fieldsOf setField
  rw [OrderedMap.find?_alter]
  split
  · rw [Option.getD_some]
  · rfl

/-- What a function makes of all elements stays the same, if it makes the same of the old element at a
place and of the new one. -/
theorem map_set_of_eq {α β : Type} {xs : List α} {index : Nat} {x y : α} {g : α → β}
    (hAt : xs[index]? = some x) (h : g y = g x) : (xs.set index y).map g = xs.map g := by
  obtain ⟨hIndex, rfl⟩ := List.getElem?_eq_some_iff.mp hAt
  have hMap : index < (xs.map g).length := by rwa [List.length_map]
  have hSame : g y = (xs.map g)[index] := by rw [h, List.getElem_map]
  rw [List.map_set, hSame, List.set_getElem_self]

variable {r : Record} {tag : String} {index : Nat} {old : Field}

/-- Where a tag has fields, its fields stand among the others. -/
theorem groups_setField (hAt : (r.fieldsOf tag)[index]? = some old) (field : Field) :
    ∃ before group after, group[index]? = some old ∧
      r.groups.entries = before ++ (tag, group) :: after ∧
      (r.setField tag index field).groups.entries = before ++ (tag, group.set index field) :: after := by
  unfold fieldsOf at hAt
  cases hGroup : r.groups.find? tag with
  | none => simp [hGroup] at hAt
  | some group =>
      rw [hGroup, Option.getD_some] at hAt
      obtain ⟨before, after, hBefore, hAfter⟩ :=
        alterEntries_of_find? (fun fields => (fields.getD []).set index field) hGroup
      exact ⟨before, group, after, hAt, hBefore, hAfter⟩

theorem tags_setField (hAt : (r.fieldsOf tag)[index]? = some old) (field : Field) :
    (r.setField tag index field).tags = r.tags := by
  obtain ⟨before, group, after, -, hBefore, hAfter⟩ := groups_setField hAt field
  unfold tags OrderedMap.keys
  rw [hBefore, hAfter]
  simp

/-- The identifier stays, if the new field has the control value of the old one, or if neither has any. -/
theorem controlNumber?_setField (hAt : (r.fieldsOf tag)[index]? = some old) {field : Field}
    (hValue : field.controlValue? = old.controlValue?) :
    (r.setField tag index field).controlNumber? = r.controlNumber? := by
  have hFirst : ∀ {group : List Field}, group[index]? = some old →
      (group.set index field).findSome? Field.controlValue? = group.findSome? Field.controlValue? := by
    intro group hGroup
    have hMap := congrArg (List.findSome? id) (map_set_of_eq hGroup hValue)
    rwa [List.findSome?_map, List.findSome?_map] at hMap
  have hUnder : (r.setField tag index field).controlValue? "001" = r.controlValue? "001" := by
    unfold controlValue?
    rw [fieldsOf_setField]
    split
    · next hTag => rw [hFirst hAt, hTag]
    · rfl
  have hAll : (r.setField tag index field).fields.findSome? Field.controlValue? =
      r.fields.findSome? Field.controlValue? := by
    obtain ⟨before, group, after, hGroup, hBefore, hAfter⟩ := groups_setField hAt field
    unfold fields OrderedMap.values
    rw [hBefore, hAfter]
    simp only [List.map_append, List.map_cons, List.flatten_append, List.flatten_cons,
      List.findSome?_append, hFirst hGroup]
  rw [controlNumber?, controlNumber?, hUnder, hAll]

/-! ## Replacing the identifier -/

/-- Fields with another value in the first control field among them. -/
def setFirstControl (value : String) : List Field → List Field
  | [] => []
  | .control f :: rest => .control { f with value := value } :: rest
  | .data f :: rest => .data f :: setFirstControl value rest

theorem findSome?_setFirstControl {fields : List Field} {old : String}
    (h : fields.findSome? Field.controlValue? = some old) (value : String) :
    (setFirstControl value fields).findSome? Field.controlValue? = some value := by
  induction fields with
  | nil => simp at h
  | cons field rest ih =>
      cases field with
      | control f => rfl
      | data f => exact ih h

/-- The record with another value in its first control field 001. -/
def setControlNumber (r : Record) (value : String) : Record :=
  ⟨r.groups.alter "001" fun fields => setFirstControl value (fields.getD [])⟩

theorem fieldsOf_setControlNumber (r : Record) (value tag : String) :
    (r.setControlNumber value).fieldsOf tag =
      if tag = "001" then setFirstControl value (r.fieldsOf "001") else r.fieldsOf tag := by
  unfold fieldsOf setControlNumber
  rw [OrderedMap.find?_alter]
  split
  · rw [Option.getD_some]
  · rfl

variable {number : String}

theorem tags_setControlNumber (h : r.controlValue? "001" = some number) (value : String) :
    (r.setControlNumber value).tags = r.tags := by
  unfold controlValue? fieldsOf at h
  cases hFind : r.groups.find? "001" with
  | none => simp [hFind] at h
  | some group =>
      have hMem : "001" ∈ r.groups.entries.map Prod.fst := OrderedMap.mem_keys_of_find? hFind
      unfold tags OrderedMap.keys setControlNumber OrderedMap.alter
      rw [keys_alterEntries, if_pos hMem]

theorem controlNumber?_of_controlValue? (h : r.controlValue? "001" = some number) :
    r.controlNumber? = some number := by
  rw [controlNumber?, h, Option.some_or]

theorem controlNumber?_setControlNumber (h : r.controlValue? "001" = some number) (value : String) :
    (r.setControlNumber value).controlNumber? = some value := by
  apply controlNumber?_of_controlValue?
  rw [controlValue?, fieldsOf_setControlNumber, if_pos rfl]
  exact findSome?_setFirstControl h value

end Record

end CatalogGraph.Marc
