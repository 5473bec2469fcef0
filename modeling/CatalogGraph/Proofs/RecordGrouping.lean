import CatalogGraph.Proofs.RecordFields
import Mathlib.Data.List.Basic
import Mathlib.Data.List.Induction

/-!
# A record as a grouping of its fields

A record that fields are added to one by one is a stable grouping of them by tag.  The tags come in the
order of their first use (`tags_ofFields`), and under each tag stand its fields in the order in which
they were added; all fields together are the added ones, rearranged (`fields_ofFields`,
`perm_groupedBy`).

The identifier is looked for among the fields as they stand in the record, group after group, and not in
the order in which they were added.  A data field that comes early can therefore bring forward a control
field that was added late.  This cannot happen if no tag is used for control fields and data fields alike
(`findSome?_groupedBy`).
-/

namespace CatalogGraph.Marc

/-! ## Lists grouped by a key -/

/-- The members of a list, those with the same key together.  The keys come in the order of their first
use. -/
def groupedBy {α : Type} (key : α → String) (xs : List α) : List α :=
  (xs.map key).eraseDups.flatMap fun k => xs.filter (key · == k)

variable {α β : Type} {key : α → String}

/-- First the group of the first member, then the groups of those that are not in it. -/
theorem groupedBy_cons (x : α) (rest : List α) :
    groupedBy key (x :: rest) =
      x :: (rest.filter (key · == key x) ++ groupedBy key (rest.filter (!key · == key x))) := by
  unfold groupedBy
  rw [List.map_cons, List.eraseDups_cons, List.flatMap_cons, List.filter_cons_of_pos (by simp),
    List.filter_map, List.cons_append]
  congr 2
  apply List.flatMap_congr
  intro k hk
  -- a later group has another key, so `x` is not in it and none of its members has gone to the first group
  have hNe : k ≠ key x := by
    rw [List.mem_eraseDups, List.mem_map] at hk
    obtain ⟨y, hy, rfl⟩ := hk
    simpa using (List.mem_filter.mp hy).2
  rw [List.filter_cons_of_neg (by simpa using Ne.symm hNe), List.filter_filter]
  apply List.filter_congr
  intro y _
  by_cases h : key y = k
  · simp [h, hNe]
  · simp [h]

/-- Grouping neither loses nor doubles a member. -/
theorem perm_groupedBy (xs : List α) : (groupedBy key xs).Perm xs := by
  cases xs with
  | nil => exact .nil
  | cons x rest =>
      rw [groupedBy_cons]
      -- the first group goes as a whole, so the recursion is on the number of members
      have hOthers := perm_groupedBy (rest.filter (!key · == key x))
      exact .cons x ((hOthers.append_left _).trans (List.filter_append_perm _ rest))
termination_by xs.length
decreasing_by exact Nat.lt_succ_of_le (List.length_filter_le _ _)

/-- Members that have no answer may be left out. -/
theorem findSome?_filter {answer : α → Option β} {keep : α → Bool} {xs : List α}
    (h : ∀ x ∈ xs, keep x = false → answer x = none) :
    (xs.filter keep).findSome? answer = xs.findSome? answer := by
  induction xs with
  | nil => rfl
  | cons x rest ih =>
      obtain ⟨hFirst, hRest⟩ := List.forall_mem_cons.mp h
      cases hKeep : keep x with
      | true => rw [List.filter_cons_of_pos hKeep, List.findSome?_cons, List.findSome?_cons, ih hRest]
      | false => rw [List.filter_cons_of_neg (by simp [hKeep]), List.findSome?_cons, hFirst hKeep, ih hRest]

/-- If members with the same key answer alike, a list and its groups have the same first answer. -/
theorem findSome?_groupedBy {answer : α → Option β} : ∀ xs : List α,
    (∀ x ∈ xs, ∀ y ∈ xs, key y = key x → answer x = none → answer y = none) →
      (groupedBy key xs).findSome? answer = xs.findSome? answer
  | [], _ => rfl
  | x :: rest, h => by
      rw [groupedBy_cons, List.findSome?_cons, List.findSome?_cons]
      cases hAnswer : answer x with
      | some b => rfl
      | none =>
          -- nothing in the first group has an answer, so what is left of the list has its first answer
          have hGroup : ∀ y ∈ rest, key y = key x → answer y = none := fun y hy hKey =>
            h x List.mem_cons_self y (List.mem_cons_of_mem x hy) hKey hAnswer
          have hNone : (rest.filter (key · == key x)).findSome? answer = none := by
            rw [List.findSome?_eq_none_iff]
            intro y hy
            exact hGroup y (List.mem_filter.mp hy).1 (eq_of_beq (List.mem_filter.mp hy).2)
          have hOthers := findSome?_groupedBy (rest.filter (!key · == key x)) fun y hy z hz =>
            h y (List.mem_cons_of_mem x (List.mem_filter.mp hy).1)
              z (List.mem_cons_of_mem x (List.mem_filter.mp hz).1)
          rw [List.findSome?_append, hNone, Option.none_or, hOthers]
          exact findSome?_filter fun y hy hKey => hGroup y hy (by simpa using hKey)
termination_by xs => xs.length
decreasing_by exact Nat.lt_succ_of_le (List.length_filter_le _ _)

namespace Record

/-! ## Tags -/

/-- A new tag comes last. -/
theorem tags_add (r : Record) (field : Field) :
    (r.add field).tags = if field.tag ∈ r.tags then r.tags else r.tags ++ [field.tag] :=
  keys_alterEntries _ _ _

/-- What was there before is erased from the end. -/
theorem eraseDups_concat (tags : List String) (tag : String) :
    (tags ++ [tag]).eraseDups = if tag ∈ tags then tags.eraseDups else tags.eraseDups ++ [tag] := by
  rw [List.eraseDups_append, List.cons_removeAll, List.nil_removeAll]
  by_cases h : tag ∈ tags
  · rw [if_pos h, if_neg (by simpa using h), List.eraseDups_nil, List.append_nil]
  · rw [if_neg h, if_pos (by simpa using h)]
    rfl

/-- The tags come in the order of their first use. -/
theorem tags_ofFields (fields : List Field) :
    (ofFields fields).tags = (fields.map Field.tag).eraseDups := by
  induction fields using List.reverseRecOn with
  | nil => rfl
  | append_singleton fields field ih =>
      have hAdd : ofFields (fields ++ [field]) = (ofFields fields).add field := List.foldl_concat ..
      rw [hAdd, tags_add, ih, List.map_append, List.map_singleton, eraseDups_concat]
      simp only [List.mem_eraseDups]

/-- All fields are the fields of the tags, tag by tag. -/
theorem fields_eq_flatMap (r : Record) : r.fields = r.tags.flatMap r.fieldsOf := by
  unfold fields tags OrderedMap.values OrderedMap.keys
  rw [List.flatMap_map, ← List.flatMap_def]
  apply List.flatMap_congr
  intro group hGroup
  rw [fieldsOf, OrderedMap.find?_of_mem hGroup, Option.getD_some]

/-- All fields are the added ones, grouped by tag. -/
theorem fields_ofFields (fields : List Field) : (ofFields fields).fields = groupedBy Field.tag fields := by
  rw [fields_eq_flatMap, tags_ofFields]
  exact List.flatMap_congr fun tag _ => fieldsOf_ofFields fields tag

/-! ## Control fields -/

/-- The control fields of a list. -/
def controls (fields : List Field) : List ControlField := fields.filterMap Field.control?

theorem findSome?_controlValue? (fields : List Field) :
    fields.findSome? Field.controlValue? = (controls fields).head?.map (·.value) := by
  induction fields with
  | nil => rfl
  | cons field rest ih =>
      cases field with
      | control f => rfl
      | data f => exact ih

theorem controls_filter (fields : List Field) (tag : String) :
    controls (fields.filter (·.tag == tag)) = (controls fields).filter (·.tag == tag) := by
  unfold controls
  rw [List.filter_filterMap, List.filterMap_filter]
  apply List.filterMap_congr
  intro field _
  cases field with
  | control f =>
      by_cases h : f.tag = tag
      · simp [Field.control?, Field.tag, Option.filter, h]
      · simp [Field.control?, Field.tag, Option.filter, h]
  | data f => simp [Field.control?, Option.filter]

/-- Under a tag stands the value of the first control field that was added with it. -/
theorem controlValue?_ofFields (fields : List Field) (tag : String) :
    (ofFields fields).controlValue? tag =
      ((controls fields).find? (·.tag == tag)).map (·.value) := by
  rw [controlValue?, fieldsOf_ofFields, findSome?_controlValue?, controls_filter, List.head?_filter]

/-- Fields with the same tag are of the same kind. -/
def KindByTag (fields : List Field) : Prop :=
  ∀ f ∈ fields, ∀ g ∈ fields, f.tag = g.tag → f.control?.isSome = g.control?.isSome

theorem controlValue?_eq_none_iff {field : Field} :
    field.controlValue? = none ↔ field.control?.isSome = false := by
  cases field with
  | control f => simp [Field.controlValue?, Field.control?]
  | data f => simp [Field.controlValue?, Field.control?]

/-- Where the tag decides on the kind, the first control field in the record is the first one that was
added. -/
theorem findSome?_fields_ofFields {fields : List Field} (h : KindByTag fields) :
    (ofFields fields).fields.findSome? Field.controlValue? = (controls fields).head?.map (·.value) := by
  rw [fields_ofFields, ← findSome?_controlValue?]
  apply findSome?_groupedBy
  intro f hf g hg hTag hNone
  rw [controlValue?_eq_none_iff] at hNone ⊢
  rw [h g hg f hf hTag, hNone]

/-- **A record is a stable grouping of the fields that were added to it.**  Its tags are the tags that
were used, each once and in the order of first use.  Under a tag stand the fields that were added with
it, in their order, and all fields of the record are the added ones rearranged; no group is empty, and no
field stands in a group of another tag.  A control field is found under its tag as the first one added
with it.  If no tag was used for control fields and data fields alike, the record is known by the first
control field 001 that was added, or else by the first control field. -/
theorem ofFields_groups_stably (fields : List Field) :
    let r := ofFields fields
    (r.tags.Nodup ∧ r.tags = (fields.map Field.tag).eraseDups) ∧
    (∀ tag, r.fieldsOf tag = fields.filter (·.tag == tag)) ∧
    r.fields.Perm fields ∧
    (∀ group ∈ r.groups.entries, group.2 ≠ [] ∧ ∀ field ∈ group.2, field.tag = group.1) ∧
    (∀ tag, r.controlValue? tag = ((controls fields).find? (·.tag == tag)).map (·.value)) ∧
    (KindByTag fields → r.controlNumber? =
      (((controls fields).find? (·.tag == "001")).or (controls fields).head?).map (·.value)) := by
  intro r
  refine ⟨⟨r.groups.nodup, tags_ofFields fields⟩, fieldsOf_ofFields fields, ?_, isGrouped_ofFields fields,
    controlValue?_ofFields fields, fun hKind => ?_⟩
  · rw [fields_ofFields]
    exact perm_groupedBy fields
  · rw [controlNumber?, controlValue?_ofFields, findSome?_fields_ofFields hKind, Option.map_or]

/-- Two tags that come back after others, and no field 001: the record is known by the field 005, which
was added before the fields 003. -/
theorem ofFields_groups_stably_persuasion :
    let title (value : String) : Field := .data ⟨"245", '1', '0', [⟨'a', value⟩]⟩
    let fields : List Field := [title "Persuasion", .control ⟨"005", "1817"⟩, .control ⟨"003", "a"⟩,
      title "Anne Elliot", .control ⟨"003", "b"⟩]
    let r := ofFields fields
    KindByTag fields ∧ r.tags = ["245", "005", "003"] ∧
      r.fieldsOf "003" = [.control ⟨"003", "a"⟩, .control ⟨"003", "b"⟩] ∧ r.fields.Perm fields ∧
      r.controlValue? "003" = some "a" ∧ r.controlNumber? = some "1817" := by
  intro title fields r
  have hKind : KindByTag fields := by unfold KindByTag; decide
  obtain ⟨⟨-, hTags⟩, hFields, hPerm, -, hControl, hNumber⟩ := ofFields_groups_stably fields
  exact ⟨hKind, hTags.trans (by decide), (hFields "003").trans (by decide), hPerm,
    (hControl "003").trans (by decide), (hNumber hKind).trans (by decide)⟩

/-- A data field 003 brings a later control field 003 forward. -/
example :
    let fields : List Field := [.data ⟨"003", ' ', ' ', []⟩, .control ⟨"005", "1817"⟩, .control ⟨"003", "a"⟩]
    (controls fields).head?.map (·.value) = some "1817" ∧ (ofFields fields).controlNumber? = some "a" := by
  decide

end Record

end CatalogGraph.Marc
