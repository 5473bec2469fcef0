import CatalogGraph.Marc.RecordJson
import CatalogGraph.Proofs.WrittenJson
import Mathlib.Data.List.Forall2

/-!
# Records and their texts

A record is read back from the text that is written for it, whatever its tags, fields and characters are:
the parts one after the other (`Subfield.ofJson?_toJson`, `Field.ofJson?_toJson`, `Record.ofJson?_toJson`), and
the text because a record is made of strings (`Record.ofStrings_toJson`).  Two records are the same only if their
tags have the same order.

A text that somebody else has written may have members that do not count, which are lost, and repeated tags, of
which the last list of fields stays at the place of the first (`Record.groups_of_ofJson?`).  Writing what was read
and reading it again changes nothing more.
-/

namespace CatalogGraph.Marc

open Json

/-! ## Parts -/

theorem charOf?_charJson (c : Char) : charOf? (charJson c) = some c := by
  simp [charOf?, charJson, Json.string?]

theorem mapM_map_of_inverse {α β : Type} {write : α → β} {read? : β → Option α}
    (h : ∀ x, read? (write x) = some x) (xs : List α) : (xs.map write).mapM read? = some xs := by
  calc (xs.map write).mapM read?
      = xs.mapM (fun x => read? (write x)) := List.mapM_map
    _ = xs.mapM pure := congrArg xs.mapM (funext h)
    _ = some xs := by rw [List.mapM_pure]; exact congrArg some (List.map_id _)

theorem Subfield.ofJson?_toJson (s : Subfield) : Subfield.ofJson? s.toJson = some s := by
  have hMembers : membersOf? ["code", "value"] s.toJson = some [charJson s.code, .string s.value] := rfl
  simp [Subfield.ofJson?, hMembers, charOf?_charJson, Json.string?]

theorem Field.ofJson?_toJson (f : Field) : Field.ofJson? f.toJson = some f := by
  cases f with
  | control f => rfl
  | data f =>
      have hMembers : membersOf? ["tag", "indicator1", "indicator2", "subfields"]
            (.object [("tag", .string f.tag), ("indicator1", charJson f.indicator1),
              ("indicator2", charJson f.indicator2), ("subfields", .array (f.subfields.map Subfield.toJson))]) =
          some [.string f.tag, charJson f.indicator1, charJson f.indicator2,
            .array (f.subfields.map Subfield.toJson)] := rfl
      simp [Field.toJson, Field.ofJson?, DataField.ofJson?, hMembers, charOf?_charJson, Json.string?, Json.items?,
        mapM_map_of_inverse Subfield.ofJson?_toJson]

theorem fieldsOf?_array (fields : List Field) : fieldsOf? (.array (fields.map Field.toJson)) = some fields :=
  mapM_map_of_inverse Field.ofJson?_toJson fields

theorem Record.ofJson?_toJson (r : Record) : Record.ofJson? r.toJson = some r := by
  have hEntries : (r.groups.entries.map fun e => (e.1, Json.array (e.2.map Field.toJson))).mapM
      (fun m => do some (m.1, ← fieldsOf? m.2)) = some r.groups.entries :=
    mapM_map_of_inverse (fun e => by simp [fieldsOf?_array]) r.groups.entries
  have hMembers : membersOf? ["fields"] r.toJson =
      some [.object (r.groups.entries.map fun e => (e.1, .array (e.2.map Field.toJson)))] := rfl
  simp only [Record.ofJson?, hMembers, Json.members?, Option.bind_eq_bind, Option.bind_some] at hEntries ⊢
  rw [hEntries, Option.bind_some, OrderedMap.ofList_entries]

/-! ## Texts -/

theorem Subfield.ofStrings_toJson (s : Subfield) : OfStrings s.toJson := by
  refine .object ?_
  simp only [List.forall_mem_cons]
  exact ⟨.string _, .string _, List.forall_mem_nil _⟩

theorem Field.ofStrings_toJson (f : Field) : OfStrings f.toJson := by
  cases f with
  | control f =>
      refine .object (List.forall_mem_singleton.mpr (.object ?_))
      simp only [List.forall_mem_cons]
      exact ⟨.string _, .string _, List.forall_mem_nil _⟩
  | data f =>
      refine .object (List.forall_mem_singleton.mpr (.object ?_))
      simp only [List.forall_mem_cons]
      refine ⟨.string _, .string _, .string _, .array ?_, List.forall_mem_nil _⟩
      exact List.forall_mem_map.mpr fun s _ => s.ofStrings_toJson

theorem Record.ofStrings_toJson (r : Record) : OfStrings r.toJson := by
  refine .object (List.forall_mem_singleton.mpr (.object ?_))
  refine List.forall_mem_map.mpr fun e _ => .array ?_
  exact List.forall_mem_map.mpr fun f _ => f.ofStrings_toJson

theorem Record.ofText?_toText (r : Record) : Record.ofText? r.toText = some r := by
  calc Record.ofText? r.toText
      = (Json.read? r.toJson.render).bind Record.ofJson? := rfl
    _ = Record.ofJson? r.toJson := by rw [read?_render r.ofStrings_toJson, Option.bind_some]
    _ = some r := r.ofJson?_toJson

/-- A record is read back from its own text, with its tags in the same order.  Of any text, what is read the first
time is what is read again once it has been written: nothing for a text that is not accepted, and the same record
for one that is, whatever it repeats and whatever else is in it. -/
theorem Record.text_roundtrip :
    (∀ r : Record, Record.ofText? r.toText = some r ∧ (Record.ofText? r.toText).map Record.tags = some r.tags) ∧
      ∀ text : String, ((Record.ofText? text).bind fun r => Record.ofText? r.toText) = Record.ofText? text := by
  refine ⟨fun r => ?_, fun text => ?_⟩
  · rw [r.ofText?_toText]
    exact ⟨rfl, rfl⟩
  · simp only [Record.ofText?_toText]
    exact Option.bind_fun_some _

/-! ## Repeated tags -/

theorem forall₂_of_mapM_eq_some {α β : Type} {f : α → Option β} {xs : List α} {ys : List β}
    (h : xs.mapM f = some ys) : List.Forall₂ (fun x y => f x = some y) xs ys := by
  induction xs generalizing ys with
  | nil =>
      cases h
      exact .nil
  | cons x xs ih =>
      rw [List.mapM_cons] at h
      obtain ⟨y, hFirst, h⟩ := Option.bind_eq_some_iff.mp h
      obtain ⟨ys, hRest, h⟩ := Option.bind_eq_some_iff.mp h
      cases h
      exact .cons hFirst (ih hRest)

/-- An entry that is read of a member: the name as it is, with the fields that the value gives. -/
def IsEntryOf (m : String × Json) (entry : String × List Field) : Prop :=
  m.1 = entry.1 ∧ fieldsOf? m.2 = some entry.2

variable {members : List (String × Json)} {entries : List (String × List Field)}

theorem map_fst_of_isEntryOf (h : List.Forall₂ IsEntryOf members entries) :
    entries.map Prod.fst = members.map Prod.fst := by
  induction h with
  | nil => rfl
  | cons hFirst _ ih => rw [List.map_cons, List.map_cons, ih, hFirst.1]

theorem find?_of_isEntryOf (h : List.Forall₂ IsEntryOf members entries) (tag : String) :
    (entries.find? (·.1 == tag)).map Prod.snd =
      (members.find? (·.1 == tag)).bind fun m => fieldsOf? m.2 := by
  induction h with
  | nil => rfl
  | @cons m entry _ _ hFirst _ ih =>
      rw [List.find?_cons, List.find?_cons, hFirst.1]
      split
      · exact hFirst.2.symm
      · exact ih

/-- Of a tag that is repeated the last list of fields stays, at the place of the first. -/
theorem Record.groups_of_ofJson? {j : Json} {r : Record}
    (hMembers : membersOf? ["fields"] j = some [.object members]) (h : Record.ofJson? j = some r) :
    r.tags = (members.map Prod.fst).eraseDups ∧
      ∀ tag, r.groups.find? tag = (members.reverse.find? (·.1 == tag)).bind fun m => fieldsOf? m.2 := by
  simp only [Record.ofJson?, hMembers, Json.members?, Option.bind_eq_bind, Option.bind_some,
    Option.bind_eq_some_iff] at h
  obtain ⟨entries, hEntries, h⟩ := h
  cases h
  have hRead : List.Forall₂ IsEntryOf members entries := by
    refine (forall₂_of_mapM_eq_some hEntries).imp fun m entry hEntry => ?_
    obtain ⟨fields, hFields, hEntry⟩ := Option.bind_eq_some_iff.mp hEntry
    cases hEntry
    exact ⟨rfl, hFields⟩
  refine ⟨?_, fun tag => ?_⟩
  · have hNew : ∀ tag ∈ members.map Prod.fst,
        (!(OrderedMap.empty : OrderedMap (List Field)).keys.contains tag) = true := fun _ _ => rfl
    rw [Record.tags, OrderedMap.ofList, OrderedMap.keys_insertAll, map_fst_of_isEntryOf hRead,
      List.filter_eq_self.mpr hNew]
    rfl
  · rw [OrderedMap.ofList, OrderedMap.find?_insertAll, OrderedMap.find?_empty, Option.or_none,
      find?_of_isEntryOf (List.rel_reverse hRead)]

-- a member that does not count, a repeated tag, and a field that is given by its values alone
example : Record.ofText?
    "\x7b\"note\":null,\"fields\":\x7b\"245\":[],\"001\":[],\"245\":[\x7b\"Control\":[\"100\",\"x\"]\x7d]\x7d\x7d" =
      some ⟨.ofList [("245", [.control ⟨"100", "x"⟩]), ("001", [])]⟩ := by
  rfl

end CatalogGraph.Marc
