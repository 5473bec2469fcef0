/-!
# Ordered maps

A map from text to values that remembers the order in which its keys first came.  A later value for a
key takes the place of the earlier one and does not move it.
-/

namespace CatalogGraph

/-- The list with the value of `key` replaced by `f` of it.  A key that is not there comes last, with
`f none`. -/
def alterEntries {α : Type} (key : String) (f : Option α → α) :
    List (String × α) → List (String × α)
  | [] => [(key, f none)]
  | (k, v) :: rest =>
    if k = key then (k, f (some v)) :: rest else (k, v) :: alterEntries key f rest

theorem keys_alterEntries {α : Type} (key : String) (f : Option α → α)
    (entries : List (String × α)) :
    (alterEntries key f entries).map Prod.fst =
      if key ∈ entries.map Prod.fst then entries.map Prod.fst
      else entries.map Prod.fst ++ [key] := by
  induction entries with
  | nil => simp [alterEntries]
  | cons entry rest ih =>
    obtain ⟨k, v⟩ := entry
    by_cases h : k = key
    · simp [alterEntries, h]
    · have h' : ¬ key = k := fun e => h e.symm
      simp only [alterEntries, h, ↓reduceIte, List.map_cons, ih, List.mem_cons, h', false_or]
      split <;> simp

/-- What is found under a key afterwards: under the altered one the new value, under others the old. -/
theorem find?_alterEntries {α : Type} (key k : String) (f : Option α → α)
    (entries : List (String × α)) :
    ((alterEntries key f entries).find? (·.1 == k)).map Prod.snd =
      if k = key then some (f ((entries.find? (·.1 == key)).map Prod.snd))
      else (entries.find? (·.1 == k)).map Prod.snd := by
  induction entries with
  | nil =>
    by_cases h : k = key
    · simp [alterEntries, h]
    · have h' : ¬ key = k := fun e => h e.symm
      simp [alterEntries, h, h']
  | cons entry rest ih =>
    obtain ⟨j, v⟩ := entry
    by_cases hj : j = key
    · subst hj
      by_cases h : k = j
      · simp [alterEntries, h]
      · have h' : ¬ j = k := fun e => h e.symm
        simp [alterEntries, h, h']
    · by_cases h : j = k
      · have h' : ¬ k = key := fun e => hj (h.trans e)
        simp [alterEntries, h, h']
      · simp only [alterEntries, hj, ↓reduceIte, List.find?_cons, beq_eq_false_iff_ne.mpr h,
          beq_eq_false_iff_ne.mpr hj, ih]

/-- A new key comes last. -/
theorem alterEntries_of_notMem {α : Type} {key : String} (f : Option α → α)
    {entries : List (String × α)} (h : key ∉ entries.map Prod.fst) :
    alterEntries key f entries = entries ++ [(key, f none)] := by
  induction entries with
  | nil => rfl
  | cons entry rest ih =>
    obtain ⟨k, v⟩ := entry
    rw [List.map_cons, List.mem_cons, not_or] at h
    obtain ⟨hHead, hRest⟩ := h
    rw [alterEntries, if_neg (Ne.symm hHead), ih hRest, List.cons_append]

/-- Where a key is found, its entry gets the new value and all others stay as they are. -/
theorem alterEntries_of_find? {α : Type} {key : String} {value : α} (f : Option α → α)
    {entries : List (String × α)}
    (h : (entries.find? (·.1 == key)).map Prod.snd = some value) :
    ∃ before after, entries = before ++ (key, value) :: after ∧
      alterEntries key f entries = before ++ (key, f (some value)) :: after := by
  induction entries with
  | nil => simp at h
  | cons entry rest ih =>
    obtain ⟨k, v⟩ := entry
    by_cases hKey : k = key
    · subst hKey
      obtain rfl : v = value := by simpa using h
      exact ⟨[], rest, rfl, by rw [alterEntries, if_pos rfl, List.nil_append]⟩
    · rw [List.find?_cons_of_neg (by simpa using hKey)] at h
      obtain ⟨before, after, rfl, hAlter⟩ := ih h
      refine ⟨(k, v) :: before, after, rfl, ?_⟩
      rw [alterEntries, if_neg hKey, hAlter, List.cons_append]

/-- The value of the last key is replaced in its place. -/
theorem alterEntries_concat {α : Type} {key : String} (f : Option α → α) {entries : List (String × α)}
    (h : key ∉ entries.map Prod.fst) (value : α) :
    alterEntries key f (entries ++ [(key, value)]) = entries ++ [(key, f (some value))] := by
  induction entries with
  | nil => simp [alterEntries]
  | cons entry rest ih =>
    obtain ⟨k, v⟩ := entry
    rw [List.map_cons, List.mem_cons, not_or] at h
    obtain ⟨hHead, hRest⟩ := h
    rw [List.cons_append, alterEntries, if_neg (Ne.symm hHead), ih hRest, List.cons_append]

/-- A map from text to values, in the order in which the keys first came. -/
@[ext]
structure OrderedMap (α : Type) where
  entries : List (String × α)
  nodup : (entries.map Prod.fst).Nodup
  deriving DecidableEq

namespace OrderedMap

variable {α : Type}

/-- The map without entries. -/
def empty : OrderedMap α := ⟨[], List.nodup_nil⟩

instance : Inhabited (OrderedMap α) := ⟨empty⟩

/-- The keys in their order. -/
def keys (m : OrderedMap α) : List String := m.entries.map Prod.fst

/-- The values in the order of their keys. -/
def values (m : OrderedMap α) : List α := m.entries.map Prod.snd

/-- The value of a key. -/
def find? (m : OrderedMap α) (key : String) : Option α :=
  (m.entries.find? (·.1 == key)).map Prod.snd

/-- The number of keys. -/
def size (m : OrderedMap α) : Nat := m.entries.length

/-- Replaces the value of a key by `f` of it, at the end if the key is new. -/
def alter (m : OrderedMap α) (key : String) (f : Option α → α) : OrderedMap α where
  entries := alterEntries key f m.entries
  nodup := by
    rw [keys_alterEntries]
    split
    · exact m.nodup
    · next h =>
      exact List.nodup_append.2 ⟨m.nodup, by simp, by
        intro a ha b hb
        simp only [List.mem_singleton] at hb
        exact fun e => h (hb ▸ e ▸ ha)⟩

theorem find?_alter (m : OrderedMap α) (key k : String) (f : Option α → α) :
    (m.alter key f).find? k = if k = key then some (f (m.find? key)) else m.find? k :=
  find?_alterEntries key k f m.entries

theorem find?_empty (key : String) : (empty : OrderedMap α).find? key = none := rfl

/-- What a map finds is one of its values. -/
theorem mem_values_of_find? {m : OrderedMap α} {key : String} {value : α}
    (h : m.find? key = some value) : value ∈ m.values := by
  obtain ⟨entry, hEntry, rfl⟩ := Option.map_eq_some_iff.mp h
  exact List.mem_map_of_mem (List.mem_of_find?_eq_some hEntry)

/-- A key under which something is found is one of the keys. -/
theorem mem_keys_of_find? {m : OrderedMap α} {key : String} {value : α}
    (h : m.find? key = some value) : key ∈ m.keys := by
  obtain ⟨entry, hEntry, rfl⟩ := Option.map_eq_some_iff.mp h
  have hKey := List.find?_some hEntry
  exact List.mem_map.mpr ⟨entry, List.mem_of_find?_eq_some hEntry, eq_of_beq hKey⟩

/-- Every entry is found under its key. -/
theorem find?_of_mem {m : OrderedMap α} {entry : String × α} (h : entry ∈ m.entries) :
    m.find? entry.1 = some entry.2 := by
  obtain ⟨entries, hNodup⟩ := m
  unfold find?
  induction entries with
  | nil => exact absurd h List.not_mem_nil
  | cons first rest ih =>
      obtain ⟨hFirst, hRest⟩ := List.nodup_cons.mp hNodup
      rcases List.mem_cons.mp h with rfl | hMem
      · simp
      · have hNe : ¬first.1 = entry.1 := fun e => hFirst (e ▸ List.mem_map_of_mem hMem)
        rw [List.find?_cons_of_neg (by simpa using hNe)]
        exact ih hRest hMem

/-- Gives a key a value. -/
def insert (m : OrderedMap α) (key : String) (value : α) : OrderedMap α :=
  m.alter key fun _ => value

/-- Gives every key of a list its value, one after the other. -/
def insertAll (m : OrderedMap α) (entries : List (String × α)) : OrderedMap α :=
  entries.foldl (fun m e => m.insert e.1 e.2) m

/-- The map of a list of keys and values; a later value for a key replaces an earlier one. -/
def ofList (entries : List (String × α)) : OrderedMap α :=
  insertAll empty entries

theorem keys_insert (m : OrderedMap α) (key : String) (value : α) :
    (m.insert key value).keys = if key ∈ m.keys then m.keys else m.keys ++ [key] :=
  keys_alterEntries key _ m.entries

/-- Of the values that a key is given, the last one counts; without any it keeps its old one. -/
theorem find?_insertAll (m : OrderedMap α) (entries : List (String × α)) (key : String) :
    (m.insertAll entries).find? key =
      ((entries.reverse.find? (·.1 == key)).map Prod.snd).or (m.find? key) := by
  induction entries generalizing m with
  | nil => rfl
  | cons entry rest ih =>
    have hFirst : (m.insert entry.1 entry.2).find? key =
        (([entry].find? (·.1 == key)).map Prod.snd).or (m.find? key) := by
      rw [insert, find?_alter, List.find?_singleton]
      by_cases h : key = entry.1
      · simp [h]
      · simp [h, Ne.symm h]
    have hAll : m.insertAll (entry :: rest) = (m.insert entry.1 entry.2).insertAll rest := rfl
    rw [hAll, ih, hFirst, ← Option.or_assoc, ← Option.map_or, ← List.find?_append,
      ← List.reverse_cons]

/-- The old keys come first, and then the new ones in the order in which they first got a value. -/
theorem keys_insertAll (m : OrderedMap α) (entries : List (String × α)) :
    (m.insertAll entries).keys =
      m.keys ++ ((entries.map Prod.fst).filter (!m.keys.contains ·)).eraseDups := by
  induction entries generalizing m with
  | nil => exact (List.append_nil _).symm
  | cons entry rest ih =>
    have hAll : m.insertAll (entry :: rest) = (m.insert entry.1 entry.2).insertAll rest := rfl
    rw [hAll, ih, keys_insert, List.map_cons]
    by_cases h : entry.1 ∈ m.keys
    · rw [if_pos h, List.filter_cons_of_neg (by simpa using h)]
    · rw [if_neg h, List.filter_cons_of_pos (by simpa using h), List.eraseDups_cons,
        List.filter_filter, List.append_assoc, List.singleton_append]
      congr 4
      funext key
      rw [Bool.eq_iff_iff]
      simp [and_comm]

/-- Keys that are new and come once each are added as they are. -/
theorem entries_insertAll (m : OrderedMap α) (entries : List (String × α))
    (h : ((m.entries ++ entries).map Prod.fst).Nodup) :
    (m.insertAll entries).entries = m.entries ++ entries := by
  induction entries generalizing m with
  | nil => rw [List.append_nil]; rfl
  | cons entry rest ih =>
    have hNew : entry.1 ∉ m.entries.map Prod.fst := by
      rw [List.map_append, List.nodup_append] at h
      exact fun hMem => h.2.2 _ hMem _ List.mem_cons_self rfl
    have hInsert : (m.insert entry.1 entry.2).entries = m.entries ++ [entry] :=
      alterEntries_of_notMem _ hNew
    have hAll : m.insertAll (entry :: rest) = (m.insert entry.1 entry.2).insertAll rest := rfl
    rw [hAll, ih _ (by rwa [hInsert, List.append_assoc]), hInsert, List.append_assoc,
      List.singleton_append]

/-- A map is made by giving each of its keys its value. -/
theorem ofList_entries (m : OrderedMap α) : ofList m.entries = m :=
  OrderedMap.ext (entries_insertAll empty m.entries m.nodup)

/-- The values of keys that come once each. -/
theorem values_ofList {entries : List (String × α)} (h : (entries.map Prod.fst).Nodup) :
    (ofList entries).values = entries.map Prod.snd := by
  rw [values, ofList, entries_insertAll empty entries h]
  rfl

end OrderedMap

end CatalogGraph
