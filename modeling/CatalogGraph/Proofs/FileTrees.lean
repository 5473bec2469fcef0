import CatalogGraph.Batch.Command
import CatalogGraph.Batch.FileTree
import Mathlib.Data.List.Basic

/-!
# Writing into a file tree

A file is only written where the folder around it is there already, so writing makes no folder
(`isFolder_afterWriting`) and no path leads elsewhere after it (`follow?_afterWriting`).  What stands in a place after
some files were written is the last text that was written there, or what was there before (`textAt?_afterWriting`).

A file in a folder has its place there under its own name (`follow?_inFolder`).
-/

namespace CatalogGraph.Batch

/-! ## Paths -/

/-- A name that leads to one step further down. -/
structure IsFileName (name : String) : Prop where
  ne_empty : name ≠ ""
  ne_dot : name ≠ "."
  ne_dots : name ≠ ".."
  no_slash : '/' ∉ name.toList

/-- The path of a folder as it stands before the name of a file in it. -/
def folderFront (folder : String) : List Char :=
  if folder.toList.getLast?.all (· == '/') then folder.toList else folder.toList ++ ['/']

theorem toList_inFolder (folder : String) {name : String} (h : '/' ∉ name.toList) :
    (inFolder folder name).toList = folderFront folder ++ name.toList := by
  have hRelative : ¬name.toList.head? = some '/' := fun hHead => h (List.mem_of_mem_head? hHead)
  rw [inFolder, if_neg hRelative, folderFront]
  split
  · exact String.toList_append
  · rw [String.toList_append, String.toList_append]
    rfl

/-- Before a name stands nothing for the empty path, and for any other one the folder up to a slash. -/
theorem folderFront_cases (folder : String) : folder.toList = [] ∧ folderFront folder = [] ∨
    ∃ cs, folderFront folder = cs ++ ['/'] ∧ (folder.toList = cs ∧ cs ≠ [] ∨ folder.toList = cs ++ ['/']) := by
  rw [folderFront]
  rcases List.eq_nil_or_concat' folder.toList with hEmpty | ⟨cs, c, hFolder⟩
  · exact Or.inl ⟨hEmpty, by simp [hEmpty]⟩
  · have hLast : folder.toList.getLast? = some c := by rw [hFolder, List.getLast?_concat]
    have hSome : folder.toList ≠ [] := by simp [hFolder]
    refine Or.inr ?_
    rw [hLast, Option.all_some]
    by_cases hSlash : c = '/'
    · exact ⟨cs, by rw [hSlash, beq_self_eq_true, if_pos rfl, hFolder, hSlash], Or.inr (by rw [hFolder, hSlash])⟩
    · exact ⟨folder.toList, by rw [if_neg (by simpa using hSlash)], Or.inl ⟨rfl, hSome⟩⟩

/-- A path starts in the root if the path of the folder does. -/
theorem head?_inFolder_iff (folder : String) {name : String} (h : '/' ∉ name.toList) :
    (inFolder folder name).toList.head? = some '/' ↔ folder.toList.head? = some '/' := by
  rw [toList_inFolder folder h]
  rcases folderFront_cases folder with ⟨hEmpty, hFront⟩ | ⟨cs, hFront, ⟨hFolder, hSome⟩ | hFolder⟩
  · rw [hEmpty, hFront, List.nil_append]
    exact iff_of_false (fun hHead => h (List.mem_of_mem_head? hHead)) (by simp)
  · obtain ⟨c, rest, rfl⟩ := List.exists_cons_of_ne_nil hSome
    rw [hFront, hFolder]
    rfl
  · rw [hFront, hFolder, List.head?_append_of_ne_nil _ (List.append_ne_nil_of_right_ne_nil _ (List.cons_ne_nil _ _))]

/-- The parts of a path are some parts and then the name; the path of the folder has these parts, and may have an
empty one behind them. -/
theorem exists_pathParts_inFolder (folder : String) : ∃ around : List String,
    (∀ name, '/' ∉ name.toList → pathParts (inFolder folder name) = around ++ [name]) ∧
      (pathParts folder = around ∧ around ≠ [] ∨ pathParts folder = around ++ [""]) := by
  rcases folderFront_cases folder with ⟨hEmpty, hFront⟩ | ⟨cs, hFront, hFolder⟩
  · refine ⟨[], fun name h => ?_, Or.inr ?_⟩
    · rw [pathParts, toList_inFolder folder h, hFront, List.nil_append, List.splitOn_eq_singleton h, List.map_singleton,
        String.ofList_toList]
      rfl
    · rw [pathParts, hEmpty]
      rfl
  · refine ⟨(cs.splitOn '/').map String.ofList, fun name h => ?_, ?_⟩
    · -- the slash after the folder is the last one
      rw [pathParts, toList_inFolder folder h, hFront, List.append_assoc, List.singleton_append,
        List.splitOn_append_cons_self, List.splitOn_eq_singleton h, List.map_append, List.map_singleton,
        String.ofList_toList]
    · rcases hFolder with ⟨hSame, -⟩ | hSlash
      · have hSome : cs.splitOn '/' ≠ [] := List.splitOn_ne_nil '/' cs
        exact Or.inl ⟨by rw [pathParts, hSame], fun hNil => hSome (List.map_eq_nil_iff.mp hNil)⟩
      · refine Or.inr ?_
        rw [pathParts, hSlash, List.splitOn_append_cons_self, List.map_append]
        rfl

namespace FileTree

variable {t u : FileTree} {place other : Place}

/-! ## Folders -/

theorem holds_iff : t.holds place = true ↔
    ∃ other, (other ∈ t.files.map Prod.fst ∨ other ∈ t.folders) ∧ place <+: other ∧ place.length < other.length := by
  simp only [holds, Bool.or_eq_true, List.any_eq_true, Bool.and_eq_true, List.isPrefixOf_iff_prefix,
    decide_eq_true_eq, List.mem_map]
  constructor
  · rintro (⟨f, hf, hInside⟩ | ⟨other, hOther, hInside⟩)
    · exact ⟨f.1, Or.inl ⟨f, hf, rfl⟩, hInside⟩
    · exact ⟨other, Or.inr hOther, hInside⟩
  · rintro ⟨other, ⟨f, hf, rfl⟩ | hOther, hInside⟩
    · exact Or.inl ⟨f, hf, hInside⟩
    · exact Or.inr ⟨other, hOther, hInside⟩

/-- Whatever lies in a place makes it a folder. -/
theorem isFolder_of_inner (hInner : other ∈ t.files.map Prod.fst ∨ other ∈ t.folders) (hPrefix : place <+: other)
    (hShorter : place.length < other.length) : t.isFolder place = true := by
  have hHolds : t.holds place = true := holds_iff.mpr ⟨other, hInner, hPrefix, hShorter⟩
  simp [isFolder, hHolds]

/-- A folder is the root, a folder that is listed, or a place in which something lies. -/
theorem isFolder_cases (h : t.isFolder place = true) : place = [] ∨ place ∈ t.folders ∨
    ∃ other, (other ∈ t.files.map Prod.fst ∨ other ∈ t.folders) ∧ place <+: other ∧ place.length < other.length := by
  rw [← holds_iff]
  simpa only [isFolder, Bool.or_eq_true, List.isEmpty_iff, List.contains_iff_mem, or_assoc] using h

theorem isFolder_nil (t : FileTree) : t.isFolder [] = true := rfl

theorem isFolder_of_mem (h : place ∈ t.folders) : t.isFolder place = true := by
  simp [isFolder, h]

/-- What is around a folder is a folder. -/
theorem isFolder_around (h : t.isFolder place = true) (hPrefix : other <+: place) : t.isFolder other = true := by
  rcases Nat.lt_or_ge other.length place.length with hShorter | hLonger
  · rcases isFolder_cases h with rfl | hFolder | ⟨inner, hInner, hAround, hLength⟩
    · exact absurd hShorter (Nat.not_lt_zero _)
    · exact isFolder_of_inner (Or.inr hFolder) hPrefix hShorter
    · exact isFolder_of_inner hInner (hPrefix.trans hAround) (Nat.lt_trans hShorter hLength)
  · rwa [hPrefix.eq_of_length_le hLonger]

theorem mem_files_putText {text : String} :
    other ∈ (t.putText place text).files.map Prod.fst ↔ other ∈ t.files.map Prod.fst ∨ other = place := by
  simp only [putText, List.map_append, List.mem_append, List.map_cons, List.map_nil, List.mem_singleton,
    List.mem_map, List.mem_filter, bne_iff_ne]
  constructor
  · rintro (⟨f, ⟨hf, -⟩, rfl⟩ | rfl)
    · exact Or.inl ⟨f, hf, rfl⟩
    · exact Or.inr rfl
  · rintro (⟨f, hf, rfl⟩ | rfl)
    · by_cases hSame : f.1 = place
      · exact Or.inr hSame
      · exact Or.inl ⟨f, ⟨hf, hSame⟩, rfl⟩
    · exact Or.inr rfl

/-- A file in a folder makes no other folder. -/
theorem isFolder_putText (hAround : t.isFolder place.dropLast = true) (text : String) (other : Place) :
    (t.putText place text).isFolder other = t.isFolder other := by
  rw [Bool.eq_iff_iff]
  constructor
  · intro h
    rcases isFolder_cases h with rfl | hFolder | ⟨inner, hInner, hPrefix, hShorter⟩
    · exact isFolder_nil t
    · exact isFolder_of_mem hFolder
    · rw [mem_files_putText] at hInner
      rcases hInner with (hFile | rfl) | hFolder
      · exact isFolder_of_inner (Or.inl hFile) hPrefix hShorter
      -- what lies around the new file lies around its folder as well, or is this folder
      · refine isFolder_around hAround (List.prefix_of_prefix_length_le hPrefix (List.dropLast_prefix _) ?_)
        rw [List.length_dropLast]
        exact Nat.le_sub_one_of_lt hShorter
      · exact isFolder_of_inner (Or.inr hFolder) hPrefix hShorter
  · intro h
    rcases isFolder_cases h with rfl | hFolder | ⟨inner, hInner, hPrefix, hShorter⟩
    · exact isFolder_nil _
    · exact isFolder_of_mem hFolder
    · exact isFolder_of_inner (hInner.imp_left fun hFile => mem_files_putText.mpr (Or.inl hFile)) hPrefix hShorter

/-! ## Following paths -/

theorem followFrom?_append (t : FileTree) (place : Place) (parts more : List String) :
    t.followFrom? place (parts ++ more) = (t.followFrom? place parts).bind (t.followFrom? · more) := by
  fun_induction followFrom? t place parts with
  | case1 => rfl
  | case2 place part rest hFile => rw [List.cons_append, followFrom?, if_pos hFile, Option.bind_none]
  | case3 place part rest hFolder hStay ih => rw [List.cons_append, followFrom?, if_neg hFolder, if_pos hStay, ih]
  | case4 part rest place hFolder hStay hBack hRoot =>
      rw [List.cons_append, followFrom?, if_neg hFolder, if_neg hStay, if_pos hBack, if_pos hRoot, Option.bind_none]
  | case5 part rest place hFolder hStay hBack hRoot ih =>
      rw [List.cons_append, followFrom?, if_neg hFolder, if_neg hStay, if_pos hBack, if_neg hRoot, ih]
  | case6 place part rest hFolder hStay hBack hName ih =>
      rw [List.cons_append, followFrom?, if_neg hFolder, if_neg hStay, if_neg hBack, if_pos hName, ih]
  | case7 place part rest hFolder hStay hBack hName =>
      rw [List.cons_append, followFrom?, if_neg hFolder, if_neg hStay, if_neg hBack, if_neg hName, Option.bind_none]

/-- Where a path leads is a matter of the folders. -/
theorem follow?_congr (h : ∀ place, u.isFolder place = t.isFolder place) (path : String) :
    u.follow? path = t.follow? path := by
  have hFrom : ∀ parts place, u.followFrom? place parts = t.followFrom? place parts := by
    intro parts
    induction parts with
    | nil => exact fun place => rfl
    | cons part rest ih => intro place; simp only [followFrom?, h, ih]
  rw [follow?, follow?, hFrom]

/-- Around every place that a path leads to is a folder. -/
theorem isFolder_dropLast_of_followFrom? {parts : List String} (hPlace : t.isFolder place.dropLast = true)
    (h : t.followFrom? place parts = some other) : t.isFolder other.dropLast = true := by
  fun_induction followFrom? t place parts with
  | case1 place => exact Option.some.inj h ▸ hPlace
  | case2 | case4 | case7 => cases h
  | case3 place part rest hFolder hStay ih => exact ih hPlace h
  -- a step back leads from a folder to the one around it
  | case5 part rest place hFolder hStay hBack hRoot ih =>
      exact ih (isFolder_around hPlace (List.dropLast_prefix _)) h
  | case6 place part rest hFolder hStay hBack hName ih =>
      refine ih ?_ h
      rw [List.dropLast_concat]
      simpa using hFolder

theorem isFolder_dropLast_of_follow? {path : String} (h : t.follow? path = some place) :
    t.isFolder place.dropLast = true := by
  unfold follow? at h
  split at h
  · exact isFolder_dropLast_of_followFrom? rfl h
  · cases h

/-- A file in a folder has its place there, under its own name. -/
theorem follow?_inFolder (t : FileTree) (folder : String) : ∃ place? : Option Place, ∀ name, IsFileName name →
    t.follow? (inFolder folder name) =
      place?.bind fun place => if t.isFolder place && isName name then some (place ++ [name]) else none := by
  obtain ⟨around, hParts, -⟩ := exists_pathParts_inFolder folder
  -- whether the path starts in the root, and where the folder is, is known without the name
  refine ⟨if folder.toList.head? != some '/' then t.followFrom? [] around else none, fun name hName => ?_⟩
  have hRelative : isRelative (inFolder folder name) = (folder.toList.head? != some '/') := by
    have hSome : (inFolder folder name != "") = true := by
      refine bne_iff_ne.mpr fun hEmpty => hName.ne_empty ?_
      have hList := toList_inFolder folder hName.no_slash
      rw [hEmpty] at hList
      exact String.toList_inj.mp (List.append_eq_nil_iff.mp hList.symm).2
    rw [isRelative, hSome, Bool.true_and, Bool.eq_iff_iff, bne_iff_ne, bne_iff_ne]
    exact not_congr (head?_inFolder_iff folder hName.no_slash)
  have hStep (place : Place) :
      t.followFrom? place [name] = if t.isFolder place && isName name then some (place ++ [name]) else none := by
    simp only [followFrom?, beq_iff_eq, Bool.or_eq_true, hName.ne_empty, hName.ne_dot, hName.ne_dots, or_self, if_false]
    cases t.isFolder place with
    | false => rfl
    | true => rfl
  rw [follow?, hRelative, hParts name hName.no_slash]
  split
  · rw [followFrom?_append]
    simp only [hStep]
  · rfl

/-- Two files in a folder do not share a place. -/
theorem eq_of_follow?_inFolder {folder name name' : String} (hName : IsFileName name) (hName' : IsFileName name')
    (h : t.follow? (inFolder folder name) = some place) (h' : t.follow? (inFolder folder name') = some place) :
    name = name' := by
  obtain ⟨place?, hFollow⟩ := follow?_inFolder t folder
  rw [hFollow name hName] at h
  rw [hFollow name' hName'] at h'
  cases place? with
  | none => cases h
  | some around =>
      simp only [Option.bind_some, Option.ite_none_right_eq_some, Option.some.injEq] at h h'
      simpa using h.2.trans h'.2.symm

/-! ## Texts -/

theorem textAt?_putText_self (t : FileTree) (place : Place) (text : String) :
    (t.putText place text).textAt? place = some text := by
  have hNone : (t.files.filter (·.1 != place)).find? (·.1 == place) = none := by
    refine List.find?_eq_none.mpr fun f hf => ?_
    simpa using (List.mem_filter.mp hf).2
  unfold textAt? putText
  rw [List.find?_append, hNone, Option.none_or, List.find?_singleton, if_pos (beq_self_eq_true place)]
  rfl

theorem textAt?_putText_of_ne (t : FileTree) (h : other ≠ place) (text : String) :
    (t.putText place text).textAt? other = t.textAt? other := by
  have hLast : [(place, text)].find? (·.1 == other) = none := by
    simpa using h.symm
  have hPass : (t.files.filter (·.1 != place)).find? (·.1 == other) = t.files.find? (·.1 == other) := by
    rw [List.find?_filter]
    congr 1
    funext f
    by_cases hFile : f.1 = other
    · simp [hFile, h]
    · simp [hFile]
  unfold textAt? putText
  rw [List.find?_append, hPass, hLast, Option.or_none]

/-! ## Writing -/

/-- The place where a file is written under a path, if it can be. -/
def fileAt? (t : FileTree) (path : String) : Option Place :=
  (t.follow? path).bind fun place => if t.isFolder place then none else some place

theorem follow?_of_fileAt? {path : String} (h : t.fileAt? path = some place) : t.follow? path = some place := by
  obtain ⟨other, hFollow, hFile⟩ := Option.bind_eq_some_iff.mp h
  split at hFile
  · cases hFile
  · rwa [← Option.some.inj hFile]

theorem fileAt?_congr (h : ∀ place, u.isFolder place = t.isFolder place) (path : String) :
    u.fileAt? path = t.fileAt? path := by
  simp only [fileAt?, follow?_congr h, h]

theorem writeFile?_eq (t : FileTree) (path text : String) :
    t.writeFile? path text = (t.fileAt? path).map fun place => t.putText place text := by
  unfold writeFile? fileAt?
  cases t.follow? path with
  | none => rfl
  | some place =>
      simp only [Option.bind_eq_bind, Option.bind_some]
      split
      · rfl
      · rfl

/-- The tree after a file was written, if it could be. -/
def written (t : FileTree) (path text : String) : FileTree := (t.writeFile? path text).getD t

theorem isFolder_written (t : FileTree) (path text : String) (place : Place) :
    (t.written path text).isFolder place = t.isFolder place := by
  rw [written, writeFile?_eq]
  cases hFile : t.fileAt? path with
  | none => rfl
  | some other => exact isFolder_putText (isFolder_dropLast_of_follow? (follow?_of_fileAt? hFile)) text place

/-- The tree after some files were written. -/
def afterWriting (t : FileTree) (files : List (String × String)) : FileTree :=
  ((storage.writeFiles files).run t).2

theorem run_attempt (change? : FileTree → Option FileTree) (t : FileTree) :
    (attempt change?).run t = ((change? t).isSome, (change? t).getD t) := by
  simp only [attempt, StateT.run_bind, StateT.run_get, pure_bind]
  cases change? t with
  | none => rfl
  | some u => rfl

theorem afterWriting_cons (t : FileTree) (path text : String) (files : List (String × String)) :
    t.afterWriting ((path, text) :: files) = (t.written path text).afterWriting files := by
  have hWrite : (storage.writeFile path text).run t = ((t.writeFile? path text).isSome, t.written path text) :=
    run_attempt (·.writeFile? path text) t
  unfold afterWriting
  rw [Storage.writeFiles, StateT.run_bind, hWrite]
  rfl

theorem isFolder_afterWriting (t : FileTree) (files : List (String × String)) (place : Place) :
    (t.afterWriting files).isFolder place = t.isFolder place := by
  induction files generalizing t with
  | nil => rfl
  | cons f files ih => rw [afterWriting_cons, ih, isFolder_written]

theorem follow?_afterWriting (t : FileTree) (files : List (String × String)) (path : String) :
    (t.afterWriting files).follow? path = t.follow? path :=
  follow?_congr (isFolder_afterWriting t files) path

/-- The last of some texts that is written to a place. -/
def lastText? (t : FileTree) (files : List (String × String)) (place : Place) : Option String :=
  (files.reverse.find? fun f => t.fileAt? f.1 == some place).map Prod.snd

/-- **The last text stays.**  In every place stands the last text that was written there, or what was there
before. -/
theorem textAt?_afterWriting (t : FileTree) (files : List (String × String)) (place : Place) :
    (t.afterWriting files).textAt? place = (t.lastText? files place).or (t.textAt? place) := by
  induction files generalizing t with
  | nil => rfl
  | cons f files ih =>
      obtain ⟨path, text⟩ := f
      have hSame : (t.written path text).lastText? files place = t.lastText? files place := by
        simp only [lastText?, fileAt?_congr (isFolder_written t path text)]
      have hHere : (t.written path text).textAt? place =
          if t.fileAt? path == some place then some text else t.textAt? place := by
        rw [written, writeFile?_eq]
        cases hFile : t.fileAt? path with
        | none => rfl
        | some other =>
            by_cases hOther : other = place
            · subst hOther
              simp [textAt?_putText_self]
            · simp [textAt?_putText_of_ne t (Ne.symm hOther), hOther]
      rw [afterWriting_cons, ih, hSame, hHere]
      unfold lastText?
      rw [List.reverse_cons, List.find?_append]
      cases files.reverse.find? fun f => t.fileAt? f.1 == some place with
      | some f => rfl
      | none =>
          simp only [Option.map_none, Option.none_or, List.find?_singleton]
          split
          · rfl
          · rfl

theorem lastText?_append_cons {before after : List (String × String)} {path text : String}
    (hPath : t.fileAt? path = some place) (hAfter : ∀ f ∈ after, t.fileAt? f.1 ≠ some place) :
    t.lastText? (before ++ (path, text) :: after) place = some text := by
  have hNone : after.reverse.find? (fun f => t.fileAt? f.1 == some place) = none :=
    List.find?_eq_none.mpr fun f hf => by simpa using hAfter f (List.mem_reverse.mp hf)
  have hHere : (t.fileAt? path == some place) = true := beq_iff_eq.mpr hPath
  rw [lastText?, List.reverse_append, List.reverse_cons, List.append_assoc, List.find?_append, hNone, Option.none_or,
    List.singleton_append, List.find?_cons, hHere]
  rfl

theorem readFile?_afterWriting_last {before after : List (String × String)} {path text : String}
    (hPath : t.fileAt? path = some place) (hAfter : ∀ f ∈ after, t.fileAt? f.1 ≠ some place) :
    (t.afterWriting (before ++ (path, text) :: after)).readFile? path = some text := by
  rw [readFile?, follow?_afterWriting, follow?_of_fileAt? hPath, Option.bind_some, textAt?_afterWriting,
    lastText?_append_cons hPath hAfter, Option.some_or]

/-- What no file was written over stays as it is. -/
theorem readFile?_afterWriting_of_ne {files : List (String × String)} {path : String}
    (h : ∀ f ∈ files, t.follow? f.1 ≠ t.follow? path) : (t.afterWriting files).readFile? path = t.readFile? path := by
  rw [readFile?, readFile?, follow?_afterWriting]
  cases hFollow : t.follow? path with
  | none => rfl
  | some place =>
      have hNone : files.reverse.find? (fun f => t.fileAt? f.1 == some place) = none := by
        refine List.find?_eq_none.mpr fun f hf hSame => h f (List.mem_reverse.mp hf) ?_
        rw [follow?_of_fileAt? (beq_iff_eq.mp hSame), hFollow]
      rw [Option.bind_some, Option.bind_some, textAt?_afterWriting, lastText?, hNone, Option.map_none, Option.none_or]

end FileTree

end CatalogGraph.Batch
