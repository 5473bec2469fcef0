import CatalogGraph.Proofs.RecordFiles

/-!
# The files of records stay in their folder

A path is a way: it may start in the root or where one stands, and goes on by names and by steps up (`wayOf`).  The
parts of a path that are empty or a single full stop are no steps, except that a path may start with a full stop.

The file of a record is named after an identifier, and an identifier is any text: it may be made of full stops, of
slashes or of white space, or there may be none.  In each case the way to the file is the way to the folder and one
name more (`wayOf_inFolder`), for the name has an extension, and no slash of either kind is left in it.
-/

namespace CatalogGraph.Batch

open CatalogGraph.Marc CatalogGraph.Rdf

/-! ## Ways -/

/-- A step of a path. -/
inductive PathStep
  | root
  /-- Where one stands.  This is only told at the start of a path. -/
  | here
  | up
  | down (name : String)
  deriving DecidableEq, Repr

/-- The step that a part of a path is, if it is one. -/
def stepOf? (part : String) : Option PathStep :=
  if part = "" ∨ part = "." then none
  else if part = ".." then some .up
  else some (.down part)

/-- Where a path starts, if it tells. -/
def startOf? (path : String) : Option PathStep :=
  if path.toList.head? = some '/' then some .root
  else if (pathParts path).head? = some "." then some .here
  else none

/-- The steps of a path. -/
def wayOf (path : String) : List PathStep :=
  (startOf? path).toList ++ (pathParts path).filterMap stepOf?

theorem stepOf?_of_isFileName {name : String} (h : IsFileName name) : stepOf? name = some (.down name) := by
  rw [stepOf?, if_neg (not_or.mpr ⟨h.ne_empty, h.ne_dot⟩), if_neg h.ne_dots]

/-- The way to a file in a folder is the way to the folder and the name. -/
theorem wayOf_inFolder (folder : String) {name : String} (h : IsFileName name) :
    wayOf (inFolder folder name) = wayOf folder ++ [.down name] := by
  obtain ⟨around, hParts, hFolder⟩ := exists_pathParts_inFolder folder
  have hStart : startOf? (inFolder folder name) = startOf? folder := by
    have hFirst : (pathParts (inFolder folder name)).head? = some "." ↔ (pathParts folder).head? = some "." := by
      rw [hParts name h.no_slash]
      cases around with
      | nil =>
          obtain hEmpty : pathParts folder = [""] := hFolder.resolve_left fun hSome => hSome.2 rfl
          rw [hEmpty]
          exact iff_of_false (fun hDot => h.ne_dot (Option.some.inj hDot)) (by decide)
      | cons first rest =>
          rcases hFolder with ⟨hSame, -⟩ | hMore
          · rw [hSame]; rfl
          · rw [hMore]; rfl
    simp only [startOf?, head?_inFolder_iff folder h.no_slash, hFirst]
  have hSteps : (pathParts folder).filterMap stepOf? = around.filterMap stepOf? := by
    rcases hFolder with ⟨hSame, -⟩ | hMore
    · rw [hSame]
    · rw [hMore, List.filterMap_append]
      exact List.append_nil _
  have hLast : [name].filterMap stepOf? = [.down name] := List.filterMap_cons_some (stepOf?_of_isFileName h)
  rw [wayOf, wayOf, hStart, hSteps, hParts name h.no_slash, List.filterMap_append, hLast, List.append_assoc]

/-- Joining a folder and a name writes the name behind the folder. -/
theorem inFolder_eq_or (folder : String) {name : String} (h : IsFileName name) :
    inFolder folder name = folder ++ name ∨ inFolder folder name = folder ++ "/" ++ name := by
  have hRelative : ¬name.toList.head? = some '/' := fun hHead => h.no_slash (List.mem_of_mem_head? hHead)
  rw [inFolder, if_neg hRelative]
  split
  · exact Or.inl rfl
  · exact Or.inr rfl

/-- **The file of a record stays in its folder.**  Whatever the folder, the record and the format, the path of the
file is the path of the folder with a name behind it, and the way to the file is the way to the folder and a single
step down by that name.  The name is not empty and is not one or two full stops.  It has no slash and
no backslash, and it ends with a full stop and the extension of the format. -/
theorem outputPath_stays_in_folder (folder : String) (r : Record) (format : Format) :
    ∃ name : String,
      (outputPath folder r format = folder ++ name ∨ outputPath folder r format = folder ++ "/" ++ name) ∧
      wayOf (outputPath folder r format) = wayOf folder ++ [.down name] ∧
      name ≠ "" ∧ name ≠ "." ∧ name ≠ ".." ∧ '/' ∉ name.toList ∧ '\\' ∉ name.toList ∧
      ∃ stem, name = stem ++ "." ++ format.extension := by
  have hName := isFileName_recordFileName r format
  exact ⟨recordFileName r format, inFolder_eq_or folder hName, wayOf_inFolder folder hName, hName.ne_empty,
    hName.ne_dot, hName.ne_dots, hName.no_slash, fun hMem => (ne_slash_of_mem_recordFileName hMem).2 rfl, _, rfl⟩

/-- Identifiers that could lead elsewhere, or nowhere: from the root, up, and of white space. -/
example : ["/etc/passwd", "..", " \t"].map (fun identifier =>
    outputPath "out/" (.ofFields [.control ⟨"001", identifier⟩]) .nTriples) =
      ["out/_etc_passwd.nt", "out/...nt", "out/unidentified.nt"] := by decide +kernel

end CatalogGraph.Batch
