import CatalogGraph.Batch.Storage

/-!
# File trees

Files and folders under one root.  A path leads from the root through folders, which must be there; a part
that is empty or a single full stop stays where it is, and two full stops lead back to the folder around.
No path leads out of the tree.
-/

namespace CatalogGraph.Batch

/-- A path that has been followed: names from the root on. -/
abbrev Place := List String

/-- Files and folders.  A folder that holds something need not be listed. -/
structure FileTree where
  files : List (Place × String) := []
  folders : List Place := []
  deriving DecidableEq, Repr

namespace FileTree

/-- Whether something lies in a place. -/
def holds (t : FileTree) (place : Place) : Bool :=
  let inside (other : Place) := place.isPrefixOf other && place.length < other.length
  t.files.any (fun f => inside f.1) || t.folders.any inside

/-- Whether a place is a folder. -/
def isFolder (t : FileTree) (place : Place) : Bool :=
  place.isEmpty || t.folders.contains place || t.holds place

/-- The text of the file in a place. -/
def textAt? (t : FileTree) (place : Place) : Option String :=
  (t.files.find? (·.1 == place)).map (·.2)

/-- The greatest size of a name, in octets. -/
def maxNameSize : Nat := 255

/-- Whether something may have a name. -/
def isName (name : String) : Bool := name.utf8ByteSize ≤ maxNameSize && !name.toList.contains '\x00'

/-- The place that the rest of a path leads to. -/
def followFrom? (t : FileTree) (place : Place) : List String → Option Place
  | [] => some place
  | part :: rest =>
    if !t.isFolder place then none
    else if part == "" || part == "." then t.followFrom? place rest
    else if part == ".." then
      if place.isEmpty then none else t.followFrom? place.dropLast rest
    else if isName part then t.followFrom? (place ++ [part]) rest
    else none

/-- Whether a path starts in the root of the tree. -/
def isRelative (path : String) : Bool := path != "" && path.toList.head? != some '/'

/-- The place that a path leads to; the last part of it need not be there. -/
def follow? (t : FileTree) (path : String) : Option Place :=
  if isRelative path then t.followFrom? [] (pathParts path) else none

/-- The text of a file. -/
def readFile? (t : FileTree) (path : String) : Option String :=
  (t.follow? path).bind t.textAt?

/-- The names of what is in a folder. -/
def namesIn? (t : FileTree) (path : String) : Option (List String) := do
  let place ← t.follow? path
  if t.isFolder place then
    let places := t.files.map (·.1) ++ t.folders
    let names := places.filterMap fun other =>
      if place.isPrefixOf other then (other.drop place.length).head? else none
    some names.eraseDups
  else none

/-- The tree with a folder and the folders around it. -/
def makeFolderFrom? (t : FileTree) (place : Place) : List String → Option FileTree
  | [] => some t
  | part :: rest =>
    if part == "" || part == "." then t.makeFolderFrom? place rest
    else if part == ".." then
      if place.isEmpty then none else t.makeFolderFrom? place.dropLast rest
    else
      let inner := place ++ [part]
      if (t.textAt? inner).isSome || !isName part then none
      else if t.isFolder inner then t.makeFolderFrom? inner rest
      else { t with folders := t.folders ++ [inner] }.makeFolderFrom? inner rest

/-- The tree with a folder. -/
def makeFolder? (t : FileTree) (path : String) : Option FileTree :=
  if isRelative path then t.makeFolderFrom? [] (pathParts path) else none

/-- The tree with a text in a place. -/
def putText (t : FileTree) (place : Place) (text : String) : FileTree :=
  { t with files := t.files.filter (·.1 != place) ++ [(place, text)] }

/-- The tree after a file was written. -/
def writeFile? (t : FileTree) (path text : String) : Option FileTree := do
  let place ← t.follow? path
  if t.isFolder place then none else some (t.putText place text)

/-- The tree of some files, given with their paths. -/
def ofFiles (files : List (String × String)) : FileTree :=
  files.foldl (fun t f => t.putText (pathParts f.1) f.2) {}

/-- The files that are not in an earlier tree as they are now, by path. -/
def changesSince (t earlier : FileTree) : List (String × String) :=
  let changed := t.files.filter fun f => earlier.textAt? f.1 != some f.2
  (changed.map fun f => ("/".intercalate f.1, f.2)).mergeSort fun a b => a.1 ≤ b.1

/-- Something that may change the tree, and whether it was done. -/
def attempt (change? : FileTree → Option FileTree) : StateM FileTree Bool := do
  match change? (← get) with
  | some t =>
    set t
    pure true
  | none => pure false

/-- File trees as storage. -/
def storage : Storage (StateM FileTree) where
  readFile? path := do pure ((← get).readFile? path)
  namesIn? path := do pure ((← get).namesIn? path)
  makeFolder path := attempt (·.makeFolder? path)
  writeFile path text := attempt (·.writeFile? path text)

end FileTree

end CatalogGraph.Batch
