import CatalogGraph.Text.White
import CatalogGraph.Unicode.Property

/-!
# Documents without namespaces

MARCXML comes with a default namespace, with a label on every element, or with neither.  Before such a
document is read, its declarations of namespaces and the labels of its tags are taken out of the text.
This looks at nothing but the characters, so what has the same form in content is taken out as well.
-/

namespace CatalogGraph.Marc

open CatalogGraph.Text CatalogGraph.Unicode

/-- Characters after a text they start with. -/
def dropText? (text cs : List Char) : Option (List Char) :=
  if text.isPrefixOf cs then some (cs.drop text.length) else none

theorem dropText?_eq_some_iff {text cs rest : List Char} :
    dropText? text cs = some rest ↔ cs = text ++ rest := by
  unfold dropText?
  constructor
  · intro h
    split at h
    · next hStart =>
        obtain ⟨tail, rfl⟩ := List.isPrefixOf_iff_prefix.mp hStart
        rw [List.drop_left, Option.some.injEq] at h
        rw [h]
    · exact absurd h (by simp)
  · rintro rfl
    rw [if_pos (List.isPrefixOf_iff_prefix.mpr (List.prefix_append text rest)), List.drop_left]

/-- What is after a label of a namespace and its colon, or the characters themselves if there is no
colon. -/
def afterLabel? : List Char → Option (List Char)
  | ':' :: cs =>
    match cs.takeWhile isWord with
    | [] => none
    | label => some (cs.drop label.length)
  | cs => some cs

/-- What is after the declaration of a namespace that the characters start with: its name, an equals sign
and a value in double quotes. -/
def afterDeclaration? (cs : List Char) : Option (List Char) := do
  let cs ← dropText? "xmlns".toList cs
  let cs ← afterLabel? cs
  let cs ← dropText? "=\"".toList cs
  match cs.dropWhile (· != '"') with
  | _ :: rest => some rest
  | [] => none

/-- A text without declarations of namespaces and the white space before each.  Every round takes a
character at least. -/
def dropDeclarationsIn : Nat → List Char → List Char
  | _, [] => []
  | 0, c :: cs => c :: cs
  | rounds + 1, c :: cs =>
    if isWhite c then
      match afterDeclaration? (cs.dropWhile isWhite) with
      | some rest => dropDeclarationsIn rounds rest
      | none => c :: cs.takeWhile isWhite ++ dropDeclarationsIn rounds (cs.dropWhile isWhite)
    else c :: dropDeclarationsIn rounds cs

/-- A text without declarations of namespaces. -/
def dropDeclarations (cs : List Char) : List Char := dropDeclarationsIn cs.length cs

/-- What is after the label at the start of a name, if there is one. -/
def withoutLabel (cs : List Char) : List Char :=
  match cs.takeWhile isWord with
  | [] => cs
  | label =>
    match cs.drop label.length with
    | ':' :: rest => rest
    | _ => cs

/-- A text without the labels of tags.  Every round takes a character at least. -/
def dropLabelsIn : Nat → List Char → List Char
  | _, [] => []
  | 0, c :: cs => c :: cs
  | rounds + 1, '<' :: '/' :: cs => '<' :: '/' :: dropLabelsIn rounds (withoutLabel cs)
  | rounds + 1, '<' :: cs => '<' :: dropLabelsIn rounds (withoutLabel cs)
  | rounds + 1, c :: cs => c :: dropLabelsIn rounds cs

/-- A text without the labels of tags. -/
def dropLabels (cs : List Char) : List Char := dropLabelsIn cs.length cs

/-- A document without declarations of namespaces and without labels. -/
def withoutNamespaces (cs : List Char) : List Char := dropLabels (dropDeclarations cs)

end CatalogGraph.Marc
