import CatalogGraph.Unicode.CodeTable
import CatalogGraph.Unicode.UppercaseRows

/-!
# Upper case

The full upper-case mapping: each character has an upper case that depends on it alone, which for some characters is
two or three characters long (`ß` becomes `SS`).
-/

namespace CatalogGraph.Text

open CatalogGraph.Unicode

/-- The upper case of characters, ASCII apart. -/
def uppercaseMap : CodeMap := CodeMap.ofText uppercaseText

/-- The upper case of a small ASCII letter; any other character stays. -/
def upperAscii (c : Char) : Char :=
  if 'a' ≤ c ∧ c ≤ 'z' then Char.ofNat (c.toNat - 32) else c

/-- The upper case of one character. -/
def upperChar (c : Char) : List Char :=
  if c.toNat < 0x80 then [upperAscii c] else (uppercaseMap.find? c).getD [c]

/-- The upper case of a text. -/
def uppercase (s : String) : String :=
  String.ofList (s.toList.flatMap upperChar)

/-- Of ASCII characters, the upper case is that of each small letter. -/
theorem flatMap_upperChar_of_ascii {cs : List Char} (h : ∀ c ∈ cs, c.toNat < 0x80) :
    cs.flatMap upperChar = cs.map upperAscii := by
  induction cs with
  | nil => rfl
  | cons c rest ih =>
      obtain ⟨hc, hRest⟩ := List.forall_mem_cons.mp h
      rw [List.flatMap_cons, ih hRest, upperChar, if_pos hc]
      rfl

end CatalogGraph.Text
