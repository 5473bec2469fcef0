import CatalogGraph.Text.Lowercase

/-!
# No capitals in lower case

No text has an ASCII capital left in its lower case (`noCapital_lowercaseAfter`).  For ASCII letters this is computed,
and for all other characters it is read off the table: none of its values is a capital
(`noCapital_of_find?_lowercaseMap`).  The table is written as text, so this is a fact about the lines of that text,
which the reader of tables keeps (`noCapital_of_mem_readEntries`).

Capitals outside of ASCII may be left: some have no lower case of their own.
-/

namespace CatalogGraph

namespace Text

/-- No character is an ASCII capital. -/
def NoCapital (cs : List Char) : Prop :=
  ∀ c ∈ cs, c.isUpper = false

namespace NoCapital

variable {c : Char} {cs ds : List Char}

theorem nil : NoCapital [] := List.forall_mem_nil _

theorem cons (hc : c.isUpper = false) (hcs : NoCapital cs) : NoCapital (c :: cs) :=
  List.forall_mem_cons.mpr ⟨hc, hcs⟩

theorem append (hcs : NoCapital cs) (hds : NoCapital ds) : NoCapital (cs ++ ds) :=
  List.forall_mem_append.mpr ⟨hcs, hds⟩

theorem reverse (h : NoCapital cs) : NoCapital cs.reverse :=
  fun c hc => h c (List.mem_reverse.mp hc)

theorem filter (p : Char → Bool) (h : NoCapital cs) : NoCapital (cs.filter p) :=
  fun c hc => h c (List.mem_filter.mp hc).1

end NoCapital

end Text

namespace Unicode

open Text

/-! ## The text of a table -/

/-- Whether the rest of the text of a mapping writes no ASCII capital; `value` is the number read so far. -/
def writesNoCapital : Nat → List Char → Bool
  | value, [] => !(Char.ofNat value).isUpper
  | value, ' ' :: cs => !(Char.ofNat value).isUpper && writesNoCapital 0 cs
  | _, '>' :: cs => writesNoCapital 0 cs
  | value, '.' :: cs => !(Char.ofNat value).isUpper && writesNoCapital 0 cs
  | value, c :: cs => writesNoCapital (16 * value + hexDigit c) cs

/-- Behind a blank the text is read on its own. -/
theorem writesNoCapital_append_blank (value : Nat) (cs more : List Char) :
    writesNoCapital value (cs ++ ' ' :: more) = (writesNoCapital value cs && writesNoCapital 0 more) := by
  fun_induction writesNoCapital value cs with
  | case1 value => rw [List.nil_append, writesNoCapital]
  | case2 value cs ih => rw [List.cons_append, writesNoCapital, ih, Bool.and_assoc]
  | case3 value cs ih => rw [List.cons_append, writesNoCapital, ih]
  | case4 value cs ih => rw [List.cons_append, writesNoCapital, ih, Bool.and_assoc]
  | case5 value c cs hBlank hKey hDot ih =>
      rw [List.cons_append, writesNoCapital, ih]
      · exact hBlank
      · exact hKey
      · exact hDot

/-- The values of some entries hold no capital. -/
def NoCapitalIn (entries : Array (Nat × List Char)) : Prop :=
  ∀ entry ∈ entries, NoCapital entry.2

theorem NoCapitalIn.push {entries : Array (Nat × List Char)} {value : Nat} {values : List Char}
    (hEntries : NoCapitalIn entries) (hValue : (Char.ofNat value).isUpper = false) (hValues : NoCapital values)
    (key : Nat) : NoCapitalIn (entries.push (key, (Char.ofNat value :: values).reverse)) := by
  intro entry hEntry
  rcases Array.mem_push.mp hEntry with hOld | rfl
  · exact hEntries entry hOld
  · exact (hValues.cons hValue).reverse

/-- A mapping holds no capitals among its values if its text writes none. -/
theorem noCapital_of_mem_readEntries {cs : List Char} {key value : Nat} {values : List Char}
    {acc : Array (Nat × List Char)} (hText : writesNoCapital value cs = true) (hValues : NoCapital values)
    (hAcc : NoCapitalIn acc) : NoCapitalIn (CodeMap.readEntries cs key value values acc) := by
  fun_induction CodeMap.readEntries cs key value values acc with
  | case1 key value values acc =>
      exact hAcc.push (by simpa [writesNoCapital] using hText) hValues key
  | case2 cs key value values acc ih =>
      rw [writesNoCapital, Bool.and_eq_true, Bool.not_eq_true'] at hText
      exact ih hText.2 .nil (hAcc.push hText.1 hValues key)
  | case3 cs key value values acc ih => exact ih (by rwa [writesNoCapital] at hText) hValues hAcc
  | case4 cs key value values acc ih =>
      rw [writesNoCapital, Bool.and_eq_true, Bool.not_eq_true'] at hText
      exact ih hText.2 (hValues.cons hText.1) hAcc
  | case5 c cs key value values acc hBlank hKey hDot ih =>
      rw [writesNoCapital] at hText
      · exact ih hText hValues hAcc
      · exact hBlank
      · exact hKey
      · exact hDot

theorem noCapitalIn_ofText {text : String} (h : writesNoCapital 0 (flatten text) = true) :
    NoCapitalIn (CodeMap.ofText text).entries := by
  have hNone : NoCapitalIn #[] := fun entry hEntry => absurd hEntry (Array.not_mem_empty entry)
  exact noCapital_of_mem_readEntries h .nil hNone

theorem flatten_append (s t : String) : flatten (s ++ t) = flatten s ++ flatten t := by
  rw [flatten, String.toList_append, List.map_append, flatten, flatten]

/-- Lines that write no capital write none together. -/
theorem writesNoCapital_intercalate {lines : List String}
    (h : ∀ line ∈ lines, writesNoCapital 0 (flatten line) = true) :
    writesNoCapital 0 (flatten ("\n".intercalate lines)) = true := by
  have hBreak : flatten "\n" = [' '] := by decide
  induction lines with
  | nil => decide
  | cons line lines ih =>
      obtain ⟨hLine, hLines⟩ := List.forall_mem_cons.mp h
      cases lines with
      | nil => rwa [String.intercalate_singleton]
      | cons next lines =>
          rw [String.intercalate_cons_cons, flatten_append, flatten_append, hBreak, List.append_assoc,
            List.singleton_append, writesNoCapital_append_blank, hLine, ih hLines, Bool.and_true]

/-! ## The table of lower-case letters -/

/-- A line is read character by character. -/
theorem writesNoCapital_cons_line {cs : List Char} {lines : List String}
    (h : writesNoCapital 0 (cs.map fun c => if c = '\n' then ' ' else c) = true)
    (hLines : ∀ line ∈ lines, writesNoCapital 0 (flatten line) = true) :
    ∀ line ∈ String.ofList cs :: lines, writesNoCapital 0 (flatten line) = true :=
  List.forall_mem_cons.mpr ⟨by rwa [flatten, String.toList_ofList], hLines⟩

/-- No line of the table writes a capital. -/
theorem writesNoCapital_of_mem_lowercaseLines :
    ∀ line ∈ lowercaseLines, writesNoCapital 0 (flatten line) = true := by
  unfold lowercaseLines
  -- the characters of each line are taken from its text as it stands, none is decoded
  repeat' refine writesNoCapital_cons_line ?_ ?_
  all_goals decide +kernel

theorem mem_of_halve {α : Type} {entries : Array α} {side : α → Ordering} {lo hi : Nat} {entry : α}
    (h : halve entries side lo hi = some entry) : entry ∈ entries := by
  fun_induction halve entries side lo hi with
  | case1 => cases h
  | case2 lo hi hLess middle hMiddle hSide ih => exact ih h
  | case3 lo hi hLess middle hMiddle hSide =>
      obtain rfl := Option.some.inj h
      exact Array.mem_of_getElem? hMiddle
  | case4 lo hi hLess middle hMiddle hSide ih => exact ih h
  | case5 => cases h

/-- What a mapping finds is one of its values. -/
theorem CodeMap.exists_of_find? {m : CodeMap} {c : Char} {cs : List Char} (h : m.find? c = some cs) :
    ∃ entry ∈ m.entries, entry.2 = cs := by
  obtain ⟨entry, hEntry, rfl⟩ := Option.map_eq_some_iff.mp h
  exact ⟨entry, mem_of_halve hEntry, rfl⟩

end Unicode

namespace Text

open Unicode

/-- No lower case in the table holds a capital. -/
theorem noCapital_of_find?_lowercaseMap {c : Char} {cs : List Char} (h : lowercaseMap.find? c = some cs) :
    NoCapital cs := by
  have hEntries : NoCapitalIn lowercaseMap.entries :=
    noCapitalIn_ofText (writesNoCapital_intercalate writesNoCapital_of_mem_lowercaseLines)
  obtain ⟨entry, hEntry, rfl⟩ := CodeMap.exists_of_find? h
  exact hEntries entry hEntry

/-- Whatever stands around a character, its lower case holds no capital. -/
theorem noCapital_lowerChar (before : List Char) (c : Char) (after : List Char) :
    NoCapital (lowerChar before c after) := by
  unfold lowerChar
  split
  · exact .cons (isUpper_lowerAscii c) .nil
  · next hNotAscii =>
      split
      · split
        · exact .cons (by decide) .nil
        · exact .cons (by decide) .nil
      · cases hFound : lowercaseMap.find? c with
        | none => exact .cons (isUpper_of_not_ascii hNotAscii) .nil
        | some cs => exact noCapital_of_find?_lowercaseMap hFound

/-- No text has a capital left in its lower case. -/
theorem noCapital_lowercaseAfter (before cs : List Char) : NoCapital (lowercaseAfter before cs) := by
  induction cs generalizing before with
  | nil => exact .nil
  | cons c cs ih => exact (noCapital_lowerChar before c cs).append (ih (c :: before))

end Text

end CatalogGraph
