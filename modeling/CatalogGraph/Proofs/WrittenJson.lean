import CatalogGraph.Json.Reader
import CatalogGraph.Text.Characters
import Mathlib.Tactic.IntervalCases

/-!
# Written JSON is read back

The reader goes on from a point of a document (`Reading`) with the characters that are left (`readOn?`).

* `exists_units_flatMap_escapeChar` — a string is read back as the text it was written for, whatever characters
  are in it;
* `tokensIn?_of_le` — as many rounds as there are characters are enough, since what is after a token is never
  longer than what is after its first character (`length_le_of_readToken?`);
* `leadsOn_of_ofStrings` — wherever a value may stand, the characters of a value made of strings lead to the
  point at which this value is complete; a document of it is read as the value (`read?_render`).

Records are made of strings (`OfStrings`): nothing is said about the numbers that a reader accepts.
-/

namespace CatalogGraph.Json

open Text

/-! ## Strings -/

theorem hexValue?_hexSmall {n : Nat} (h : n < 16) : hexValue? (hexSmall n) = some n := by
  interval_cases n <;> decide

/-- A code unit that is not half of a character stands for a character by itself. -/
theorem unitsText?_code {n : Nat} (h : n < 0xD800) (units : List StringUnit) :
    unitsText? (.code n :: units) = (unitsText? units).map (Char.ofNat n :: ·) := by
  have hWhole : ¬(0xD800 ≤ n ∧ n < 0xDC00) ∧ ¬(0xDC00 ≤ n ∧ n < 0xE000) ∧ ¬(0xD800 ≤ n ∧ n < 0xE000) := by
    omega
  obtain ⟨hFirst, hSecond, hHalf⟩ := hWhole
  match units with
  | [] => simp only [unitsText?, if_neg hHalf]
  | .char _ :: _ => simp only [unitsText?, if_neg hHalf]
  | .code _ :: _ => simp only [unitsText?, if_neg hFirst, if_neg hSecond]

/-- A control character without a short escape is written as its code unit. -/
theorem readUnits?_code {n : Nat} (h : n < 0x20) (rest : List Char) :
    readUnits? ('\\' :: 'u' :: '0' :: '0' :: hexSmall (n / 16) :: hexSmall (n % 16) :: rest) =
      (readUnits? rest).map fun p => (.code n :: p.1, p.2) := by
  have hZero : hexValue? '0' = some 0 := by decide
  have hSum : 0 * 4096 + 0 * 256 + n / 16 * 16 + n % 16 = n := by omega
  rw [readUnits?, hZero, hexValue?_hexSmall (by omega), hexValue?_hexSmall (by omega)]
  simp only [Option.bind_eq_bind, Option.bind_some, hSum, Option.map_eq_bind, Function.comp_def]

theorem readUnits?_short {e c : Char} (h : shortEscape? e = some c) (hCode : e ≠ 'u') (rest : List Char) :
    readUnits? ('\\' :: e :: rest) = (readUnits? rest).map fun p => (.char c :: p.1, p.2) := by
  rw [readUnits?]
  · simp only [h, Option.bind_eq_bind, Option.bind_some, Option.map_eq_bind, Function.comp_def]
  · exact fun _ _ _ _ _ hSame _ => hCode hSame

theorem readUnits?_plain {c : Char} (hQuote : c ≠ '"') (hBackslash : c ≠ '\\') (hControl : ¬c.toNat < 0x20)
    (rest : List Char) :
    readUnits? (c :: rest) = (readUnits? rest).map fun p => (.char c :: p.1, p.2) := by
  rw [readUnits?]
  · simp only [if_neg hControl, Option.bind_eq_bind, Option.map_eq_bind, Function.comp_def]
  all_goals simp [hQuote, hBackslash]

/-- What a character is written with is read as one unit, and this unit stands for the character. -/
theorem exists_unit_escapeChar (c : Char) :
    ∃ unit, (∀ rest, readUnits? (escapeChar c ++ rest) = (readUnits? rest).map fun p => (unit :: p.1, p.2)) ∧
      ∀ units, unitsText? (unit :: units) = (unitsText? units).map (c :: ·) := by
  have hShort : ∀ e, shortEscape? e = some c → e ≠ 'u' →
      ∃ unit, (∀ rest, readUnits? (['\\', e] ++ rest) = (readUnits? rest).map fun p => (unit :: p.1, p.2)) ∧
        ∀ units, unitsText? (unit :: units) = (unitsText? units).map (c :: ·) :=
    fun e h hCode => ⟨.char c, readUnits?_short h hCode, fun _ => rfl⟩
  unfold escapeChar
  split
  · next h =>
      obtain rfl := eq_of_beq h
      exact hShort '"' rfl (by decide)
  split
  · next h =>
      obtain rfl := eq_of_beq h
      exact hShort '\\' rfl (by decide)
  split
  · next h =>
      obtain rfl : c = '\x08' := Char.toNat_inj.mp (eq_of_beq h)
      exact hShort 'b' rfl (by decide)
  split
  · next h =>
      obtain rfl := eq_of_beq h
      exact hShort 't' rfl (by decide)
  split
  · next h =>
      obtain rfl := eq_of_beq h
      exact hShort 'n' rfl (by decide)
  split
  · next h =>
      obtain rfl : c = '\x0c' := Char.toNat_inj.mp (eq_of_beq h)
      exact hShort 'f' rfl (by decide)
  split
  · next h =>
      obtain rfl := eq_of_beq h
      exact hShort 'r' rfl (by decide)
  split
  · next h =>
      refine ⟨.code c.toNat, readUnits?_code h, fun units => ?_⟩
      rw [unitsText?_code (by omega), Char.ofNat_toNat]
  · next hQuote hBackslash _ _ _ _ _ hControl =>
      refine ⟨.char c, readUnits?_plain ?_ ?_ hControl, fun _ => rfl⟩
      · simpa using hQuote
      · simpa using hBackslash

/-- What is written of a text between quotation marks is read up to the closing mark, and stands for the text. -/
theorem exists_units_flatMap_escapeChar (cs rest : List Char) :
    ∃ units, readUnits? (cs.flatMap escapeChar ++ '"' :: rest) = some (units, rest) ∧
      unitsText? units = some cs := by
  induction cs with
  | nil => exact ⟨[], by simp [readUnits?], rfl⟩
  | cons c cs ih =>
      obtain ⟨unit, hRead, hText⟩ := exists_unit_escapeChar c
      obtain ⟨units, hReadRest, hTextRest⟩ := ih
      refine ⟨unit :: units, ?_, ?_⟩
      · rw [List.flatMap_cons, List.append_assoc, hRead, hReadRest, Option.map_some]
      · rw [hText, hTextRest, Option.map_some]

/-! ## Tokens -/

namespace Numeral

theorem append_of_spanDigits {cs digits rest : List Char} (h : spanDigits cs = (digits, rest)) :
    digits ++ rest = cs := by
  obtain ⟨rfl, rfl⟩ := Prod.mk.inj h
  exact List.takeWhile_append_dropWhile

theorem suffix_of_spanDigits {cs digits rest : List Char} (h : spanDigits cs = (digits, rest)) :
    rest <:+ cs :=
  ⟨digits, append_of_spanDigits h⟩

/-- The whole part of a number has a digit at least. -/
theorem length_lt_of_readWhole? {cs digits rest : List Char} (h : readWhole? cs = some (digits, rest)) :
    rest.length < cs.length := by
  unfold readWhole? at h
  split at h
  · cases h
  · cases h
  · next hDigits _ =>
      have hSpan := Option.some.inj h
      have hSome : digits ≠ [] := fun hNil => hDigits rest (hNil ▸ hSpan)
      rw [← append_of_spanDigits hSpan, List.length_append]
      exact Nat.lt_add_of_pos_left (List.length_pos_iff.mpr hSome)

theorem suffix_of_readFraction? {cs rest : List Char} {fraction : Option (List Char)}
    (h : readFraction? cs = some (fraction, rest)) : rest <:+ cs := by
  unfold readFraction? at h
  split at h
  · split at h
    · cases h
    · next hSpan =>
        cases h
        exact (suffix_of_spanDigits hSpan).trans (List.suffix_cons _ _)
  · cases h
    exact List.suffix_rfl

theorem suffix_of_readPower? {negative : Bool} {cs rest : List Char} {power : Option (Bool × List Char)}
    (h : readPower? negative cs = some (power, rest)) : rest <:+ cs := by
  unfold readPower? at h
  split at h
  · cases h
  · next hSpan =>
      cases h
      exact suffix_of_spanDigits hSpan

theorem suffix_of_readExponent? {cs rest : List Char} {exponent : Option (Bool × List Char)}
    (h : readExponent? cs = some (exponent, rest)) : rest <:+ cs := by
  unfold readExponent? at h
  split at h
  · split at h
    · refine List.IsSuffix.trans ?_ (List.suffix_cons _ _)
      split at h
      · exact (suffix_of_readPower? h).trans (List.suffix_cons _ _)
      · exact (suffix_of_readPower? h).trans (List.suffix_cons _ _)
      · exact suffix_of_readPower? h
    · cases h
      exact List.suffix_rfl
  · cases h
    exact List.suffix_rfl

theorem length_lt_of_read? {cs rest : List Char} {n : Numeral} (h : read? cs = some (n, rest)) :
    rest.length < cs.length := by
  simp only [read?, Option.bind_eq_bind, Option.bind_eq_some_iff, Option.some.injEq, Prod.mk.injEq] at h
  obtain ⟨⟨_, afterWhole⟩, hWhole, ⟨_, afterFraction⟩, hFraction, ⟨_, _⟩, hExponent, -, rfl⟩ := h
  have hSigned : afterWhole.length < cs.length := by
    split at hWhole
    · exact Nat.lt_of_lt_of_le (length_lt_of_readWhole? hWhole) (List.drop_suffix _ _).length_le
    · exact length_lt_of_readWhole? hWhole
  exact Nat.lt_of_le_of_lt
    ((suffix_of_readExponent? hExponent).trans (suffix_of_readFraction? hFraction)).length_le hSigned

end Numeral

theorem length_lt_of_readName? {c : Char} {cs rest : List Char} {value : Json}
    (h : readName? (c :: cs) = some (value, rest)) : rest.length < (c :: cs).length := by
  obtain ⟨name, hName, h⟩ := List.exists_of_findSome?_eq_some h
  split at h
  · cases h
    have hPos : 0 < name.1.length := by
      have hNames : names.all (0 < ·.1.length) = true := by decide
      simpa using List.all_eq_true.mp hNames name hName
    rw [List.length_drop, List.length_cons]
    omega
  · cases h

/-- What is after a token is not longer than what is after its first character. -/
theorem length_le_of_readToken? {c : Char} {cs rest : List Char} {token : Token}
    (h : readToken? c cs = some (token, rest)) : rest.length ≤ cs.length := by
  unfold readToken? at h
  split at h
  · obtain ⟨⟨units, after⟩, hUnits, h⟩ := Option.map_eq_some_iff.mp h
    cases h
    exact Nat.le_of_lt (readUnits?_length hUnits)
  split at h
  · cases h
    exact Nat.le_refl _
  · obtain ⟨⟨value, after⟩, hScalar, h⟩ := Option.map_eq_some_iff.mp h
    cases h
    refine Nat.le_of_lt_succ ?_
    rcases Option.or_eq_some_iff.mp hScalar with hName | ⟨-, h⟩
    · exact length_lt_of_readName? hName
    · obtain ⟨⟨n, after⟩, hNumber, h⟩ := Option.map_eq_some_iff.mp h
      cases h
      exact Numeral.length_lt_of_read? hNumber

/-- As many rounds as there are characters are enough. -/
theorem tokensIn?_of_le {rounds : Nat} {cs : List Char} (h : cs.length ≤ rounds) :
    tokensIn? rounds cs = tokens? cs := by
  refine eq_of_enough_rounds (fun n m => by cases n <;> cases m <;> rfl) ?_ h (Nat.le_refl _)
  intro n m c cs hSame
  rw [tokensIn?, tokensIn?]
  split
  · exact hSame cs (Nat.le_refl _)
  · refine Option.bind_congr ?_
    rintro ⟨token, rest⟩ hToken
    simp only [hSame rest (length_le_of_readToken? hToken)]

theorem tokens?_cons {c : Char} {cs rest : List Char} {token : Token} (hBlank : isBlankChar c = false)
    (h : readToken? c cs = some (token, rest)) : tokens? (c :: cs) = (token :: ·) <$> tokens? rest := by
  rw [tokens?, List.length_cons, tokensIn?, hBlank, if_neg Bool.false_ne_true, h]
  simp only [Option.bind_eq_bind, Option.bind_some, tokensIn?_of_le (length_le_of_readToken? h)]

/-! ## Values -/

/-- A value that is made of strings. -/
inductive OfStrings : Json → Prop
  | string (s : String) : OfStrings (.string s)
  | array {items : List Json} (h : ∀ item ∈ items, OfStrings item) : OfStrings (.array items)
  | object {members : List (String × Json)} (h : ∀ m ∈ members, OfStrings m.2) :
    OfStrings (.object members)

/-- What a document stands for that has been read up to a point and goes on with some characters. -/
def readOn? (r : Reading) (cs : List Char) : Option Json :=
  (tokens? cs).bind fun tokens => (tokens.foldlM Reading.step? r).bind Reading.result?

variable {r next : Reading}

theorem readOn?_cons {c : Char} {cs rest : List Char} {token : Token} (hBlank : isBlankChar c = false)
    (hToken : readToken? c cs = some (token, rest)) (hStep : r.step? token = some next) :
    readOn? r (c :: cs) = readOn? next rest := by
  rw [readOn?, tokens?_cons hBlank hToken, Option.map_eq_map, Option.bind_map]
  simp only [Function.comp_def, List.foldlM_cons, hStep, Option.bind_eq_bind, Option.bind_some]
  rfl

theorem readOn?_punctuation {c : Char} {token : Token} (h : punctuation? c = some token)
    (hStep : r.step? token = some next) (cs : List Char) : readOn? r (c :: cs) = readOn? next cs := by
  have hChar : isBlankChar c = false ∧ (c == '"') = false := by
    unfold punctuation? at h
    split at h
    all_goals first | exact ⟨by decide, by decide⟩ | cases h
  refine readOn?_cons hChar.1 ?_ hStep
  rw [readToken?, hChar.2, if_neg Bool.false_ne_true, h]

theorem readOn?_quotedChars {text : String} (hStep : r.step? (.string (some text)) = some next)
    (rest : List Char) : readOn? r (quotedChars text.toList ++ rest) = readOn? next rest := by
  obtain ⟨units, hUnits, hText⟩ := exists_units_flatMap_escapeChar text.toList rest
  have hToken : readToken? '"' (text.toList.flatMap escapeChar ++ '"' :: rest) =
      some (.string (some text), rest) := by
    rw [readToken?, if_pos (by rfl), hUnits, Option.map_some, hText, Option.map_some, String.ofList_toList]
  have hChars : quotedChars text.toList ++ rest = '"' :: (text.toList.flatMap escapeChar ++ '"' :: rest) := by
    simp [quotedChars]
  rw [hChars]
  exact readOn?_cons (by decide) hToken hStep

/-- Whether a value may stand at a point, inside of what is open there. -/
def takesValue (expected : Expected) : Prop := expected = .value ∨ expected = .firstItem

/-- Wherever a value may stand, the characters of this value lead to the point at which it is complete. -/
def LeadsOn (j : Json) : Prop :=
  ∀ expected, takesValue expected → ∀ stack rest,
    readOn? ⟨expected, stack⟩ (chars j ++ rest) = readOn? (.complete j stack) rest

/-- The items of an array up to the bracket that closes it. -/
theorem readOn?_itemChars {items : List Json} (hSome : items ≠ []) (h : ∀ item ∈ items, LeadsOn item)
    {expected : Expected} (hValue : takesValue expected) (read : List Json) (stack : List Open) (rest : List Char) :
    readOn? ⟨expected, .array read :: stack⟩ (itemChars items ++ ']' :: rest) =
      readOn? (.complete (.array (read.reverse ++ items)) stack) rest := by
  -- an item that has been read moves from the characters to the stack, where the order is reversed
  induction items generalizing expected read with
  | nil => exact absurd rfl hSome
  | cons item items ih =>
      obtain ⟨hItem, hItems⟩ := List.forall_mem_cons.mp h
      cases items with
      | nil =>
          rw [itemChars, hItem _ hValue, readOn?_punctuation (by rfl) (by rfl), List.reverse_cons]
      | cons second more =>
          rw [itemChars, List.append_assoc, hItem _ hValue, List.cons_append,
            readOn?_punctuation (by rfl) (by rfl),
            ih (List.cons_ne_nil _ _) hItems (Or.inl rfl), List.reverse_cons, List.append_assoc,
            List.singleton_append]
          exact List.cons_ne_nil _ _

/-- The members of an object up to the brace that closes it. -/
theorem readOn?_memberChars {members : List (String × Json)} (hSome : members ≠ [])
    (h : ∀ m ∈ members, LeadsOn m.2) {expected : Expected} (hName : expected = .name ∨ expected = .firstName)
    (read : List (String × Json)) (last : String) (stack : List Open) (rest : List Char) :
    readOn? ⟨expected, .object read true last :: stack⟩ (memberChars members ++ '\x7d' :: rest) =
      readOn? (.complete (.object (read.reverse ++ members)) stack) rest := by
  induction members generalizing expected read last with
  | nil => exact absurd rfl hSome
  | cons m members ih =>
      obtain ⟨name, value⟩ := m
      obtain ⟨hMember, hMembers⟩ := List.forall_mem_cons.mp h
      -- the name and the colon lead to the point where the value may stand
      have hPair : ∀ after, readOn? ⟨expected, .object read true last :: stack⟩
            (quotedChars name.toList ++ ':' :: (chars value ++ after)) =
          readOn? ⟨.separator, .object ((name, value) :: read) true name :: stack⟩ after := by
        intro after
        have hStep : Reading.step? ⟨expected, .object read true last :: stack⟩ (.string (some name)) =
            some ⟨.colon, .object read true name :: stack⟩ := by
          rcases hName with rfl | rfl <;> rfl
        rw [readOn?_quotedChars hStep, readOn?_punctuation (by rfl) (by rfl), hMember _ (Or.inl rfl)]
        rfl
      cases members with
      | nil =>
          rw [memberChars, List.append_assoc, List.cons_append, hPair, readOn?_punctuation (by rfl) (by rfl),
            List.reverse_cons]
          rfl
      | cons second more =>
          rw [memberChars, List.append_assoc, List.append_assoc, List.cons_append, hPair, List.cons_append,
            readOn?_punctuation (by rfl) (by rfl),
            ih (List.cons_ne_nil _ _) hMembers (Or.inl rfl), List.reverse_cons, List.append_assoc,
            List.singleton_append]
          exact List.cons_ne_nil _ _

/-- A value made of strings is read to its end. -/
theorem leadsOn_of_ofStrings {j : Json} (h : OfStrings j) : LeadsOn j := by
  induction h with
  | string text =>
      intro expected hValue stack rest
      refine readOn?_quotedChars ?_ rest
      rcases hValue with rfl | rfl <;> rfl
  -- an array without items is closed at once, which only the first place in it allows
  | @array items _ ih =>
      intro expected hValue stack rest
      have hOpen : Reading.step? ⟨expected, stack⟩ .openArray = some ⟨.firstItem, .array [] :: stack⟩ := by
        rcases hValue with rfl | rfl <;> rfl
      rw [chars, List.cons_append, List.cons_append, List.append_assoc, readOn?_punctuation (by rfl) hOpen,
        List.singleton_append]
      by_cases hNil : items = []
      · subst hNil
        exact readOn?_punctuation (by rfl) (by rfl) rest
      · exact readOn?_itemChars hNil ih (Or.inr rfl) [] stack rest
  | @object members _ ih =>
      intro expected hValue stack rest
      have hOpen : Reading.step? ⟨expected, stack⟩ .openObject =
          some ⟨.firstName, .object [] true "" :: stack⟩ := by
        rcases hValue with rfl | rfl <;> rfl
      rw [chars, List.cons_append, List.cons_append, List.append_assoc, readOn?_punctuation (by rfl) hOpen,
        List.singleton_append]
      by_cases hNil : members = []
      · subst hNil
        exact readOn?_punctuation (by rfl) (by rfl) rest
      · exact readOn?_memberChars hNil ih (Or.inr rfl) [] "" stack rest

/-- A value made of strings is what its text stands for. -/
theorem read?_render {j : Json} (h : OfStrings j) : read? j.render = some j := by
  calc read? j.render
      = readOn? ⟨.value, []⟩ (j.chars ++ []) := by
        rw [List.append_nil, read?, render, String.toList_ofList]
        rfl
    _ = readOn? (.complete j []) [] := leadsOn_of_ofStrings h _ (Or.inl rfl) [] []
    _ = some j := rfl

end CatalogGraph.Json
