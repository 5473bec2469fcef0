import CatalogGraph.Conversion.SubjectUri
import CatalogGraph.Text.Characters

/-!
# Identifiers as numbers

Every identifier writes an integer: behind white space it may have one sign, and as many digits as follow are the
number, none being zero (`IdentifierParts`).  What is behind them is of no account, be it another sign, digits of
other scripts or white space.

* `toDigits_ofDigitChars`: digits that do not start with a zero are the decimal digits of their number;
* `integerReading_chars`: an identifier is read as the decimal numeral of the integer that it writes;
* `integerReading_of_isNumeral`: a numeral is read as it is.

There is no bound to the number of digits, and none of the proofs looks at how large a number is.
-/

namespace CatalogGraph

namespace Text

/-! ## Digits -/

/-- Zeros at the start do not change a number. -/
theorem ofDigitChars_dropWhile_zero (digits : List Char) :
    Nat.ofDigitChars 10 (digits.dropWhile (· == '0')) 0 = Nat.ofDigitChars 10 digits 0 := by
  induction digits with
  | nil => rfl
  | cons d digits ih =>
      rw [List.dropWhile_cons]
      split
      · next hZero =>
          obtain rfl := eq_of_beq hZero
          exact ih
      · rfl

theorem exists_of_isDigit {c : Char} (h : c.isDigit = true) : ∃ n < 10, c = Nat.digitChar n := by
  delta Char.isDigit at h
  simp only [Bool.and_eq_true, decide_eq_true_eq, ge_iff_le, UInt32.le_iff_toNat_le] at h
  obtain ⟨hFrom, hTo⟩ := h
  have hFrom : 48 ≤ c.toNat := hFrom
  have hTo : c.toNat ≤ 57 := hTo
  refine ⟨c.toNat - 48, by omega, Char.toNat_inj.mp ?_⟩
  rw [Nat.toNat_digitChar_of_lt_ten (by omega), Nat.add_sub_cancel' hFrom]

/-- Digits behind a positive number are written behind its digits. -/
theorem toDigits_append {digits : List Char} (hDigits : ∀ c ∈ digits, c.isDigit = true) {n : Nat} (hn : 0 < n) :
    Nat.toDigits 10 n ++ digits = Nat.toDigits 10 (Nat.ofDigitChars 10 digits n) := by
  -- the number read so far stays positive, so no digit is lost as a zero in front
  induction digits generalizing n with
  | nil => rw [List.append_nil, Nat.ofDigitChars_nil]
  | cons d digits ih =>
      obtain ⟨hDigit, hRest⟩ := List.forall_mem_cons.mp hDigits
      obtain ⟨k, hk, rfl⟩ := exists_of_isDigit hDigit
      have hOne := Nat.toDigits_append_toDigits (by decide) hn hk
      rw [Nat.toDigits_of_lt_base hk] at hOne
      rw [Nat.ofDigitChars_cons_digitChar_of_lt_ten hk, ← ih hRest (by omega), ← hOne, List.append_assoc,
        List.singleton_append]

/-- Digits without a zero at the start are the digits of the number that they write. -/
theorem toDigits_ofDigitChars {d : Char} {digits : List Char} (hDigits : ∀ c ∈ d :: digits, c.isDigit = true)
    (hFirst : d ≠ '0') :
    0 < Nat.ofDigitChars 10 (d :: digits) 0 ∧
      Nat.toDigits 10 (Nat.ofDigitChars 10 (d :: digits) 0) = d :: digits := by
  obtain ⟨hDigit, hRest⟩ := List.forall_mem_cons.mp hDigits
  obtain ⟨k, hk, rfl⟩ := exists_of_isDigit hDigit
  have hPositive : 0 < k := Nat.pos_of_ne_zero fun hZero => hFirst (by rw [hZero]; rfl)
  rw [Nat.ofDigitChars_cons_digitChar_of_lt_ten hk, Nat.mul_zero, Nat.zero_add, ← toDigits_append hRest hPositive,
    Nat.toDigits_of_lt_base hk]
  refine ⟨?_, rfl⟩
  rw [Nat.ofDigitChars_eq_ofDigitChars_zero]
  have hPower : 0 < 10 ^ digits.length * k := Nat.mul_pos (Nat.pow_pos (by decide)) hPositive
  omega

end Text

namespace Conversion

open CatalogGraph.Text

/-! ## The parts of an identifier -/

/-- An identifier taken apart: white space, at most one sign, as many digits as follow, and what is behind them. -/
structure IdentifierParts where
  white : List Char
  sign : List Char
  digits : List Char
  rest : List Char
  white_isWhite : ∀ c ∈ white, isWhite c = true
  sign_isSign : sign = [] ∨ sign = ['+'] ∨ sign = ['-']
  digits_isDigit : ∀ c ∈ digits, c.isDigit = true
  /-- No white space and no sign is left where there is no sign. -/
  body_start : sign = [] → ∀ c ∈ (digits ++ rest).head?, isWhite c = false ∧ c ≠ '+' ∧ c ≠ '-'
  /-- No digit is left behind the digits. -/
  rest_start : ∀ c ∈ rest.head?, c.isDigit = false

namespace IdentifierParts

/-- The identifier as a whole. -/
def chars (p : IdentifierParts) : List Char :=
  p.white ++ (p.sign ++ (p.digits ++ p.rest))

/-- The integer that the identifier writes; no digits are zero. -/
def value (p : IdentifierParts) : Int :=
  if p.sign = ['-'] then -(Nat.ofDigitChars 10 p.digits 0 : Int) else Nat.ofDigitChars 10 p.digits 0

/-- White space, a sign and what is behind the sign make up an identifier. -/
theorem exists_of_body {white sign body : List Char} (hWhite : ∀ c ∈ white, isWhite c = true)
    (hSign : sign = [] ∨ sign = ['+'] ∨ sign = ['-'])
    (hStart : sign = [] → ∀ c ∈ body.head?, isWhite c = false ∧ c ≠ '+' ∧ c ≠ '-') :
    ∃ p : IdentifierParts, p.chars = white ++ (sign ++ body) := by
  have hBody : body.takeWhile Char.isDigit ++ body.dropWhile Char.isDigit = body := List.takeWhile_append_dropWhile
  refine ⟨⟨white, sign, body.takeWhile Char.isDigit, body.dropWhile Char.isDigit, hWhite, hSign, ?_, ?_, ?_⟩,
    congrArg (fun cs => white ++ (sign ++ cs)) hBody⟩
  · exact fun c hc => List.mem_takeWhile_imp hc
  · rwa [hBody]
  · intro c hc
    have hNot := List.head?_dropWhile_not Char.isDigit body
    rw [Option.mem_def.mp hc] at hNot
    simpa using hNot

/-- Every identifier can be taken apart. -/
theorem exists_parts (cs : List Char) : ∃ p : IdentifierParts, p.chars = cs := by
  have hWhite : ∀ c ∈ cs.takeWhile isWhite, isWhite c = true := fun c hc => List.mem_takeWhile_imp hc
  have hBody := List.head?_dropWhile_not isWhite cs
  obtain ⟨p, hp⟩ : ∃ p : IdentifierParts, p.chars = cs.takeWhile isWhite ++ cs.dropWhile isWhite := by
    cases hRest : cs.dropWhile isWhite with
    | nil => exact exists_of_body hWhite (.inl rfl) (by simp)
    | cons c rest =>
        rw [hRest] at hBody
        by_cases hPlus : c = '+'
        · exact hPlus ▸ exists_of_body hWhite (.inr (.inl rfl)) (by simp)
        by_cases hMinus : c = '-'
        · exact hMinus ▸ exists_of_body hWhite (.inr (.inr rfl)) (by simp)
        refine exists_of_body hWhite (.inl rfl) fun _ c' hc' => ?_
        obtain rfl := Option.some.inj hc'
        exact ⟨by simpa using hBody, hPlus, hMinus⟩
  exact ⟨p, hp.trans List.takeWhile_append_dropWhile⟩

variable {p q : IdentifierParts}

/-- What is left behind the white space. -/
theorem trimStartChars_chars (p : IdentifierParts) : trimStartChars p.chars = p.sign ++ (p.digits ++ p.rest) := by
  rw [trimStartChars, chars, List.dropWhile_append_of_pos p.white_isWhite]
  rcases p.sign_isSign with hSign | hSign | hSign
  · have hStart := p.body_start hSign
    rw [hSign, List.nil_append]
    cases hBody : p.digits ++ p.rest with
    | nil => rfl
    | cons c body =>
        rw [hBody] at hStart
        rw [List.dropWhile_cons_of_neg (by simp [(hStart c rfl).1])]
  · rw [hSign]; rfl
  · rw [hSign]; rfl

end IdentifierParts

/-- What an identifier has behind its white space, as `integerReading` looks at it: whether a minus sign comes first,
and what is behind a sign. -/
def afterSign (cs : List Char) : Bool × List Char :=
  let negative := cs.head? == some '-'
  (negative, if negative || cs.head? == some '+' then cs.drop 1 else cs)

/-- The numeral of a number with these digits, the first of which is no zero. -/
def numeralOf (negative : Bool) (digits : List Char) : String :=
  if digits.isEmpty then "0" else String.ofList (if negative then '-' :: digits else digits)

theorem integerReading_eq_numeralOf (identifier : String) :
    integerReading identifier =
      let (negative, body) := afterSign (trimStartChars identifier.toList)
      numeralOf negative ((body.takeWhile Char.isDigit).dropWhile (· == '0')) :=
  rfl

namespace IdentifierParts

variable {p q : IdentifierParts}

theorem afterSign_chars (p : IdentifierParts) :
    afterSign (trimStartChars p.chars) = (decide (p.sign = ['-']), p.digits ++ p.rest) := by
  rw [trimStartChars_chars, afterSign]
  rcases p.sign_isSign with hSign | hSign | hSign
  · have hStart := p.body_start hSign
    rw [hSign, List.nil_append]
    cases hBody : p.digits ++ p.rest with
    | nil => rfl
    | cons c body =>
        rw [hBody] at hStart
        obtain ⟨-, hPlus, hMinus⟩ := hStart c rfl
        simp [hPlus, hMinus]
  · rw [hSign]; rfl
  · rw [hSign]; rfl

theorem takeWhile_isDigit (p : IdentifierParts) : (p.digits ++ p.rest).takeWhile Char.isDigit = p.digits := by
  rw [List.takeWhile_append_of_pos p.digits_isDigit]
  cases hRest : p.rest with
  | nil => exact List.append_nil _
  | cons c rest =>
      have hStart := p.rest_start c (by rw [hRest]; rfl)
      rw [List.takeWhile_cons_of_neg (by simp [hStart]), List.append_nil]

/-- An identifier writes one integer, however it is taken apart. -/
theorem value_eq_of_chars (h : p.chars = q.chars) : p.value = q.value := by
  have hSame := afterSign_chars p
  rw [h, afterSign_chars q, Prod.mk.injEq] at hSame
  obtain ⟨hSign, hBody⟩ := hSame
  have hDigits : p.digits = q.digits := by rw [← takeWhile_isDigit p, ← takeWhile_isDigit q, hBody]
  have hSign : q.sign = ['-'] ↔ p.sign = ['-'] := decide_eq_decide.mp hSign
  rw [value, value, hDigits]
  simp only [hSign]

end IdentifierParts

/-! ## Numerals -/

/-- The decimal numeral of an integer: no plus sign, no zero before other digits, and no sign before a zero. -/
inductive IsNumeral : List Char → Prop
  | zero : IsNumeral ['0']
  | digits (sign : List Char) (d : Char) (digits : List Char) (hSign : sign = [] ∨ sign = ['-']) (hFirst : d ≠ '0')
      (hDigits : ∀ c ∈ d :: digits, c.isDigit = true) : IsNumeral (sign ++ d :: digits)

section Numerals

variable {digits : List Char}

theorem isNumeral_numeralOf (negative : Bool) (hDigits : ∀ c ∈ digits, c.isDigit = true)
    (hFirst : digits.head? ≠ some '0') : IsNumeral (numeralOf negative digits).toList := by
  cases digits with
  | nil =>
      have hZero : (numeralOf negative []).toList = ['0'] := by simp [numeralOf]
      exact hZero ▸ .zero
  | cons d digits =>
      have hFirst : d ≠ '0' := fun h => hFirst (congrArg some h)
      rw [numeralOf, if_neg (by simp), String.toList_ofList]
      cases negative with
      | false => exact .digits [] d digits (.inl rfl) hFirst hDigits
      | true => exact .digits ['-'] d digits (.inr rfl) hFirst hDigits

theorem numeralOf_eq_toString (negative : Bool) (hDigits : ∀ c ∈ digits, c.isDigit = true)
    (hFirst : digits.head? ≠ some '0') :
    numeralOf negative digits =
      toString (if negative then -(Nat.ofDigitChars 10 digits 0 : Int) else Nat.ofDigitChars 10 digits 0) := by
  cases digits with
  | nil => cases negative <;> rfl
  | cons d digits =>
      obtain ⟨hPositive, hNumeral⟩ := toDigits_ofDigitChars hDigits fun h => hFirst (congrArg some h)
      have hRepr : (Nat.ofDigitChars 10 (d :: digits) 0).repr = String.ofList (d :: digits) := by
        rw [Nat.repr_eq_ofList_toDigits, hNumeral]
      rw [numeralOf, if_neg (by simp), Int.toString_eq_repr, Int.repr_eq_if]
      generalize Nat.ofDigitChars 10 (d :: digits) 0 = n at hPositive hRepr
      cases negative with
      | false => simp [hRepr]
      | true =>
          have hNegative : ¬(0 : Int) ≤ -(n : Int) := by omega
          simp only [if_true, if_neg hNegative, Int.neg_neg, Int.toNat_natCast, hRepr]
          exact String.ofList_cons

theorem isDigit_starts_body {c : Char} (h : c.isDigit = true) : isWhite c = false ∧ c ≠ '+' ∧ c ≠ '-' := by
  obtain ⟨k, hk, rfl⟩ := exists_of_isDigit h
  have hAll : ∀ k < 10, isWhite (Nat.digitChar k) = false ∧ Nat.digitChar k ≠ '+' ∧ Nat.digitChar k ≠ '-' := by decide
  exact hAll k hk

end Numerals

namespace IdentifierParts

/-- An identifier of at most one sign and of digits, with nothing around them. -/
def ofDigits (sign digits : List Char) (hSign : sign = [] ∨ sign = ['+'] ∨ sign = ['-'])
    (hDigits : ∀ c ∈ digits, c.isDigit = true) : IdentifierParts where
  white := []
  sign := sign
  digits := digits
  rest := []
  white_isWhite := List.forall_mem_nil _
  sign_isSign := hSign
  digits_isDigit := hDigits
  body_start _ c hc := by
    rw [List.append_nil] at hc
    exact isDigit_starts_body (hDigits c (List.mem_of_head? hc))
  rest_start _ hc := nomatch hc

/-- An identifier is read as the numeral of its sign and of its digits without the zeros at the start. -/
theorem integerReading_chars (p : IdentifierParts) :
    integerReading (String.ofList p.chars) =
      numeralOf (decide (p.sign = ['-'])) (p.digits.dropWhile (· == '0')) := by
  rw [integerReading_eq_numeralOf, String.toList_ofList, afterSign_chars]
  dsimp only
  rw [takeWhile_isDigit]

theorem isDigit_of_mem_significant (p : IdentifierParts) :
    ∀ c ∈ p.digits.dropWhile (· == '0'), c.isDigit = true :=
  fun c hc => p.digits_isDigit c ((List.dropWhile_sublist _).subset hc)

theorem head?_significant (p : IdentifierParts) : (p.digits.dropWhile (· == '0')).head? ≠ some '0' := by
  intro hZero
  have hNot := List.head?_dropWhile_not (· == '0') p.digits
  rw [hZero] at hNot
  exact absurd hNot (by decide)

/-- This is the numeral of the integer that the identifier writes. -/
theorem integerReading_eq_toString (p : IdentifierParts) :
    integerReading (String.ofList p.chars) = toString p.value := by
  rw [integerReading_chars, numeralOf_eq_toString _ p.isDigit_of_mem_significant p.head?_significant,
    ofDigitChars_dropWhile_zero, value]
  simp only [decide_eq_true_eq]

theorem isNumeral_integerReading (p : IdentifierParts) :
    IsNumeral (integerReading (String.ofList p.chars)).toList := by
  rw [integerReading_chars]
  exact isNumeral_numeralOf _ p.isDigit_of_mem_significant p.head?_significant

end IdentifierParts

/-- A numeral is read as it is. -/
theorem integerReading_of_isNumeral {cs : List Char} (h : IsNumeral cs) :
    integerReading (String.ofList cs) = String.ofList cs := by
  cases h with
  | zero => decide
  | digits sign d digits hSign hFirst hDigits =>
      have hReading := (IdentifierParts.ofDigits sign (d :: digits) (hSign.imp_right .inr) hDigits).integerReading_chars
      have hChars : (IdentifierParts.ofDigits sign (d :: digits) (hSign.imp_right .inr) hDigits).chars =
          sign ++ d :: digits := by
        simp [IdentifierParts.chars, IdentifierParts.ofDigits]
      rw [hChars] at hReading
      rw [hReading, IdentifierParts.ofDigits, List.dropWhile_cons_of_neg (by simpa using hFirst)]
      rcases hSign with rfl | rfl
      · rfl
      · rfl

/-! ## Identifiers -/

/-- An identifier writes an integer. -/
def Writes (identifier : String) (n : Int) : Prop :=
  ∃ p : IdentifierParts, p.chars = identifier.toList ∧ p.value = n

theorem Writes.integerReading_eq {identifier : String} {n : Int} (h : Writes identifier n) :
    integerReading identifier = toString n := by
  obtain ⟨p, hChars, rfl⟩ := h
  rw [← String.ofList_toList (s := identifier), ← hChars, p.integerReading_eq_toString]

/-- **Identifiers are read as numbers.**  Every identifier writes exactly one integer: the number of the longest run of
digits behind its white space and at most one sign, with zero for no digits.  It is read as the decimal numeral of
this integer, whatever its length, and this is read as itself.  Identifiers that write the same integer name the same
subject, on any host. -/
theorem integerReading_is_numeral :
    (∀ identifier, ∃ n, (∀ k, Writes identifier k ↔ k = n) ∧ integerReading identifier = toString n ∧
      IsNumeral (integerReading identifier).toList ∧
      integerReading (integerReading identifier) = integerReading identifier) ∧
    ∀ host identifier other n, Writes identifier n → Writes other n →
      subjectUri host identifier = subjectUri host other := by
  constructor
  · intro identifier
    obtain ⟨p, hChars⟩ := IdentifierParts.exists_parts identifier.toList
    have hWrites : Writes identifier p.value := ⟨p, hChars, rfl⟩
    have hNumeral : IsNumeral (integerReading identifier).toList := by
      rw [← String.ofList_toList (s := identifier), ← hChars]
      exact p.isNumeral_integerReading
    refine ⟨p.value, fun k => ⟨?_, fun hk => hk ▸ hWrites⟩, hWrites.integerReading_eq, hNumeral, ?_⟩
    · rintro ⟨q, hSame, rfl⟩
      exact IdentifierParts.value_eq_of_chars (hSame.trans hChars.symm)
    · have hAgain := integerReading_of_isNumeral hNumeral
      rwa [String.ofList_toList] at hAgain
  · intro host identifier other n hIdentifier hOther
    rw [subjectUri, subjectUri, hIdentifier.integerReading_eq, hOther.integerReading_eq]

/-- A negative number behind a no-break space and before a full stop, and the same in short. -/
theorem integerReading_is_numeral_seven :
    Writes "\u00a0-007.5" (-7) ∧ Writes "-7" (-7) ∧
      subjectUri "placeholder.com" "\u00a0-007.5" = subjectUri "placeholder.com" "-7" := by
  have hWhite : ∀ c ∈ ['\u00a0'], isWhite c = true := List.all_eq_true.mp (by decide)
  have hDigits : ∀ c ∈ ['0', '0', '7'], c.isDigit = true := List.all_eq_true.mp (by decide)
  have hSeven : ∀ c ∈ ['7'], c.isDigit = true := List.all_eq_true.mp (by decide)
  have hLong : Writes "\u00a0-007.5" (-7) :=
    ⟨⟨['\u00a0'], ['-'], ['0', '0', '7'], ['.', '5'], hWhite, by simp, hDigits, by simp, by simp⟩, rfl, rfl⟩
  have hShort : Writes "-7" (-7) :=
    ⟨⟨[], ['-'], ['7'], [], List.forall_mem_nil _, by simp, hSeven, by simp, by simp⟩, rfl, rfl⟩
  exact ⟨hLong, hShort, integerReading_is_numeral.2 _ _ _ _ hLong hShort⟩

end Conversion

end CatalogGraph
