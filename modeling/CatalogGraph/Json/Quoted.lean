/-!
# JSON strings

A string stands in quotes.  Quotes, backslashes and control characters are escaped when a string is
written; all other characters stand for themselves.  A reader accepts any escape, among them code units
in hexadecimal digits.  A code unit that is half of a character needs its other half next to it;
otherwise the string is well-formed but stands for no text.
-/

namespace CatalogGraph.Json

/-- A hexadecimal digit in small letters. -/
def hexSmall (n : Nat) : Char :=
  if n < 10 then Char.ofNat ('0'.toNat + n) else Char.ofNat ('a'.toNat + n - 10)

/-- The value of a hexadecimal digit. -/
def hexValue? (c : Char) : Option Nat :=
  if c.isDigit then some (c.toNat - '0'.toNat)
  else if 'a' ≤ c ∧ c ≤ 'f' then some (c.toNat - 'a'.toNat + 10)
  else if 'A' ≤ c ∧ c ≤ 'F' then some (c.toNat - 'A'.toNat + 10)
  else none

/-! ## Writing -/

/-- A character as it is written in a string. -/
def escapeChar (c : Char) : List Char :=
  if c == '"' then ['\\', '"']
  else if c == '\\' then ['\\', '\\']
  else if c.toNat == 0x08 then ['\\', 'b']
  else if c == '\t' then ['\\', 't']
  else if c == '\n' then ['\\', 'n']
  else if c.toNat == 0x0C then ['\\', 'f']
  else if c == '\r' then ['\\', 'r']
  else if c.toNat < 0x20 then
    ['\\', 'u', '0', '0', hexSmall (c.toNat / 16), hexSmall (c.toNat % 16)]
  else [c]

/-- The characters of a string in quotes. -/
def quotedChars (cs : List Char) : List Char :=
  '"' :: cs.flatMap escapeChar ++ ['"']

/-- A text as a string in quotes. -/
def quoted (s : String) : String :=
  String.ofList (quotedChars s.toList)

/-! ## Reading -/

/-- A part of a string as it is written: a character, or a code unit in hexadecimal digits. -/
inductive StringUnit
  | char (c : Char)
  | code (n : Nat)
  deriving DecidableEq, Repr

/-- The character that a short escape stands for. -/
def shortEscape? : Char → Option Char
  | '"' => some '"'
  | '\\' => some '\\'
  | '/' => some '/'
  | 'b' => some '\x08'
  | 'f' => some '\x0c'
  | 'n' => some '\n'
  | 'r' => some '\r'
  | 't' => some '\t'
  | _ => none

/-- The units up to the closing quote, and what is after it. -/
def readUnits? : List Char → Option (List StringUnit × List Char)
  | [] => none
  | '"' :: rest => some ([], rest)
  | '\\' :: 'u' :: a :: b :: c :: d :: rest => do
    let n := (← hexValue? a) * 4096 + (← hexValue? b) * 256 + (← hexValue? c) * 16 + (← hexValue? d)
    let (units, after) ← readUnits? rest
    some (.code n :: units, after)
  | '\\' :: e :: rest => do
    let c ← shortEscape? e
    let (units, after) ← readUnits? rest
    some (.char c :: units, after)
  | c :: rest =>
    if c.toNat < 0x20 then none
    else do
      let (units, after) ← readUnits? rest
      some (.char c :: units, after)

/-- The text that units stand for, unless there is a half of a character without its other half. -/
def unitsText? : List StringUnit → Option (List Char)
  | [] => some []
  | .char c :: rest => (unitsText? rest).map (c :: ·)
  | .code n :: .code m :: rest =>
    if 0xD800 ≤ n ∧ n < 0xDC00 then
      if 0xDC00 ≤ m ∧ m < 0xE000 then
        (unitsText? rest).map (Char.ofNat (0x10000 + (n - 0xD800) * 0x400 + (m - 0xDC00)) :: ·)
      else none
    else if 0xDC00 ≤ n ∧ n < 0xE000 then none
    else (unitsText? (.code m :: rest)).map (Char.ofNat n :: ·)
  | .code n :: rest =>
    if 0xD800 ≤ n ∧ n < 0xE000 then none else (unitsText? rest).map (Char.ofNat n :: ·)

/-- What is after a string is shorter than the string with it. -/
theorem readUnits?_length {cs : List Char} {units : List StringUnit} {rest : List Char}
    (h : readUnits? cs = some (units, rest)) : rest.length < cs.length := by
  fun_induction readUnits? cs generalizing units rest with
  | case1 => simp at h
  | case2 => simp_all
  | case3 a b c d tail ih =>
    simp only [Option.bind_eq_bind, Option.bind_eq_some_iff] at h
    obtain ⟨_, _, _, _, _, _, _, _, ⟨u, r⟩, hp, h⟩ := h
    simp only [Option.some.injEq, Prod.mk.injEq] at h
    have := ih hp
    grind
  | case4 e tail _ ih =>
    simp only [Option.bind_eq_bind, Option.bind_eq_some_iff] at h
    obtain ⟨_, _, ⟨u, r⟩, hp, h⟩ := h
    simp only [Option.some.injEq, Prod.mk.injEq] at h
    have := ih hp
    grind
  | case5 => simp at h
  | case6 c tail _ _ _ _ ih =>
    simp only [Option.bind_eq_bind, Option.bind_eq_some_iff] at h
    obtain ⟨⟨u, r⟩, hp, h⟩ := h
    simp only [Option.some.injEq, Prod.mk.injEq] at h
    have := ih hp
    grind

end CatalogGraph.Json
