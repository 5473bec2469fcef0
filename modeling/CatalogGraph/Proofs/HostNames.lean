import CatalogGraph.Proofs.IriParts
import CatalogGraph.Uri.Host
import Mathlib.Data.List.Basic

/-!
# The characters of host names

The host of a file is looked up as it stands, without parting a user or a port from it.  That such a host holds no
mark that parts them follows from the form in which it is looked up:

* decoding keeps every mark (`mem_of_decodedChars?`), and so does the common form of a name;
* a mark in a label that was written in ASCII is in the decoded label as well (`Punycode.mem_of_decode?`);
* no sound label holds one (`notMem_of_decodedLabel?`).

So a host of the web is written between brackets, or holds no mark (`hasHostForm_of_isWebHost`).
-/

namespace CatalogGraph.Uri

open Text

/-- The characters that part an authority: the user from the host, and the host from the port. -/
def isAuthorityMark (c : Char) : Bool := c == '@' || c == ':'

theorem eq_of_isAuthorityMark {c : Char} (h : isAuthorityMark c = true) : c = '@' ∨ c = ':' := by
  simpa [isAuthorityMark] using h

/-! ## Decoding -/

theorem utf8EncodeChar_of_lt {c : Char} (h : c.toNat < 0x80) :
    String.utf8EncodeChar c = [UInt8.ofNat c.toNat] := by
  unfold String.utf8EncodeChar
  exact if_pos (Nat.le_of_lt_succ h)

/-- A byte that is a character by itself is no part of another one. -/
theorem eq_of_mem_utf8EncodeChar {c d : Char} (hc : c.toNat < 0x80)
    (h : UInt8.ofNat c.toNat ∈ String.utf8EncodeChar d) : c = d := by
  have hByte {n : Nat} (hn : n < 256) (h : UInt8.ofNat c.toNat = UInt8.ofNat n) : c.toNat = n := by
    have hNat := congrArg UInt8.toNat h
    rwa [UInt8.toNat_ofNat_of_lt' (Nat.lt_trans hc (by decide)), UInt8.toNat_ofNat_of_lt' hn] at hNat
  have hHigh {n : Nat} (hn : n < 256) (hLow : 0x80 ≤ n) : UInt8.ofNat c.toNat ≠ UInt8.ofNat n :=
    fun h => absurd (hByte hn h) (Nat.ne_of_lt (Nat.lt_of_lt_of_le hc hLow))
  unfold String.utf8EncodeChar at h
  simp only at h
  split at h
  · next hVal =>
      exact Char.toNat_inj.mp (hByte (Nat.lt_of_le_of_lt hVal (by decide)) (List.mem_singleton.mp h))
  -- the bytes of a longer character are all from 0x80 on
  · exfalso
    split at h
    · simp only [List.mem_cons, List.not_mem_nil, or_false] at h
      rcases h with h | h <;> exact hHigh (by omega) (by omega) h
    · split at h
      · simp only [List.mem_cons, List.not_mem_nil, or_false] at h
        rcases h with h | h | h <;> exact hHigh (by omega) (by omega) h
      · simp only [List.mem_cons, List.not_mem_nil, or_false] at h
        rcases h with h | h | h | h <;> exact hHigh (by omega) (by omega) h

/-- Every character that is no part of an encoded byte stands for itself. -/
theorem mem_percentDecode {c : Char} (hLow : c.toNat < 0x80) (hCode : c ≠ '%') (hHex : isHexDigit c = false)
    {cs : List Char} (h : c ∈ cs) : UInt8.ofNat c.toNat ∈ percentDecode cs := by
  fun_induction percentDecode cs with
  | case1 => exact absurd h List.not_mem_nil
  | case2 a b rest hDigits ih =>
      simp only [Bool.and_eq_true] at hDigits
      have hNot {d : Char} (hd : isHexDigit d = true) : c ≠ d := by
        rintro rfl
        rw [hHex] at hd
        cases hd
      have hRest : c ∈ rest := by
        simpa only [List.mem_cons, hCode, hNot hDigits.1, hNot hDigits.2, false_or] using h
      exact List.mem_cons_of_mem _ (ih hRest)
  | case3 a b rest hDigits ih =>
      exact List.mem_append_right _ (ih (List.mem_of_ne_of_mem hCode h))
  | case4 d rest hNoCode ih =>
      rcases List.mem_cons.mp h with rfl | hRest
      · rw [utf8EncodeChar_of_lt hLow]
        exact List.mem_append_left _ (List.mem_singleton.mpr rfl)
      · exact List.mem_append_right _ (ih hRest)

theorem mem_of_decodedChars? {c : Char} (hLow : c.toNat < 0x80) (hCode : c ≠ '%') (hHex : isHexDigit c = false)
    {cs ds : List Char} (hDecoded : decodedChars? cs = some ds) (h : c ∈ cs) : c ∈ ds := by
  obtain ⟨s, hText, rfl⟩ := Option.map_eq_some_iff.mp hDecoded
  have hBytes : s.toByteArray = ⟨(percentDecode cs).toArray⟩ := by
    unfold String.fromUTF8? at hText
    split at hText
    · rw [← Option.some.inj hText]
      rfl
    · cases hText
  have hList : s.toList.flatMap String.utf8EncodeChar = percentDecode cs := by
    calc s.toList.flatMap String.utf8EncodeChar
        = s.toList.utf8Encode.data.toList := List.toList_data_toByteArray.symm
      _ = percentDecode cs := by rw [String.utf8Encode_toList, hBytes]
  have hByte := mem_percentDecode hLow hCode hHex h
  rw [← hList] at hByte
  obtain ⟨d, hd, hByte⟩ := List.mem_flatMap.mp hByte
  rw [eq_of_mem_utf8EncodeChar hLow hByte]
  exact hd

/-! ## Labels that were written in ASCII -/

namespace Punycode

theorem digits_of_readNumber? {bias k weight sum n : Nat} {cs rest : List Char}
    (h : readNumber? bias k weight sum cs = some (n, rest)) :
    ∀ c ∈ cs, (digit? c).isSome = true ∨ c ∈ rest := by
  induction cs generalizing k weight sum with
  | nil => cases h
  | cons c cs ih =>
      rw [readNumber?] at h
      obtain ⟨d, hDigit, h⟩ := Option.bind_eq_some_iff.mp h
      refine List.forall_mem_cons.mpr ⟨Or.inl (Option.isSome_iff_exists.mpr ⟨d, hDigit⟩), ?_⟩
      simp only at h
      split at h
      · cases h
      · split at h
        · obtain ⟨-, rfl⟩ := Prod.mk.inj (Option.some.inj h)
          exact fun e he => Or.inr he
        · exact ih h

/-- Characters are put in, and none is lost; all that is read for it is digits. -/
theorem insertAll?_keeps {fuel code start bias : Nat} {label result : List Nat} {cs : List Char}
    (h : insertAll? fuel code start bias label cs = some result) :
    label ⊆ result ∧ ∀ c ∈ cs, (digit? c).isSome = true := by
  induction fuel generalizing code start bias label cs with
  | zero => cases h
  | succ fuel ih =>
      cases cs with
      | nil => exact ⟨Option.some.inj h ▸ List.Subset.refl _, fun c hc => absurd hc List.not_mem_nil⟩
      | cons c cs =>
          unfold insertAll? at h
          obtain ⟨⟨delta, rest⟩, hNumber, h⟩ := Option.bind_eq_some_iff.mp h
          simp only at h
          split at h
          · cases h
          · obtain ⟨hLabel, hRest⟩ := ih h
            refine ⟨fun n hn => hLabel ?_, fun d hd => (digits_of_readNumber? hNumber d hd).elim id (hRest d)⟩
            rw [← List.take_append_drop ((start + delta) % (label.length + 1)) label] at hn
            exact (List.mem_append.mp hn).elim (List.mem_append_left _)
              fun hn => List.mem_append_right _ (List.mem_cons_of_mem _ hn)

/-- What is neither a digit nor a hyphen stands for itself in an encoded label. -/
theorem mem_of_decode? {c : Char} (hDigit : digit? c = none) (hHyphen : c ≠ '-') {cs ds : List Char}
    (hDecoded : decode? cs = some ds) (h : c ∈ cs) : c ∈ ds := by
  unfold decode? at hDecoded
  simp only at hDecoded
  split at hDecoded
  · cases hDecoded
  · obtain ⟨codes, hCodes, rfl⟩ := Option.map_eq_some_iff.mp hDecoded
    obtain ⟨hLabel, hTail⟩ := insertAll?_keeps hCodes
    have hParts := dropWhile_reverse_append (· != '-') cs
    generalize (cs.reverse.takeWhile (· != '-')).reverse = tail at hLabel hTail hParts
    rw [← hParts, List.length_append, Nat.add_sub_cancel, List.take_left] at hLabel
    have hNotTail : c ∉ tail := by
      intro hMem
      have hSome := hTail c hMem
      rw [hDigit] at hSome
      cases hSome
    -- the literal characters end in the hyphen, which is dropped
    have hLast : some c ≠ (cs.reverse.dropWhile (· != '-')).reverse.getLast? := by
      have hStop := List.head?_dropWhile_not (· != '-') cs.reverse
      rw [List.getLast?_reverse]
      intro hSame
      rw [← hSame] at hStop
      exact hHyphen (by simpa using hStop)
    have hHead : c ∈ (cs.reverse.dropWhile (· != '-')).reverse :=
      (List.mem_append.mp (hParts.symm ▸ h)).resolve_right hNotTail
    have hFront := List.mem_dropLast_of_mem_of_ne_getLast? hHead hLast
    exact List.mem_map.mpr ⟨c.toNat, hLabel (List.mem_map_of_mem hFront), Char.ofNat_toNat c⟩

end Punycode

/-! ## Names -/

theorem exists_of_mapM_eq_some {α β : Type} {f : α → Option β} {xs : List α} {ys : List β}
    (h : xs.mapM f = some ys) : ∀ x ∈ xs, ∃ y, f x = some y := by
  induction xs generalizing ys with
  | nil => exact fun x hx => absurd hx List.not_mem_nil
  | cons x xs ih =>
      rw [List.mapM_cons] at h
      obtain ⟨y, hFirst, h⟩ := Option.bind_eq_some_iff.mp h
      obtain ⟨ys, hRest, -⟩ := Option.bind_eq_some_iff.mp h
      exact List.forall_mem_cons.mpr ⟨⟨y, hFirst⟩, ih hRest⟩

theorem notMem_of_isSoundLabel {c : Char} (hMark : isAuthorityMark c = true) {label : List Char}
    (h : isSoundLabel label = true) : c ∉ label := by
  intro hMem
  simp only [isSoundLabel, Bool.and_eq_true, List.all_eq_true] at h
  have hLabel := h.1.1 c hMem
  rcases eq_of_isAuthorityMark hMark with rfl | rfl
  · exact absurd hLabel (by decide)
  · exact absurd hLabel (by decide)

theorem notMem_of_decodedLabel? {c : Char} (hMark : isAuthorityMark c = true) {label decoded : List Char}
    (h : decodedLabel? label = some decoded) : c ∉ label := by
  unfold decodedLabel? at h
  split at h
  · next encoded =>
      split at h
      · cases h
      · split at h
        · next decoded' hDecode =>
            split at h
            · next hSound =>
                simp only [Bool.and_eq_true] at hSound
                have hPlain : Punycode.digit? c = none ∧ c ∉ ['x', 'n', '-'] := by
                  rcases eq_of_isAuthorityMark hMark with rfl | rfl <;> decide
                simp only [List.mem_cons, List.not_mem_nil, or_false, not_or] at hPlain ⊢
                obtain ⟨hDigit, hx, hn, hHyphen⟩ := hPlain
                refine ⟨hx, hn, hHyphen, hHyphen, fun hMem => ?_⟩
                exact notMem_of_isSoundLabel hMark hSound.2 (Punycode.mem_of_decode? hDigit hHyphen hDecode hMem)
            · cases h
        · cases h
  · split at h
    · next hSound => exact notMem_of_isSoundLabel hMark hSound
    · cases h

theorem notMem_of_domainForm? {c : Char} (hMark : isAuthorityMark c = true) {domain name : List Char}
    (h : domainForm? domain = some name) : c ∉ domain := by
  intro hMem
  have hForm : c ∈ nameForm c ∧ c ≠ '.' := by
    rcases eq_of_isAuthorityMark hMark with rfl | rfl <;> decide
  have hName : c ∈ domain.flatMap nameForm := List.mem_flatMap.mpr ⟨c, hMem, hForm.1⟩
  obtain ⟨label, hLabel, hc⟩ := (mem_splitOnChar '.' hName).resolve_left hForm.2
  unfold domainForm? at h
  simp only at h
  split at h
  · next labels hLabels =>
      obtain ⟨decoded, hDecoded⟩ := exists_of_mapM_eq_some hLabels label hLabel
      exact notMem_of_decodedLabel? hMark hDecoded hc
  · cases h

/-- A host stands in an authority as an IPv6 address between brackets, or without any mark. -/
def HasHostForm (host : List Char) : Prop :=
  (∃ address, host = '[' :: address ++ [']'] ∧ isIpv6 address = true) ∨ ∀ c ∈ host, isAuthorityMark c = false

theorem hasHostForm_of_brackets {rest : List Char}
    (h : (rest.getLast? == some ']' && isIpv6 rest.dropLast) = true) : HasHostForm ('[' :: rest) := by
  simp only [Bool.and_eq_true, beq_iff_eq] at h
  obtain ⟨hLast, hAddress⟩ := h
  refine Or.inl ⟨rest.dropLast, ?_, hAddress⟩
  rw [List.cons_append, List.dropLast_append_getLast? _ hLast]

theorem hasHostForm_of_isWebHost {cs : List Char} (h : isWebHost cs = true) : HasHostForm cs := by
  unfold isWebHost at h
  split at h
  · exact hasHostForm_of_brackets h
  · refine Or.inr fun c hc => Bool.eq_false_iff.mpr fun hMark => ?_
    cases hDecoded : decodedChars? cs with
    | none => simp [hDecoded] at h
    | some ds =>
        cases hForm : domainForm? ds with
        | none => simp [hDecoded, hForm] at h
        | some name =>
            obtain ⟨hLow, hCode, hHex⟩ : c.toNat < 0x80 ∧ c ≠ '%' ∧ isHexDigit c = false := by
              rcases eq_of_isAuthorityMark hMark with rfl | rfl <;> decide
            exact notMem_of_domainForm? hMark hForm (mem_of_decodedChars? hLow hCode hHex hDecoded hc)

end CatalogGraph.Uri
