import CatalogGraph.Proofs.DisplayedStatements
import CatalogGraph.Proofs.IriParts

/-!
# Reading displayed statements

The line that a statement is displayed as can be read again.

* `readQuoted?_quoted` — a text in quotes is read up to its closing quote, as every escape stands for one character
  only;
* `HoldsIriChars.of_isIri`, `isTagChar_of_isLanguageTag` — an IRI ends at its bracket and a language tag at the blank
  behind it, as neither holds the one or the other;
* `ofLine?_display` — so the line tells the statement, if this could be written and if no part of it goes unseen.

What goes unseen is a datatype beside a language, and the datatype of plain texts.
-/

namespace CatalogGraph.Rdf

open Uri (cut HoldsIriChars)

/-! ## Language tags -/

/-- The characters of language tags. -/
def isTagChar (c : Char) : Bool := c.isAlphanum || c == '-'

theorem isAlphanum_of_next? {place next : TagPlace} {subtag : List Char} (h : place.next? subtag = some next) :
    ∀ c ∈ subtag, c.isAlphanum = true := by
  unfold TagPlace.next? at h
  split at h
  · cases h
  · next hShape =>
      simp only [Bool.or_eq_true, not_or, Bool.not_eq_true', Bool.not_eq_false, List.all_eq_true] at hShape
      exact hShape.2

theorem isAlphanum_of_foldlM_next? {place last : TagPlace} {subtags : List (List Char)}
    (h : subtags.foldlM TagPlace.next? place = some last) :
    ∀ subtag ∈ subtags, ∀ c ∈ subtag, c.isAlphanum = true := by
  induction subtags generalizing place with
  | nil => exact fun subtag hMem => absurd hMem List.not_mem_nil
  | cons subtag rest ih =>
      rw [List.foldlM_cons] at h
      obtain ⟨next, hNext, hRest⟩ := Option.bind_eq_some_iff.mp h
      exact List.forall_mem_cons.mpr ⟨isAlphanum_of_next? hNext, ih hRest⟩

theorem isTagChar_of_isRegularTag {cs : List Char} (h : isRegularTag cs = true) : ∀ c ∈ cs, isTagChar c = true := by
  have hParts : ∀ part ∈ Uri.splitOnChar '-' cs, ∀ c ∈ part, c.isAlphanum = true := by
    unfold isRegularTag at h
    split at h
    · cases h
    · next language subtags hSplit =>
        rw [hSplit]
        simp only [Bool.and_eq_true, List.all_eq_true] at h
        obtain ⟨⟨-, hLanguage⟩, hSubtags⟩ := h
        refine List.forall_mem_cons.mpr ⟨fun c hc => by simp [Char.isAlphanum, hLanguage c hc], ?_⟩
        split at hSubtags
        · next place hPlace => exact isAlphanum_of_foldlM_next? hPlace
        · cases hSubtags
  intro c hc
  rcases Uri.mem_splitOnChar '-' hc with rfl | ⟨part, hPart, hMem⟩
  · decide
  · simp [isTagChar, hParts part hPart c hMem]

theorem isTagChar_of_isLanguageTag {s : String} (h : isLanguageTag s = true) : ∀ c ∈ s.toList, isTagChar c = true := by
  have hLowered : ∀ c ∈ s.toList.map Text.lowerAscii, isTagChar c = true := by
    simp only [isLanguageTag, Bool.or_eq_true] at h
    rcases h with hIrregular | hTag
    · have hAll : (irregularTags.all fun tag => tag.toList.all isTagChar) = true := by decide
      simpa using List.all_eq_true.mp hAll _ (List.contains_iff_mem.mp hIrregular)
    · split at hTag
      · next rest hPrivate =>
          simp only [Bool.and_eq_true, List.all_eq_true] at hTag
          rw [hPrivate]
          exact List.forall_mem_cons.mpr ⟨by decide, List.forall_mem_cons.mpr ⟨by decide, hTag.2⟩⟩
      · exact isTagChar_of_isRegularTag hTag
  intro c hc
  rw [← Text.apply_lowerAscii (f := isTagChar) (by decide) c]
  exact hLowered _ (List.mem_map_of_mem hc)

/-! ## Texts in quotes -/

/-- The character that a backslash and a letter stand for. -/
def shortEscape? : Char → Option Char
  | 't' => some '\t'
  | 'b' => some '\x08'
  | 'n' => some '\n'
  | 'r' => some '\r'
  | 'f' => some '\x0c'
  | '"' => some '"'
  | '\\' => some '\\'
  | _ => none

/-- The text up to the closing quote, and what is behind it. -/
def readQuoted? : List Char → Option (List Char × List Char)
  | [] => none
  | '"' :: rest => some ([], rest)
  | '\\' :: 'u' :: a :: b :: c :: d :: rest =>
    (readQuoted? rest).map (Prod.map (Char.ofNat (Uri.numeralValue 16 [a, b, c, d]) :: ·) id)
  | '\\' :: e :: rest => (shortEscape? e).bind fun c => (readQuoted? rest).map (Prod.map (c :: ·) id)
  | c :: rest => (readQuoted? rest).map (Prod.map (c :: ·) id)

theorem hexDigitValue_hexCapital {n : Nat} (h : n < 16) : Uri.hexDigitValue (hexCapital n) = n := by
  revert n
  decide

theorem numeralValue_fourDigits {n : Nat} (h : n < 65536) : Uri.numeralValue 16 (fourDigits n) = n := by
  have hDigit (m : Nat) : Uri.hexDigitValue (hexCapital (m % 16)) = m % 16 :=
    hexDigitValue_hexCapital (Nat.mod_lt m (by omega))
  simp only [Uri.numeralValue, fourDigits, List.foldl_cons, List.foldl_nil, hDigit]
  omega

/-- A character is written in one of three ways. -/
theorem escapeChar_cases (c : Char) :
    (∃ e, escapeChar c = ['\\', e] ∧ e ≠ 'u' ∧ 0x20 ≤ e.toNat ∧ shortEscape? e = some c) ∨
      (c.toNat < 65536 ∧ escapeChar c = '\\' :: 'u' :: fourDigits c.toNat) ∨
      (c ≠ '"' ∧ c ≠ '\\' ∧ 0x20 ≤ c.toNat ∧ escapeChar c = [c]) := by
  have hCode {n : Nat} (h : (c.toNat == n) = true) : c = Char.ofNat n := by
    rw [← beq_iff_eq.mp h, Char.ofNat_toNat]
  unfold escapeChar
  split
  · next h => exact Or.inl ⟨'t', rfl, by decide, by decide, congrArg some (beq_iff_eq.mp h).symm⟩
  split
  · next h => exact Or.inl ⟨'b', rfl, by decide, by decide, congrArg some (hCode h).symm⟩
  split
  · next h => exact Or.inl ⟨'n', rfl, by decide, by decide, congrArg some (beq_iff_eq.mp h).symm⟩
  split
  · next h => exact Or.inl ⟨'r', rfl, by decide, by decide, congrArg some (beq_iff_eq.mp h).symm⟩
  split
  · next h => exact Or.inl ⟨'f', rfl, by decide, by decide, congrArg some (hCode h).symm⟩
  split
  · next h => exact Or.inl ⟨'"', rfl, by decide, by decide, congrArg some (beq_iff_eq.mp h).symm⟩
  split
  · next h => exact Or.inl ⟨'\\', rfl, by decide, by decide, congrArg some (beq_iff_eq.mp h).symm⟩
  · next hQuote hBackslash =>
      rw [beq_iff_eq] at hQuote hBackslash
      split
      · next h =>
          simp only [Bool.or_eq_true, decide_eq_true_eq, beq_iff_eq] at h
          exact Or.inr (Or.inl ⟨by omega, rfl⟩)
      · next h =>
          simp only [Bool.or_eq_true, decide_eq_true_eq, beq_iff_eq, not_or] at h
          exact Or.inr (Or.inr ⟨hQuote, hBackslash, by omega, rfl⟩)

/-- What is written for one character is read as that character. -/
theorem readQuoted?_escapeChar (c : Char) (rest : List Char) :
    readQuoted? (escapeChar c ++ rest) = (readQuoted? rest).map (Prod.map (c :: ·) id) := by
  rcases escapeChar_cases c with ⟨e, hEscape, hLetter, -, hShort⟩ | ⟨hSmall, hEscape⟩ | ⟨hQuote, hBackslash, -, hEscape⟩
  · rw [hEscape, List.cons_append, List.singleton_append, readQuoted?, hShort, Option.bind_some]
    rintro a b c d rest rfl
    exact absurd rfl hLetter
  · rw [hEscape, fourDigits, List.cons_append, List.cons_append, List.cons_append, List.cons_append,
      List.cons_append, List.singleton_append, readQuoted?]
    have hCode := numeralValue_fourDigits hSmall
    rw [fourDigits] at hCode
    rw [hCode, Char.ofNat_toNat]
  · rw [hEscape, List.singleton_append, readQuoted?]
    · exact hQuote
    · rintro a b c d rest rfl
      exact absurd rfl hBackslash
    · rintro e rest rfl
      exact absurd rfl hBackslash

theorem readQuoted?_quoted (cs rest : List Char) :
    readQuoted? (cs.flatMap escapeChar ++ '"' :: rest) = some (cs, rest) := by
  induction cs with
  | nil => rfl
  | cons c cs ih => rw [List.flatMap_cons, List.append_assoc, readQuoted?_escapeChar, ih, Option.map_some,
      Prod.map_apply, id]

theorem toNat_of_mem_escapeChar {c d : Char} (h : d ∈ escapeChar c) : 0x20 ≤ d.toNat := by
  have hDigit (n : Nat) : 0x20 ≤ (hexCapital (n % 16)).toNat :=
    (by decide : ∀ n < 16, 0x20 ≤ (hexCapital n).toNat) _ (Nat.mod_lt n (by omega))
  rcases escapeChar_cases c with ⟨e, hEscape, -, hLetter, -⟩ | ⟨-, hEscape⟩ | ⟨-, -, hPlain, hEscape⟩
  · rw [hEscape] at h
    simp only [List.mem_cons, List.not_mem_nil, or_false] at h
    rcases h with rfl | rfl
    · decide
    · exact hLetter
  · rw [hEscape, fourDigits] at h
    simp only [List.mem_cons, List.not_mem_nil, or_false] at h
    rcases h with rfl | rfl | rfl | rfl | rfl | rfl
    · decide
    · decide
    · exact hDigit _
    · exact hDigit _
    · exact hDigit _
    · exact hDigit _
  · rw [hEscape, List.mem_singleton] at h
    rwa [h]

/-! ## Lines -/

/-- The text between angle brackets, and what is behind them. -/
def readBracketed? : List Char → Option (List Char × List Char)
  | '<' :: rest =>
    match cut '>' rest with
    | (iri, some after) => some (iri, after)
    | (_, none) => none
  | _ => none

/-- The literal of a value, by what stands between its closing quote and the end of the line. -/
def readLiteral? (value : String) : List Char → Option GivenObject
  | ' ' :: _ => some (.literal value none none)
  | '@' :: rest => some (.literal value (some (String.ofList (cut ' ' rest).1)) none)
  | '^' :: '^' :: rest =>
    (readBracketed? rest).map fun read => .literal value none (some (String.ofList read.1))
  | _ => none

/-- The object of a line that is left with it. -/
def readObject? : List Char → Option GivenObject
  | '"' :: rest => (readQuoted? rest).bind fun read => readLiteral? (String.ofList read.1) read.2
  | rest => (readBracketed? rest).map fun read => .iri (String.ofList read.1)

/-- The statement that is displayed as a line. -/
def GivenStatement.ofLine? (line : String) : Option GivenStatement := do
  let (subject, rest) ← readBracketed? line.toList
  let (predicate, rest) ← readBracketed? (rest.drop 1)
  let object ← readObject? (rest.drop 1)
  some ⟨String.ofList subject, String.ofList predicate, object⟩

/-- A literal has a language or a datatype and not both, and the datatype is not that of plain texts. -/
def GivenObject.IsSeen : GivenObject → Prop
  | iri _ => True
  | literal _ language datatype =>
    (language = none ∨ datatype = none) ∧ datatype ≠ some (Vocabulary.xsd "string")

theorem readBracketed?_bracketed {iri : String} (h : Uri.isIri iri = true) (rest : List Char) :
    readBracketed? ((bracketed iri).toList ++ rest) = some (iri.toList, rest) := by
  have hEnd : '>' ∉ iri.toList := (HoldsIriChars.of_isIri h).notMem (by decide)
  have hText : (bracketed iri).toList ++ rest = '<' :: (iri.toList ++ '>' :: rest) := by simp [bracketed]
  rw [hText, readBracketed?, Uri.cut_append_cons hEnd]

theorem readObject?_quoted (value : String) (rest : List Char) :
    readObject? ((quoted value).toList ++ rest) = readLiteral? value rest := by
  have hText : (quoted value).toList ++ rest = '"' :: (value.toList.flatMap escapeChar ++ '"' :: rest) := by
    simp [quoted, quotedChars]
  rw [hText, readObject?, readQuoted?_quoted, Option.bind_some, String.ofList_toList]

/-- An object is read as it was given, if nothing of it goes unseen. -/
theorem readObject?_display {o : GivenObject} (hValid : o.IsValid) (hSeen : o.IsSeen) :
    readObject? (o.display.toList ++ [' ', '.']) = some o := by
  cases o with
  | iri text =>
      rw [GivenObject.display, readObject?, readBracketed?_bracketed hValid, Option.map_some, String.ofList_toList]
      simp [bracketed]
  | literal value language datatype =>
      obtain ⟨hOne, hString⟩ := hSeen
      cases language with
      | some language =>
          obtain rfl : datatype = none := hOne.resolve_left (by simp)
          have hBlank : ' ' ∉ language.toList := by
            intro hMem
            exact absurd (isTagChar_of_isLanguageTag hValid _ hMem) (by decide)
          have hText : (GivenObject.literal value (some language) none).display.toList ++ [' ', '.'] =
              (quoted value).toList ++ '@' :: (language.toList ++ ' ' :: ['.']) := by
            simp [GivenObject.display]
          rw [hText, readObject?_quoted, readLiteral?, Uri.cut_append_cons hBlank, String.ofList_toList]
      | none =>
          cases datatype with
          | none => exact readObject?_quoted value [' ', '.']
          | some datatype =>
              have hOther : ¬datatype = Vocabulary.xsd "string" := fun hSame => hString (congrArg some hSame)
              have hText : (GivenObject.literal value none (some datatype)).display.toList ++ [' ', '.'] =
                  (quoted value).toList ++ '^' :: '^' :: ((bracketed datatype).toList ++ [' ', '.']) := by
                simp [GivenObject.display, hOther]
              rw [hText, readObject?_quoted, readLiteral?, readBracketed?_bracketed hValid, Option.map_some,
                String.ofList_toList]

/-- A statement is read from its line. -/
theorem ofLine?_display {s : GivenStatement} (hValid : s.IsValid) (hSeen : s.object.IsSeen) :
    GivenStatement.ofLine? s.display = some s := by
  have hText : s.display.toList = (bracketed s.subject).toList ++
      (' ' :: ((bracketed s.predicate).toList ++ (' ' :: (s.object.display.toList ++ [' ', '.'])))) := by
    simp [GivenStatement.display]
  simp only [GivenStatement.ofLine?, hText, readBracketed?_bracketed hValid.subject, List.drop_succ_cons,
    List.drop_zero, readBracketed?_bracketed hValid.predicate, readObject?_display hValid.object hSeen,
    String.ofList_toList, Option.bind_eq_bind, Option.bind_some]

/-! ## Line ends -/

/-- The characters that end a line. -/
def isLineEnd (c : Char) : Bool := c == '\n' || c == '\r'

variable {c : Char}

theorem eq_false_of_isLineEnd (h : isLineEnd c = true) {p : Char → Bool} (hFeed : p '\n' = false)
    (hReturn : p '\r' = false) : p c = false := by
  simp only [isLineEnd, Bool.or_eq_true, beq_iff_eq] at h
  rcases h with rfl | rfl
  · exact hFeed
  · exact hReturn

theorem ne_of_isLineEnd (h : isLineEnd c = true) {d : Char} (hd : 0x20 ≤ d.toNat) : c ≠ d := by
  rintro rfl
  have hSmall := eq_false_of_isLineEnd h (p := fun c => decide (0x20 ≤ c.toNat)) (by decide) (by decide)
  exact of_decide_eq_false hSmall hd

theorem notMem_bracketed (h : isLineEnd c = true) {iri : String} (hIri : Uri.isIri iri = true) :
    c ∉ (bracketed iri).toList := by
  have hText : c ∉ iri.toList :=
    (HoldsIriChars.of_isIri hIri).notMem (eq_false_of_isLineEnd h (by decide) (by decide))
  have hOpen : c ≠ '<' := ne_of_isLineEnd h (by decide)
  have hClose : c ≠ '>' := ne_of_isLineEnd h (by decide)
  simp [bracketed, hText, hOpen, hClose]

theorem notMem_quoted (h : isLineEnd c = true) (value : String) : c ∉ (quoted value).toList := by
  have hQuote : c ≠ '"' := ne_of_isLineEnd h (by decide)
  simp only [quoted, quotedChars, String.toList_ofList, List.cons_append, List.mem_cons, List.mem_append,
    List.mem_flatMap, List.not_mem_nil, or_false, not_or, not_exists]
  exact ⟨hQuote, fun d hd => ne_of_isLineEnd h (toNat_of_mem_escapeChar hd.2) rfl, hQuote⟩

theorem notMem_language (h : isLineEnd c = true) {language : String} (hTag : isLanguageTag language = true) :
    c ∉ language.toList := by
  intro hMem
  have hNoTag := eq_false_of_isLineEnd h (p := isTagChar) (by decide) (by decide)
  rw [isTagChar_of_isLanguageTag hTag c hMem] at hNoTag
  cases hNoTag

theorem notMem_object (h : isLineEnd c = true) {o : GivenObject} (hValid : o.IsValid) : c ∉ o.display.toList := by
  cases o with
  | iri text => exact notMem_bracketed h hValid
  | literal value language datatype =>
      have hAt : c ≠ '@' := ne_of_isLineEnd h (by decide)
      have hCaret : c ≠ '^' := ne_of_isLineEnd h (by decide)
      cases language with
      | some language =>
          simp [GivenObject.display, notMem_quoted h, notMem_language h hValid, hAt]
      | none =>
          cases datatype with
          | none => exact notMem_quoted h value
          | some datatype =>
              rw [GivenObject.display]
              split
              · exact notMem_quoted h value
              · simp [notMem_quoted h, notMem_bracketed h hValid, hCaret]

/-- A statement that can be written is displayed on one line. -/
theorem notMem_display (h : isLineEnd c = true) {s : GivenStatement} (hValid : s.IsValid) :
    c ∉ s.display.toList := by
  have hBlank : c ≠ ' ' := ne_of_isLineEnd h (by decide)
  have hStop : c ≠ '.' := ne_of_isLineEnd h (by decide)
  simp [GivenStatement.display, notMem_bracketed h hValid.subject, notMem_bracketed h hValid.predicate,
    notMem_object h hValid.object, hBlank, hStop]

/-- **A line tells its statement.**  Let the IRIs and the language tag of a statement be such as can be written, and
let its literal have a language or a datatype but not both, and not the datatype of plain texts.  Then it is displayed
without a line feed or a carriage return, and no other such statement is displayed in the same way. -/
theorem display_tells_statement {s : GivenStatement} (hValid : s.IsValid) (hSeen : s.object.IsSeen) :
    '\n' ∉ s.display.toList ∧ '\r' ∉ s.display.toList ∧
      ∀ t : GivenStatement, t.IsValid → t.object.IsSeen → (t.display = s.display ↔ t = s) := by
  refine ⟨notMem_display (by decide) hValid, notMem_display (by decide) hValid, fun t hValid' hSeen' => ?_⟩
  refine ⟨fun hSame => ?_, fun hSame => congrArg GivenStatement.display hSame⟩
  have hRead := ofLine?_display hValid'
  rw [hSame, ofLine?_display hValid hSeen] at hRead
  exact (Option.some.inj (hRead hSeen')).symm

/-- A title that ends like a title in a language, over two lines, and a title in that language. -/
theorem display_tells_statement_titles :
    let plain : GivenStatement := ⟨"http://h/1", "http://h/title", .literal "A \"new\nstart\"@en" none none⟩
    let tagged : GivenStatement := ⟨"http://h/1", "http://h/title", .literal "A \"new\nstart" (some "en") none⟩
    (plain.IsValid ∧ plain.object.IsSeen ∧ tagged.IsValid ∧ tagged.object.IsSeen) ∧
      '\n' ∉ plain.display.toList ∧ '\r' ∉ plain.display.toList ∧ tagged.display ≠ plain.display := by
  intro plain tagged
  have hPlain : plain.IsValid := GivenStatement.offence?_eq_none_iff.mp (by decide +kernel)
  have hTagged : tagged.IsValid := GivenStatement.offence?_eq_none_iff.mp (by decide +kernel)
  have hPlainSeen : plain.object.IsSeen := ⟨Or.inl rfl, by simp⟩
  have hTaggedSeen : tagged.object.IsSeen := ⟨Or.inr rfl, by simp⟩
  obtain ⟨hFeed, hReturn, hTells⟩ := display_tells_statement hPlain hPlainSeen
  have hOther : tagged ≠ plain := by decide
  exact ⟨⟨hPlain, hPlainSeen, hTagged, hTaggedSeen⟩, hFeed, hReturn,
    fun hSame => hOther ((hTells tagged hTagged hTaggedSeen).mp hSame)⟩

end CatalogGraph.Rdf
