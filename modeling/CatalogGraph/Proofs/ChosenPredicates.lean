import CatalogGraph.Proofs.MissingKeys

/-!
# Chosen predicates

What a condition chooses, told from what it looks at.

* `Substitutions.lookup_of_missing`, `Substitutions.lookup_of_found` — a table answers by the keys in a text alone:
  the first key that it lacks is a fault, and without such a key the last one is replaced;
* `conditionForm_congr` — a condition does not see full stops, hyphens and the case of ASCII letters;
* `chooseBy_missing_first`, `chooseBy_missing_second`, `chooseBy_found` — both indicators are looked up, the first one
  first; if no key is missing, the second one goes before the first and the fallback comes last.
-/

namespace CatalogGraph

open CatalogGraph.Mapping CatalogGraph.Marc

namespace Mapping.Substitutions

variable {α : Type} {t : Substitutions α}

/-- The first key in a text that the table lacks. -/
def firstMissing? (t : Substitutions α) (input : String) : Option String :=
  (t.keysIn input).find? fun key => (t.replacements.find? key).isNone

/-- The replacement of the last key in a text. -/
def lastHit? (t : Substitutions α) (input : String) : Option α :=
  (t.keysIn input).getLast?.bind t.replacements.find?

theorem replaceKeys_of_missing {keys : List String} {key : String}
    (h : keys.find? (fun key => (t.replacements.find? key).isNone) = some key) (found : Option α) :
    t.replaceKeys keys found = .error (Cause.missingSubstitution key) := by
  induction keys generalizing found with
  | nil => exact absurd h (by simp)
  | cons first rest ih =>
      rw [replaceKeys]
      cases hFirst : t.replacements.find? first with
      | none =>
          rw [List.find?_cons_of_pos (by rw [hFirst]; rfl)] at h
          rw [Option.some.inj h]
      | some value =>
          rw [List.find?_cons_of_neg (by simp [hFirst])] at h
          exact ih h (some value)

theorem replaceKeys_of_found {keys : List String}
    (h : keys.find? (fun key => (t.replacements.find? key).isNone) = none) (found : Option α) :
    t.replaceKeys keys found = .ok ((keys.getLast?.bind t.replacements.find?).or found) := by
  induction keys generalizing found with
  | nil => rfl
  | cons first rest ih =>
      rw [replaceKeys]
      cases hFirst : t.replacements.find? first with
      | none =>
          rw [List.find?_cons_of_pos (by rw [hFirst]; rfl)] at h
          cases h
      | some value =>
          rw [List.find?_cons_of_neg (by simp [hFirst])] at h
          simp only [ih h]
          -- what was found before counts only if no key is left
          cases rest with
          | nil => simp [hFirst]
          | cons next more =>
              have hLast : (next :: more).getLast?.bind t.replacements.find? ≠ none := by
                obtain ⟨last, hLast⟩ := List.getLast?_isSome.mpr (List.cons_ne_nil next more) |>
                  Option.isSome_iff_exists.mp
                have hHit := List.find?_eq_none.mp h last (List.mem_of_getLast? hLast)
                simpa [hLast] using hHit
              obtain ⟨hit, hHit⟩ := Option.ne_none_iff_exists'.mp hLast
              rw [List.getLast?_cons_cons, hHit]
              rfl

/-- A key that the table lacks is a fault, and the first one is told. -/
theorem lookup_of_missing {input key : String} (h : t.firstMissing? input = some key) :
    t.lookup input = .error (Cause.missingSubstitution key) :=
  replaceKeys_of_missing h none

/-- If the table lacks no key, the last one is replaced. -/
theorem lookup_of_found {input : String} (h : t.firstMissing? input = none) :
    t.lookup input = .ok (t.lastHit? input) :=
  (replaceKeys_of_found h none).trans (congrArg Except.ok Option.or_none)

end Mapping.Substitutions

namespace Conversion

/-! ## By subfield -/

/-- Two values are the same but for full stops, hyphens and the case of ASCII letters. -/
def LooksAlike (s t : String) : Prop :=
  (s.toList.filter fun c => c != '.' && c != '-').map Text.lowerAscii =
    (t.toList.filter fun c => c != '.' && c != '-').map Text.lowerAscii

instance (s t : String) : Decidable (LooksAlike s t) := inferInstanceAs (Decidable (_ = _))

theorem conditionForm_congr {s t : String} (h : LooksAlike s t) : conditionForm s = conditionForm t := by
  have hForm (cs : List Char) : Text.lowercaseAfter [] cs = Text.lowercaseAfter [] (cs.map Text.lowerAscii) :=
    (Text.lowercaseAfter_lowerAscii [] cs).symm
  rw [conditionForm, conditionForm, hForm, hForm (t.toList.filter _), h]

/-- The first subfield that a code names. -/
def firstNamed? (code : String) (f : DataField) : Option Subfield :=
  f.subfields.find? fun s => codeMatches code s.code

theorem siblingValue?_of_firstNamed? {code : String} {f : DataField} {s : Subfield}
    (h : firstNamed? code f = some s) (hValue : s.value ≠ "") : siblingValue? code f = some s.value := by
  rw [firstNamed?] at h
  simp [siblingValue?, h, hValue]

theorem siblingValue?_eq_none {code : String} {f : DataField}
    (h : ∀ s, firstNamed? code f = some s → s.value = "") : siblingValue? code f = none := by
  unfold firstNamed? at h
  unfold siblingValue?
  cases hFirst : f.subfields.find? (fun s => codeMatches code s.code) with
  | none => rfl
  | some s => simp [h s hFirst]

/-! ## By indicators -/

variable {first second : Option (Substitutions Term)} {fallback : Term} {f : DataField} {key : String}

/-- The first key in an indicator that a table lacks, if there is a table. -/
def missingKey? (table : Option (Substitutions Term)) (indicator : Char) : Option String :=
  table.bind (·.firstMissing? (String.singleton indicator))

/-- The term that a table has for an indicator, if there is a table. -/
def termFor? (table : Option (Substitutions Term)) (indicator : Char) : Option Term :=
  table.bind (·.lastHit? (String.singleton indicator))

theorem lookupIn_of_missing {table : Option (Substitutions Term)} {indicator : Char}
    (h : missingKey? table indicator = some key) :
    lookupIn table (String.singleton indicator) = .error (Cause.missingSubstitution key) := by
  cases table with
  | none => cases h
  | some t => exact Substitutions.lookup_of_missing h

theorem lookupIn_of_found {table : Option (Substitutions Term)} {indicator : Char}
    (h : missingKey? table indicator = none) :
    lookupIn table (String.singleton indicator) = .ok (termFor? table indicator) := by
  cases table with
  | none => rfl
  | some t => exact Substitutions.lookup_of_found h

theorem chooseBy_missing_first (h : missingKey? first f.indicator1 = some key) :
    chooseBy (.byIndicators first second fallback) f = .error (Cause.missingSubstitution key) := by
  rw [chooseBy, lookupIn_of_missing h]
  rfl

theorem chooseBy_missing_second (hFirst : missingKey? first f.indicator1 = none)
    (hSecond : missingKey? second f.indicator2 = some key) :
    chooseBy (.byIndicators first second fallback) f = .error (Cause.missingSubstitution key) := by
  rw [chooseBy, lookupIn_of_found hFirst, lookupIn_of_missing hSecond]
  rfl

theorem chooseBy_found (hFirst : missingKey? first f.indicator1 = none)
    (hSecond : missingKey? second f.indicator2 = none) :
    chooseBy (.byIndicators first second fallback) f =
      .ok (((termFor? second f.indicator2).or (termFor? first f.indicator1)).getD fallback) := by
  rw [chooseBy, lookupIn_of_found hFirst, lookupIn_of_found hSecond]
  rfl

/-! ## Conditions -/

/-- **A condition chooses one of its terms, by what it looks at.**  A condition on a subfield looks at the first
subfield with its code, and at that without full stops, hyphens and the case of ASCII letters: two fields in which
these values look alike come to the same, term or fault, whatever else they hold.  Where there is no such subfield or
its value is empty, the fallback is taken, whatever comes behind it.  A condition on indicators looks at both of them
and at nothing else.  A key that one of its tables lacks is a fault, whatever the other table has, and the first
indicator's is told first.  Otherwise the term for the second indicator is taken, or else that for the first one, or
else the fallback. -/
theorem choosePredicate_conditional (c : Condition) :
    (∀ f term, choosePredicate (.conditional c) f = .ok term → term ∈ c.terms) ∧
    (∀ code table fallback, c = .bySubfield code table fallback →
      (∀ f f' s s', firstNamed? code f = some s → firstNamed? code f' = some s' → s.value ≠ "" → s'.value ≠ "" →
        LooksAlike s.value s'.value → choosePredicate (.conditional c) f = choosePredicate (.conditional c) f') ∧
      ∀ f, (∀ s, firstNamed? code f = some s → s.value = "") →
        choosePredicate (.conditional c) f = .ok fallback) ∧
    ∀ first second fallback, c = .byIndicators first second fallback → ∀ f,
      (∀ f', f.indicator1 = f'.indicator1 → f.indicator2 = f'.indicator2 →
        choosePredicate (.conditional c) f = choosePredicate (.conditional c) f') ∧
      (∀ key, missingKey? first f.indicator1 = some key →
        choosePredicate (.conditional c) f = .error (Cause.missingSubstitution key)) ∧
      (∀ key, missingKey? first f.indicator1 = none → missingKey? second f.indicator2 = some key →
        choosePredicate (.conditional c) f = .error (Cause.missingSubstitution key)) ∧
      (missingKey? first f.indicator1 = none → missingKey? second f.indicator2 = none →
        choosePredicate (.conditional c) f =
          .ok (((termFor? second f.indicator2).or (termFor? first f.indicator1)).getD fallback)) := by
  refine ⟨fun f term => mem_terms_of_choosePredicate, ?_, ?_⟩
  · rintro code table fallback rfl
    refine ⟨fun f f' s s' hFirst hFirst' hValue hValue' hAlike => ?_, fun f hNone => ?_⟩
    · rw [choosePredicate, choosePredicate, chooseBy, chooseBy, siblingValue?_of_firstNamed? hFirst hValue,
        siblingValue?_of_firstNamed? hFirst' hValue']
      simp only [conditionForm_congr hAlike]
    · rw [choosePredicate, chooseBy, siblingValue?_eq_none hNone]
  · rintro first second fallback rfl f
    refine ⟨fun f' hFirst hSecond => ?_, fun key => chooseBy_missing_first, fun key => chooseBy_missing_second,
      chooseBy_found⟩
    rw [choosePredicate, choosePredicate, chooseBy, chooseBy, hFirst, hSecond]

/-- Two contributors with the same role, in other letters and before another one.  The indicators of the title have
one table each: the first finds a term, but the second lacks its key. -/
theorem choosePredicate_conditional_roles :
    let roles : Substitutions Term := ⟨(Regex.compile? "^(red|overs)$").get (by decide +kernel),
      .ofList [("red", .iri "urn:editor"), ("overs", .iri "urn:translator")]⟩
    let short : Substitutions Term := ⟨(Regex.compile? "1").get (by decide +kernel),
      .ofList [("1", .iri "urn:short")]⟩
    let other : Substitutions Term := ⟨(Regex.compile? "[0-9]").get (by decide +kernel),
      .ofList [("0", .iri "urn:alternative")]⟩
    let byRole : Condition := .bySubfield "e" roles (.iri "urn:creator")
    let byIndicators : Condition := .byIndicators (some short) (some other) (.iri "urn:title")
    let hamsun : DataField := ⟨"700", '1', ' ', [⟨'a', "Hamsun, Knut"⟩, ⟨'e', "Red."⟩]⟩
    let undset : DataField := ⟨"700", '0', ' ', [⟨'e', "-rED"⟩, ⟨'e', "overs."⟩, ⟨'a', "Undset, Sigrid"⟩]⟩
    let title : DataField := ⟨"246", '1', '4', []⟩
    (firstNamed? "e" hamsun = some ⟨'e', "Red."⟩ ∧ firstNamed? "e" undset = some ⟨'e', "-rED"⟩ ∧
      LooksAlike "Red." "-rED" ∧
      choosePredicate (.conditional byRole) hamsun = choosePredicate (.conditional byRole) undset) ∧
    termFor? (some short) title.indicator1 = some (.iri "urn:short") ∧
    missingKey? (some other) title.indicator2 = some "4" ∧
    choosePredicate (.conditional byIndicators) title = .error (Cause.missingSubstitution "4") := by
  intro roles short other byRole byIndicators hamsun undset title
  have hHamsun : firstNamed? "e" hamsun = some ⟨'e', "Red."⟩ := by decide +kernel
  have hUndset : firstNamed? "e" undset = some ⟨'e', "-rED"⟩ := by decide +kernel
  have hAlike : LooksAlike "Red." "-rED" := by decide +kernel
  have hFound : missingKey? (some short) title.indicator1 = none := by decide +kernel
  have hMissing : missingKey? (some other) title.indicator2 = some "4" := by decide +kernel
  obtain ⟨-, hBySubfield, -⟩ := choosePredicate_conditional byRole
  obtain ⟨-, -, hByIndicators⟩ := choosePredicate_conditional byIndicators
  obtain ⟨hSame, -⟩ := hBySubfield "e" roles _ rfl
  obtain ⟨-, -, hSecond, -⟩ := hByIndicators _ _ _ rfl title
  exact ⟨⟨hHamsun, hUndset, hAlike,
      hSame hamsun undset _ _ hHamsun hUndset (by decide) (by decide) hAlike⟩,
    by decide +kernel, hMissing, hSecond "4" hFound hMissing⟩

end Conversion

end CatalogGraph
