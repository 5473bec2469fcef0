import CatalogGraph.Conversion.SubjectUri
import CatalogGraph.Proofs.IriParts

/-!
# URIs of records as IRIs

Whether the URI of a record is an absolute IRI is decided by the host alone (`isIri_subjectUri`).  The
identifier only comes in as the hexadecimal digits at the end.  Wherever a host puts the end of the URI, into
the path, or by a `?` or `#` into the query or the fragment, letters and digits may stand there; and as
`p` stands before them, they cannot complete a percent sign that the host has left open.
-/

namespace CatalogGraph

namespace Digest.Md5

theorem isAlphanum_hexChar {n : Nat} (h : n < 16) : (hexChar n).isAlphanum = true := by
  revert n
  decide

theorem isAlphanum_of_mem_hexWord {w : UInt32} {c : Char} (h : c ∈ hexWord w) :
    c.isAlphanum = true := by
  unfold hexWord at h
  obtain ⟨b, -, hDigit⟩ := List.mem_flatMap.mp h
  have hByte : b.toNat < 256 := b.toNat_lt
  rcases List.mem_cons.mp hDigit with rfl | hLow
  · exact isAlphanum_hexChar (by omega)
  · rw [List.mem_singleton.mp hLow]
    exact isAlphanum_hexChar (by omega)

/-- A digest is written in letters and digits. -/
theorem isAlphanum_of_mem_hex {text : String} {c : Char} (h : c ∈ (hex text).toList) :
    c.isAlphanum = true := by
  unfold hex at h
  simp only [String.toList_ofList, List.mem_append] at h
  rcases h with ((ha | hb) | hc) | hd
  · exact isAlphanum_of_mem_hexWord ha
  · exact isAlphanum_of_mem_hexWord hb
  · exact isAlphanum_of_mem_hexWord hc
  · exact isAlphanum_of_mem_hexWord hd

end Digest.Md5

namespace Uri

open Text

/-! ## What follows the scheme -/

/-- Whether a text may follow `//` in an IRI: an authority and a path, and perhaps a query after `?` and a
fragment after `#`. -/
def isHierarchy (cs : List Char) : Bool :=
  let (cs, fragment) := cut '#' cs
  let (cs, query) := cut '?' cs
  let authority := cs.takeWhile (· != '/')
  isAuthority authority && isEncoded isPathChar (cs.drop authority.length) &&
    query.all (isEncoded isQueryChar) && fragment.all (isEncoded isFragmentChar)

theorem isIriChars_http (cs : List Char) :
    isIriChars ("http://".toList ++ cs) = isHierarchy cs := by
  have hColon : ':' ∉ "http".toList := by decide
  have hScheme : cut ':' ("http://".toList ++ cs) = ("http".toList, some ('/' :: '/' :: cs)) :=
    cut_append_cons hColon
  have hHttp : isScheme "http".toList = true := by decide
  have hHash : '#' ≠ '/' := by decide
  have hMark : '?' ≠ '/' := by decide
  unfold isIriChars iriParts? isHierarchy
  simp only [hScheme, cut_cons hHash, cut_cons hMark, Option.any_some, IriParts.isValid, hHttp,
    Bool.true_and, Option.all_some]

/-! ## Letters and digits at the end -/

theorem isEncoded_cons {allowed : Char → Bool} {c : Char} (h : c ≠ '%') (cs : List Char) :
    isEncoded allowed (c :: cs) = (allowed c && isEncoded allowed cs) := by
  have hPercent : (c != '%') = true := bne_iff_ne.mpr h
  rw [isEncoded]
  · rw [hPercent, Bool.true_and]
  · rintro a b rest rfl
    exact absurd rfl h

/-- Letters and digits are encoded, if they are allowed. -/
theorem isEncoded_of_isAlphanum {allowed : Char → Bool}
    (hAllowed : ∀ c, c.isAlphanum = true → allowed c = true) {digits : List Char}
    (h : ∀ c ∈ digits, c.isAlphanum = true) : isEncoded allowed digits = true := by
  induction digits with
  | nil => rw [isEncoded]
  | cons c rest ih =>
      obtain ⟨hc, hRest⟩ := List.forall_mem_cons.mp h
      rw [isEncoded_cons (ne_of_isAlphanum hc (by decide)), hAllowed c hc, ih hRest, Bool.and_true]

/-- What follows `p` is encoded or not on its own: no percent sign before can reach it. -/
theorem isEncoded_append_p (allowed : Char → Bool) (digits cs : List Char) :
    isEncoded allowed (cs ++ 'p' :: digits) =
      (isEncoded allowed (cs ++ ['p']) && isEncoded allowed digits) := by
  have hp : isHexDigit 'p' = false := by decide
  fun_induction isEncoded allowed cs with
  | case1 =>
      have hLetter : 'p' ≠ '%' := by decide
      simp only [List.nil_append, isEncoded_cons hLetter, isEncoded, Bool.and_true]
  | case2 a b rest ih => simp only [List.cons_append, isEncoded, ih, Bool.and_assoc]
  | case3 c rest hNoCode ih =>
      by_cases hPercent : c = '%'
      · -- a percent sign with less than two characters before `p`
        subst hPercent
        match rest, digits with
        | [], [] => simp [isEncoded]
        | [], d :: digits => simp [isEncoded, hp]
        | [a], digits => simp [isEncoded, hp]
        | a :: b :: rest, _ => exact absurd rfl (hNoCode a b rest rfl)
      · simp only [List.cons_append, isEncoded_cons hPercent, ih, Bool.and_assoc]

/-- Letters and digits after `p` may as well be left out. -/
theorem isEncoded_append_digits {allowed : Char → Bool}
    (hAllowed : ∀ c, c.isAlphanum = true → allowed c = true) {digits : List Char}
    (h : ∀ c ∈ digits, c.isAlphanum = true) (cs : List Char) :
    isEncoded allowed (cs ++ 'p' :: digits) = isEncoded allowed (cs ++ ['p']) := by
  rw [isEncoded_append_p, isEncoded_of_isAlphanum hAllowed h, Bool.and_true]

theorem isPathChar_of_isAlphanum {c : Char} (h : c.isAlphanum = true) : isPathChar c = true := by
  simp [isPathChar, isNameChar, isUnreserved, h]

theorem isFragmentChar_of_isAlphanum {c : Char} (h : c.isAlphanum = true) :
    isFragmentChar c = true := by
  rw [isFragmentChar, isPathChar_of_isAlphanum h, Bool.true_or]

theorem isQueryChar_of_isAlphanum {c : Char} (h : c.isAlphanum = true) : isQueryChar c = true := by
  rw [isQueryChar, isFragmentChar_of_isAlphanum h, Bool.true_or]

/-- Letters and digits at the end of an IRI behind a slash may as well be left out, if `p` stands before
them.  They end the fragment if there is one, or else the query or the path. -/
theorem isHierarchy_append_digits {cs digits : List Char} (hSlash : '/' ∈ cs)
    (h : ∀ c ∈ digits, c.isAlphanum = true) :
    isHierarchy (cs ++ 'p' :: digits) = isHierarchy (cs ++ ['p']) := by
  have hNotIn : ∀ {sep : Char}, sep.isAlphanum = false → sep ∉ cs →
      ∀ ds : List Char, (∀ c ∈ ds, c.isAlphanum = true) → sep ∉ cs ++ 'p' :: ds := by
    intro sep hSep hFront ds hDigits hMem
    rcases List.mem_append.mp hMem with hMem | hMem
    · exact hFront hMem
    rcases List.mem_cons.mp hMem with rfl | hMem
    · exact absurd hSep (by decide)
    · exact ne_of_isAlphanum (hDigits sep hMem) hSep rfl
  have hNone : ∀ c ∈ ([] : List Char), c.isAlphanum = true := by simp
  unfold isHierarchy
  by_cases hHash : '#' ∈ cs
  · obtain ⟨before, after, rfl, hBefore⟩ := List.eq_append_cons_of_mem hHash
    simp only [List.append_assoc, List.cons_append, cut_append_cons hBefore, Option.all_some,
      isEncoded_append_digits (fun _ => isFragmentChar_of_isAlphanum) h]
  have hHash' : '#'.isAlphanum = false := by decide
  rw [cut_of_notMem (hNotIn hHash' hHash _ h), cut_of_notMem (hNotIn hHash' hHash _ hNone)]
  by_cases hMark : '?' ∈ cs
  · obtain ⟨before, after, rfl, hBefore⟩ := List.eq_append_cons_of_mem hMark
    simp only [List.append_assoc, List.cons_append, cut_append_cons hBefore, Option.all_some,
      isEncoded_append_digits (fun _ => isQueryChar_of_isAlphanum) h]
  have hMark' : '?'.isAlphanum = false := by decide
  simp only [cut_of_notMem (hNotIn hMark' hMark _ h), cut_of_notMem (hNotIn hMark' hMark _ hNone)]
  obtain ⟨before, after, rfl, hBefore⟩ := List.eq_append_cons_of_mem hSlash
  have hPath : isEncoded isPathChar ('/' :: after ++ 'p' :: digits) =
      isEncoded isPathChar ('/' :: after ++ ['p']) :=
    isEncoded_append_digits (fun _ => isPathChar_of_isAlphanum) h _
  simp only [List.append_assoc, List.cons_append, takeWhile_append_cons hBefore, List.drop_left]
  rw [← List.cons_append, hPath, List.cons_append]

end Uri

namespace Conversion

open CatalogGraph.Uri

/-- The URI of a record before its digest. -/
def subjectBase (host : String) : String := "http://" ++ host ++ "/publication/p"

/-- **The host decides** whether the URI of a record is an absolute IRI; the identifier of the record has no
part in it. -/
theorem isIri_subjectUri (host identifier : String) :
    isIri (subjectUri host identifier) = isIri (subjectBase host) := by
  have hSlash : '/' ∈ host.toList ++ "/publication/".toList := by simp
  have hDigits : ∀ c ∈ (Digest.Md5.hex (integerReading identifier)).toList, c.isAlphanum = true :=
    fun _ => Digest.Md5.isAlphanum_of_mem_hex
  have hBase : (subjectBase host).toList =
      "http://".toList ++ (host.toList ++ "/publication/".toList ++ ['p']) := by
    simp [subjectBase]
  have hWhole : (subjectUri host identifier).toList = "http://".toList ++
      (host.toList ++ "/publication/".toList ++
        'p' :: (Digest.Md5.hex (integerReading identifier)).toList) := by
    simp [subjectUri]
  rw [isIri, isIri, hBase, hWhole, isIriChars_http, isIriChars_http,
    isHierarchy_append_digits hSlash hDigits]

end Conversion

end CatalogGraph
