import CatalogGraph.Regex.Search

/-!
# Removing single characters

A pattern that is one set of characters matches each character of the set on its own, and nothing else.  So a text
without its matches is the text without these characters (`TakesOne.remove_eq_filter`).

A search passes the characters that are not in the set and ends at the first one that is
(`TakesOne.search_eq_none`, `TakesOne.search_eq_some`).  No match is empty, so the next search starts behind it.
-/

namespace CatalogGraph.Regex

variable {re : Regex} {text : List Char} {position fuel : Nat}

/-- A search starts with one thread. -/
theorem startThreads_nil (re : Regex) (position : Nat) :
    startThreads re position [] none = [.begin re.entry position] := rfl

theorem matchesFrom_of_search_eq_none (h : search re text position = none) (last : Option Nat) :
    matchesFrom re text (fuel + 1) position last = [] := by
  rw [matchesFrom]
  simp only [h]

/-- A match that is not empty is taken, wherever the match before it ended. -/
theorem matchesFrom_of_search_eq_some {m : Match} (h : search re text position = some m)
    (hNotEmpty : m.span.start < m.span.stop) (last : Option Nat) :
    matchesFrom re text (fuel + 1) position last =
      m :: matchesFrom re text fuel m.span.stop (some m.span.stop) := by
  have hSpan : (m.span.start == m.span.stop) = false := beq_false_of_ne (Nat.ne_of_lt hNotEmpty)
  rw [matchesFrom]
  simp only [h, hSpan, Bool.false_and, Bool.false_eq_true, if_false]

/-- A regular expression that takes one character of a set. -/
structure TakesOne (re : Regex) (s : CharSet) : Prop where
  entry : re.entry = 1
  program : re.program = #[.accept, .one s 0]

/-- A pattern that is read as a set takes one character of it. -/
theorem exists_takesOne_of_read? {source : String} {s : CharSet} (h : Pattern.read? source = some (.one s)) :
    ∃ re, compile? source = some re ∧ TakesOne re s :=
  ⟨_, congrArg (Option.map _) h, rfl, rfl⟩

namespace TakesOne

variable {s : CharSet} {c : Char} {passed rest : List Char}

/-- The thread that started at a place and has taken its character there. -/
def arrived (start : Nat) : Thread := ⟨0, start, [], []⟩

/-! ## At one place -/

theorem passPlace_begin_end (h : TakesOne re s) (before : Option Char) (position : Nat) :
    passPlace re before none position [.begin re.entry position] none = ([], none) := by
  simp [passPlace, settleThreads, takeChar, Thread.begin, h.entry, h.program]

theorem passPlace_begin (h : TakesOne re s) (before : Option Char) (c : Char) (position : Nat) :
    passPlace re before (some c) position [.begin re.entry position] none =
      (if s.contains c then [arrived position] else [], none) := by
  cases hc : s.contains c <;>
    simp [passPlace, settleThreads, takeChar, Thread.begin, arrived, h.entry, h.program, hc]

/-- The thread that has arrived is preferred to one that starts where it ends. -/
theorem passPlace_arrived (h : TakesOne re s) (before after : Option Char) (start position : Nat) :
    passPlace re before after position [arrived start, .begin re.entry position] none =
      ([], some ((arrived start).toMatch re.groupCount position)) := by
  simp [passPlace, settleThreads, takeChar, Thread.begin, arrived, h.entry, h.program]

/-! ## Along the text -/

theorem follow_nil (h : TakesOne re s) (before : Option Char) (position : Nat) :
    follow re before position [] none [] = none := by
  rw [follow, startThreads_nil, h.passPlace_begin_end]

/-- A match that has been found stays when no thread is left. -/
theorem follow_found (re : Regex) (before : Option Char) (position : Nat) (m : Match) (cs : List Char) :
    follow re before position [] (some m) cs = some m := by
  cases cs with
  | nil => rfl
  | cons c cs => rfl

/-- A character outside of the set is passed. -/
theorem follow_cons_of_not_contains (h : TakesOne re s) (hc : s.contains c = false) (before : Option Char)
    (position : Nat) (cs : List Char) :
    follow re before position [] none (c :: cs) = follow re (some c) (position + 1) [] none cs := by
  rw [follow, startThreads_nil]
  simp [h.passPlace_begin, hc]

/-- A character of the set is a match. -/
theorem follow_cons_of_contains (h : TakesOne re s) (hc : s.contains c = true) (before : Option Char)
    (position : Nat) (cs : List Char) :
    follow re before position [] none (c :: cs) =
      some ((arrived position).toMatch re.groupCount (position + 1)) := by
  have hNext : startThreads re (position + 1) [arrived position] none =
      [arrived position, .begin re.entry (position + 1)] := rfl
  rw [follow, startThreads_nil]
  simp only [h.passPlace_begin, hc, if_true, List.isEmpty_cons, Bool.false_eq_true, if_false]
  -- the match is told at the next place only, where the text may end
  cases cs with
  | nil => rw [follow, hNext, h.passPlace_arrived]
  | cons d cs =>
      rw [follow, hNext]
      simp only [h.passPlace_arrived, List.isEmpty_cons, Bool.false_eq_true, if_false]
      exact follow_found re (some d) _ _ cs

theorem follow_append (h : TakesOne re s) (hPassed : ∀ d ∈ passed, s.contains d = false) (before : Option Char)
    (position : Nat) (cs : List Char) : ∃ before',
    follow re before position [] none (passed ++ cs) =
      follow re before' (position + passed.length) [] none cs := by
  induction passed generalizing before position with
  | nil => exact ⟨before, rfl⟩
  | cons d passed ih =>
      obtain ⟨hFirst, hRest⟩ := List.forall_mem_cons.mp hPassed
      obtain ⟨before', hFollow⟩ := ih hRest (some d) (position + 1)
      refine ⟨before', ?_⟩
      rw [List.cons_append, h.follow_cons_of_not_contains hFirst, hFollow, List.length_cons,
        Nat.add_comm passed.length 1, ← Nat.add_assoc]

/-- Nothing is found where no character of the set is left. -/
theorem search_eq_none (h : TakesOne re s) (hNone : ∀ c ∈ text.drop position, s.contains c = false) :
    search re text position = none := by
  obtain ⟨before', hFollow⟩ := h.follow_append hNone ((text.take position).getLast?) position []
  rw [search, ← List.append_nil (text.drop position), hFollow, h.follow_nil]

/-- The first character of the set is found. -/
theorem search_eq_some (h : TakesOne re s) (hText : text.drop position = passed ++ c :: rest)
    (hPassed : ∀ d ∈ passed, s.contains d = false) (hc : s.contains c = true) :
    ∃ m, search re text position = some m ∧
      m.span = ⟨position + passed.length, position + passed.length + 1⟩ := by
  obtain ⟨before', hFollow⟩ := h.follow_append hPassed ((text.take position).getLast?) position (c :: rest)
  rw [search, hText, hFollow, h.follow_cons_of_contains hc]
  exact ⟨_, rfl, rfl⟩

/-- What is left behind the first character of the set. -/
theorem drop_behind (hText : text.drop position = passed ++ c :: rest) :
    text.drop (position + passed.length + 1) = rest := by
  rw [Nat.add_assoc, ← List.drop_drop, hText, ← List.drop_drop, List.drop_left, List.drop_one, List.tail_cons]

theorem outsideOf_matchesFrom (h : TakesOne re s) (last : Option Nat) (hFuel : text.length - position < fuel) :
    outsideOf text position ((matchesFrom re text fuel position last).map Match.span) =
      (text.drop position).filter fun c => !s.contains c := by
  -- by induction on the rounds: each of them ends behind a character, so there are enough of them
  induction fuel generalizing position last with
  | zero => exact absurd hFuel (Nat.not_lt_zero _)
  | succ fuel ih =>
      cases hFound : (text.drop position).find? s.contains with
      | none =>
          have hNone : ∀ c ∈ text.drop position, s.contains c = false := by simpa using hFound
          have hAll : ∀ c ∈ text.drop position, (!s.contains c) = true := by simpa using hNone
          rw [matchesFrom_of_search_eq_none (h.search_eq_none hNone), List.map_nil, outsideOf,
            List.filter_eq_self.mpr hAll]
      | some c =>
          obtain ⟨hc, passed, rest, hText, hPassed⟩ := List.find?_eq_some_iff_append.mp hFound
          obtain ⟨m, hSearch, hSpan⟩ := h.search_eq_some hText (by simpa using hPassed) hc
          have hNotEmpty : m.span.start < m.span.stop := by rw [hSpan]; exact Nat.lt_succ_self _
          have hGap : (Span.mk position (position + passed.length)).chars text = passed := by
            rw [Span.chars, hText, Nat.add_sub_cancel_left, List.take_left]
          have hFewer : text.length - (position + passed.length + 1) < fuel := by
            have hLength := congrArg List.length hText
            rw [List.length_drop, List.length_append, List.length_cons] at hLength
            omega
          rw [matchesFrom_of_search_eq_some hSearch hNotEmpty, List.map_cons, outsideOf, hSpan, hGap, ih _ hFewer,
            drop_behind hText, hText, List.filter_append, List.filter_eq_self.mpr hPassed,
            List.filter_cons_of_neg (by simpa using hc)]

/-- What is removed are the characters of the set. -/
theorem remove_eq_filter (h : TakesOne re s) (text : String) :
    remove re text = String.ofList (text.toList.filter fun c => !s.contains c) := by
  have hFuel : text.toList.length - 0 < text.toList.length + 1 := Nat.lt_succ_self _
  rw [remove, matchesIn, h.outsideOf_matchesFrom none hFuel, List.drop_zero]

end TakesOne

end CatalogGraph.Regex
