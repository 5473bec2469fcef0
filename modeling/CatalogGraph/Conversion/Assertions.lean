import CatalogGraph.Fault
import CatalogGraph.Rdf.Statement

/-!
# Assertions

What a step of a conversion comes to: the statements it makes, in order, up to the fault that stops it if
there is one.  Statements made before the fault stay made.  A step never looks at what was asserted before
it, so all it does to the statements made so far is to add its own at their end (`addTo`).

Steps are put one after the other by `andThen`, and over a list by `each`; the first fault ends them all.
The small lemmas say that `andThen` is associative with `nothing` as its unit, that it is the threading of
one list of statements through both steps (`addTo_andThen`), and how `each` follows a list.  Each statement comes from
one of the steps (`mem_statements_andThen`, `mem_statements_each`).
-/

namespace CatalogGraph.Conversion

open CatalogGraph.Rdf

/-- Statements in the order in which they were made, and the fault that stopped the making. -/
@[ext]
structure Assertions where
  statements : List Statement := []
  fault : Option Fault := none
  deriving DecidableEq, Repr

namespace Assertions

variable {α β : Type}

/-- No statement and no fault. -/
def nothing : Assertions := {}

/-- One statement. -/
def one (s : Statement) : Assertions := { statements := [s] }

/-- A fault before any statement. -/
def failed (e : Fault) : Assertions := { fault := some e }

/-- Some assertions and then, unless a fault ended them, others. -/
@[inline]
def andThen (a b : Assertions) : Assertions :=
  match a.fault with
  | none => ⟨a.statements ++ b.statements, b.fault⟩
  | some _ => a

/-- What follows from the value of an outcome, or its fault. -/
def after (o : Outcome α) (next : α → Assertions) : Assertions :=
  match o with
  | .ok a => next a
  | .error e => failed e

/-- The assertions for the elements of a list, one after the other. -/
def each (f : α → Assertions) : List α → Assertions
  | [] => nothing
  | a :: rest => (f a).andThen (each f rest)

/-- The assertions with their fault, if there is one, met in a rule. -/
def inRule (a : Assertions) (tag : String) (subfield : Option String) : Assertions :=
  { a with fault := a.fault.map (·.inRule tag subfield) }

/-- The statements, or the fault. -/
def outcome (a : Assertions) : Outcome (List Statement) :=
  match a.fault with
  | none => .ok a.statements
  | some e => .error e

/-- What the assertions make of the statements made so far, and whether the conversion goes on. -/
def addTo (a : Assertions) (sink : List Statement) : List Statement × Outcome Unit :=
  (sink ++ a.statements, match a.fault with
    | none => .ok ()
    | some e => .error e)

/-! ## One step after another -/

theorem andThen_of_fault_eq_none {a : Assertions} (h : a.fault = none) (b : Assertions) :
    a.andThen b = ⟨a.statements ++ b.statements, b.fault⟩ := by
  unfold andThen
  rw [h]

theorem andThen_of_fault_eq_some {a : Assertions} {e : Fault} (h : a.fault = some e)
    (b : Assertions) : a.andThen b = a := by
  unfold andThen
  rw [h]

@[simp] theorem nothing_andThen (a : Assertions) : nothing.andThen a = a := by
  rw [andThen_of_fault_eq_none rfl]
  rfl

@[simp] theorem failed_andThen (e : Fault) (a : Assertions) : (failed e).andThen a = failed e :=
  andThen_of_fault_eq_some rfl a

@[simp] theorem andThen_nothing (a : Assertions) : a.andThen nothing = a := by
  cases h : a.fault with
  | none =>
      rw [andThen_of_fault_eq_none h]
      ext1
      · exact List.append_nil _
      · exact h.symm
  | some e => exact andThen_of_fault_eq_some h _

theorem andThen_assoc (a b c : Assertions) :
    (a.andThen b).andThen c = a.andThen (b.andThen c) := by
  cases ha : a.fault with
  | some e => rw [andThen_of_fault_eq_some ha, andThen_of_fault_eq_some ha, andThen_of_fault_eq_some ha]
  | none =>
      rw [andThen_of_fault_eq_none ha, andThen_of_fault_eq_none ha]
      cases hb : b.fault with
      | some e =>
          rw [andThen_of_fault_eq_some (e := e) rfl, andThen_of_fault_eq_some hb, hb]
      | none =>
          rw [andThen_of_fault_eq_none (a := ⟨_, none⟩) rfl, andThen_of_fault_eq_none hb,
            List.append_assoc]

/-- The first fault counts. -/
@[simp] theorem andThen_fault (a b : Assertions) : (a.andThen b).fault = a.fault.or b.fault := by
  cases h : a.fault with
  | none => rw [andThen_of_fault_eq_none h, Option.none_or]
  | some e => rw [andThen_of_fault_eq_some h, h, Option.some_or]

/-- Doing one step and then another is to thread the statements made so far through both. -/
theorem addTo_andThen (a b : Assertions) (sink : List Statement) :
    (a.andThen b).addTo sink =
      match a.addTo sink with
      | (more, .ok ()) => b.addTo more
      | (more, .error e) => (more, .error e) := by
  cases h : a.fault with
  | none => simp only [andThen_of_fault_eq_none h, addTo, h, List.append_assoc]
  | some e => simp only [andThen_of_fault_eq_some h, addTo, h]

theorem outcome_eq_ok_iff {a : Assertions} {statements : List Statement} :
    a.outcome = .ok statements ↔ a.fault = none ∧ a.statements = statements := by
  unfold outcome
  cases a.fault <;> simp

theorem outcome_eq_error_iff {a : Assertions} {e : Fault} :
    a.outcome = .error e ↔ a.fault = some e := by
  unfold outcome
  cases a.fault <;> simp

/-! ## Steps over a list -/

@[simp] theorem after_ok (a : α) (next : α → Assertions) : after (.ok a) next = next a := rfl

@[simp] theorem after_error (e : Fault) (next : α → Assertions) :
    after (.error e) next = failed e := rfl

@[simp] theorem each_nil (f : α → Assertions) : each f [] = nothing := rfl

@[simp] theorem each_cons (f : α → Assertions) (a : α) (rest : List α) :
    each f (a :: rest) = (f a).andThen (each f rest) := rfl

theorem each_map (f : β → Assertions) (g : α → β) (xs : List α) :
    each f (xs.map g) = each (fun a => f (g a)) xs := by
  induction xs with
  | nil => rfl
  | cons x xs ih => rw [List.map_cons, each_cons, each_cons, ih]

/-- Elements that are left out could as well assert nothing. -/
theorem each_filter (f : α → Assertions) (p : α → Bool) (xs : List α) :
    each f (xs.filter p) = each (fun a => if p a then f a else nothing) xs := by
  induction xs with
  | nil => rfl
  | cons x xs ih =>
      rw [each_cons, ← ih]
      cases h : p x with
      | true => rw [List.filter_cons_of_pos h, each_cons, if_pos rfl]
      | false => simp [List.filter_cons_of_neg, h]

theorem each_congr {f g : α → Assertions} {xs : List α} (h : ∀ x ∈ xs, f x = g x) :
    each f xs = each g xs := by
  induction xs with
  | nil => rfl
  | cons x xs ih =>
      rw [each_cons, each_cons, h x List.mem_cons_self,
        ih fun y hy => h y (List.mem_cons_of_mem x hy)]

/-- Statements that are made one by one are made. -/
theorem each_one (statements : List Statement) :
    each one statements = { statements := statements } := by
  induction statements with
  | nil => rfl
  | cons s rest ih => rw [each_cons, ih, andThen_of_fault_eq_none rfl]; rfl

/-- Without a fault, the statements of all elements stand one after the other. -/
theorem each_of_fault_eq_none {f : α → Assertions} {xs : List α}
    (h : ∀ x ∈ xs, (f x).fault = none) :
    each f xs = { statements := xs.flatMap fun x => (f x).statements } := by
  induction xs with
  | nil => rfl
  | cons x xs ih =>
      rw [each_cons, andThen_of_fault_eq_none (h x List.mem_cons_self),
        ih fun y hy => h y (List.mem_cons_of_mem x hy)]
      rfl

theorem each_fault_eq_none_iff {f : α → Assertions} {xs : List α} :
    (each f xs).fault = none ↔ ∀ x ∈ xs, (f x).fault = none := by
  induction xs with
  | nil => simp [nothing]
  | cons x xs ih => rw [each_cons, andThen_fault, Option.or_eq_none_iff, ih, List.forall_mem_cons]

/-- The fault of steps over a list is the one of the first element that has one. -/
theorem each_fault_eq_some_iff {f : α → Assertions} {xs : List α} {e : Fault} :
    (each f xs).fault = some e ↔
      ∃ earlier x later, xs = earlier ++ x :: later ∧ (∀ y ∈ earlier, (f y).fault = none) ∧
        (f x).fault = some e := by
  induction xs with
  | nil => simp [nothing]
  | cons x xs ih =>
      rw [each_cons, andThen_fault]
      constructor
      · intro h
        cases hx : (f x).fault with
        | some e' =>
            rw [hx, Option.some_or] at h
            exact ⟨[], x, xs, rfl, by simp, hx.trans h⟩
        | none =>
            rw [hx, Option.none_or] at h
            obtain ⟨earlier, y, later, rfl, hEarlier, hy⟩ := ih.mp h
            exact ⟨x :: earlier, y, later, rfl, List.forall_mem_cons.mpr ⟨hx, hEarlier⟩, hy⟩
      · rintro ⟨earlier, y, later, hSplit, hEarlier, hy⟩
        cases earlier with
        | nil =>
            obtain ⟨rfl, rfl⟩ := List.cons.inj hSplit
            rw [hy, Option.some_or]
        | cons z earlier =>
            obtain ⟨rfl, rfl⟩ := List.cons.inj hSplit
            obtain ⟨hx, hRest⟩ := List.forall_mem_cons.mp hEarlier
            rw [hx, Option.none_or]
            exact ih.mpr ⟨earlier, y, later, rfl, hRest, hy⟩

/-! ## Where a statement is from -/

theorem mem_statements_andThen {a b : Assertions} {t : Statement} (h : t ∈ (a.andThen b).statements) :
    t ∈ a.statements ∨ t ∈ b.statements := by
  cases hFault : a.fault with
  | none =>
      rw [andThen_of_fault_eq_none hFault] at h
      exact List.mem_append.mp h
  | some e =>
      rw [andThen_of_fault_eq_some hFault] at h
      exact Or.inl h

theorem mem_statements_after {o : Outcome α} {next : α → Assertions} {t : Statement}
    (h : t ∈ (after o next).statements) : ∃ a, o = .ok a ∧ t ∈ (next a).statements := by
  cases o with
  | ok a => exact ⟨a, rfl, h⟩
  | error e => exact absurd h List.not_mem_nil

/-- Each statement of steps over a list is made for one of its elements. -/
theorem mem_statements_each {f : α → Assertions} {xs : List α} {t : Statement}
    (h : t ∈ (each f xs).statements) : ∃ x ∈ xs, t ∈ (f x).statements := by
  induction xs with
  | nil => exact absurd h List.not_mem_nil
  | cons x xs ih =>
      rcases mem_statements_andThen h with hFirst | hRest
      · exact ⟨x, List.mem_cons_self, hFirst⟩
      · obtain ⟨y, hy, ht⟩ := ih hRest
        exact ⟨y, List.mem_cons_of_mem x hy, ht⟩

end Assertions

end CatalogGraph.Conversion
