/-!
# Truth with a third value

What a condition is that nothing is known of: neither true nor false, but unknown. A row is taken
only where the condition is known to hold.
-/

namespace TableFilter.Sql

/-- What is known of a condition. -/
inductive Truth where
  | no
  | unknown
  | yes
  deriving DecidableEq, Repr

namespace Truth

def ofBool (b : Bool) : Truth :=
  if b then .yes else .no

def not : Truth → Truth
  | .no => .yes
  | .unknown => .unknown
  | .yes => .no

/-- The truth of a conjunction: one condition that fails is enough for it to fail. -/
def and : Truth → Truth → Truth
  | .no, _ | _, .no => .no
  | .yes, .yes => .yes
  | _, _ => .unknown

/-- The truth of a choice: one condition that holds is enough for it to hold. -/
def or : Truth → Truth → Truth
  | .yes, _ | _, .yes => .yes
  | .no, .no => .no
  | _, _ => .unknown

def negatedIf (negated : Bool) (t : Truth) : Truth :=
  if negated then t.not else t

/-- The truth of a choice among several conditions. -/
def anyOf {α : Type} (t : α → Truth) : List α → Truth
  | [] => .no
  | a :: rest => (t a).or (anyOf t rest)

@[simp]
theorem ofBool_eq_yes_iff (b : Bool) : ofBool b = .yes ↔ b = true := by
  cases b <;> decide

@[simp]
theorem ofBool_eq_no_iff (b : Bool) : ofBool b = .no ↔ b = false := by
  cases b <;> decide

@[simp]
theorem not_eq_yes_iff (t : Truth) : t.not = .yes ↔ t = .no := by
  cases t <;> decide

@[simp]
theorem and_eq_yes_iff (s t : Truth) : s.and t = .yes ↔ s = .yes ∧ t = .yes := by
  cases s <;> cases t <;> decide

@[simp]
theorem or_eq_yes_iff (s t : Truth) : s.or t = .yes ↔ s = .yes ∨ t = .yes := by
  cases s <;> cases t <;> decide

@[simp]
theorem or_eq_no_iff (s t : Truth) : s.or t = .no ↔ s = .no ∧ t = .no := by
  cases s <;> cases t <;> decide

theorem anyOf_eq_yes_iff {α : Type} (t : α → Truth) (as : List α) :
    anyOf t as = .yes ↔ ∃ a ∈ as, t a = .yes := by
  induction as with
  | nil => simp [anyOf]
  | cons a rest ih => simp [anyOf, ih]

theorem anyOf_eq_no_iff {α : Type} (t : α → Truth) (as : List α) :
    anyOf t as = .no ↔ ∀ a ∈ as, t a = .no := by
  induction as with
  | nil => simp [anyOf]
  | cons a rest ih => simp [anyOf, ih]

/-- What is known to hold and what is known to fail tell a truth. -/
theorem eq_of_iff {s t : Truth} (hyes : s = .yes ↔ t = .yes) (hno : s = .no ↔ t = .no) :
    s = t := by
  cases s <;> cases t <;> simp_all

/-- Of three tests that tell the truths apart exactly one is met. -/
theorem toNat_add_eq_one {t : Truth} {a b c : Bool} (hyes : a = true ↔ t = .yes)
    (hno : b = true ↔ t = .no) (hunknown : c = true ↔ t = .unknown) :
    a.toNat + b.toNat + c.toNat = 1 := by
  cases t <;> simp_all

theorem yes_and (t : Truth) : Truth.yes.and t = t := by
  cases t <;> rfl

theorem and_yes (t : Truth) : t.and .yes = t := by
  cases t <;> rfl

theorem and_assoc (r s t : Truth) : (r.and s).and t = r.and (s.and t) := by
  cases r <;> cases s <;> cases t <;> rfl

end Truth

end TableFilter.Sql
