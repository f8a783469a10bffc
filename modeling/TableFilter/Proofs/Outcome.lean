/-!
# Steps that succeed and steps that fail

What the parts of a computation gave, when the whole of it gave a result, and which of them failed
when the whole failed.
-/

namespace TableFilter

variable {ε α β : Type}

theorem exists_of_map_eq_ok {x : Except ε α} {f : α → β} {b : β} (hmap : x.map f = .ok b) :
    ∃ a, x = .ok a ∧ f a = b := by
  cases x with
  | error e => cases hmap
  | ok a =>
    cases hmap
    exact ⟨a, rfl, rfl⟩

theorem map_eq_ok_iff {x : Except ε α} {f : α → β} {b : β} :
    x.map f = .ok b ↔ ∃ a, x = .ok a ∧ f a = b := by
  constructor
  · exact exists_of_map_eq_ok
  · rintro ⟨a, rfl, rfl⟩
    rfl

theorem exists_of_bind_eq_ok {x : Except ε α} {f : α → Except ε β} {b : β}
    (hbind : x >>= f = .ok b) : ∃ a, x = .ok a ∧ f a = .ok b := by
  cases x with
  | error e => cases hbind
  | ok a => exact ⟨a, rfl, hbind⟩

theorem bind_eq_ok_iff {x : Except ε α} {f : α → Except ε β} {b : β} :
    x >>= f = .ok b ↔ ∃ a, x = .ok a ∧ f a = .ok b := by
  constructor
  · exact exists_of_bind_eq_ok
  · rintro ⟨a, rfl, hf⟩
    exact hf

/-- A check has nothing to give but that it passes. -/
theorem exists_check_eq_ok_iff {x : Except ε Unit} {p : Prop} :
    (∃ u, x = .ok u ∧ p) ↔ x = .ok () ∧ p :=
  ⟨fun ⟨(), h⟩ => h, fun h => ⟨(), h⟩⟩

theorem pure_eq_ok_iff {a b : α} : (pure a : Except ε α) = .ok b ↔ a = b :=
  Except.ok.injEq a b ▸ Iff.rfl

/-- Items that are read in turn are those that are written as what was read. -/
theorem mapM_eq_ok_iff_map_eq {read : α → Except ε β} {write : β → α}
    (hread : ∀ a b, read a = .ok b ↔ write b = a) {as : List α} {bs : List β} :
    as.mapM read = .ok bs ↔ bs.map write = as := by
  induction as generalizing bs with
  | nil => cases bs <;> simp [pure_eq_ok_iff]
  | cons a as ih =>
    simp only [List.mapM_cons, bind_eq_ok_iff, pure_eq_ok_iff, hread, ih]
    cases bs <;> simp

/-- What both branches give when they succeed is given by the choice between them. -/
theorem forall_ok_of_ite {c : Prop} [Decidable c] {x y : Except ε α} {P : α → Prop}
    (htrue : ∀ a, x = .ok a → P a) (hfalse : ∀ a, y = .ok a → P a) :
    ∀ a, (if c then x else y) = .ok a → P a := by
  split
  · exact htrue
  · exact hfalse

theorem eq_error_of_map_eq_error {x : Except ε α} {f : α → β} {e : ε}
    (hmap : x.map f = .error e) : x = .error e := by
  cases x with
  | error e' =>
    cases hmap
    rfl
  | ok a => cases hmap

theorem eq_error_of_bind_eq_error {x : Except ε α} {f : α → Except ε β} {e : ε}
    (hbind : x >>= f = .error e) : x = .error e ∨ ∃ a, x = .ok a ∧ f a = .error e := by
  cases x with
  | error e' =>
    cases hbind
    exact .inl rfl
  | ok a => exact .inr ⟨a, rfl, hbind⟩

/-- Of items that are read in turn one is at fault when reading fails. -/
theorem exists_mem_of_mapM_eq_error {read : α → Except ε β} {as : List α} {e : ε}
    (hread : as.mapM read = .error e) : ∃ a ∈ as, read a = .error e := by
  induction as with
  | nil => cases hread
  | cons a as ih =>
    rw [List.mapM_cons] at hread
    rcases eq_error_of_bind_eq_error hread with hfirst | ⟨b, -, hread⟩
    · exact ⟨a, List.mem_cons_self, hfirst⟩
    · rcases eq_error_of_bind_eq_error hread with hrest | ⟨bs, -, hread⟩
      · obtain ⟨a', hmem, hfault⟩ := ih hrest
        exact ⟨a', List.mem_cons_of_mem a hmem, hfault⟩
      · cases hread

end TableFilter
