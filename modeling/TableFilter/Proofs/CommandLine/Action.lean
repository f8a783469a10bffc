import TableFilter.CommandLine.Run

/-!
# Parts of a run

What a part of a run comes to, what it leaves on the console, and which parts print nothing.
-/

namespace TableFilter.CommandLine

namespace Action

variable {α β ε : Type} {x : Action α} {f : α → Action β} {console after : Console}

/-- What a part of a run comes to, and the console it leaves. -/
def on (x : Action α) (console : Console) : Except RunError α × Console :=
  x.run.run console

@[simp]
theorem on_pure (a : α) : (pure a : Action α).on console = (.ok a, console) :=
  rfl

@[simp]
theorem on_printLine (line : String) :
    (printLine line).on console =
      (.ok (), { console with stdout := console.stdout ++ line ++ "\n" }) :=
  rfl

theorem on_printLine_pure (line : String) (a : α) :
    (do printLine line; return a : Action α).on console =
      (.ok a, { console with stdout := console.stdout ++ line ++ "\n" }) :=
  rfl

theorem on_bind (x : Action α) (f : α → Action β) (console : Console) :
    (x >>= f).on console =
      match x.on console with
      | (.ok a, middle) => (f a).on middle
      | (.error e, middle) => (.error e, middle) := by
  unfold on ExceptT.run StateT.run
  simp only [bind, ExceptT.bind, ExceptT.mk, StateT.bind, ExceptT.bindCont]
  rcases x console with ⟨_ | a, middle⟩ <;> rfl

theorem exists_of_on_bind_eq_ok {b : β} (hrun : (x >>= f).on console = (.ok b, after)) :
    ∃ a middle, x.on console = (.ok a, middle) ∧ (f a).on middle = (.ok b, after) := by
  rw [on_bind] at hrun
  split at hrun
  next a middle hx => exact ⟨a, middle, hx, hrun⟩
  next => cases hrun

theorem eq_ok_of_on_check_eq_ok {g : ε → RunError} {y : Except ε α} {a : α}
    (hrun : (check g y).on console = (.ok a, after)) : y = .ok a ∧ after = console := by
  cases y with
  | error e => cases hrun
  | ok b =>
    cases hrun
    exact ⟨rfl, rfl⟩

/-! ## Parts that print nothing -/

/-- However it ends, it prints nothing. -/
def IsQuiet (x : Action α) : Prop :=
  ∀ console, (x.on console).2.stdout = console.stdout

theorem IsQuiet.bind (hx : x.IsQuiet) (hf : ∀ a, (f a).IsQuiet) : (x >>= f).IsQuiet := by
  intro console
  have hx := hx console
  rw [on_bind]
  split
  next a middle hrun =>
    rw [hrun] at hx
    exact (hf a middle).trans hx
  next e middle hrun =>
    rw [hrun] at hx
    exact hx

theorem isQuiet_pure (a : α) : (pure a : Action α).IsQuiet :=
  fun _ => rfl

theorem isQuiet_throw (e : RunError) : (throw e : Action α).IsQuiet :=
  fun _ => rfl

theorem isQuiet_takeStdin : takeStdin.IsQuiet := by
  rintro ⟨stdin, stdout⟩
  cases stdin with
  | text content => rfl
  | unreadable reason => rfl

theorem isQuiet_check (g : ε → RunError) (y : Except ε α) : (check g y).IsQuiet := by
  cases y with
  | error e => exact isQuiet_throw (g e)
  | ok a => exact isQuiet_pure a

theorem isQuiet_readInput (files : Files) (source : String) :
    (readInput files source).IsQuiet := by
  unfold readInput
  split
  · exact isQuiet_takeStdin
  · split
    · exact isQuiet_pure _
    · exact isQuiet_throw _
    · exact isQuiet_throw _

/-! ## Parts that print at their end only -/

/-- It does not fail. -/
def Succeeds (x : Action α) : Prop :=
  ∀ console, ∃ a after, x.on console = (.ok a, after)

/-- Where it fails, it has printed nothing. -/
def IsQuietOnFailure (x : Action α) : Prop :=
  ∀ console e after, x.on console = (.error e, after) → after.stdout = console.stdout

theorem succeeds_pure (a : α) : (pure a : Action α).Succeeds :=
  fun console => ⟨a, console, rfl⟩

theorem succeeds_printLine_pure (line : String) (a : α) :
    (do printLine line; return a : Action α).Succeeds :=
  fun _ => ⟨a, _, on_printLine_pure line a⟩

theorem Succeeds.isQuietOnFailure (hx : x.Succeeds) : x.IsQuietOnFailure := by
  intro console e after hrun
  obtain ⟨a, middle, hok⟩ := hx console
  rw [hok] at hrun
  cases hrun

/-- A part that prints nothing may fail at any place, if what follows prints nothing before it
fails. -/
theorem IsQuiet.bind_isQuietOnFailure (hx : x.IsQuiet) (hf : ∀ a, (f a).IsQuietOnFailure) :
    (x >>= f).IsQuietOnFailure := by
  intro console e after hrun
  have hquiet := hx console
  rw [on_bind] at hrun
  split at hrun
  next a middle hx =>
    rw [hx] at hquiet
    exact (hf a middle e after hrun).trans hquiet
  next e middle hx =>
    rw [hx] at hquiet
    cases hrun
    exact hquiet

end Action

end TableFilter.CommandLine
