import Mathlib.Data.Finset.Card
import TableFilter.Proofs.Filter.Transport

/-!
# Sets over whole runs

What a filter set holds after any number of steps is told by the demands that were put in, in the
order in which they were. Main statement: `run_is_ordered_map`.
-/

namespace TableFilter

open TableFilter.Filter (Spec)

namespace FilterSet

theorem exchange_eq (set : FilterSet) (column : Identifier) (spec : Spec) :
    set.exchange column spec = (Entries.get? column set.entries, set.insert column spec) := by
  simp only [exchange, insert, Entries.exchange_eq]

theorem get?_name (set : FilterSet) (column : Identifier) :
    set.get? column.name = Entries.get? column set.entries := by
  rw [get?]
  induction set.entries with
  | nil => rfl
  | cons entry rest ih =>
    obtain ⟨c, spec⟩ := entry
    by_cases heq : c = column
    · simp [Entries.get?, heq]
    · have hname : ¬ c.name = column.name := fun hname => heq (Identifier.name_injective hname)
      simpa [Entries.get?, heq, hname] using ih

theorem get?_eq_none_iff (set : FilterSet) (name : String) :
    set.get? name = none ↔ ∀ column ∈ set.columns, column.name ≠ name := by
  simp [get?, columns, Entries.keys]

/-- What may be done to a set: one demand is put in, or the set is made anew of its own entries and
others behind them. -/
inductive Step where
  | insert (column : Identifier) (spec : Spec)
  | extend (entries : List (Identifier × Spec))

namespace Step

def apply (set : FilterSet) : Step → FilterSet
  | .insert column spec => (set.exchange column spec).2
  | .extend entries => .ofList (set.entries ++ entries)

/-- The demands that a step puts in. -/
def given : Step → List (Identifier × Spec)
  | .insert column spec => [(column, spec)]
  | .extend entries => entries

/-- A step puts its demands in one after the other. -/
theorem entries_apply (set : FilterSet) (step : Step) :
    (step.apply set).entries = Entries.putAll set.entries step.given := by
  cases step with
  | insert column spec =>
    rw [apply, exchange_eq]
    rfl
  | extend entries =>
    have hself : Entries.putAll [] set.entries = set.entries :=
      Entries.putAll_of_nodup set.distinct
    rw [apply, entries_ofList, Entries.putAll_append, hself]
    rfl

end Step

/-- The demands that steps put in, first to last. -/
def history (steps : List Step) : List (Identifier × Spec) :=
  steps.flatMap Step.given

/-- The set after steps, the first of which finds it empty. -/
def run (steps : List Step) : FilterSet :=
  steps.foldl Step.apply empty

/-- Whatever the steps, the set holds what putting in all demands in order gives. -/
theorem entries_run (steps : List Step) :
    (run steps).entries = Entries.putAll [] (history steps) := by
  induction steps using List.reverseRecOn with
  | nil => rfl
  | append_singleton steps step ih =>
    have hrun : run (steps ++ [step]) = step.apply (run steps) := by
      simp [run]
    have hhistory : history (steps ++ [step]) = history steps ++ step.given := by
      simp [history]
    rw [hrun, hhistory, Step.entries_apply, ih, Entries.putAll_append]

/-- The columns stand in the order in which they first came. -/
theorem columns_run (steps : List Step) :
    (run steps).columns = (Entries.keys (history steps)).eraseDups := by
  rw [columns, entries_run, Entries.keys_putAll_nil]

/-- A column has the demand that it was given last. -/
theorem get?_run_eq_some_iff (steps : List Step) (column : Identifier) (spec : Spec) :
    (run steps).get? column.name = some spec ↔
      ∃ earlier later, history steps = earlier ++ (column, spec) :: later ∧
        column ∉ Entries.keys later := by
  rw [get?_name, entries_run, Entries.get?_putAll_nil, Entries.get?_reverse_eq_some_iff]

theorem get?_run_eq_none_iff (steps : List Step) (name : String) :
    (run steps).get? name = none ↔ ∀ entry ∈ history steps, entry.1.name ≠ name := by
  rw [get?_eq_none_iff, columns_run]
  simp only [List.mem_eraseDups, Entries.keys, List.forall_mem_map]

theorem size_run (steps : List Step) :
    (run steps).size = (Entries.keys (history steps)).toFinset.card := by
  have hcolumns : (Entries.keys (history steps)).toFinset = (run steps).columns.toFinset := by
    ext column
    rw [List.mem_toFinset, List.mem_toFinset, columns_run, List.mem_eraseDups]
  have hlength : (run steps).columns.length = (run steps).size := List.length_map _
  have hdistinct : (run steps).columns.Nodup := (run steps).distinct
  rw [hcolumns, List.toFinset_card_of_nodup hdistinct, hlength]

theorem isEmpty_run (steps : List Step) : (run steps).isEmpty = true ↔ history steps = [] := by
  have hsize : (run steps).isEmpty = true ↔ (run steps).size = 0 := by
    rw [isEmpty, size, List.isEmpty_iff_length_eq_zero]
  rw [hsize, size_run, Finset.card_eq_zero, List.toFinset_eq_empty_iff, Entries.keys,
    List.map_eq_nil_iff]

section Insert

variable (set : FilterSet) (column : Identifier) (spec : Spec)

/-- Putting in a demand leaves all columns where they are. -/
theorem columns_prefix_insert : set.columns <+: (set.insert column spec).columns := by
  rw [columns, columns, insert, Entries.keys_put]
  split
  · exact List.prefix_rfl
  · exact List.prefix_append _ _

theorem get?_insert_of_ne {name : String} (hne : name ≠ column.name) :
    (set.insert column spec).get? name = set.get? name := by
  have hcolumn : ¬ column.name = name := fun heq => hne heq.symm
  simp only [get?, insert]
  induction set.entries with
  | nil => simp [Entries.put, hcolumn]
  | cons entry rest ih =>
    obtain ⟨c, old⟩ := entry
    by_cases heq : c = column
    · simp [Entries.put, heq, hcolumn]
    · by_cases hname : c.name = name
      · simp [Entries.put, heq, hname]
      · simpa [Entries.put, heq, hname] using ih

end Insert

/-- A set is an ordered map: after any steps it has each column once, in the order in which the
columns first came and with the demand that each was given last. One demand more changes neither
the place of a column nor the demand of another one, and the demand that its column had is told. -/
theorem run_is_ordered_map (steps : List Step) :
    (run steps).columns.Nodup ∧
    (∀ column spec, (run steps).get? column.name = some spec ↔
      ∃ earlier later, history steps = earlier ++ (column, spec) :: later ∧
        column ∉ Entries.keys later) ∧
    (∀ name, (run steps).get? name = none ↔ ∀ entry ∈ history steps, entry.1.name ≠ name) ∧
    (run steps).columns = (Entries.keys (history steps)).eraseDups ∧
    (run steps).size = (Entries.keys (history steps)).toFinset.card ∧
    ((run steps).isEmpty = true ↔ history steps = []) ∧
    ∀ column spec,
      ((run steps).exchange column spec).1 = (run steps).get? column.name ∧
      (∀ name, name ≠ column.name →
        ((run steps).exchange column spec).2.get? name = (run steps).get? name) ∧
      (run steps).columns <+: ((run steps).exchange column spec).2.columns := by
  refine ⟨(run steps).distinct, get?_run_eq_some_iff steps, get?_run_eq_none_iff steps,
    columns_run steps, size_run steps, isEmpty_run steps, ?_⟩
  intro column spec
  rw [exchange_eq, get?_name]
  exact ⟨rfl, fun _ hne => get?_insert_of_ne _ _ _ hne, columns_prefix_insert _ _ _⟩

/-- A column that comes again keeps its place in front of one that came later, and has the later
demand. -/
theorem price_keeps_its_place :
    ∃ set, set = run [.insert ⟨"price", by decide⟩ .notEmpty,
          .extend [(⟨"stock", by decide⟩, .empty), (⟨"price", by decide⟩, .regex "^9")]] ∧
      set.columns.map Identifier.name = ["price", "stock"] ∧
      set.get? "price" = some (.regex "^9") ∧
      (set.exchange ⟨"price", by decide⟩ .empty).1 = some (.regex "^9") ∧
      (set.exchange ⟨"price", by decide⟩ .empty).2.get? "stock" = set.get? "stock" := by
  obtain ⟨-, hget, -, hcolumns, -, -, hexchange⟩ := run_is_ordered_map
    [.insert ⟨"price", by decide⟩ .notEmpty,
      .extend [(⟨"stock", by decide⟩, .empty), (⟨"price", by decide⟩, .regex "^9")]]
  have hprice := (hget ⟨"price", by decide⟩ (.regex "^9")).mpr
    ⟨[(⟨"price", by decide⟩, .notEmpty), (⟨"stock", by decide⟩, .empty)], [], rfl, nofun⟩
  obtain ⟨hold, hothers, -⟩ := hexchange ⟨"price", by decide⟩ .empty
  refine ⟨_, rfl, ?_, hprice, hold.trans hprice, hothers "stock" (by decide)⟩
  rw [hcolumns]
  decide

end FilterSet

end TableFilter
