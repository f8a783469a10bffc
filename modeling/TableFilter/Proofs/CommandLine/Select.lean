import TableFilter.Proofs.CommandLine.Action
import TableFilter.Proofs.Query.Transport

/-!
# The two forms of a selection

What is asked of a `SELECT` is printed as the query or as its statement. Main statement:
`printed_query_makes_printed_statement`.
-/

namespace TableFilter.CommandLine

open TableFilter.CommandLine.Action
open Config (Settings)
open Json (Value decode)

variable {files : Files} {settings : Settings} {console after : Console}

/-! ## Filters of an input -/

theorem isQuiet_loadPredicates (files : Files) (settings : Settings) (source : String) :
    (loadPredicates files settings source).IsQuiet := by
  apply IsQuiet.bind (isQuiet_readInput files source)
  intro text
  exact isQuiet_check _ _

theorem isQuiet_loadFilters (files : Files) (settings : Settings) (source : Option String) :
    (loadFilters files settings source).IsQuiet := by
  cases source with
  | none => exact isQuiet_pure _
  | some source =>
    apply IsQuiet.bind (isQuiet_loadPredicates files settings source)
    intro ps
    exact isQuiet_pure _

/-- Predicates that are loaded were admitted. -/
theorem exists_of_loadPredicates {source : String} {ps : List Predicate}
    (hrun : (loadPredicates files settings source).on console = (.ok ps, after)) :
    ∃ text, readPredicates settings.limits text = .ok ps := by
  obtain ⟨text, middle, -, hcheck⟩ := exists_of_on_bind_eq_ok hrun
  exact ⟨text, (eq_ok_of_on_check_eq_ok hcheck).1⟩

/-- Filters that are loaded are read as themselves. -/
theorem settled_of_loadFilters {source : Option String} {filters : Option FilterSet}
    (hrun : (loadFilters files settings source).on console = (.ok filters, after)) :
    filters.map FilterSet.settled = filters := by
  cases source with
  | none =>
    cases hrun
    rfl
  | some source =>
    obtain ⟨ps, middle, hload, hcompile⟩ := exists_of_on_bind_eq_ok hrun
    obtain ⟨text, hread⟩ := exists_of_loadPredicates hload
    cases hcompile
    cases hset : FilterSet.compile? ps with
    | none => rfl
    | some set => rw [Option.map_some, FilterSet.settled_of_readPredicates hread hset]

/-! ## Queries that are asked for -/

theorem isQuiet_buildQuery (files : Files) (settings : Settings) (request : SelectRequest) :
    (buildQuery files settings request).IsQuiet := by
  apply IsQuiet.bind (isQuiet_check _ _)
  intro table
  apply IsQuiet.bind (isQuiet_check _ _)
  intro columns
  apply IsQuiet.bind (isQuiet_loadFilters files settings request.predicates)
  intro filters
  exact isQuiet_pure _

theorem isSettled_of_buildQuery {request : SelectRequest} {q : Query}
    (hrun : (buildQuery files settings request).on console = (.ok q, after)) : q.IsSettled := by
  obtain ⟨table, _, -, hrun⟩ := exists_of_on_bind_eq_ok hrun
  obtain ⟨columns, _, -, hrun⟩ := exists_of_on_bind_eq_ok hrun
  obtain ⟨filters, _, hload, hrun⟩ := exists_of_on_bind_eq_ok hrun
  cases hrun
  exact settled_of_loadFilters hload

/-- What a selection prints once its query is built. -/
def selected (settings : Settings) (descriptor : Bool) (q : Query) : String :=
  if descriptor then q.toValue.pretty else Sql.select settings.sql q

theorem execute_select (request : SelectRequest) {q : Query}
    (hrun : (buildQuery files settings request).on console = (.ok q, after)) :
    (execute files settings (.select request)).on console =
      (.ok .success, { after with
        stdout := after.stdout ++ selected settings request.descriptor q ++ "\n" }) := by
  unfold execute
  rw [on_bind, hrun]
  unfold selected
  cases request.descriptor with
  | true => simp only [if_true, on_bind, printValue, on_printLine, on_pure]
  | false => simp only [Bool.false_eq_true, if_false, on_bind, on_printLine, on_pure]

/-- A query that is asked for is printed in two forms: the first is read back as the query, and the
second is the statement that the query makes. Every query that was itself read is read back as it
is, with its demands in the same order. -/
theorem printed_query_makes_printed_statement :
    (∀ (files : Files) (settings : Settings) (request : SelectRequest) (console after : Console)
        (q : Query),
      (buildQuery files settings request).on console = (.ok q, after) →
      ∃ printed,
        (execute files settings (.select { request with descriptor := true })).on console =
          (.ok .success, { after with stdout := console.stdout ++ printed }) ∧
        Json.read Query.reader printed = .ok q ∧
        (execute files settings (.select { request with descriptor := false })).on console =
          (.ok .success,
            { after with stdout := console.stdout ++ (Sql.select settings.sql q ++ "\n") })) ∧
    (∀ (v : Value) (q : Query), decode Query.reader v = .ok q →
      decode Query.reader q.toValue = .ok q ∧ Json.read Query.reader q.toValue.text = .ok q) ∧
    ∀ (text : String) (q : Query), Json.read Query.reader text = .ok q →
      decode Query.reader q.toValue = .ok q ∧ Json.read Query.reader q.toValue.text = .ok q := by
  refine ⟨?_, ?_, ?_⟩
  · intro files settings request console after q hrun
    have hquiet : after.stdout = console.stdout := by
      have hquiet := isQuiet_buildQuery files settings request console
      rwa [hrun] at hquiet
    -- Which form is printed has no part in how the query is built.
    have hprints (descriptor : Bool) :=
      execute_select { request with descriptor } hrun
    simp only [hquiet, String.append_assoc] at hprints
    obtain ⟨-, -, -, hread⟩ := (isSettled_of_buildQuery hrun).read_back
    exact ⟨_, hprints true, hread, hprints false⟩
  · intro v q hread
    obtain ⟨hdecode, htext, -⟩ := (Query.isSettled_of_reader hread).read_back
    exact ⟨hdecode, htext⟩
  · intro text q hread
    obtain ⟨hdecode, htext, -⟩ := (Query.isSettled_of_read hread).read_back
    exact ⟨hdecode, htext⟩

/-- The filters come from the standard input, which is used up; of two demands on one column the
later one is printed. -/
theorem stock_query_is_printed_and_read :
    ∃ q printed,
      (buildQuery (fun _ => .absent) .standard
          ⟨"stock", ["name"], some "-", some " name ", some 5, none, false⟩).on
          ⟨"[[\"price\",\"empty\"],[\"price\",\"equals\",9]]", "ready\n"⟩ =
        (.ok q, ⟨"", "ready\n"⟩) ∧
      (execute (fun _ => .absent) .standard
          (.select ⟨"stock", ["name"], some "-", some " name ", some 5, none, true⟩)).on
          ⟨"[[\"price\",\"empty\"],[\"price\",\"equals\",9]]", "ready\n"⟩ =
        (.ok .success, ⟨"", "ready\n" ++ printed⟩) ∧
      Json.read Query.reader printed = .ok q ∧
      (execute (fun _ => .absent) .standard
          (.select ⟨"stock", ["name"], some "-", some " name ", some 5, none, false⟩)).on
          ⟨"[[\"price\",\"empty\"],[\"price\",\"equals\",9]]", "ready\n"⟩ =
        (.ok .success, ⟨"", "ready\n" ++
          "SELECT \x60name\x60 FROM \x60stock\x60 WHERE \x60price\x60 = 9 ORDER BY name LIMIT 5\n"⟩) := by
  have hbuild :
      (buildQuery (fun _ => .absent) .standard
          ⟨"stock", ["name"], some "-", some " name ", some 5, none, false⟩).on
          ⟨"[[\"price\",\"empty\"],[\"price\",\"equals\",9]]", "ready\n"⟩ =
        (.ok ⟨⟨"stock", by decide⟩,
          some (FilterSet.ofList [(⟨"price", by decide⟩, .eq (.number (.ofWord 9)))]),
          .named ⟨"name", by decide⟩ [], some 5, none, some " name "⟩, ⟨"", "ready\n"⟩) := by
    decide +kernel
  obtain ⟨printed, hquery, hread, hstatement⟩ :=
    printed_query_makes_printed_statement.1 _ _ _ _ _ _ hbuild
  refine ⟨_, printed, hbuild, hquery, hread, hstatement.trans ?_⟩
  decide +kernel

end TableFilter.CommandLine
