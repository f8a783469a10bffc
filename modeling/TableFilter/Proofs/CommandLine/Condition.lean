import TableFilter.Proofs.CommandLine.Select

/-!
# Commands that fail, and the condition that commands share

A command prints only once nothing can fail any more. The condition, the selection and the count of
one input of predicates fail together, and otherwise have one condition. Main statement:
`failure_prints_nothing_and_conditions_agree`.
-/

namespace TableFilter.CommandLine

open TableFilter.CommandLine.Action
open Config (Settings)

variable {files : Files} {settings : Settings} {source : String}

/-! ## Failures -/

/-- A command that fails has printed nothing. -/
theorem isQuietOnFailure_execute (files : Files) (settings : Settings) (command : Command) :
    (execute files settings command).IsQuietOnFailure := by
  cases command with
  | compile source =>
    apply (isQuiet_loadPredicates files settings source).bind_isQuietOnFailure
    intro ps
    exact (succeeds_printLine_pure _ _).isQuietOnFailure
  | condition source =>
    apply (isQuiet_loadPredicates files settings source).bind_isQuietOnFailure
    intro ps
    dsimp only
    split
    next => exact (succeeds_printLine_pure _ _).isQuietOnFailure
    next => exact (succeeds_pure _).isQuietOnFailure
  | select request =>
    apply (isQuiet_buildQuery files settings request).bind_isQuietOnFailure
    intro q
    dsimp only
    split
    next => exact (succeeds_printLine_pure _ _).isQuietOnFailure
    next => exact (succeeds_printLine_pure _ _).isQuietOnFailure
  | count name source =>
    apply (isQuiet_check _ _).bind_isQuietOnFailure
    intro table
    apply (isQuiet_loadFilters files settings source).bind_isQuietOnFailure
    intro filters
    exact (succeeds_printLine_pure _ _).isQuietOnFailure
  | preview rows source =>
    apply (isQuiet_readInput files rows).bind_isQuietOnFailure
    intro text
    apply (isQuiet_check _ _).bind_isQuietOnFailure
    intro rows
    apply (isQuiet_loadPredicates files settings source).bind_isQuietOnFailure
    intro ps
    exact (succeeds_printLine_pure _ _).isQuietOnFailure
  | validate source =>
    apply (isQuiet_readInput files source).bind_isQuietOnFailure
    intro text
    apply (isQuiet_check _ _).bind_isQuietOnFailure
    intro v
    split
    next => exact (succeeds_printLine_pure _ _).isQuietOnFailure
    next => exact (succeeds_printLine_pure _ _).isQuietOnFailure
  | extract sql =>
    have hprint (sql : String) :
        (do printValue (extracted sql); return .success : Action Outcome).IsQuietOnFailure :=
      (succeeds_printLine_pure _ _).isQuietOnFailure
    unfold execute
    dsimp only
    split
    next => exact isQuiet_takeStdin.bind_isQuietOnFailure hprint
    next => exact (isQuiet_pure sql).bind_isQuietOnFailure hprint

/-! ## Commands on one input of predicates -/

/-- Whatever the predicates are, all that is done with them is to print what `text` makes of
them. -/
def PrintsOf (files : Files) (settings : Settings) (source : String)
    (text : List Predicate → String) (x : Action Outcome) : Prop :=
  ∀ console, x.on console = match (loadPredicates files settings source).on console with
    | (.ok ps, after) => (.ok .success, ⟨after.stdin, console.stdout ++ text ps⟩)
    | (.error e, after) => (.error e, ⟨after.stdin, console.stdout⟩)

/-- A condition on a line of its own; without one not even an empty line. -/
def conditionLine : Option String → String
  | some condition => condition ++ "\n"
  | none => ""

/-- What is printed tells the condition, and nothing is printed only if there is none. -/
theorem conditionLine_injective : Function.Injective conditionLine := by
  intro condition other hline
  cases condition with
  | none =>
    cases other with
    | none => rfl
    | some other => simp [conditionLine] at hline
  | some condition =>
    cases other with
    | none => simp [conditionLine] at hline
    | some other => rw [(String.append_left_inj "\n").mp hline]

/-- The part of a statement with a condition. -/
def conditionPart : Option String → String
  | some condition => " WHERE " ++ condition
  | none => ""

theorem whereSql_eq_conditionPart (options : Sql.Options) (filters : Option FilterSet) :
    Sql.whereSql options filters = conditionPart (filters.bind (Sql.condition? options)) := by
  unfold Sql.whereSql conditionPart
  cases filters.bind (Sql.condition? options) with
  | none => rfl
  | some condition => rfl

theorem printsOf_bind {text : List Predicate → String} {f : List Predicate → Action Outcome}
    (hf : ∀ ps console, (f ps).on console =
      (.ok .success, ⟨console.stdin, console.stdout ++ text ps⟩)) :
    PrintsOf files settings source text (loadPredicates files settings source >>= f) := by
  intro console
  have hquiet := isQuiet_loadPredicates files settings source console
  rw [on_bind]
  cases hload : (loadPredicates files settings source).on console with
  | mk result after =>
    rw [hload] at hquiet
    rw [← hquiet]
    cases result with
    | error e => rfl
    | ok ps => exact hf ps after

/-- The condition of predicates, if they have one. -/
def conditionOf? (settings : Settings) (ps : List Predicate) : Option String :=
  (FilterSet.compile? ps).bind (Sql.condition? settings.sql)

theorem printsOf_condition (files : Files) (settings : Settings) (source : String) :
    PrintsOf files settings source (fun ps => conditionLine (conditionOf? settings ps))
      (execute files settings (.condition source)) := by
  apply printsOf_bind
  intro ps console
  unfold conditionOf?
  cases (FilterSet.compile? ps).bind (Sql.condition? settings.sql) with
  | none =>
    rw [conditionLine, String.append_empty]
    rfl
  | some condition =>
    rw [conditionLine, ← String.append_assoc]
    exact on_printLine_pure condition _

theorem printsOf_select (files : Files) (settings : Settings) {request : SelectRequest}
    {table : Identifier} {columns : Columns}
    (htable : Identifier.ofString request.table = .ok table)
    (hcolumns : Columns.ofNames request.columns = .ok columns)
    (hsource : request.predicates = some source) (hform : request.descriptor = false) :
    PrintsOf files settings source
      (fun ps => "SELECT " ++ columns.sql ++ " FROM " ++ Sql.quoteName table.name ++
        conditionPart (conditionOf? settings ps) ++ Sql.orderSql request.orderBy ++
        Sql.limitSql request.limit request.offset ++ "\n")
      (execute files settings (.select request)) := by
  have hcommand : execute files settings (.select request) =
      loadPredicates files settings source >>= fun ps => do
        printLine (Sql.select settings.sql ⟨table, FilterSet.compile? ps, columns, request.limit,
          request.offset, request.orderBy⟩)
        return .success := by
    simp only [execute, buildQuery, loadFilters, htable, hcolumns, hsource, hform, check, pure_bind,
      bind_assoc, Bool.false_eq_true, if_false]
  rw [hcommand]
  apply printsOf_bind
  intro ps console
  rw [on_printLine_pure, String.append_assoc]
  unfold Sql.select conditionOf?
  rw [whereSql_eq_conditionPart]

theorem printsOf_count (files : Files) (settings : Settings) (source : String) {name : String}
    {table : Identifier} (htable : Identifier.ofString name = .ok table) :
    PrintsOf files settings source
      (fun ps => "SELECT COUNT(*) as count FROM " ++ Sql.quoteName table.name ++
        conditionPart (conditionOf? settings ps) ++ "\n")
      (execute files settings (.count name (some source))) := by
  have hcommand : execute files settings (.count name (some source)) =
      loadPredicates files settings source >>= fun ps => do
        printLine (Sql.count settings.sql table (FilterSet.compile? ps))
        return .success := by
    simp only [execute, loadFilters, htable, check, pure_bind, bind_assoc]
  rw [hcommand]
  apply printsOf_bind
  intro ps console
  rw [on_printLine_pure, String.append_assoc]
  unfold Sql.count conditionOf?
  rw [whereSql_eq_conditionPart]

/-- A command that fails has printed nothing. The condition, the selection and the count of one
input of predicates, of which the second and the third have names that are valid, fail with the same
cause. Otherwise the first prints the condition that the other two have, and nothing if they have
none. -/
theorem failure_prints_nothing_and_conditions_agree :
    (∀ (files : Files) (settings : Settings) (command : Command) (console after : Console)
        (e : RunError),
      (execute files settings command).on console = (.error e, after) →
      after.stdout = console.stdout) ∧
    ∀ (files : Files) (settings : Settings) (source name : String) (request : SelectRequest)
        (table counted : Identifier) (columns : Columns),
      Identifier.ofString request.table = .ok table →
      Columns.ofNames request.columns = .ok columns →
      Identifier.ofString name = .ok counted →
      request.predicates = some source → request.descriptor = false →
      ∀ console : Console,
        (∃ e after,
          (execute files settings (.condition source)).on console = (.error e, after) ∧
          (execute files settings (.select request)).on console = (.error e, after) ∧
          (execute files settings (.count name (some source))).on console = (.error e, after)) ∨
        ∃ condition stdin,
          (execute files settings (.condition source)).on console =
            (.ok .success, ⟨stdin, console.stdout ++ conditionLine condition⟩) ∧
          (execute files settings (.select request)).on console =
            (.ok .success, ⟨stdin, console.stdout ++
              ("SELECT " ++ columns.sql ++ " FROM " ++ Sql.quoteName table.name ++
                conditionPart condition ++ Sql.orderSql request.orderBy ++
                Sql.limitSql request.limit request.offset ++ "\n")⟩) ∧
          (execute files settings (.count name (some source))).on console =
            (.ok .success, ⟨stdin, console.stdout ++
              ("SELECT COUNT(*) as count FROM " ++ Sql.quoteName counted.name ++
                conditionPart condition ++ "\n")⟩) := by
  constructor
  · intro files settings command console after e hrun
    exact isQuietOnFailure_execute files settings command console e after hrun
  · intro files settings source name request table counted columns htable hcolumns hcounted hsource
      hform console
    have hcondition := printsOf_condition files settings source console
    have hselect := printsOf_select files settings htable hcolumns hsource hform console
    have hcount := printsOf_count files settings source hcounted console
    cases hload : (loadPredicates files settings source).on console with
    | mk result after =>
      rw [hload] at hcondition hselect hcount
      cases result with
      | error e => exact .inl ⟨e, _, hcondition, hselect, hcount⟩
      | ok ps => exact .inr ⟨_, _, hcondition, hselect, hcount⟩

/-- The rows are read before the predicates turn out to be missing, and still nothing is printed,
nor is it where the standard input cannot be read. A condition from the standard input is the same
in all three commands. -/
theorem stock_condition_is_shared :
    (∃ e after,
      (execute (fun _ => .absent) .standard (.extract "-")).on
          ⟨.unreadable "Is a directory (os error 21)", "ready\n"⟩ = (.error e, after) ∧
        after.stdout = "ready\n") ∧
    (∃ e after,
      (execute (fun _ => .absent) .standard (.preview "-" "stock.json")).on ⟨"[]", "ready\n"⟩ =
        (.error e, after) ∧ after.stdout = "ready\n") ∧
    (execute (fun _ => .absent) .standard (.condition "-")).on
        ⟨"[[\"price\",\"equals\",9]]", ""⟩ = (.ok .success, ⟨"", "\x60price\x60 = 9\n"⟩) ∧
    (execute (fun _ => .absent) .standard
        (.select ⟨"stock", ["name"], some "-", some " name ", some 5, none, false⟩)).on
        ⟨"[[\"price\",\"equals\",9]]", ""⟩ =
      (.ok .success, ⟨"", "SELECT \x60name\x60 FROM \x60stock\x60 WHERE \x60price\x60 = 9 " ++
        "ORDER BY name LIMIT 5\n"⟩) ∧
    (execute (fun _ => .absent) .standard (.count "stock" (some "-"))).on
        ⟨"[[\"price\",\"equals\",9]]", ""⟩ =
      (.ok .success,
        ⟨"", "SELECT COUNT(*) as count FROM \x60stock\x60 WHERE \x60price\x60 = 9\n"⟩) := by
  obtain ⟨hfailure, hagree⟩ := failure_prints_nothing_and_conditions_agree
  have hextract :
      (execute (fun _ => .absent) .standard (.extract "-")).on
          ⟨.unreadable "Is a directory (os error 21)", "ready\n"⟩ =
        (.error (.unreadableStdin "Is a directory (os error 21)"),
          ⟨.unreadable "Is a directory (os error 21)", "ready\n"⟩) := by
    decide +kernel
  have hpreview :
      (execute (fun _ => .absent) .standard (.preview "-" "stock.json")).on ⟨"[]", "ready\n"⟩ =
        (.error (.unreadable "stock.json" "No such file or directory (os error 2)"),
          ⟨"", "ready\n"⟩) := by
    decide +kernel
  have hprinted :
      (execute (fun _ => .absent) .standard (.condition "-")).on
        ⟨"[[\"price\",\"equals\",9]]", ""⟩ = (.ok .success, ⟨"", "\x60price\x60 = 9\n"⟩) := by
    decide +kernel
  refine ⟨⟨_, _, hextract, hfailure _ _ _ _ _ _ hextract⟩,
    ⟨_, _, hpreview, hfailure _ _ _ _ _ _ hpreview⟩, hprinted, ?_⟩
  rcases hagree (fun _ => .absent) .standard "-" "stock"
      ⟨"stock", ["name"], some "-", some " name ", some 5, none, false⟩
      ⟨"stock", by decide⟩ ⟨"stock", by decide⟩ (.named ⟨"name", by decide⟩ [])
      (by decide) (by decide) (by decide) rfl rfl ⟨"[[\"price\",\"equals\",9]]", ""⟩ with
    ⟨e, after, herror, -⟩ | ⟨condition, stdin, hline, hselect, hcount⟩
  · rw [hprinted] at herror
    cases herror
  · have hsame : (⟨stdin, "" ++ conditionLine condition⟩ : Console) =
        ⟨"", "" ++ conditionLine (some "\x60price\x60 = 9")⟩ :=
      (Prod.mk.inj (hline.symm.trans hprinted)).2
    obtain ⟨rfl, hcondition⟩ := Console.mk.inj hsame
    obtain rfl := conditionLine_injective ((String.append_right_inj "").mp hcondition)
    exact ⟨hselect.trans (by decide +kernel), hcount.trans (by decide +kernel)⟩

end TableFilter.CommandLine
