import TableFilter.Proofs.Config.Variable

/-!
# Single settings

Each setting by itself: where the settings of a run hold it, what a layer settles of it, and the
variable that overrides it. The variables are looked at one after the other, and each changes its
own setting alone. Main statements: `Setting.given?_eq_ok_iff`, `Environment.applyEach_eq_iff`.
-/

namespace TableFilter.Config

/-- What can be set. -/
inductive Setting where
  | maxPredicates
  | maxBytes
  | allowedColumns
  | escapeBackslashes
  | fullOperatorSet
  | blockOnKeywords
  | keywords
  deriving DecidableEq

/-- A variable, and how its value is read. -/
structure Variable (α : Type) where
  key : String
  read : String → Except ConfigError α

namespace Variable

def number (key : String) : Variable UInt64 :=
  ⟨key, Override.number key⟩

def flag (key : String) : Variable Bool :=
  ⟨key, Override.flag key⟩

@[simp]
theorem read_number (key value : String) :
    (number key).read value = Override.number key value := by
  rw [number]

@[simp]
theorem read_flag (key value : String) : (flag key).read value = Override.flag key value := by
  rw [flag]

end Variable

namespace Setting

/-- The values of a setting. There may be a list of allowed columns or none. -/
abbrev Value : Setting → Type
  | .maxPredicates | .maxBytes => UInt64
  | .allowedColumns => Option (List String)
  | .escapeBackslashes | .fullOperatorSet | .blockOnKeywords => Bool
  | .keywords => List String

def all : List Setting :=
  [.maxPredicates, .maxBytes, .allowedColumns, .escapeBackslashes, .fullOperatorSet,
    .blockOnKeywords, .keywords]

theorem mem_all (s : Setting) : s ∈ all := by
  cases s <;> decide

def get : (s : Setting) → Settings → s.Value
  | .maxPredicates, settings => settings.limits.maxPredicates
  | .maxBytes, settings => settings.limits.maxBytes
  | .allowedColumns, settings => settings.limits.allowedColumns
  | .escapeBackslashes, settings => settings.sql.escapeBackslashes
  | .fullOperatorSet, settings => settings.preview.fullOperatorSet
  | .blockOnKeywords, settings => settings.scan.block
  | .keywords, settings => settings.scan.keywords

def set : (s : Setting) → s.Value → Settings → Settings
  | .maxPredicates, n, settings =>
    { settings with limits := { settings.limits with maxPredicates := n } }
  | .maxBytes, n, settings => { settings with limits := { settings.limits with maxBytes := n } }
  | .allowedColumns, columns, settings =>
    { settings with limits := { settings.limits with allowedColumns := columns } }
  | .escapeBackslashes, b, settings =>
    { settings with sql := { settings.sql with escapeBackslashes := b } }
  | .fullOperatorSet, b, settings =>
    { settings with preview := { settings.preview with fullOperatorSet := b } }
  | .blockOnKeywords, b, settings => { settings with scan := { settings.scan with block := b } }
  | .keywords, words, settings => { settings with scan := { settings.scan with keywords := words } }

/-- What a layer settles of a setting, if it does: a section that is missing and a null leave it
open. -/
def settledBy : (s : Setting) → Layer → Option s.Value
  | .maxPredicates, layer => layer.parse.bind (·.maxPredicates)
  | .maxBytes, layer => layer.parse.bind (·.maxBytes)
  | .allowedColumns, layer => (layer.parse.bind (·.allowedColumns)).map some
  | .escapeBackslashes, layer => layer.sql.bind (·.escapeBackslashes)
  | .fullOperatorSet, layer => layer.eval.bind (·.fullOperatorSet)
  | .blockOnKeywords, layer => layer.validator.bind (·.block)
  | .keywords, layer => layer.validator.bind (·.keywords)

/-- The value that a setting has where nothing settles it. -/
def usual (s : Setting) : s.Value :=
  s.get .standard

/-- The variable of a setting; the keywords have none. -/
def envVar? : (s : Setting) → Option (Variable s.Value)
  | .maxPredicates => some (.number "FILTERQL_MAX_PREDICATES")
  | .maxBytes => some (.number "FILTERQL_MAX_FILTER_JSON_BYTES")
  | .allowedColumns =>
    some ⟨"FILTERQL_ALLOWED_COLUMNS", fun value => .ok (some (Override.listed value))⟩
  | .escapeBackslashes => some (.flag "FILTERQL_SQL_ESCAPE_BACKSLASHES")
  | .fullOperatorSet => some (.flag "FILTERQL_EVAL_FULL_OPERATOR_SET")
  | .blockOnKeywords => some (.flag "FILTERQL_VALIDATOR_BLOCK")
  | .keywords => none

/-! ## Getting and setting -/

section Access

variable {s t : Setting} (settings : Settings)

@[simp]
theorem get_set (a : s.Value) : s.get (s.set a settings) = a := by
  cases s <;> rfl

@[simp]
theorem set_get : s.set (s.get settings) settings = settings := by
  cases s <;> rfl

theorem get_set_of_ne (hne : t ≠ s) (a : s.Value) : t.get (s.set a settings) = t.get settings := by
  cases s <;> cases t <;> first | rfl | exact absurd rfl hne

theorem ext_settings {settings other : Settings}
    (hget : ∀ s : Setting, s.get settings = s.get other) : settings = other := by
  obtain ⟨⟨_, _, _⟩, ⟨_⟩, ⟨_⟩, ⟨_, _⟩⟩ := settings
  obtain ⟨⟨_, _, _⟩, ⟨_⟩, ⟨_⟩, ⟨_, _⟩⟩ := other
  obtain rfl := hget .maxPredicates
  obtain rfl := hget .maxBytes
  obtain rfl := hget .allowedColumns
  obtain rfl := hget .escapeBackslashes
  obtain rfl := hget .fullOperatorSet
  obtain rfl := hget .blockOnKeywords
  obtain rfl := hget .keywords
  rfl

/-- Settings may have any values. -/
theorem exists_settings (values : (s : Setting) → s.Value) :
    ∃ settings : Settings, ∀ s : Setting, s.get settings = values s := by
  refine ⟨⟨⟨values .maxPredicates, values .maxBytes, values .allowedColumns⟩,
    ⟨values .escapeBackslashes⟩, ⟨values .fullOperatorSet⟩,
    ⟨values .blockOnKeywords, values .keywords⟩⟩, fun s => ?_⟩
  cases s <;> rfl

end Access

/-! ## What the environment gives -/

/-- The name of the variable of a setting; the keywords have none. -/
def variableName? : Setting → Option String
  | .maxPredicates => some "FILTERQL_MAX_PREDICATES"
  | .maxBytes => some "FILTERQL_MAX_FILTER_JSON_BYTES"
  | .allowedColumns => some "FILTERQL_ALLOWED_COLUMNS"
  | .escapeBackslashes => some "FILTERQL_SQL_ESCAPE_BACKSLASHES"
  | .fullOperatorSet => some "FILTERQL_EVAL_FULL_OPERATOR_SET"
  | .blockOnKeywords => some "FILTERQL_VALIDATOR_BLOCK"
  | .keywords => none

/-- The variable of a setting is set, to a value that is not blank. -/
def Given (s : Setting) (env : Environment) (value : String) : Prop :=
  ∃ name, s.variableName? = some name ∧ env name = some value ∧
    ∃ c ∈ value.toList, Text.isBlank c = false

/-- What the value of its variable says of a setting. -/
def Reads : (s : Setting) → String → s.Value → Prop
  | .maxPredicates, value, n | .maxBytes, value, n => ReadsNumber value n
  | .allowedColumns, value, columns => ∃ names, columns = some names ∧ ReadsNames value names
  | .escapeBackslashes, value, b | .fullOperatorSet, value, b | .blockOnKeywords, value, b =>
    ReadsFlag value b
  | .keywords, _, _ => False

/-- What the environment gives for a setting, if its variable is set and not blank. -/
def given? (s : Setting) (env : Environment) : Option (Except ConfigError s.Value) :=
  s.envVar?.bind fun v => (env.value? v.key).map v.read

section Given

variable {s : Setting} {env : Environment} {value : String}

theorem map_key_envVar? (s : Setting) : s.envVar?.map Variable.key = s.variableName? := by
  cases s <;> rfl

theorem reads_iff {v : Variable s.Value} (hv : s.envVar? = some v) (a : s.Value) :
    s.Reads value a ↔ v.read value = .ok a := by
  cases s with
  | maxPredicates | maxBytes =>
    cases hv
    rw [Variable.read_number]
    exact number_eq_ok_iff.symm
  | allowedColumns =>
    cases hv
    simp only [Reads, Except.ok.injEq]
    constructor
    · rintro ⟨names, rfl, hnames⟩
      rw [listed_eq_iff.mpr hnames]
    · rintro rfl
      exact ⟨_, rfl, listed_eq_iff.mp rfl⟩
  | escapeBackslashes | fullOperatorSet | blockOnKeywords =>
    cases hv
    rw [Variable.read_flag]
    exact flag_eq_ok_iff.symm
  | keywords => cases hv

/-- A list of columns can be read from any value. -/
theorem exists_reads_allowedColumns (value : String) : ∃ a, allowedColumns.Reads value a :=
  ⟨_, _, rfl, listed_eq_iff.mp rfl⟩

theorem value?_eq_some_iff {name : String} :
    env.value? name = some value ↔
      env name = some value ∧ ∃ c ∈ value.toList, Text.isBlank c = false := by
  have hvisible : (!(Text.trim value).isEmpty) = true ↔
      ∃ c ∈ value.toList, Text.isBlank c = false := by
    rw [Bool.not_eq_true', Bool.eq_false_iff, Ne, String.isEmpty_iff, Text.trim_eq_empty_iff]
    simp
  rw [Environment.value?, Option.filter_eq_some_iff, hvisible]

theorem given_iff :
    s.Given env value ↔ ∃ v, s.envVar? = some v ∧ env.value? v.key = some value := by
  simp only [Given, ← map_key_envVar?, Option.map_eq_some_iff, value?_eq_some_iff]
  constructor
  · rintro ⟨_, ⟨v, hv, rfl⟩, hvalue⟩
    exact ⟨v, hv, hvalue⟩
  · rintro ⟨v, hv, hvalue⟩
    exact ⟨_, ⟨v, hv, rfl⟩, hvalue⟩

theorem given?_eq_some_iff {outcome : Except ConfigError s.Value} :
    s.given? env = some outcome ↔
      ∃ v value, s.envVar? = some v ∧ env.value? v.key = some value ∧ v.read value = outcome := by
  simp only [given?, Option.bind_eq_some_iff, Option.map_eq_some_iff]
  constructor
  · rintro ⟨v, hv, value, hvalue, hread⟩
    exact ⟨v, value, hv, hvalue, hread⟩
  · rintro ⟨v, value, hv, hvalue, hread⟩
    exact ⟨v, hv, value, hvalue, hread⟩

theorem given?_eq_none_iff : s.given? env = none ↔ ∀ value, ¬ s.Given env value := by
  rw [given?, Option.bind_eq_none_iff]
  simp only [Option.map_eq_none_iff, given_iff]
  constructor
  · rintro hnone value ⟨v, hv, hvalue⟩
    rw [hnone v hv] at hvalue
    cases hvalue
  · intro hnone v hv
    rw [Option.eq_none_iff_forall_ne_some]
    exact fun value hvalue => hnone value ⟨v, hv, hvalue⟩

theorem given?_eq_ok_iff {a : s.Value} :
    s.given? env = some (.ok a) ↔ ∃ value, s.Given env value ∧ s.Reads value a := by
  simp only [given?_eq_some_iff, given_iff]
  constructor
  · rintro ⟨v, value, hv, hvalue, hread⟩
    exact ⟨value, ⟨v, hv, hvalue⟩, (reads_iff hv a).mpr hread⟩
  · rintro ⟨value, ⟨v, hv, hvalue⟩, hreads⟩
    exact ⟨v, value, hv, hvalue, (reads_iff hv a).mp hreads⟩

/-- A variable is refused if nothing can be read from its value. -/
theorem exists_given?_eq_error_iff :
    (∃ e, s.given? env = some (.error e)) ↔
      ∃ value, s.Given env value ∧ ∀ a, ¬ s.Reads value a := by
  simp only [given?_eq_some_iff, given_iff]
  constructor
  · rintro ⟨e, v, value, hv, hvalue, hread⟩
    refine ⟨value, ⟨v, hv, hvalue⟩, fun a hreads => ?_⟩
    rw [reads_iff hv, hread] at hreads
    cases hreads
  · rintro ⟨value, ⟨v, hv, hvalue⟩, hnone⟩
    cases hread : v.read value with
    | error e => exact ⟨e, v, value, hv, hvalue, hread⟩
    | ok a => exact absurd ((reads_iff hv a).mpr hread) (hnone a)

end Given

/-- The value of a setting after its variable has been looked at. -/
def overlaid (s : Setting) (env : Environment) (value : s.Value) : Except ConfigError s.Value :=
  (s.given? env).getD (.ok value)

def override? (s : Setting) : Option Override :=
  s.envVar?.map fun v => ⟨v.key, fun value settings => (v.read value).map (s.set · settings)⟩

/-- The variables are those of the settings, in order. -/
theorem overrides_eq : Override.all = all.filterMap override? := by
  simp only [all, List.filterMap_cons, List.filterMap_nil, override?, envVar?, Variable.number,
    Variable.flag, Option.map_some, Option.map_none]
  rfl

end Setting

namespace Environment

variable (env : Environment)

/-- The variable of one setting changes that setting, or is refused. -/
theorem applyEach_cons (s : Setting) (rest : List Setting) (settings : Settings) :
    env.applyEach settings ((s :: rest).filterMap Setting.override?) =
      match s.overlaid env (s.get settings) with
      | .ok a => env.applyEach (s.set a settings) (rest.filterMap Setting.override?)
      | .error e => (settings, some e) := by
  rw [Setting.overlaid, Setting.given?, List.filterMap_cons, Setting.override?]
  cases s.envVar? with
  | none => simp
  | some v =>
    rw [Option.map_some, Option.bind_some, applyEach]
    cases env.value? v.key with
    | none => simp
    | some value =>
      simp only [Option.map_some, Option.getD_some]
      cases v.read value <;> rfl

/-- After variables have been looked at with success, each setting that has one of them is as its
variable says, and the others are as before. -/
theorem applyEach_eq_iff {ss : List Setting} (hdistinct : ss.Nodup) (settings result : Settings) :
    env.applyEach settings (ss.filterMap Setting.override?) = (result, none) ↔
      (∀ s ∈ ss, s.overlaid env (s.get settings) = .ok (s.get result)) ∧
        ∀ s ∉ ss, s.get result = s.get settings := by
  induction ss generalizing settings with
  | nil =>
    have hsame : settings = result ↔ ∀ s : Setting, s.get result = s.get settings :=
      ⟨fun heq s => heq ▸ rfl, fun hget => Setting.ext_settings fun s => (hget s).symm⟩
    simp [applyEach, hsame]
  | cons s rest ih =>
    obtain ⟨hnew, hrest⟩ := List.nodup_cons.mp hdistinct
    rw [applyEach_cons, List.forall_mem_cons]
    cases hs : s.overlaid env (s.get settings) with
    | error e => simp
    | ok a =>
      -- The variables that follow see this setting changed, and none of them is its own.
      have hmem : (∀ t ∈ rest, t.overlaid env (t.get (s.set a settings)) = .ok (t.get result)) ↔
          ∀ t ∈ rest, t.overlaid env (t.get settings) = .ok (t.get result) := by
        refine forall₂_congr fun t ht => ?_
        have hne : t ≠ s := by
          rintro rfl
          exact hnew ht
        rw [Setting.get_set_of_ne settings hne]
      have hnot : (∀ t ∉ rest, t.get result = t.get (s.set a settings)) ↔
          a = s.get result ∧ ∀ t ∉ s :: rest, t.get result = t.get settings := by
        constructor
        · intro hall
          refine ⟨?_, fun t ht => ?_⟩
          · rw [hall s hnew, Setting.get_set]
          · rw [hall t (List.not_mem_of_not_mem_cons ht),
              Setting.get_set_of_ne settings (List.ne_of_not_mem_cons ht)]
        · rintro ⟨ha, hall⟩ t ht
          by_cases heq : t = s
          · subst heq
            rw [Setting.get_set, ha]
          · rw [Setting.get_set_of_ne settings heq,
              hall t (List.not_mem_cons_of_ne_of_not_mem heq ht)]
      rw [ih hrest, hmem, hnot, Except.ok.injEq, and_left_comm, and_assoc]

end Environment

end TableFilter.Config
