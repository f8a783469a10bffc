import Mathlib.Data.List.Induction
import Mathlib.Tactic.Choose
import TableFilter.Proofs.Config.Setting
import TableFilter.Proofs.Outcome

/-!
# Which source decides

Of a stack of layers and the environment, what decides each setting. Main statement: its variable
does, or else the last layer that settles it, or else it is as usual, and no other setting has a
part in it: `settings_follow_precedence`.
-/

namespace TableFilter.Config

namespace Setting

variable (s : Setting)

/-! ## Layers -/

section Section

variable {α β : Type} [Inhabited α] (field : α → Option β) {above : α → α → α}

/-- A section that is missing settles what an empty one does. -/
theorem field_getD_default (hempty : field default = none) (sect : Option α) :
    field (sect.getD default) = sect.bind field := by
  cases sect with
  | none => exact hempty
  | some _ => rfl

/-- Sections are put together field by field, whether they are there or not. -/
theorem bind_sectionAbove (hempty : field default = none)
    (habove : ∀ upper lower, field (above upper lower) = (field upper).or (field lower))
    (upper lower : Option α) :
    (sectionAbove above upper lower).bind field = (upper.bind field).or (lower.bind field) := by
  cases upper with
  | none => rw [sectionAbove, Option.bind_none, Option.none_or]
  | some upper =>
    rw [sectionAbove, Option.bind_some, Option.bind_some, habove,
      field_getD_default field hempty]

end Section

theorem settledBy_empty : s.settledBy .empty = none := by
  cases s <;> rfl

/-- The upper one of two layers counts, setting by setting. -/
theorem settledBy_above (upper lower : Layer) :
    s.settledBy (upper.above lower) = (s.settledBy upper).or (s.settledBy lower) := by
  cases s with
  | allowedColumns =>
    have habove (upper lower : ParseSection) : (upper.above lower).allowedColumns =
        upper.allowedColumns.or lower.allowedColumns := rfl
    rw [settledBy, Layer.above, bind_sectionAbove _ rfl habove]
    exact Option.map_or
  | _ => exact bind_sectionAbove _ rfl (fun _ _ => rfl) _ _

/-- Of layers in a stack the last one that settles a setting counts for it. -/
theorem settledBy_merged (layers : List Layer) :
    s.settledBy (.merged layers) = layers.reverse.findSome? s.settledBy := by
  induction layers using List.reverseRecOn with
  | nil => exact s.settledBy_empty
  | append_singleton layers top ih =>
    have hmerged : Layer.merged (layers ++ [top]) = top.above (.merged layers) := by
      simp [Layer.merged]
    rw [hmerged, settledBy_above, ih, List.reverse_concat, List.findSome?_cons]
    cases s.settledBy top <;> rfl

theorem get_ofLayer (layer : Layer) :
    s.get (.ofLayer layer) = (s.settledBy layer).getD s.usual := by
  cases s with
  | allowedColumns =>
    rw [settledBy, ← field_getD_default ParseSection.allowedColumns rfl]
    simp only [get, Settings.ofLayer]
    cases (layer.parse.getD default).allowedColumns <;> rfl
  | _ => exact congrArg (Option.getD · _) (field_getD_default _ rfl _)

/-- The value of a setting: what its variable says, or else what the last layer says that settles
it, or else the usual value. -/
def resolved (layers : List Layer) (env : Environment) : Except ConfigError s.Value :=
  s.overlaid env ((layers.reverse.findSome? s.settledBy).getD s.usual)

theorem overlaid_get_ofLayer (layers : List Layer) (env : Environment) :
    s.overlaid env (s.get (.ofLayer (.merged layers))) = s.resolved layers env := by
  rw [get_ofLayer, settledBy_merged, resolved]

/-- The value that a setting takes: what its variable says, if it is set and not blank, else what
the last layer says that settles it, else the usual value. -/
inductive Takes (layers : List Layer) (env : Environment) : s.Value → Prop
  | ofVariable {value : String} {a : s.Value} (hgiven : s.Given env value)
      (hreads : s.Reads value a) : Takes layers env a
  | ofLayer {below above : List Layer} {layer : Layer} {a : s.Value}
      (hunset : ∀ value, ¬ s.Given env value) (hlayers : layers = below ++ layer :: above)
      (hsettled : s.settledBy layer = some a) (hopen : ∀ later ∈ above, s.settledBy later = none) :
      Takes layers env a
  | ofDefault (hunset : ∀ value, ¬ s.Given env value)
      (hopen : ∀ layer ∈ layers, s.settledBy layer = none) : Takes layers env s.usual

theorem findSome?_reverse_eq_some_iff {α β : Type} {f : α → Option β} {as : List α} {b : β} :
    as.reverse.findSome? f = some b ↔
      ∃ before a after, as = before ++ a :: after ∧ f a = some b ∧
        ∀ later ∈ after, f later = none := by
  rw [List.findSome?_eq_some_iff]
  constructor
  · rintro ⟨after, a, before, hreverse, ha, hlater⟩
    refine ⟨before.reverse, a, after.reverse, ?_, ha, by simpa using hlater⟩
    rw [← List.reverse_reverse as, hreverse]
    simp
  · rintro ⟨before, a, after, rfl, ha, hlater⟩
    exact ⟨after.reverse, a, before.reverse, by simp, ha, by simpa using hlater⟩

/-- Where the variable is not set, the layers decide. -/
theorem takes_iff_of_unset {layers : List Layer} {env : Environment}
    (hunset : ∀ value, ¬ s.Given env value) (a : s.Value) :
    s.Takes layers env a ↔ (layers.reverse.findSome? s.settledBy).getD s.usual = a := by
  constructor
  · intro htakes
    cases htakes with
    | ofVariable hgiven _ => exact absurd hgiven (hunset _)
    | ofLayer _ hlayers hsettled hopen =>
      rw [findSome?_reverse_eq_some_iff.mpr ⟨_, _, _, hlayers, hsettled, hopen⟩, Option.getD_some]
    | ofDefault _ hopen =>
      have hnone : layers.reverse.findSome? s.settledBy = none := by simpa using hopen
      rw [hnone, Option.getD_none]
  · rintro rfl
    cases hfind : layers.reverse.findSome? s.settledBy with
    | none => exact .ofDefault hunset (by simpa using hfind)
    | some a =>
      obtain ⟨below, layer, above, hlayers, hsettled, hopen⟩ :=
        findSome?_reverse_eq_some_iff.mp hfind
      exact .ofLayer hunset hlayers hsettled hopen

/-- Where the variable is set, it decides. -/
theorem takes_iff_of_given {layers : List Layer} {env : Environment} {value : String}
    (hgiven : s.Given env value) (a : s.Value) :
    s.Takes layers env a ↔ ∃ value, s.Given env value ∧ s.Reads value a := by
  constructor
  · intro htakes
    cases htakes with
    | ofVariable hgiven hreads => exact ⟨_, hgiven, hreads⟩
    | ofLayer hunset | ofDefault hunset => exact absurd hgiven (hunset value)
  · rintro ⟨_, hgiven, hreads⟩
    exact .ofVariable hgiven hreads

theorem resolved_eq_ok_iff (layers : List Layer) (env : Environment) (a : s.Value) :
    s.resolved layers env = .ok a ↔ s.Takes layers env a := by
  rw [resolved, overlaid]
  by_cases hunset : ∀ value, ¬ s.Given env value
  · rw [takes_iff_of_unset s hunset, given?_eq_none_iff.mpr hunset, Option.getD_none,
      Except.ok.injEq]
  · obtain ⟨value, hgiven⟩ := not_forall_not.mp hunset
    rw [takes_iff_of_given s hgiven, ← given?_eq_ok_iff]
    cases hvalue : s.given? env with
    | none => exact absurd (given?_eq_none_iff.mp hvalue) hunset
    | some outcome => rw [Option.getD_some, Option.some.injEq]

/-- Only a variable can stand in the way of a setting. -/
theorem exists_resolved_eq_error_iff (layers : List Layer) (env : Environment) :
    (∃ e, s.resolved layers env = .error e) ↔
      ∃ value, s.Given env value ∧ ∀ a, ¬ s.Reads value a := by
  rw [← exists_given?_eq_error_iff]
  refine exists_congr fun e => ?_
  rw [resolved, overlaid]
  cases s.given? env <;> simp

end Setting

/-! ## Resolving -/

theorem Settings.check_eq_ok_iff (settings : Settings) :
    settings.check = .ok () ↔
      0 < settings.limits.maxPredicates ∧ 0 < settings.limits.maxBytes := by
  rw [Settings.check, UInt64.pos_iff_ne_zero, UInt64.pos_iff_ne_zero]
  split
  next hcount => simp [hcount]
  next hcount =>
    split
    next hbytes => simp [hbytes]
    next hbytes => simp [hcount, hbytes]

theorem resolve_eq_ok_iff_override (layer : Layer) (env : Environment) (settings : Settings) :
    resolve layer env = .ok settings ↔
      env.override (.ofLayer layer) = (settings, none) ∧ settings.check = .ok () := by
  rw [resolve]
  obtain ⟨result, refusal⟩ := env.override (.ofLayer layer)
  cases refusal with
  | some e => simp
  | none =>
    constructor
    · intro hresolve
      obtain ⟨_, hcheck, hresult⟩ := exists_of_bind_eq_ok hresolve
      cases hresult
      exact ⟨rfl, hcheck⟩
    · rintro ⟨⟨⟩, hcheck⟩
      simp only [hcheck]
      rfl

theorem resolve_eq_ok_iff (layers : List Layer) (env : Environment) (settings : Settings) :
    resolve (.merged layers) env = .ok settings ↔
      (∀ s : Setting, s.resolved layers env = .ok (s.get settings)) ∧
        0 < settings.limits.maxPredicates ∧ 0 < settings.limits.maxBytes := by
  have hdistinct : Setting.all.Nodup := by decide
  rw [resolve_eq_ok_iff_override, Environment.override, Setting.overrides_eq,
    env.applyEach_eq_iff hdistinct, Settings.check_eq_ok_iff]
  simp only [Setting.mem_all, not_true_eq_false, forall_true_left, false_implies, implies_true,
    and_true, Setting.overlaid_get_ofLayer]

/-- Settings are refused for a variable that cannot be read, or for a limit that admits nothing. -/
theorem resolve_eq_error_iff (layers : List Layer) (env : Environment) :
    (∃ e, resolve (.merged layers) env = .error e) ↔
      (∃ (s : Setting) (e : ConfigError), s.resolved layers env = .error e) ∨
        Setting.maxPredicates.resolved layers env = .ok 0 ∨
        Setting.maxBytes.resolved layers env = .ok 0 := by
  constructor
  · rintro ⟨e, he⟩
    by_contra hcauses
    obtain ⟨hread, hcount, hbytes⟩ : (∀ (s : Setting) e, s.resolved layers env ≠ .error e) ∧
        Setting.maxPredicates.resolved layers env ≠ .ok 0 ∧
        Setting.maxBytes.resolved layers env ≠ .ok 0 := by
      simpa using hcauses
    -- Without a cause every setting has a value, and settings of these values would be the result.
    have hvalue (s : Setting) : ∃ a, s.resolved layers env = .ok a := by
      cases hs : s.resolved layers env with
      | ok a => exact ⟨a, rfl⟩
      | error e => exact absurd hs (hread s e)
    choose values hvalues using hvalue
    obtain ⟨settings, hsettings⟩ := Setting.exists_settings values
    have hall (s : Setting) : s.resolved layers env = .ok (s.get settings) := by
      rw [hvalues, hsettings]
    have hok : resolve (.merged layers) env = .ok settings := by
      rw [resolve_eq_ok_iff, UInt64.pos_iff_ne_zero, UInt64.pos_iff_ne_zero]
      refine ⟨hall, fun hzero => hcount ?_, fun hzero => hbytes ?_⟩
      · exact (hall .maxPredicates).trans (congrArg Except.ok hzero)
      · exact (hall .maxBytes).trans (congrArg Except.ok hzero)
    rw [hok] at he
    cases he
  · intro hcauses
    cases hresolve : resolve (.merged layers) env with
    | error e => exact ⟨e, rfl⟩
    | ok settings =>
      exfalso
      obtain ⟨hall, hcount, hbytes⟩ := (resolve_eq_ok_iff layers env settings).mp hresolve
      rw [UInt64.pos_iff_ne_zero] at hcount hbytes
      rcases hcauses with ⟨s, e, he⟩ | hzero | hzero
      · rw [hall] at he
        cases he
      · exact hcount (Except.ok.inj ((hall .maxPredicates).symm.trans hzero))
      · exact hbytes (Except.ok.inj ((hall .maxBytes).symm.trans hzero))

/-- Layers that settle the same are resolved alike, whatever else they hold. -/
theorem resolve_eq_of_settledBy {layer other : Layer}
    (hsettled : ∀ s : Setting, s.settledBy layer = s.settledBy other) (env : Environment) :
    resolve layer env = resolve other env := by
  have hlayer : Settings.ofLayer layer = .ofLayer other := by
    refine Setting.ext_settings fun s => ?_
    rw [Setting.get_ofLayer, Setting.get_ofLayer, hsettled]
  rw [resolve, resolve, hlayer]

/-- Every setting follows one order of precedence by itself: its variable if that is set and not
blank, else the last layer that settles it, else the usual value. Resolving fails exactly if the
variable of a number or of a truth value says none or a limit comes out as zero. Layers may be put
together in any grouping, and an empty one among them changes nothing. -/
theorem settings_follow_precedence (env : Environment) :
    (∀ (layers : List Layer) (settings : Settings),
      resolve (.merged layers) env = .ok settings ↔
        (∀ s : Setting, s.Takes layers env (s.get settings)) ∧
          0 < settings.limits.maxPredicates ∧ 0 < settings.limits.maxBytes) ∧
    (∀ layers : List Layer,
      (∃ e, resolve (.merged layers) env = .error e) ↔
        (∃ s ≠ Setting.allowedColumns, ∃ value, s.Given env value ∧ ∀ a, ¬ s.Reads value a) ∨
          Setting.maxPredicates.Takes layers env 0 ∨ Setting.maxBytes.Takes layers env 0) ∧
    (∀ upper middle lower : Layer,
      resolve (upper.above (middle.above lower)) env =
        resolve ((upper.above middle).above lower) env) ∧
    ∀ layer : Layer,
      resolve (layer.above .empty) env = resolve layer env ∧
        resolve (Layer.empty.above layer) env = resolve layer env := by
  refine ⟨fun layers settings => ?_, fun layers => ?_, fun upper middle lower => ?_,
    fun layer => ⟨?_, ?_⟩⟩
  · simp only [resolve_eq_ok_iff, Setting.resolved_eq_ok_iff]
  · have hrefused : (∃ (s : Setting) (e : ConfigError), s.resolved layers env = .error e) ↔
        ∃ s ≠ Setting.allowedColumns, ∃ value, s.Given env value ∧ ∀ a, ¬ s.Reads value a := by
      simp only [Setting.exists_resolved_eq_error_iff]
      constructor
      · rintro ⟨s, value, hgiven, hnone⟩
        refine ⟨s, ?_, value, hgiven, hnone⟩
        rintro rfl
        obtain ⟨a, hreads⟩ := Setting.exists_reads_allowedColumns value
        exact hnone a hreads
      · rintro ⟨s, -, hs⟩
        exact ⟨s, hs⟩
    rw [resolve_eq_error_iff, hrefused, Setting.resolved_eq_ok_iff, Setting.resolved_eq_ok_iff]
  · refine resolve_eq_of_settledBy (fun s => ?_) env
    simp only [Setting.settledBy_above, Option.or_assoc]
  · refine resolve_eq_of_settledBy (fun s => ?_) env
    rw [Setting.settledBy_above, Setting.settledBy_empty, Option.or_none]
  · refine resolve_eq_of_settledBy (fun s => ?_) env
    rw [Setting.settledBy_above, Setting.settledBy_empty, Option.none_or]

/-- A file with limits, and one above it with other columns and a section that settles nothing. -/
def shopLayers : List Layer := [
  { Layer.empty with parse := some ⟨some 5, some 100, some ["id", "price"]⟩ },
  { Layer.empty with parse := some ⟨none, none, some ["name"]⟩, eval := some ⟨none⟩ }]

/-- A number with a sign and blanks around it, and a word on keywords. -/
def shopVariables (block : String) : Environment
  | "FILTERQL_MAX_PREDICATES" => some " +7 "
  | "FILTERQL_VALIDATOR_BLOCK" => some block
  | _ => none

/-- The number is taken over that of the files, and the last columns are. A blank word leaves the
keywords as usual, and one that is no truth value is refused. -/
theorem shop_variables_are_read_or_refused :
    (∀ s : Setting, s.Takes shopLayers (shopVariables "  ") (s.get { Settings.standard with
      limits := ⟨7, 100, some ["name"]⟩ })) ∧
    ∃ e, resolve (.merged shopLayers) (shopVariables "maybe") = .error e := by
  obtain ⟨hsuccess, -⟩ := settings_follow_precedence (shopVariables "  ")
  obtain ⟨-, hfailure, -⟩ := settings_follow_precedence (shopVariables "maybe")
  refine ⟨((hsuccess shopLayers _).mp ?_).1, (hfailure shopLayers).mpr (.inl ?_)⟩
  · rfl
  · refine ⟨.blockOnKeywords, by decide, "maybe", ⟨_, rfl, rfl, 'm', by decide, by decide⟩, ?_⟩
    intro b hreads
    have hflag : Override.flag "FILTERQL_VALIDATOR_BLOCK" "maybe" = .ok b :=
      flag_eq_ok_iff.mpr hreads
    cases hflag

end TableFilter.Config
