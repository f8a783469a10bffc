import Mathlib.Control.Monad.Basic
import TableFilter.Admission
import TableFilter.Proofs.Outcome

/-!
# Stricter and looser limits

Limits decide whether a filter is admitted and never what is admitted: a text is read without a
look at them, and then it fits them or not. Main statement: what stricter limits admit is what
looser ones admit, as far as it fits the stricter, `stricter_limits_admit_what_fits`.
-/

namespace TableFilter

namespace Limits

/-- Whether limits admit a text of so many conditions on some columns. -/
structure Fits (limits : Limits) (text : String) (count : Nat) (columns : List Identifier) :
    Prop where
  bytes_le : text.utf8ByteSize ≤ limits.maxBytes.toNat
  count_le : count ≤ limits.maxPredicates.toNat
  isAllowed : ∀ allowed, limits.allowedColumns = some allowed →
    ∀ column ∈ columns, column.name ∈ allowed

/-- Whether limits are at least as strict as others. A list of columns is stricter than none. -/
structure IsWithin (strict loose : Limits) : Prop where
  maxBytes_le : strict.maxBytes ≤ loose.maxBytes
  maxPredicates_le : strict.maxPredicates ≤ loose.maxPredicates
  isAllowed : ∀ wide, loose.allowedColumns = some wide →
    ∃ narrow, strict.allowedColumns = some narrow ∧ narrow ⊆ wide

theorem Fits.mono {strict loose : Limits} (hwithin : strict.IsWithin loose) {text : String}
    {count : Nat} {columns : List Identifier} (hfits : strict.Fits text count columns) :
    loose.Fits text count columns where
  bytes_le := Nat.le_trans hfits.bytes_le (UInt64.le_iff_toNat_le.mp hwithin.maxBytes_le)
  count_le := Nat.le_trans hfits.count_le (UInt64.le_iff_toNat_le.mp hwithin.maxPredicates_le)
  isAllowed wide hwide column hmem := by
    obtain ⟨narrow, hnarrow, hsubset⟩ := hwithin.isAllowed wide hwide
    exact hsubset (hfits.isAllowed narrow hnarrow column hmem)

/-! ## Checks -/

variable (limits : Limits) {text : String}

theorem checkSize_eq_ok_iff (text : String) :
    limits.checkSize text = .ok () ↔ text.utf8ByteSize ≤ limits.maxBytes.toNat := by
  rw [checkSize]
  split <;> simp <;> omega

theorem checkCount_eq_ok_iff (count : Nat) :
    limits.checkCount count = .ok () ↔ count ≤ limits.maxPredicates.toNat := by
  rw [checkCount]
  split <;> simp <;> omega

theorem checkColumn_eq_ok_iff (column : Identifier) :
    limits.checkColumn column = .ok () ↔ limits.allows column = true := by
  rw [checkColumn]
  split <;> simp [*]

theorem checkColumns_eq_ok_iff (columns : List Identifier) :
    limits.checkColumns columns = .ok () ↔ ∀ column ∈ columns, limits.allows column = true := by
  induction columns with
  | nil => simp [checkColumns]
  | cons column rest ih =>
    rw [List.forall_mem_cons, ← ih, ← checkColumn_eq_ok_iff, checkColumns, bind_eq_ok_iff,
      exists_check_eq_ok_iff]

theorem allows_iff (column : Identifier) :
    limits.allows column = true ↔
      ∀ allowed, limits.allowedColumns = some allowed → column.name ∈ allowed := by
  rw [allows]
  cases limits.allowedColumns with
  | none => exact ⟨fun _ => nofun, fun _ => rfl⟩
  | some columns =>
    rw [List.contains_iff_mem]
    exact ⟨fun hmem _ heq => Option.some.inj heq ▸ hmem, fun hall => hall columns rfl⟩

theorem forall_allows_iff (columns : List Identifier) :
    (∀ column ∈ columns, limits.allows column = true) ↔
      ∀ allowed, limits.allowedColumns = some allowed →
        ∀ column ∈ columns, column.name ∈ allowed := by
  simp only [allows_iff]
  exact ⟨fun h allowed hallowed column hmem => h column hmem allowed hallowed,
    fun h column hmem allowed hallowed => h allowed hallowed column hmem⟩

theorem fits_iff {count : Nat} {columns : List Identifier} :
    limits.Fits text count columns ↔
      limits.checkSize text = .ok () ∧ limits.checkCount count = .ok () ∧
        limits.checkColumns columns = .ok () := by
  rw [checkSize_eq_ok_iff, checkCount_eq_ok_iff, checkColumns_eq_ok_iff, forall_allows_iff]
  exact ⟨fun h => ⟨h.bytes_le, h.count_le, h.isAllowed⟩, fun ⟨hbytes, hcount, hallowed⟩ =>
    ⟨hbytes, hcount, hallowed⟩⟩

end Limits

/-! ## What is read within limits -/

section Reading

variable {limits : Limits} {text : String}

theorem readPayload_eq_ok_iff {α : Type} {r : Json.Reader α} {a : α} :
    readPayload r limits text = .ok a ↔
      limits.checkSize text = .ok () ∧ Json.read r text = .ok a := by
  rw [readPayload, bind_eq_ok_iff, exists_check_eq_ok_iff]
  cases Json.read r text <;> simp

theorem admitForm_eq_ok_iff {form : PredicateForm} {p : Predicate} :
    admitForm limits form = .ok p ↔
      Predicate.ofForm form = .ok p ∧ limits.allows p.column = true := by
  rw [← limits.checkColumn_eq_ok_iff]
  simp only [admitForm, bind_eq_ok_iff, exists_check_eq_ok_iff, pure_eq_ok_iff]
  constructor
  · rintro ⟨p, hform, hcolumn, rfl⟩
    exact ⟨hform, hcolumn⟩
  · rintro ⟨hform, hcolumn⟩
    exact ⟨p, hform, hcolumn, rfl⟩

/-- The predicates that are admitted are those of all forms, and their columns are allowed. -/
theorem admitForms_eq_ok_iff {forms : List PredicateForm} {ps : List Predicate} :
    admitForms limits forms = .ok ps ↔
      forms.map Predicate.ofForm = ps.map .ok ∧
        ∀ column ∈ ps.map Predicate.column, limits.allows column = true := by
  induction forms generalizing ps with
  | nil => cases ps <;> simp [admitForms]
  | cons form rest ih =>
    simp only [admitForms, bind_eq_ok_iff, pure_eq_ok_iff, admitForm_eq_ok_iff, ih]
    cases ps with
    | nil => simp
    | cons p ps => simp [and_assoc, and_left_comm]

/-- Predicates are read from a text without a look at the limits, which they fit or not. -/
theorem readPredicates_eq_ok_iff {ps : List Predicate} :
    readPredicates limits text = .ok ps ↔
      (∃ forms, Json.read (.list PredicateForm.reader) text = .ok forms ∧
        forms.map Predicate.ofForm = ps.map .ok) ∧
      limits.Fits text ps.length (ps.map Predicate.column) := by
  simp only [readPredicates, bind_eq_ok_iff, exists_check_eq_ok_iff, readPayload_eq_ok_iff,
    admitForms_eq_ok_iff, limits.fits_iff, limits.checkColumns_eq_ok_iff]
  -- what is counted are the forms, each of which gives one predicate
  constructor
  · rintro ⟨forms, ⟨hsize, hread⟩, hcount, hforms, hallows⟩
    have hlength : forms.length = ps.length := by simpa using congrArg List.length hforms
    exact ⟨⟨forms, hread, hforms⟩, hsize, hlength ▸ hcount, hallows⟩
  · rintro ⟨⟨forms, hread, hforms⟩, hsize, hcount, hallows⟩
    have hlength : forms.length = ps.length := by simpa using congrArg List.length hforms
    exact ⟨forms, ⟨hsize, hread⟩, hlength ▸ hcount, hforms, hallows⟩

/-- A set is read from a text without a look at the limits, which it fits or not. -/
theorem readFilterSet_eq_ok_iff {set : FilterSet} :
    readFilterSet limits text = .ok set ↔
      (∃ members, Json.read .members text = .ok members ∧ FilterSet.ofMembers members = .ok set) ∧
      limits.Fits text set.size set.columns := by
  simp only [readFilterSet, bind_eq_ok_iff, exists_check_eq_ok_iff, pure_eq_ok_iff,
    readPayload_eq_ok_iff, limits.fits_iff]
  constructor
  · rintro ⟨members, ⟨hsize, hread⟩, set, hset, hcount, hcolumns, rfl⟩
    exact ⟨⟨members, hread, hset⟩, hsize, hcount, hcolumns⟩
  · rintro ⟨⟨members, hread, hset⟩, hsize, hcount, hcolumns⟩
    exact ⟨members, ⟨hsize, hread⟩, set, hset, hcount, hcolumns, rfl⟩

end Reading

/-! ## Two limits -/

/-- Of two limits the looser admit whatever the stricter do, as the same predicates and the same
set; and what the looser admit is admitted by the stricter if it fits them. -/
theorem stricter_limits_admit_what_fits {strict loose : Limits} (hwithin : strict.IsWithin loose)
    (text : String) :
    (∀ ps, readPredicates strict text = .ok ps ↔
      readPredicates loose text = .ok ps ∧
        strict.Fits text ps.length (ps.map Predicate.column)) ∧
    ∀ set, readFilterSet strict text = .ok set ↔
      readFilterSet loose text = .ok set ∧ strict.Fits text set.size set.columns := by
  constructor
  · intro ps
    simp only [readPredicates_eq_ok_iff]
    constructor
    · rintro ⟨hread, hfits⟩
      exact ⟨⟨hread, hfits.mono hwithin⟩, hfits⟩
    · rintro ⟨⟨hread, -⟩, hfits⟩
      exact ⟨hread, hfits⟩
  · intro set
    simp only [readFilterSet_eq_ok_iff]
    constructor
    · rintro ⟨hread, hfits⟩
      exact ⟨⟨hread, hfits.mono hwithin⟩, hfits⟩
    · rintro ⟨⟨hread, -⟩, hfits⟩
      exact ⟨hread, hfits⟩

/-- Predicates on price and stock are admitted by stricter limits than the usual because they fit
them, and a set that is admitted by these limits is admitted by the usual ones. -/
theorem price_and_stock_fit_stricter_limits :
    let strict : Limits := ⟨2, 50, some ["price", "stock"]⟩
    let predicates := "[[\"price\",\"empty\"],[\"stock\",\"in\",[7,null]]]"
    let members := "\x7b\"stock\":\x7b\"gte\":5,\"lte\":null\x7d\x7d"
    strict.IsWithin .standard ∧ ∃ ps set,
      readPredicates .standard predicates = .ok ps ∧ readPredicates strict predicates = .ok ps ∧
      readFilterSet strict members = .ok set ∧ readFilterSet .standard members = .ok set := by
  intro strict predicates members
  have hwithin : strict.IsWithin .standard := ⟨by decide, by decide, nofun⟩
  have hloose : readPredicates .standard predicates = .ok [
      ⟨⟨"price", by decide⟩, .empty⟩,
      ⟨⟨"stock", by decide⟩, .isIn [.number (.ofWord 7), .null]⟩] := by
    decide +kernel
  have hfits : strict.Fits predicates 2 [⟨"price", by decide⟩, ⟨"stock", by decide⟩] := by
    rw [Limits.fits_iff]
    decide +kernel
  have hstrict : readFilterSet strict members = .ok (.ofList [
      (⟨"stock", by decide⟩, .range (some (.number (.ofWord 5))) none)]) := by
    decide +kernel
  obtain ⟨hpredicates, -⟩ := stricter_limits_admit_what_fits hwithin predicates
  exact ⟨hwithin, _, _, hloose, (hpredicates _).mpr ⟨hloose, hfits⟩, hstrict,
    (((stricter_limits_admit_what_fits hwithin members).2 _).mp hstrict).1⟩

end TableFilter
