import TableFilter.Predicate
import TableFilter.Proofs.Filter.Compile
import TableFilter.Proofs.Operator.Payload

/-!
# What is read has no null in the wrong place

A text cannot name an operator that looks for null as a text, or a range with an end that is null,
and neither can the transport form of a demand.
-/

namespace TableFilter

open Json (Value)
open TableFilter.Filter (Spec)

/-! ## Operators -/

namespace Operator

/-- What an operator is like that a text can name: the text it looks for is not null, and neither
are the ends of its range. -/
def IsReadable : Operator → Prop
  | .contains v | .startsWith v | .endsWith v => v ≠ .null
  | .between bounds => bounds.min ≠ some .null ∧ bounds.max ≠ some .null
  | _ => True

theorem IsReadable.hasNullEnd_toSpec {o : Operator} (ho : o.IsReadable) :
    o.toSpec.hasNullEnd = false := by
  cases o with
  | between bounds => simp [toSpec, Spec.hasNullEnd, ho.1, ho.2]
  | unknown name operand => cases operand <;> rfl
  | _ => rfl

theorem IsReadable.toSpec_ne_contains_null {o : Operator} (ho : o.IsReadable) :
    o.toSpec ≠ .contains .null := by
  cases o with
  | contains v => exact fun hspec => ho (Spec.contains.inj hspec)
  | unknown name operand => cases operand <;> nofun
  | _ => nofun

/-- What an operator keeps of a value, a text can name. -/
theorem Keeps.isReadable {value : Value} {o : Operator} (hkeeps : o.Keeps value) :
    o.IsReadable := by
  have hend {key : String} {bound : Option Scalar} (hbound : IsEndOf value key bound) :
      bound ≠ some .null :=
    fun hnull => ((hbound .null).mp hnull).1 rfl
  cases o with
  | contains v | startsWith v | endsWith v => exact hkeeps.2
  | between bounds => exact ⟨hend hkeeps.1, hend hkeeps.2⟩
  | _ => trivial

end Operator

theorem Predicate.isReadable_of_ofForm {form : PredicateForm} {p : Predicate}
    (hread : ofForm form = .ok p) : p.operator.IsReadable := by
  obtain ⟨operator, hparts, hread⟩ := exists_of_bind_eq_ok hread
  obtain ⟨column, -, hread⟩ := exists_of_bind_eq_ok hread
  cases hread
  exact ((Operator.ofParts_eq_ok_iff_keeps _).mp hparts).2.isReadable

/-! ## Demands -/

namespace Filter.Spec

theorem branchBound_ne_null {members : List (String × Value)} {branch : String}
    {bound : Option Scalar} (hread : branchBound members branch = .ok bound) :
    bound ≠ some .null := by
  unfold branchBound at hread
  split at hread
  next =>
    cases hread
    nofun
  next =>
    cases hread
    nofun
  next v hnull hget =>
    obtain ⟨s, hs, rfl⟩ := exists_of_map_eq_ok hread
    rintro ⟨⟩
    unfold branchScalar at hs
    cases v with
    | null => exact hnull rfl
    | _ => cases hs

/-- Only an object with the two ends of a range for branches is a range. -/
theorem hasNullEnd_of_ofBranch (branch : String) (v : Value) :
    ∀ spec, ofBranch branch v = .ok spec → spec.hasNullEnd = false := by
  have hmap {α : Type} {x : Except SpecFault α} {f : α → Spec}
      (hf : ∀ a, (f a).hasNullEnd = false) :
      ∀ spec, x.map f = .ok spec → spec.hasNullEnd = false := by
    intro spec hspec
    obtain ⟨a, -, rfl⟩ := exists_of_map_eq_ok hspec
    exact hf a
  unfold ofBranch
  repeat' apply forall_ok_of_ite
  case' hfalse =>
    intro spec hspec
    cases hspec
  all_goals
    apply hmap
    intro _
    rfl

/-- No demand that is read has an end that is null. -/
theorem hasNullEnd_of_ofValue? {v : Value} {spec : Spec} (hread : ofValue? v = .ok spec) :
    spec.hasNullEnd = false := by
  unfold ofValue? at hread
  split at hread
  next =>
    obtain ⟨_, -, rfl⟩ := exists_of_map_eq_ok hread
    rfl
  next members =>
    split at hread
    next =>
      obtain ⟨gte, hgte, hread⟩ := exists_of_bind_eq_ok hread
      obtain ⟨lte, hlte, hread⟩ := exists_of_bind_eq_ok hread
      cases hread
      simp [hasNullEnd, branchBound_ne_null hgte, branchBound_ne_null hlte]
    next =>
      split at hread
      · cases hread
      · exact hasNullEnd_of_ofBranch _ _ _ hread
      · cases hread
  next =>
    obtain ⟨_, -, rfl⟩ := exists_of_map_eq_ok hread
    rfl

theorem hasNullEnd_of_ofValue {v : Value} {spec : Spec} (hread : ofValue v = .ok spec) :
    spec.hasNullEnd = false := by
  unfold ofValue at hread
  split at hread
  next hspec =>
    cases hread
    exact hasNullEnd_of_ofValue? hspec
  next => cases hread

end Filter.Spec

namespace FilterSet

theorem hasNullEnd_of_entriesOf {members : List (String × Value)}
    {entries : List (Identifier × Spec)} (hread : entriesOf members = .ok entries) :
    ∀ entry ∈ entries, entry.2.hasNullEnd = false := by
  induction members generalizing entries with
  | nil =>
    cases hread
    intro entry hmem
    cases hmem
  | cons member rest ih =>
    obtain ⟨column, -, hread⟩ := exists_of_bind_eq_ok hread
    obtain ⟨spec, hspec, hread⟩ := exists_of_bind_eq_ok hread
    obtain ⟨others, hothers, hread⟩ := exists_of_bind_eq_ok hread
    cases hread
    rw [List.forall_mem_cons]
    exact ⟨Spec.hasNullEnd_of_ofValue hspec, ih hothers⟩

theorem hasNullEnd_of_ofMembers {members : List (String × Value)} {set : FilterSet}
    (hread : ofMembers members = .ok set) :
    ∀ entry ∈ set.entries, entry.2.hasNullEnd = false := by
  obtain ⟨entries, hentries, rfl⟩ := exists_of_map_eq_ok hread
  intro entry hmem
  rw [entries_ofList] at hmem
  rcases Entries.mem_putAll hmem with hnil | hmem
  · cases hnil
  · exact hasNullEnd_of_entriesOf hentries entry hmem

end FilterSet

end TableFilter
