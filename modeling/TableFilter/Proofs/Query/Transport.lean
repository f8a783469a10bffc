import TableFilter.Proofs.Filter.Admission
import TableFilter.Proofs.Json.PrettyText
import TableFilter.Proofs.Json.Record
import TableFilter.Sql.Query

/-!
# Queries after travelling

What the transport form of a query is read back as. Main statement: `Query.IsSettled.read_back`,
of which every query that was read is a case.
-/

namespace TableFilter

open Json (Draft Reader Value decode)
open TableFilter.Filter (Spec)

/-! ## Sets that were read -/

namespace FilterSet

/-- A set that was read is read as itself again. -/
theorem settled_of_ofMembers {members : List (String × Value)} {set : FilterSet}
    (hread : ofMembers members = .ok set) : set.settled = set := by
  rw [settled_eq_self_iff]
  exact hasNullEnd_of_ofMembers hread

/-- A set of admitted predicates is read as itself. -/
theorem settled_of_readPredicates {limits : Limits} {text : String} {ps : List Predicate}
    {set : FilterSet} (hread : readPredicates limits text = .ok ps)
    (hcompile : compile? ps = some set) : set.settled = set := by
  rw [settled_eq_self_iff]
  intro entry hmem
  obtain ⟨p, hp, rfl⟩ := mem_entries_of_compile? hcompile hmem
  exact ((admits_of_readPredicates hread).2 p hp).2

end FilterSet

/-! ## Written queries -/

namespace Columns

theorem identifiers_names (columns : List Identifier) :
    identifiers (columns.map Identifier.name) = .ok columns := by
  induction columns with
  | nil => rfl
  | cons column rest ih =>
    rw [List.map_cons, identifiers, Identifier.ofString_name, ih]
    rfl

theorem ofListing_listing (columns : Columns) : ofListing columns.listing = .ok columns := by
  cases columns with
  | all => rfl
  | named first rest =>
    have hstar : first.name ≠ "*" := by
      intro hname
      have hvalid := first.valid
      rw [hname] at hvalid
      exact absurd hvalid (by decide)
    have hnames : (listing (.named first rest)).all (· == "*") = false := by
      simp [listing, hstar]
    rw [ofListing, hnames, if_neg Bool.false_ne_true, ofNames, listing, identifiers_names]
    rfl

end Columns

namespace Json.Reader

/-- A value that is checked after it was read. -/
theorem Reads.checked {α β γ : Type} {r : Reader α} {depth : Nat} {write : γ → Value} {f : γ → α}
    {check : α → Except FilterError β} {g : γ → β} (hreads : Reads r depth write f)
    (hcheck : ∀ c, check (f c) = .ok (g c)) : Reads (r.checked check) depth write g := by
  intro c
  have hread := hreads c
  simp only [Reader.checked, Reader.andThen, hread, bind, Except.bind, hcheck]

/-- What is read and checked has passed the check. -/
theorem exists_of_checked_eq_ok {α β : Type} {r : Reader α} {check : α → Except FilterError β}
    {depth : Nat} {d : Draft} {b : β} (hread : r.checked check depth d = .ok b) :
    ∃ a, check a = .ok b := by
  obtain ⟨a, -, hread⟩ := exists_of_bind_eq_ok hread
  split at hread
  next hcheck =>
    cases hread
    exact ⟨a, hcheck⟩
  next => cases hread

theorem reads_identifier (depth : Nat) :
    Reads identifier depth (fun column => .string column.name) id :=
  Reads.checked (f := Identifier.name) (fun _ => rfl) Identifier.ofString_name

end Json.Reader

namespace Query

/-- A query as it is read back: its demands are. -/
def settled (q : Query) : Query :=
  { q with filters := q.filters.map FilterSet.settled }

open Json.Reader (Reads)

theorem reads_filters (depth : Nat) :
    Reads (Reader.optional (Reader.members.checked FilterSet.ofMembers)) (depth + 3)
      (.ofOption FilterSet.toValue) (Option.map FilterSet.settled) := by
  have hmembers : Reads Reader.members (depth + 3) FilterSet.toValue FilterSet.members := fun set =>
    Reader.reads_members set.nodup_keys_members (set.areReadableMembers_members depth)
  exact (hmembers.checked FilterSet.ofMembers_members).optional nofun

theorem reads_columns (depth : Nat) :
    Reads ((Reader.list .string).checked Columns.ofListing) (depth + 1)
      (fun columns : Columns => .array (columns.listing.map .string)) id := by
  have hnames : Reads (Reader.list .string) (depth + 1)
      (fun columns : Columns => .array (columns.listing.map .string)) Columns.listing := by
    intro columns
    rw [(Reader.reads_string depth).list columns.listing, List.map_id]
  exact hnames.checked Columns.ofListing_listing

theorem reads_optionalWord (depth : Nat) :
    Reads (Reader.optional (.word "u64")) depth (.ofOption fun n => .number (.ofWord n)) id := by
  have hword := (Reader.reads_word "u64" depth).optional nofun
  rwa [Option.map_id] at hword

theorem reads_optionalString (depth : Nat) :
    Reads (Reader.optional .string) depth (.ofOption .string) id := by
  have hstring := (Reader.reads_string depth).optional nofun
  rwa [Option.map_id] at hstring

/-- A written query is read as itself, save for the demands that are not. -/
theorem decode_toValue (q : Query) : decode reader q.toValue = .ok q.settled := by
  have hopen : decode reader q.toValue =
      shape.readMembers 126 [] shape.start (Draft.ofMembers [
        ("table", .string q.table.name),
        ("filters", .ofOption FilterSet.toValue q.filters),
        ("columns", .array (q.columns.listing.map .string)),
        ("limit", .ofOption (fun n => .number (.ofWord n)) q.limit),
        ("offset", .ofOption (fun n => .number (.ofWord n)) q.offset),
        ("orderBy", .ofOption .string q.orderBy)]) :=
    rfl
  simp only [Draft.ofMembers] at hopen
  -- The fields come in the order in which they are written, and each is there once.
  rw [hopen, Json.Shape.readMembers_of (by rfl) (by rfl) (Reader.reads_identifier 126 q.table),
    Json.Shape.readMembers_of (by rfl) (by rfl) (reads_filters 123 q.filters),
    Json.Shape.readMembers_of (by rfl) (by rfl) (reads_columns 125 q.columns),
    Json.Shape.readMembers_of (by rfl) (by rfl) (reads_optionalWord 126 q.limit),
    Json.Shape.readMembers_of (by rfl) (by rfl) (reads_optionalWord 126 q.offset),
    Json.Shape.readMembers_of (by rfl) (by rfl) (reads_optionalString 126 q.orderBy)]
  rfl

/-- Whether the demands of a query are read back as they are. -/
def IsSettled (q : Query) : Prop :=
  q.filters.map FilterSet.settled = q.filters

theorem IsSettled.settled_eq {q : Query} (hsettled : q.IsSettled) : q.settled = q := by
  rw [settled, hsettled]

theorem isSettled_filters_of_read {depth : Nat} {d : Draft} {filters : Option FilterSet}
    (hread : (Reader.optional (Reader.members.checked FilterSet.ofMembers)) depth d = .ok filters) :
    filters.map FilterSet.settled = filters := by
  cases filters with
  | none => rfl
  | some set =>
    have hset := Reader.exists_of_optional_eq_ok hread
    obtain ⟨members, hmembers⟩ := Reader.exists_of_checked_eq_ok hset
    rw [Option.map_some, FilterSet.settled_of_ofMembers hmembers]

/-- Whatever a query is read from, it is read back as it is. -/
theorem isSettled_of_reader {depth : Nat} {d : Draft} {q : Query}
    (hread : reader depth d = .ok q) : q.IsSettled := by
  have hstart : IsSettled shape.start := rfl
  have hfields : ∀ f ∈ shape.fields, f.Keeps IsSettled := by
    intro f hf
    simp only [shape, List.mem_cons, List.not_mem_nil, or_false] at hf
    rcases hf with rfl | rfl | rfl | rfl | rfl | rfl
    case inr.inl =>
      apply Json.Field.keeps_of
      intro depth d filters hfilters q _
      exact isSettled_filters_of_read hfilters
    all_goals
      apply Json.Field.keeps_of
      intro _ _ _ _ q hq
      exact hq
  exact Json.Shape.of_reader_eq_ok rfl hfields hstart hread

theorem isSettled_of_read {text : String} {q : Query} (hread : Json.read reader text = .ok q) :
    q.IsSettled := by
  simp only [Json.read] at hread
  split at hread
  next hroot =>
    split at hread
    · cases hread
    · cases hread
      exact isSettled_of_reader hroot
  next => cases hread
  next => cases hread

/-- A query that is read back as it is is so from its value and from its texts. -/
theorem IsSettled.read_back {q : Query} (hsettled : q.IsSettled) :
    decode reader q.toValue = .ok q ∧ Json.read reader q.toValue.text = .ok q ∧
      Json.read reader q.toValue.pretty = .ok q ∧
      Json.read reader (q.toValue.pretty ++ "\n") = .ok q := by
  have hdecode : decode reader q.toValue = .ok q := by
    rw [decode_toValue, hsettled.settled_eq]
  obtain ⟨hpretty, hline⟩ := q.toValue.tokens_pretty
  refine ⟨hdecode, ?_, ?_, ?_⟩
  · rw [Json.read_text, hdecode]
  · rw [Json.read_of_tokens _ hpretty, hdecode]
  · rw [Json.read_of_tokens _ hline, hdecode]

end Query

end TableFilter
