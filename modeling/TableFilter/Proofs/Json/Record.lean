import TableFilter.Proofs.Json.ReadBack

/-!
# Records read back

What readers of single values and of records give for values that are there already, and what a
record that was read keeps of the record it was started from.
-/

namespace TableFilter.Json

variable {α β : Type}

namespace Reader

/-- `r` reads what `write` makes of a value as what `f` makes of it, as long as `depth` containers
may be opened. -/
def Reads (r : Reader β) (depth : Nat) (write : α → Value) (f : α → β) : Prop :=
  ∀ a, r depth (.ofValue (write a)) = .ok (f a)

theorem reads_string (depth : Nat) : Reads string depth .string id := by
  intro s
  rfl

theorem reads_word (wanted : String) (depth : Nat) :
    Reads (word wanted) depth (fun n => .number (.ofWord n)) id := by
  intro n
  simp [word, Draft.ofValue, Number.ofWord]

theorem reads_members {depth : Nat} {members : List (String × Value)}
    (hdistinct : (Entries.keys members).Nodup)
    (hreadable : Value.areReadableMembers depth members = true) :
    Reader.members (depth + 1) (.ofValue (.object members)) = .ok members := by
  have hput : Entries.putAll [] members = members := Entries.putAll_of_nodup hdistinct
  rw [Draft.ofValue, Reader.members, Draft.memberValues_ofMembers members depth [] hreadable, hput]

theorem Reads.list {r : Reader β} {depth : Nat} {write : α → Value} {f : α → β}
    (hreads : Reads r depth write f) :
    Reads r.list (depth + 1) (fun as => .array (as.map write)) (List.map f) := by
  intro as
  rw [Draft.ofValue, Reader.list]
  induction as with
  | nil => rfl
  | cons a as ih =>
    rw [List.map_cons, Draft.ofItems, List.mapM_cons, hreads a, ih]
    rfl

/-- What is absent is null, and so nothing that is there may be written as null. -/
theorem Reads.optional {r : Reader β} {depth : Nat} {write : α → Value} {f : α → β}
    (hreads : Reads r depth write f) (hnull : ∀ a, write a ≠ .null) :
    Reads r.optional depth (.ofOption write) (Option.map f) := by
  intro o
  cases o with
  | none => rfl
  | some a =>
    have hvalue := hnull a
    have hread := hreads a
    rw [Value.ofOption]
    cases hwritten : write a with
    | null => exact absurd hwritten hvalue
    | _ =>
      rw [hwritten] at hread
      simpa [Reader.optional, Draft.ofValue, Except.map] using congrArg (Except.map some) hread

/-- What is read where something may be absent was read by the reader of what is there. -/
theorem exists_of_optional_eq_ok {r : Reader β} {depth : Nat} {d : Draft} {b : β}
    (hread : r.optional depth d = .ok (some b)) : r depth d = .ok b := by
  cases d with
  | null => cases hread
  | _ =>
    obtain ⟨_, hr, hb⟩ := exists_of_map_eq_ok hread
    cases hb
    exact hr

end Reader

namespace Field

/-- No value of the field makes a record lose a property. -/
def Keeps (f : Field α) (P : α → Prop) : Prop :=
  ∀ depth d record next, P record → f.read depth d record = .ok next → P next

theorem keeps_of {name : String} {required : Bool} {r : Reader β} {set : β → α → α} {P : α → Prop}
    (hset : ∀ depth d b, r depth d = .ok b → ∀ record, P record → P (set b record)) :
    (Field.of name required r set).Keeps P := by
  intro depth d record next hrecord hread
  obtain ⟨b, hb, rfl⟩ := exists_of_map_eq_ok hread
  exact hset depth d b hb record hrecord

end Field

namespace Shape

variable {shape : Shape α}

/-- A member that is a field, and the first of its name. -/
theorem readMembers_of {depth : Nat} {seen : List String} {record : α} {name : String}
    {required : Bool} {r : Reader β} {set : β → α → α} {d : Draft} {b : β}
    {rest : List (Option String × Draft)}
    (hfind : shape.fields.find? (·.name == name) = some (.of name required r set))
    (hnew : seen.contains name = false) (hread : r depth d = .ok b) :
    shape.readMembers depth seen record ((some name, d) :: rest) =
      shape.readMembers depth (name :: seen) (set b record) rest := by
  have hfield : (Field.of name required r set).read depth d record = .ok (set b record) := by
    simp only [Field.of, hread, Except.map]
  rw [readMembers, hfind]
  simp only [hnew, hfield, Bool.false_eq_true, if_false]
  rfl

/-! ## What a record keeps of the one it was started from -/

section Keeps

variable {P : α → Prop}

theorem of_readOther_eq_ok (hskips : shape.keep? = none) {depth : Nat} {name : String} {d : Draft}
    {record next : α} (hrecord : P record)
    (hread : shape.readOther depth name d record = .ok next) : P next := by
  rw [readOther, hskips] at hread
  simp only at hread
  split at hread
  · cases hread
    exact hrecord
  · cases hread

theorem of_readMembers_eq_ok (hskips : shape.keep? = none)
    (hfields : ∀ f ∈ shape.fields, f.Keeps P) {depth : Nat} {seen : List String} {record a : α}
    {members : List (Option String × Draft)} (hrecord : P record)
    (hread : shape.readMembers depth seen record members = .ok a) : P a := by
  induction members generalizing seen record with
  | nil =>
    rw [readMembers] at hread
    split at hread
    · cases hread
    · cases hread
      exact hrecord
  | cons member rest ih =>
    obtain ⟨_ | name, d⟩ := member
    · cases hread
    · rw [readMembers] at hread
      split at hread
      next =>
        obtain ⟨next, hother, hread⟩ := exists_of_bind_eq_ok hread
        exact ih (of_readOther_eq_ok hskips hrecord hother) hread
      next f hfind =>
        split at hread
        · cases hread
        · obtain ⟨next, hfield, hread⟩ := exists_of_bind_eq_ok hread
          have hmem : f ∈ shape.fields := List.mem_of_find?_eq_some hfind
          exact ih (hfields f hmem depth d record next hrecord hfield) hread

theorem of_readItems_eq_ok {fields : List (Field α)} (hfields : ∀ f ∈ fields, f.Keeps P)
    {depth length : Nat} {record a : α} {items : List Draft} (hrecord : P record)
    (hread : shape.readItems depth length record fields items = .ok a) : P a := by
  induction fields generalizing items record with
  | nil =>
    cases items with
    | nil =>
      cases hread
      exact hrecord
    | cons d items => cases hread
  | cons f fields ih =>
    rw [List.forall_mem_cons] at hfields
    cases items with
    | nil =>
      rw [readItems] at hread
      split at hread
      · cases hread
      · exact ih hfields.2 hrecord hread
    | cons d items =>
      obtain ⟨next, hfield, hread⟩ := exists_of_bind_eq_ok hread
      exact ih hfields.2 (hfields.1 depth d record next hrecord hfield) hread

/-- A record that is read has what the one it was started from has and no field takes away. -/
theorem of_reader_eq_ok (hskips : shape.keep? = none) (hfields : ∀ f ∈ shape.fields, f.Keeps P)
    {depth : Nat} {d : Draft} {a : α} (hstart : P shape.start)
    (hread : shape.reader depth d = .ok a) : P a := by
  unfold reader at hread
  split at hread
  next => exact of_readMembers_eq_ok hskips hfields hstart hread
  next =>
    split at hread
    · cases hread
    · cases hread
    · exact of_readItems_eq_ok hfields hstart hread
  next => cases hread
  next => cases hread

end Keeps

end Shape

end TableFilter.Json
