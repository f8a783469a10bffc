import Mathlib.Data.List.Induction
import TableFilter.Entries

/-!
# Putting entries in one after the other

Where the names are new and different, every entry goes to the end, so entries that are put in one
after the other stay as they are. Where names come again, each keeps the place where it came first
and has the value it was given last, so it makes no difference whether entries are put in as they
are or as what is left once their own repetitions are gone.
-/

namespace TableFilter.Entries

variable {κ α : Type} [DecidableEq κ]

theorem put_of_not_mem {key : κ} (value : α) {entries : List (κ × α)}
    (hnew : key ∉ keys entries) : put key value entries = entries ++ [(key, value)] := by
  induction entries with
  | nil => rfl
  | cons entry rest ih =>
    obtain ⟨k, v⟩ := entry
    simp only [keys, List.map_cons, List.mem_cons, not_or] at hnew
    have hne : ¬ k = key := fun heq => hnew.1 heq.symm
    simp only [put, if_neg hne, List.cons_append, ih hnew.2]

theorem mem_put {key : κ} {value : α} {entries : List (κ × α)} {entry : κ × α}
    (hmem : entry ∈ put key value entries) : entry ∈ entries ∨ entry = (key, value) := by
  induction entries with
  | nil => exact .inr (List.mem_singleton.mp hmem)
  | cons first rest ih =>
    obtain ⟨k, v⟩ := first
    rw [put] at hmem
    split at hmem
    next heq =>
      subst heq
      rcases List.mem_cons.mp hmem with rfl | hrest
      · exact .inr rfl
      · exact .inl (List.mem_cons_of_mem _ hrest)
    next =>
      rcases List.mem_cons.mp hmem with rfl | hrest
      · exact .inl List.mem_cons_self
      · exact (ih hrest).imp_left (List.mem_cons_of_mem _)

theorem length_put_le (key : κ) (value : α) (entries : List (κ × α)) :
    (put key value entries).length ≤ entries.length + 1 := by
  induction entries with
  | nil => exact Nat.le_refl 1
  | cons entry rest ih =>
    obtain ⟨k, v⟩ := entry
    rw [put]
    split
    · exact Nat.le_succ _
    · exact Nat.succ_le_succ ih

/-- The entries after others have been put in, from left to right. -/
def putAll (before entries : List (κ × α)) : List (κ × α) :=
  entries.foldl (fun done (key, value) => put key value done) before

@[simp]
theorem putAll_nil (before : List (κ × α)) : putAll before [] = before :=
  rfl

@[simp]
theorem putAll_cons (before : List (κ × α)) (key : κ) (value : α) (rest : List (κ × α)) :
    putAll before ((key, value) :: rest) = putAll (put key value before) rest :=
  rfl

theorem putAll_append (before entries others : List (κ × α)) :
    putAll before (entries ++ others) = putAll (putAll before entries) others := by
  simp [putAll]

theorem putAll_of_nodup {before entries : List (κ × α)}
    (hdistinct : (keys (before ++ entries)).Nodup) :
    putAll before entries = before ++ entries := by
  induction entries generalizing before with
  | nil => simp
  | cons entry rest ih =>
    obtain ⟨key, value⟩ := entry
    have hnew : key ∉ keys before := by
      intro hmem
      simp only [keys, List.map_append, List.map_cons, List.nodup_append] at hdistinct
      exact hdistinct.2.2 key hmem key List.mem_cons_self rfl
    have happend : before ++ (key, value) :: rest = (before ++ [(key, value)]) ++ rest := by simp
    rw [putAll_cons, put_of_not_mem value hnew, happend, ih (happend ▸ hdistinct)]

theorem length_putAll_le (before entries : List (κ × α)) :
    (putAll before entries).length ≤ before.length + entries.length := by
  induction entries generalizing before with
  | nil => simp
  | cons entry rest ih =>
    obtain ⟨key, value⟩ := entry
    have hput := length_put_le key value before
    have hall := ih (put key value before)
    rw [putAll_cons, List.length_cons]
    omega

/-- Nothing is put in that was not there before or among the new entries. -/
theorem mem_putAll {before entries : List (κ × α)} {entry : κ × α}
    (hmem : entry ∈ putAll before entries) : entry ∈ before ∨ entry ∈ entries := by
  induction entries generalizing before with
  | nil => exact .inl hmem
  | cons first rest ih =>
    obtain ⟨key, value⟩ := first
    rcases ih hmem with hput | hrest
    · rcases mem_put hput with hbefore | rfl
      · exact .inl hbefore
      · exact .inr List.mem_cons_self
    · exact .inr (List.mem_cons_of_mem _ hrest)

omit [DecidableEq κ] in
@[simp]
theorem keys_append (entries others : List (κ × α)) :
    keys (entries ++ others) = keys entries ++ keys others := by
  simp [keys]

theorem eraseDups_append_singleton (names : List κ) (key : κ) :
    (names ++ [key]).eraseDups =
      if key ∈ names then names.eraseDups else names.eraseDups ++ [key] := by
  rw [List.eraseDups_append]
  by_cases hmem : key ∈ names
  · simp [List.removeAll, hmem]
  · simp [List.removeAll, hmem, List.eraseDups_cons]

/-- The names stand in the order in which they first came. -/
theorem keys_putAll_nil (entries : List (κ × α)) :
    keys (putAll [] entries) = (keys entries).eraseDups := by
  induction entries using List.reverseRecOn with
  | nil => rfl
  | append_singleton entries entry ih =>
    obtain ⟨key, value⟩ := entry
    have hkeys : keys [(key, value)] = [key] := rfl
    rw [putAll_append, putAll_cons, putAll_nil, keys_put, ih, keys_append, hkeys,
      eraseDups_append_singleton]
    simp only [List.mem_eraseDups]

/-- A name has the value that comes first when the entries are looked at from the last one on. -/
theorem get?_putAll_nil (key : κ) (entries : List (κ × α)) :
    get? key (putAll [] entries) = get? key entries.reverse := by
  induction entries using List.reverseRecOn with
  | nil => rfl
  | append_singleton entries entry ih =>
    obtain ⟨k, value⟩ := entry
    rw [putAll_append, putAll_cons, putAll_nil, get?_put, ih, List.reverse_append]
    rfl

/-! ## Repetitions -/

theorem mem_keys_put_iff (key other : κ) (value : α) (entries : List (κ × α)) :
    other ∈ keys (put key value entries) ↔ other = key ∨ other ∈ keys entries := by
  rw [keys_put]
  split
  next hmem =>
    refine ⟨.inr, ?_⟩
    rintro (rfl | hother)
    · exact hmem
    · exact hother
  next => simp only [List.mem_append, List.mem_singleton, or_comm]

theorem put_put (key : κ) (value later : α) (entries : List (κ × α)) :
    put key later (put key value entries) = put key later entries := by
  induction entries with
  | nil => simp [put]
  | cons entry rest ih =>
    obtain ⟨k, v⟩ := entry
    by_cases heq : k = key
    · simp [put, heq]
    · simp [put, heq, ih]

/-- A name that has its place may get its value before or after another name does. -/
theorem put_comm_of_mem {key other : κ} (hne : key ≠ other) (value value' : α)
    {entries : List (κ × α)} (hmem : key ∈ keys entries) :
    put key value (put other value' entries) = put other value' (put key value entries) := by
  induction entries with
  | nil => cases hmem
  | cons entry rest ih =>
    obtain ⟨k, v⟩ := entry
    by_cases hkey : k = key
    · subst hkey
      simp [put, hne]
    · have hrest : key ∈ keys rest := by simpa [keys, Ne.symm hkey] using hmem
      by_cases hother : k = other
      · simp [put, hother, Ne.symm hne]
      · simp [put, hkey, hother, ih hrest]

theorem put_putAll_of_mem {key : κ} (value : α) {before entries : List (κ × α)}
    (hmem : key ∈ keys before) (hnew : key ∉ keys entries) :
    put key value (putAll before entries) = putAll (put key value before) entries := by
  induction entries generalizing before with
  | nil => rfl
  | cons entry rest ih =>
    obtain ⟨k, v⟩ := entry
    simp only [keys, List.map_cons, List.mem_cons, not_or] at hnew
    have hkept : key ∈ keys (put k v before) :=
      (mem_keys_put_iff k key v before).mpr (.inr hmem)
    rw [putAll_cons, putAll_cons, ih hkept hnew.2, put_comm_of_mem hnew.1 value v hmem]

/-- An entry that is put in among others comes last when these are put in. -/
theorem putAll_put (before : List (κ × α)) (key : κ) (value : α) {entries : List (κ × α)}
    (hdistinct : (keys entries).Nodup) :
    putAll before (put key value entries) = put key value (putAll before entries) := by
  induction entries generalizing before with
  | nil => rfl
  | cons entry rest ih =>
    obtain ⟨k, v⟩ := entry
    simp only [keys, List.map_cons, List.nodup_cons] at hdistinct
    by_cases heq : k = key
    · subst heq
      have hmem : k ∈ keys (put k v before) := (mem_keys_put_iff k k v before).mpr (.inl rfl)
      rw [put, if_pos rfl, putAll_cons, putAll_cons, put_putAll_of_mem value hmem hdistinct.1,
        put_put]
    · rw [put, if_neg heq, putAll_cons, putAll_cons, ih _ hdistinct.2]

theorem nodup_keys_putAll {before : List (κ × α)} (entries : List (κ × α))
    (hdistinct : (keys before).Nodup) : (keys (putAll before entries)).Nodup := by
  induction entries generalizing before with
  | nil => exact hdistinct
  | cons entry rest ih => exact ih (nodup_keys_put entry.1 entry.2 hdistinct)

/-- Entries may be rid of their own repetitions before they are put in among others. -/
theorem putAll_putAll_nil (before entries : List (κ × α)) :
    putAll before (putAll [] entries) = putAll before entries := by
  induction entries using List.reverseRecOn with
  | nil => rfl
  | append_singleton entries entry ih =>
    obtain ⟨key, value⟩ := entry
    have hdistinct : (keys (putAll [] entries)).Nodup := nodup_keys_putAll entries List.nodup_nil
    rw [putAll_append, putAll_append, putAll_cons, putAll_cons, putAll_nil, putAll_nil,
      putAll_put before key value hdistinct, ih]

/-! ## Values -/

theorem get?_eq_none_iff (key : κ) (entries : List (κ × α)) :
    get? key entries = none ↔ key ∉ keys entries := by
  induction entries with
  | nil => simp [get?, keys]
  | cons entry rest ih =>
    obtain ⟨k, v⟩ := entry
    by_cases heq : k = key
    · simp [get?, keys, heq]
    · have hne : ¬ key = k := fun h => heq h.symm
      simpa [get?, keys, heq, hne] using ih

theorem mem_keys_iff_exists_get? (key : κ) (entries : List (κ × α)) :
    key ∈ keys entries ↔ ∃ value, get? key entries = some value := by
  rw [← Option.ne_none_iff_exists', ne_eq, get?_eq_none_iff, not_not]

theorem get?_eq_some_iff (key : κ) (value : α) (entries : List (κ × α)) :
    get? key entries = some value ↔
      ∃ before after, entries = before ++ (key, value) :: after ∧ key ∉ keys before := by
  induction entries with
  | nil => simp [get?]
  | cons entry rest ih =>
    obtain ⟨k, v⟩ := entry
    by_cases heq : k = key
    · subst heq
      constructor
      · intro hget
        simp only [get?, if_true, Option.some.injEq] at hget
        subst hget
        exact ⟨[], rest, rfl, List.not_mem_nil⟩
      · rintro ⟨before, after, hsplit, hnew⟩
        cases before with
        | nil =>
          cases hsplit
          simp [get?]
        | cons first before =>
          cases hsplit
          simp [keys] at hnew
    · rw [get?, if_neg heq, ih]
      constructor
      · rintro ⟨before, after, rfl, hnew⟩
        refine ⟨(k, v) :: before, after, rfl, ?_⟩
        simpa [keys, Ne.symm heq] using hnew
      · rintro ⟨before, after, hsplit, hnew⟩
        cases before with
        | nil =>
          cases hsplit
          exact absurd rfl heq
        | cons first before =>
          cases hsplit
          simp only [keys, List.map_cons, List.mem_cons, not_or] at hnew
          exact ⟨before, after, rfl, hnew.2⟩

/-- A name has the value that it was given last. -/
theorem get?_reverse_eq_some_iff (key : κ) (value : α) (entries : List (κ × α)) :
    get? key entries.reverse = some value ↔
      ∃ earlier later, entries = earlier ++ (key, value) :: later ∧ key ∉ keys later := by
  have hkeys (entries : List (κ × α)) : key ∈ keys entries.reverse ↔ key ∈ keys entries := by
    simp [keys]
  rw [get?_eq_some_iff]
  constructor
  · rintro ⟨before, after, hsplit, hnew⟩
    refine ⟨after.reverse, before.reverse, ?_, (hkeys before).not.mpr hnew⟩
    rw [← List.reverse_reverse entries, hsplit]
    simp
  · rintro ⟨earlier, later, rfl, hnew⟩
    refine ⟨later.reverse, earlier.reverse, ?_, (hkeys later).not.mpr hnew⟩
    simp

theorem get?_eq_some_iff_mem {entries : List (κ × α)} (hdistinct : (keys entries).Nodup)
    (key : κ) (value : α) : get? key entries = some value ↔ (key, value) ∈ entries := by
  rw [get?_eq_some_iff]
  constructor
  · rintro ⟨before, after, rfl, -⟩
    simp
  · intro hmem
    obtain ⟨before, after, rfl⟩ := List.append_of_mem hmem
    refine ⟨before, after, rfl, fun hbefore => ?_⟩
    rw [keys_append, List.nodup_append] at hdistinct
    exact hdistinct.2.2 key hbefore key List.mem_cons_self rfl

/-- What a name has is told by the entries with that name. -/
theorem get?_filter_key (key : κ) (entries : List (κ × α)) :
    get? key (entries.filter (·.1 = key)) = get? key entries := by
  induction entries with
  | nil => rfl
  | cons entry rest ih =>
    obtain ⟨k, v⟩ := entry
    by_cases hkey : k = key
    · simp [get?, hkey]
    · simp [get?, hkey, ih]

theorem get?_map_value {β : Type} (f : α → β) (key : κ) (entries : List (κ × α)) :
    get? key (entries.map fun (k, v) => (k, f v)) = (get? key entries).map f := by
  induction entries with
  | nil => rfl
  | cons entry rest ih =>
    obtain ⟨k, v⟩ := entry
    by_cases hkey : k = key
    · simp [get?, hkey]
    · simp [get?, hkey, ih]

end TableFilter.Entries
