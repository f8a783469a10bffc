/-!
# Named entries in order

A list of entries with names, each name once. A new name goes to the end and a name that is there
already keeps its place, so the order is that in which the names first came.
-/

namespace TableFilter.Entries

variable {κ α : Type} [DecidableEq κ]

def keys (entries : List (κ × α)) : List κ :=
  entries.map Prod.fst

def get? (key : κ) : List (κ × α) → Option α
  | [] => none
  | (k, v) :: rest => if k = key then some v else get? key rest

/-- Gives a name a new value: in its place if it has one, and otherwise at the end. -/
def put (key : κ) (value : α) : List (κ × α) → List (κ × α)
  | [] => [(key, value)]
  | (k, v) :: rest => if k = key then (k, value) :: rest else (k, v) :: put key value rest

/-- Gives a name a new value as `put` does, and tells the one it had. -/
def exchange (key : κ) (value : α) : List (κ × α) → Option α × List (κ × α)
  | [] => (none, [(key, value)])
  | (k, v) :: rest =>
    if k = key then (some v, (k, value) :: rest)
    else
      let (old, rest) := exchange key value rest
      (old, (k, v) :: rest)

theorem keys_put (key : κ) (value : α) (entries : List (κ × α)) :
    keys (put key value entries) =
      if key ∈ keys entries then keys entries else keys entries ++ [key] := by
  induction entries with
  | nil => simp [put, keys]
  | cons entry rest ih =>
    obtain ⟨k, v⟩ := entry
    by_cases h : k = key
    · subst h
      simp [put, keys]
    · have hne : ¬ key = k := fun heq => h heq.symm
      simp only [keys, put, h, if_false, List.map_cons, List.mem_cons, hne, false_or] at ih ⊢
      rw [ih]
      split
      next hmem => simp only [hmem, if_true]
      next hmem => simp only [hmem, if_false, List.cons_append]

theorem nodup_keys_put (key : κ) (value : α) {entries : List (κ × α)}
    (h : (keys entries).Nodup) : (keys (put key value entries)).Nodup := by
  rw [keys_put]
  split
  · exact h
  next hnot =>
    refine List.nodup_append.mpr ⟨h, by simp, fun a ha b hb => ?_⟩
    rintro rfl
    exact hnot (List.mem_singleton.mp hb ▸ ha)

theorem get?_put (key other : κ) (value : α) (entries : List (κ × α)) :
    get? other (put key value entries) =
      if key = other then some value else get? other entries := by
  induction entries with
  | nil => simp [put, get?]
  | cons entry rest ih =>
    obtain ⟨k, v⟩ := entry
    by_cases h : k = key
    · subst h
      by_cases ho : k = other <;> simp [put, get?, ho]
    · by_cases ho : k = other
      · subst ho
        have hne : ¬ key = k := fun heq => h heq.symm
        simp only [put, get?, h, hne, if_true, if_false]
      · simp [put, get?, h, ho, ih]

theorem exchange_eq (key : κ) (value : α) (entries : List (κ × α)) :
    exchange key value entries = (get? key entries, put key value entries) := by
  induction entries with
  | nil => rfl
  | cons entry rest ih =>
    obtain ⟨k, v⟩ := entry
    by_cases h : k = key
    · simp [exchange, get?, put, h]
    · simp [exchange, get?, put, h, ih]

theorem nodup_keys_exchange (key : κ) (value : α) {entries : List (κ × α)}
    (h : (keys entries).Nodup) : (keys (exchange key value entries).2).Nodup := by
  rw [exchange_eq]
  exact nodup_keys_put key value h

end TableFilter.Entries
