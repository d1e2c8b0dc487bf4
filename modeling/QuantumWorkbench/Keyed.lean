/-!
# Keyed lists

Association lists in ascending order of their keys. Keys are ordered by code point, so equal
contents are equal lists and the order of a listing is fixed by its contents.

## Contents
- `Keyed.insert`: sets the value of a key.
- `Keyed.Ascending`: the order, which `Keyed.insert` keeps (`Keyed.ascending_insert`).
- `Keyed.lookup_insert`: what a look-up sees after an insertion.
-/

namespace QuantumWorkbench.Keyed

variable {α : Type}

/-- The keys grow from one entry to the next. -/
abbrev Ascending (entries : List (String × α)) : Prop :=
  entries.Pairwise fun a b => a.1 < b.1

/-- Sets the value of `key`, in its place by the order of keys. -/
def insert (key : String) (value : α) : List (String × α) → List (String × α)
  | [] => [(key, value)]
  | (k, v) :: rest =>
    if key < k then (key, value) :: (k, v) :: rest
    else if key = k then (key, value) :: rest
    else (k, v) :: insert key value rest

/-- The entries in key order; of entries with one key the last is kept. -/
def ofList (entries : List (String × α)) : List (String × α) :=
  entries.foldl (fun table e => insert e.1 e.2 table) []

theorem mem_insert {key : String} {value : α} {entries : List (String × α)} {e : String × α}
    (h : e ∈ insert key value entries) : e = (key, value) ∨ e ∈ entries := by
  induction entries with
  | nil => simpa [insert] using h
  | cons first rest ih =>
    obtain ⟨k, v⟩ := first
    unfold insert at h
    split at h
    · simpa using h
    · split at h
      · rcases List.mem_cons.mp h with h | h
        · exact .inl h
        · exact .inr (List.mem_cons_of_mem _ h)
      · rcases List.mem_cons.mp h with h | h
        · exact .inr (by simp [h])
        · exact (ih h).imp_right (List.mem_cons_of_mem _)

theorem ascending_insert {key : String} {value : α} {entries : List (String × α)}
    (h : Ascending entries) : Ascending (insert key value entries) := by
  induction entries with
  | nil => simp [insert]
  | cons first rest ih =>
    obtain ⟨k, v⟩ := first
    obtain ⟨hk, hrest⟩ := List.pairwise_cons.mp h
    unfold insert
    split
    · rename_i hlt
      refine List.pairwise_cons.mpr ⟨fun e he => ?_, h⟩
      rcases List.mem_cons.mp he with rfl | he
      · exact hlt
      · exact String.lt_trans hlt (hk e he)
    · split
      · rename_i heq
        exact List.pairwise_cons.mpr ⟨fun e he => heq ▸ hk e he, hrest⟩
      · rename_i hnlt hne
        refine List.pairwise_cons.mpr ⟨fun e he => ?_, ih hrest⟩
        rcases mem_insert he with rfl | he
        · -- the new key is neither below `k` nor `k` itself
          exact String.not_le.mp fun hle => hne (String.le_antisymm hle (String.not_lt.mp hnlt))
        · exact hk e he

theorem ascending_ofList (entries : List (String × α)) : Ascending (ofList entries) := by
  unfold ofList
  suffices ∀ table, Ascending table →
      Ascending (entries.foldl (fun table e => insert e.1 e.2 table) table) from
    this [] List.Pairwise.nil
  induction entries with
  | nil => exact fun _ h => h
  | cons e rest ih => exact fun table h => ih _ (ascending_insert h)

private theorem lookup_cons_of_ne {other key : String} (h : other ≠ key) (value : α)
    (entries : List (String × α)) :
    ((key, value) :: entries).lookup other = entries.lookup other := by
  have : (other == key) = false := by simpa using h
  simp [List.lookup_cons, this]

/-- The key that was set has the new value, and all others keep theirs. -/
theorem lookup_insert (key other : String) (value : α) (entries : List (String × α)) :
    (insert key value entries).lookup other =
      if other = key then some value else entries.lookup other := by
  induction entries with
  | nil =>
    by_cases h : other = key
    · subst h; simp [insert]
    · simp [insert, h, lookup_cons_of_ne h]
  | cons first rest ih =>
    obtain ⟨k, v⟩ := first
    unfold insert
    split
    · by_cases h : other = key
      · subst h; simp
      · rw [lookup_cons_of_ne h, if_neg h]
    · split
      · rename_i _ heq
        subst heq
        by_cases h : other = key
        · subst h; simp
        · rw [lookup_cons_of_ne h, lookup_cons_of_ne h, if_neg h]
      · rename_i _ hne
        by_cases hk : other = k
        · subst hk
          have : other ≠ key := fun h => hne h.symm
          simp [this]
        · rw [lookup_cons_of_ne hk, lookup_cons_of_ne hk, ih]

end QuantumWorkbench.Keyed
