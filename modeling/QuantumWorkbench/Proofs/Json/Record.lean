import QuantumWorkbench.Json.Shape

/-!
# Records in whatever order

An object that names no field twice says the same in every order of its fields: what is looked up in it,
and what is read out of it, depends on the fields alone.

## Contents
- `Json.IsRecord`: an object that names no field twice.
- `Json.field?_canonical`: putting the keys in order changes nothing that is looked up.
- `Json.readRecord_of_get`: a record with good fields is read, whatever stands first.
- `Json.readIndex_int`, `Json.integer?_int`: indices as they are written.
-/

namespace QuantumWorkbench

/-! ## Association lists -/

namespace Keyed

variable {α β : Type}

theorem lookup_cons (key k : String) (value : α) (entries : List (String × α)) :
    ((k, value) :: entries).lookup key = if key = k then some value else entries.lookup key := by
  by_cases same : key = k
  · rw [if_pos same, same, List.lookup_cons_self]
  · have other : (key == k) = false := beq_eq_false_iff_ne.mpr same
    rw [if_neg same, List.lookup_cons, other]

theorem lookup_eq_none {key : String} {entries : List (String × α)}
    (absent : key ∉ entries.map Prod.fst) : entries.lookup key = none := by
  rw [List.lookup_eq_none_iff]
  intro e he
  rw [bne_iff_ne]
  intro same
  exact absent (same ▸ List.mem_map_of_mem he)

/-- Without repetitions every entry is found. -/
theorem lookup_of_mem {key : String} {value : α} {entries : List (String × α)}
    (nodup : (entries.map Prod.fst).Nodup) (member : (key, value) ∈ entries) :
    entries.lookup key = some value := by
  induction entries with
  | nil => cases member
  | cons first rest ih =>
      obtain ⟨k, v⟩ := first
      obtain ⟨absent, nodup⟩ := List.nodup_cons.mp nodup
      rw [lookup_cons]
      rcases List.mem_cons.mp member with here | later
      · cases here
        exact if_pos rfl
      · have listed : key ∈ rest.map Prod.fst := List.mem_map_of_mem later
        have other : key ≠ k := fun same => absent (same ▸ listed)
        rw [if_neg other]
        exact ih nodup later

theorem lookup_mapValues (f : α → β) (key : String) (entries : List (String × α)) :
    (entries.map fun e => (e.1, f e.2)).lookup key = (entries.lookup key).map f := by
  induction entries with
  | nil => rfl
  | cons first rest ih =>
      rw [List.map_cons, lookup_cons, lookup_cons, ih]
      split
      · rfl
      · rfl

/-- An optional entry behind others is found if it is there. -/
theorem lookup_optional {key : String} {always : List (String × β)} (new : key ∉ always.map Prod.fst)
    (a : Option α) (write : α → β) :
    (always ++ (a.map fun a => (key, write a)).toList).lookup key = a.map write := by
  rw [List.lookup_append, lookup_eq_none new, Option.none_or]
  cases a with
  | none => rfl
  | some a => exact List.lookup_cons_self

theorem nodup_optional {key : String} {always : List (String × β)} (nodup : (always.map Prod.fst).Nodup)
    (new : key ∉ always.map Prod.fst) (a : Option α) (write : α → β) :
    ((always ++ (a.map fun a => (key, write a)).toList).map Prod.fst).Nodup := by
  cases a with
  | none =>
      show ((always ++ []).map Prod.fst).Nodup
      rwa [List.append_nil]
  | some a =>
      rw [List.map_append, List.nodup_append]
      refine ⟨nodup, List.nodup_cons.mpr ⟨List.not_mem_nil, List.nodup_nil⟩, ?_⟩
      rintro k hk last hlast rfl
      cases List.mem_singleton.mp hlast
      exact new hk

/-- **Sorting loses nothing.** Without repetitions every key keeps its value. -/
theorem lookup_ofList {entries : List (String × α)} (nodup : (entries.map Prod.fst).Nodup)
    (key : String) : (ofList entries).lookup key = entries.lookup key := by
  suffices ∀ table : List (String × α),
      (entries.foldl (fun table e => insert e.1 e.2 table) table).lookup key =
        (entries.lookup key).or (table.lookup key) by
    have found := this []
    rwa [List.lookup_nil, Option.or_none] at found
  induction entries with
  | nil => exact fun _ => rfl
  | cons first rest ih =>
      intro table
      obtain ⟨absent, nodup⟩ := List.nodup_cons.mp nodup
      rw [List.foldl_cons, ih nodup, lookup_insert, lookup_cons]
      by_cases same : key = first.1
      · rw [if_pos same, if_pos same, same, lookup_eq_none absent]
        rfl
      · rw [if_neg same, if_neg same]

theorem nodup_ofList (entries : List (String × α)) : ((ofList entries).map Prod.fst).Nodup := by
  rw [List.Nodup, List.pairwise_map]
  exact (ascending_ofList entries).imp fun lt => String.ne_of_lt lt

end Keyed

namespace Json

/-! ## Records -/

/-- An object that names no field twice. -/
def IsRecord (v : Json) : Prop := ∃ fields, v = .obj fields ∧ (fields.map Prod.fst).Nodup

theorem canonicalItems_eq_map (items : List Json) : canonicalItems items = items.map canonical := by
  induction items with
  | nil => rw [canonicalItems, List.map_nil]
  | cons v rest ih => rw [canonicalItems, ih, List.map_cons]

theorem canonicalFields_eq_map (fields : List (String × Json)) :
    canonicalFields fields = fields.map fun e => (e.1, e.2.canonical) := by
  induction fields with
  | nil => rw [canonicalFields, List.map_nil]
  | cons first rest ih => rw [canonicalFields, ih, List.map_cons]

@[simp] theorem canonical_int (n : Int) : canonical (.int n) = .int n := rfl

@[simp] theorem canonical_str (s : String) : canonical (.str s) = .str s := rfl

theorem canonical_obj (fields : List (String × Json)) :
    canonical (.obj fields) = .obj (Keyed.ofList (fields.map fun e => (e.1, e.2.canonical))) := by
  rw [canonical, canonicalFields_eq_map]

theorem canonical_arr (items : List Json) : canonical (.arr items) = .arr (items.map canonical) := by
  rw [canonical, canonicalItems_eq_map]

theorem IsRecord.canonical {v : Json} (h : v.IsRecord) : v.canonical.IsRecord := by
  obtain ⟨fields, rfl, -⟩ := h
  exact ⟨_, canonical_obj fields, Keyed.nodup_ofList _⟩

/-- **Order does not matter to look-ups.** -/
theorem field?_canonical {v : Json} (h : v.IsRecord) (key : String) :
    v.canonical.field? key = (v.field? key).map canonical := by
  obtain ⟨fields, rfl, nodup⟩ := h
  have nodup' : ((fields.map fun e => (e.1, e.2.canonical)).map Prod.fst).Nodup := by
    rwa [List.map_map]
  rw [canonical_obj]
  exact (Keyed.lookup_ofList nodup' key).trans (Keyed.lookup_mapValues _ _ _)

/-! ## Reading records -/

/-- A field that can be had passes the check in front. -/
theorem check_of_get {α : Type} {f : Field α} {fields : List (String × Json)} {a : α}
    (got : f.get fields = .ok a) {v : Json} (found : fields.lookup f.name = some v) :
    f.toCheck.check v = .ok () := by
  have readable : f.read v = .ok a := by
    rwa [Field.get, found] at got
  show (fun _ => ()) <$> f.read v = .ok ()
  rw [readable]
  rfl

theorem get_of_lookup {α : Type} {f : Field α} {fields : List (String × Json)} {v : Json}
    (found : fields.lookup f.name = some v) : f.get fields = f.read v := by
  rw [Field.get, found]

theorem get_of_missing {α : Type} {f : Field α} {fields : List (String × Json)} {a : α}
    (absent : fields.lookup f.name = none) (missing : f.missing? = some a) :
    f.get fields = .ok a := by
  rw [Field.get, absent, missing]

/-- An optional field is read as it is written: as its value, or not at all. -/
theorem get_of_option {α : Type} {f : Field (Option α)} {fields : List (String × Json)}
    {read : Json → Except ShapeError α} {write : α → Json} (reads : f.read = readOption read)
    (missing : f.missing? = some none) (own : ∀ a, readOption read (write a) = .ok (some a)) {a : Option α}
    (found : fields.lookup f.name = a.map write) : f.get fields = .ok a := by
  cases a with
  | none => exact get_of_missing found missing
  | some a => rw [get_of_lookup found, reads, own]

theorem mapM_ok (items : List Json) : items.mapM (m := Except ShapeError) .ok = .ok items := by
  induction items with
  | nil => rfl
  | cons v rest ih =>
      rw [List.mapM_cons, ih]
      rfl

theorem checkFields_eq_ok {known : List FieldCheck} {seen : List String} {fields : List (String × Json)}
    (unseen : ∀ k ∈ fields.map Prod.fst, k ∉ seen) (nodup : (fields.map Prod.fst).Nodup)
    (good : ∀ e ∈ fields, ∀ f ∈ known, f.name = e.1 → f.check e.2 = .ok ()) :
    checkFields known seen fields = .ok () := by
  induction fields generalizing seen with
  | nil => rfl
  | cons first rest ih =>
      obtain ⟨k, v⟩ := first
      obtain ⟨absent, nodup⟩ := List.nodup_cons.mp nodup
      have goodRest := fun e (he : e ∈ rest) => good e (List.mem_cons_of_mem _ he)
      have unseenRest := fun k' (hk : k' ∈ rest.map Prod.fst) => unseen k' (List.mem_cons_of_mem _ hk)
      rw [checkFields]
      cases known? : known.find? (·.name = k) with
      | none => exact ih unseenRest nodup goodRest
      | some f =>
          have named : f.name = k := by
            have picked := List.find?_some known?
            exact of_decide_eq_true picked
          have new : k ∉ seen := unseen k List.mem_cons_self
          have passed := good (k, v) List.mem_cons_self f (List.mem_of_find?_eq_some known?) named
          -- The field does not come again, so that it may count as seen.
          have rest' : checkFields known (k :: seen) rest = .ok () := by
            refine ih ?_ nodup goodRest
            intro k' hk
            rw [List.mem_cons, not_or]
            exact ⟨fun same => absent (same ▸ hk), unseenRest k' hk⟩
          simp only [if_neg new, passed, rest']
          rfl

/-- **A record with good fields is read**, whatever stands first. -/
theorem readRecord_of_get {α : Type} {record : String} {known : List FieldCheck}
    {build : List (String × Json) → Except ShapeError α} {fields : List (String × Json)}
    (nodup : (fields.map Prod.fst).Nodup)
    (good : ∀ f ∈ known, ∀ v, fields.lookup f.name = some v → f.check v = .ok ()) :
    readRecord record known build (.obj fields) = build fields := by
  have passed : checkFields known [] fields = .ok () := by
    refine checkFields_eq_ok (fun _ _ => List.not_mem_nil) nodup ?_
    intro e he f hf named
    exact good f hf e.2 (named ▸ Keyed.lookup_of_mem nodup he)
  rw [readRecord, passed]
  rfl

/-! ## Indices -/

theorem readIndex_int (i : UInt32) : readIndex (.int i.toNat) = .ok i := by
  have small : (i.toNat : Int) < Nat.pow 2 32 := Int.ofNat_lt.mpr i.toNat_lt
  rw [readIndex, readWord, if_pos ⟨Int.natCast_nonneg _, small⟩]
  show Except.ok (UInt32.ofNat i.toNat) = _
  rw [UInt32.ofNat_toNat]

theorem readOption_int (i : UInt32) : readOption readIndex (.int i.toNat) = .ok (some i) := by
  show some <$> readIndex (.int i.toNat) = _
  rw [readIndex_int]
  rfl

theorem integer?_int (i : UInt32) : integer? (.int i.toNat) = some (i.toNat : Int) := by
  have bound := i.toNat_lt
  have low : Int64.minValue.toInt = -9223372036854775808 := rfl
  have high : Int64.maxValue.toInt = 9223372036854775807 := rfl
  rw [integer?, if_pos]
  rw [low, high]
  omega

end Json

end QuantumWorkbench
