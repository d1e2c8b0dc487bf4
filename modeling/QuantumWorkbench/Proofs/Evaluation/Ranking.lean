import Mathlib.Data.String.Basic
import QuantumWorkbench.Console.Layout

/-!
# The most frequent outcome

There are two ways to rank the outcomes of a measurement. One goes through the table once and keeps what is best so
far, the other sorts the whole table for a listing. Entries never rank alike, so that both put the same one first.

## Contents
- `Counts.Precedes`: the order of the ranking, by falling counts and then by the names of the outcomes.
- `Counts.Leads`: an entry that precedes all others of a list. There is no other one.
- `Counts.mostFrequent?_eq_some_iff`: the walk through the table finds the entry that leads it.
- `lastMaximum?`: the last of the greatest elements of a list, and `Counts.mostFrequent?_eq_lastMaximum?`: the entry
  found is the last maximum by an order that has the names the other way round.
- `Counts.pairwise_ranked`: the sorted table.
- `Counts.rankings_agree`: what is listed, and that it begins with the entry found.
-/

namespace QuantumWorkbench

/-- The last of the greatest elements of a list. -/
def lastMaximum? {α : Type} (order : α → α → Ordering) : List α → Option α
  | [] => none
  | first :: rest => some (rest.foldl (fun best e => if order best e = .gt then best else e) first)

/-! ## The order -/

namespace Counts

/-- The first entry comes before the second one: it has the greater count, or it has the same count and the smaller
name. -/
def Precedes (a b : String × UInt64) : Prop := b.2 < a.2 ∨ a.2 = b.2 ∧ a.1 < b.1

variable {a b c : String × UInt64}

theorem Precedes.irrefl : ¬ Precedes a a := by
  rintro (lt | ⟨-, lt⟩)
  · exact UInt64.lt_irrefl _ lt
  · exact String.lt_irrefl _ lt

theorem Precedes.trans (first : Precedes a b) (second : Precedes b c) : Precedes a c := by
  rcases first with more | ⟨same, before⟩
  · rcases second with more' | ⟨same', -⟩
    · exact .inl (UInt64.lt_trans more' more)
    · exact .inl (same' ▸ more)
  · rcases second with more' | ⟨same', before'⟩
    · exact .inl (same ▸ more')
    · exact .inr ⟨same.trans same', String.lt_trans before before'⟩

theorem Precedes.asymm (first : Precedes a b) : ¬ Precedes b a := fun second => irrefl (first.trans second)

/-- Of two entries one precedes the other. -/
theorem Precedes.total (ne : a ≠ b) : Precedes a b ∨ Precedes b a := by
  by_cases same : a.2 = b.2
  · by_cases before : a.1 < b.1
    · exact .inl (.inr ⟨same, before⟩)
    · have behind : b.1 < a.1 := String.not_le.mp fun le =>
        ne (Prod.ext (String.le_antisymm le (String.not_lt.mp before)) same)
      exact .inr (.inr ⟨same.symm, behind⟩)
  · exact (UInt64.lt_or_lt_of_ne same).symm.imp .inl .inl

/-- The entry precedes all others of the list. -/
def Leads (e : String × UInt64) (l : List (String × UInt64)) : Prop := e ∈ l ∧ ∀ f ∈ l, f ≠ e → Precedes e f

variable {l : List (String × UInt64)}

theorem Leads.unique (ha : Leads a l) (hb : Leads b l) : a = b := by
  by_contra ne
  exact (ha.2 b hb.1 (Ne.symm ne)).asymm (hb.2 a ha.1 ne)

/-- The leading entry has the largest count, and of those with this count the smallest name. -/
theorem leads_iff : Leads a l ↔
    a ∈ l ∧ (∀ f ∈ l, f.2 ≤ a.2) ∧ ∀ f ∈ l, f.2 = a.2 → a.1 ≤ f.1 := by
  constructor
  · rintro ⟨member, ahead⟩
    refine ⟨member, fun f hf => ?_, fun f hf same => ?_⟩
    · by_cases own : f = a
      · exact own ▸ UInt64.le_refl _
      · rcases ahead f hf own with more | ⟨same, -⟩
        · exact UInt64.le_of_lt more
        · exact UInt64.le_of_eq same.symm
    · by_cases own : f = a
      · exact own ▸ String.le_refl _
      · rcases ahead f hf own with more | ⟨-, before⟩
        · exact absurd (same ▸ more) (UInt64.lt_irrefl _)
        · exact String.not_lt.mp fun behind => String.lt_irrefl _ (String.lt_trans before behind)
  · rintro ⟨member, most, first⟩
    refine ⟨member, fun f hf other => (Precedes.total other).resolve_left ?_⟩
    rintro (more | ⟨same, before⟩)
    · exact UInt64.not_lt.mpr (most f hf) more
    · exact String.not_lt.mpr (first f hf same) before

/-! ## The walk through the table -/

/-- An entry that is not overtaken precedes what comes later by name. -/
theorem precedes_of_not_lt (notMore : ¬ a.2 < b.2) (before : a.1 < b.1) : Precedes a b := by
  by_cases same : a.2 = b.2
  · exact .inr ⟨same, before⟩
  · exact .inl ((UInt64.lt_or_lt_of_ne same).resolve_left notMore)

/-- Entries that come by name still do if one is left out. -/
theorem ascending_without (ascending : Keyed.Ascending (a :: b :: l)) : Keyed.Ascending (a :: l) :=
  List.Pairwise.sublist ((List.sublist_cons_self b l).cons_cons a) ascending

/-- One turn of the walk: the entry replaces one that has a smaller count. -/
def keepBest (best : Option (String × UInt64)) (e : String × UInt64) : Option (String × UInt64) :=
  match best with
  | none => some e
  | some b => if b.2 < e.2 then some e else some b

/-- **What is best so far leads the part of the table that was seen.** The entries come by name, so that an entry is
only replaced by one that precedes it. -/
theorem leads_foldl (best : String × UInt64) (ascending : Keyed.Ascending (best :: l)) :
    ∃ e, l.foldl keepBest (some best) = some e ∧ Leads e (best :: l) := by
  induction l generalizing best with
  | nil => exact ⟨best, rfl, List.mem_singleton_self best, fun f hf ne => absurd (List.mem_singleton.mp hf) ne⟩
  | cons f rest ih =>
      obtain ⟨below, later⟩ := List.pairwise_cons.mp ascending
      show ∃ e, rest.foldl keepBest (if best.2 < f.2 then some f else some best) = some e ∧ _
      by_cases more : best.2 < f.2
      · obtain ⟨e, found, member, ahead⟩ := ih f later
        rw [if_pos more]
        refine ⟨e, found, List.mem_cons_of_mem best member, List.forall_mem_cons.mpr ⟨fun _ => ?_, ahead⟩⟩
        by_cases own : f = e
        · exact own ▸ .inl more
        · exact (ahead f List.mem_cons_self own).trans (.inl more)
      · obtain ⟨e, found, member, ahead⟩ := ih best (ascending_without ascending)
        obtain ⟨first, behind⟩ := List.forall_mem_cons.mp ahead
        have passed : Precedes best f := precedes_of_not_lt more (below f List.mem_cons_self)
        rw [if_neg more]
        refine ⟨e, found, ?_, List.forall_mem_cons.mpr ⟨first, List.forall_mem_cons.mpr ⟨fun _ => ?_, behind⟩⟩⟩
        · exact (List.mem_cons.mp member).elim (fun own => own ▸ List.mem_cons_self)
            fun later => List.mem_cons_of_mem _ (List.mem_cons_of_mem _ later)
        · by_cases own : best = e
          · exact own ▸ passed
          · exact (first own).trans passed

variable {c : Counts} {e : String × UInt64}

theorem mostFrequent?_eq_none_iff : c.mostFrequent? = none ↔ c.entries = [] := by
  obtain ⟨entries, ascending⟩ := c
  cases entries with
  | nil => exact iff_of_true rfl rfl
  | cons first rest =>
      obtain ⟨e, found, -⟩ := leads_foldl first ascending
      have some : mostFrequent? ⟨first :: rest, ascending⟩ = some e := found
      rw [some]
      exact iff_of_false nofun nofun

/-- **The walk finds the entry that leads the table.** -/
theorem mostFrequent?_eq_some_iff : c.mostFrequent? = some e ↔ Leads e c.entries := by
  obtain ⟨entries, ascending⟩ := c
  cases entries with
  | nil => exact iff_of_false nofun fun h => absurd h.1 List.not_mem_nil
  | cons first rest =>
      obtain ⟨e', found, leads⟩ := leads_foldl first ascending
      have some : mostFrequent? ⟨first :: rest, ascending⟩ = some e' := found
      rw [some]
      constructor
      · rintro ⟨⟩
        exact leads
      · exact fun h => congrArg _ (leads.unique h)

/-! ## The last maximum -/

/-- The order of a search for the last maximum: by counts, and for one count against the order of the names. -/
def byCount (a b : String × UInt64) : Ordering := (compare a.2 b.2).then (compare b.1 a.1)

theorem byCount_eq_gt_iff : byCount a b = .gt ↔ Precedes a b := by
  have count : compare a.2 b.2 = compareOfLessAndEq a.2 b.2 := rfl
  have name : compare b.1 a.1 = compareOfLessAndEq b.1 a.1 := rfl
  rw [byCount, Precedes, count, name, compareOfLessAndEq, compareOfLessAndEq]
  by_cases less : a.2 < b.2
  · have notMore : ¬ b.2 < a.2 := fun more => UInt64.lt_irrefl _ (UInt64.lt_trans less more)
    simp [less, notMore, UInt64.ne_of_lt less]
  · by_cases same : a.2 = b.2
    · by_cases behind : b.1 < a.1
      · have notBefore : ¬ a.1 < b.1 := fun before => String.lt_irrefl _ (String.lt_trans behind before)
        simp [same, behind, notBefore]
      · by_cases equal : b.1 = a.1
        · simp [same, equal]
        · have before : a.1 < b.1 := String.not_le.mp fun le =>
            equal (String.le_antisymm le (String.not_lt.mp behind))
          simp [same, behind, equal, before]
    · have more : b.2 < a.2 := (UInt64.lt_or_lt_of_ne same).resolve_left less
      simp [less, same, more]

/-- **The walk keeps the last maximum.** -/
theorem mostFrequent?_eq_lastMaximum? (c : Counts) : c.mostFrequent? = lastMaximum? byCount c.entries := by
  have walks : ∀ (l : List (String × UInt64)) (best : String × UInt64), Keyed.Ascending (best :: l) →
      l.foldl keepBest (some best) =
        some (l.foldl (fun best e => if byCount best e = .gt then best else e) best) := by
    intro l
    induction l with
    | nil => exact fun best _ => rfl
    | cons f rest ih =>
        intro best ascending
        obtain ⟨below, later⟩ := List.pairwise_cons.mp ascending
        show rest.foldl keepBest (if best.2 < f.2 then some f else some best) =
          some (rest.foldl _ (if byCount best f = .gt then best else f))
        by_cases more : best.2 < f.2
        · have overtaken : ¬ Precedes best f := (show Precedes f best from .inl more).asymm
          rw [if_pos more, if_neg fun gt => overtaken (byCount_eq_gt_iff.mp gt)]
          exact ih f later
        · rw [if_neg more, if_pos (byCount_eq_gt_iff.mpr (precedes_of_not_lt more (below f List.mem_cons_self)))]
          exact ih best (ascending_without ascending)
  obtain ⟨entries, ascending⟩ := c
  cases entries with
  | nil => rfl
  | cons first rest => exact walks rest first ascending

/-! ## The sorted table -/

/-- No entry is there twice. -/
theorem nodup_entries (c : Counts) : c.entries.Nodup := by
  refine c.ascending.imp ?_
  rintro a _ lt rfl
  exact String.lt_irrefl _ lt

theorem ranked_perm (c : Counts) : c.ranked.Perm c.entries := List.mergeSort_perm _ _

/-- **Each entry of the sorted table precedes those behind it.** -/
theorem pairwise_ranked (c : Counts) : c.ranked.Pairwise Precedes := by
  let before (a b : String × UInt64) : Bool := b.2 < a.2 || (a.2 = b.2 && a.1 ≤ b.1)
  have before_iff : ∀ a b, before a b = true ↔ a = b ∨ Precedes a b := by
    intro a b
    have le : a.1 ≤ b.1 ↔ a.1 = b.1 ∨ a.1 < b.1 := le_iff_eq_or_lt
    simp only [before, Bool.or_eq_true, Bool.and_eq_true, decide_eq_true_eq, le, Precedes, Prod.ext_iff]
    tauto
  have sorted : c.ranked.Pairwise fun a b => before a b = true := by
    refine @List.pairwise_mergeSort _ before (fun a b c first second => ?_) (fun a b => ?_) c.entries
    · rw [before_iff] at first second ⊢
      rcases first with rfl | first
      · exact second
      · exact .inr (second.elim (fun same => same ▸ first) first.trans)
    · rw [Bool.or_eq_true, before_iff, before_iff]
      by_cases same : a = b
      · exact .inl (.inl same)
      · exact (Precedes.total same).imp .inr .inr
  have distinct : c.ranked.Pairwise fun a b => a ≠ b :=
    c.ranked_perm.nodup_iff.mpr c.nodup_entries
  exact (sorted.and distinct).imp fun h => ((before_iff _ _).mp h.1).resolve_left h.2

/-- The sorted table begins with the entry that leads it. -/
theorem mostFrequent?_eq_head? (c : Counts) : c.mostFrequent? = c.ranked.head? := by
  cases sorted : c.ranked with
  | nil =>
      have empty : c.entries = [] := (sorted ▸ c.ranked_perm).symm.eq_nil
      exact mostFrequent?_eq_none_iff.mpr empty
  | cons first rest =>
      have perm : (first :: rest).Perm c.entries := sorted ▸ c.ranked_perm
      have ordered : (first :: rest).Pairwise Precedes := sorted ▸ c.pairwise_ranked
      refine mostFrequent?_eq_some_iff.mpr ⟨perm.mem_iff.mp List.mem_cons_self, fun f hf other => ?_⟩
      exact (List.pairwise_cons.mp ordered).1 f ((List.mem_cons.mp (perm.mem_iff.mpr hf)).resolve_left other)

/-- **The two rankings agree.** Take any table of counts.
* The walk finds nothing exactly in an empty table. Otherwise it finds the entry with the largest count, and of those
  with this count the one with the smallest name: the last maximum by counts and reversed names.
* The list of outcomes begins with this entry. It has sixteen rows, or as many as there are entries if these are
  fewer, none of them twice and each preceding those below it and all entries that are not listed. These are counted
  on the last line, if there are any. -/
theorem rankings_agree (c : Counts) :
    (c.mostFrequent? = none ↔ c.entries = []) ∧
    (∀ e, c.mostFrequent? = some e ↔
      e ∈ c.entries ∧ (∀ f ∈ c.entries, f.2 ≤ e.2) ∧ ∀ f ∈ c.entries, f.2 = e.2 → e.1 ≤ f.1) ∧
    c.mostFrequent? = lastMaximum? byCount c.entries ∧
    ∃ (rows : List (String × UInt64)) (more : Nat),
      (measurementLines c = if c.entries.isEmpty then [] else
        [s!"  Measurements ({c.shownTotal} shots):"] ++ rows.map (measurementLine c.total.toFloat)
          ++ if more = 0 then [] else [s!"    ... and {more} more outcomes"]) ∧
      rows.head? = c.mostFrequent? ∧ rows.length = min 16 c.entries.length ∧
      rows.length + more = c.entries.length ∧ rows.Nodup ∧ rows.Pairwise Precedes ∧
      ∀ row ∈ rows, row ∈ c.entries ∧ ∀ e ∈ c.entries, e ∉ rows → Precedes row e := by
  have length : c.ranked.length = c.entries.length := c.ranked_perm.length_eq
  have split : c.ranked.take 16 ++ c.ranked.drop 16 = c.ranked := List.take_append_drop 16 c.ranked
  have ordered : (c.ranked.take 16 ++ c.ranked.drop 16).Pairwise Precedes := split.symm ▸ c.pairwise_ranked
  obtain ⟨within, -, across⟩ := List.pairwise_append.mp ordered
  refine ⟨mostFrequent?_eq_none_iff, fun e => mostFrequent?_eq_some_iff.trans leads_iff,
    mostFrequent?_eq_lastMaximum? c, c.ranked.take 16, c.entries.length - 16, ?_, ?_, ?_, ?_, ?_, within, ?_⟩
  · have further : 16 < c.entries.length ↔ ¬ c.entries.length - 16 = 0 := by omega
    simp only [measurementLines, listedOutcomes, length, further, ite_not]
  · rw [mostFrequent?_eq_head?, List.head?_take, if_neg (by decide)]
  · rw [List.length_take, length]
  · rw [List.length_take, length]
    omega
  · exact (c.ranked_perm.nodup_iff.mpr c.nodup_entries).sublist (List.take_sublist 16 _)
  · intro row listed
    refine ⟨c.ranked_perm.mem_iff.mp (List.mem_of_mem_take listed), fun e he notListed => ?_⟩
    have ranked : e ∈ c.ranked.take 16 ++ c.ranked.drop 16 := split.symm ▸ c.ranked_perm.mem_iff.mpr he
    exact across row listed e ((List.mem_append.mp ranked).resolve_left notListed)

/-- Eighteen outcomes, of which the first by name is the least frequent and all others tie. -/
def crowded : Counts := .ofList (("00", 1) :: (List.range 17).map fun i => (toString (27 - i), 3))

theorem rankings_agree_crowded :
    crowded.mostFrequent? = some ("11", 3) ∧ lastMaximum? byCount crowded.entries = some ("11", 3) ∧
    ∃ rows : List (String × UInt64), rows.head? = some ("11", 3) ∧ rows.length = 16 ∧ rows.Pairwise Precedes ∧
      measurementLines crowded =
        [s!"  Measurements ({crowded.shownTotal} shots):"] ++ rows.map (measurementLine crowded.total.toFloat)
          ++ ["    ... and 2 more outcomes"] := by
  have found : crowded.mostFrequent? = some ("11", 3) := by decide +kernel
  have size : crowded.entries.length = 18 := by decide +kernel
  have filled : crowded.entries.isEmpty = false := by decide +kernel
  obtain ⟨-, -, last, rows, more, lines, first, listed, all, -, ordered, -⟩ := rankings_agree crowded
  rw [size] at listed all
  have two : more = 2 := by omega
  rw [filled, two] at lines
  exact ⟨found, last ▸ found, rows, first.trans found, listed, ordered, lines⟩

end Counts

end QuantumWorkbench
