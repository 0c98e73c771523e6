import Mathlib.Tactic
import TradeWire.Message.Basic

/-!
# Sets and tables of values

What becomes of the values of a list that is told as a set (`isSetOf_distinctBy`) or as a table
with one entry for every key (`isTableOf_lastByKey`). Both are gathered value by value, so each
step keeps what holds of the values so far.
-/

namespace TradeWire

variable {α : Type}

/-! ## Sets -/

/-- The different values of a list, each where it comes first. -/
structure IsSetOf (same : α → α → Bool) (values kept : List α) : Prop where
  /-- Nothing else is kept, and nothing more often than it is there. -/
  sublist : kept.Sublist values
  /-- No value is kept that equals one before it. -/
  distinct : kept.Pairwise fun a b => same a b = false
  /-- A value that is not kept equals one that is. -/
  all : ∀ value ∈ values, value ∈ kept ∨ ∃ other ∈ kept, same other value = true

theorem isSetOf_append {same : α → α → Bool} {values kept : List α}
    (h : IsSetOf same values kept) (value : α) :
    IsSetOf same (values ++ [value])
      (if kept.any (same · value) then kept else kept ++ [value]) := by
  split_ifs with known
  · refine ⟨h.sublist.trans (List.sublist_append_left ..), h.distinct, fun other member => ?_⟩
    rcases List.mem_append.mp member with before | last
    · exact h.all other before
    · obtain rfl := List.mem_singleton.mp last
      exact .inr (List.any_eq_true.mp known)
  · refine ⟨h.sublist.append_right [value], ?_, fun other member => ?_⟩
    · refine List.pairwise_append.mpr ⟨h.distinct, List.pairwise_singleton .., ?_⟩
      intro before kept_before last member
      obtain rfl := List.mem_singleton.mp member
      rw [Bool.eq_false_iff]
      exact fun equal => known (List.any_eq_true.mpr ⟨before, kept_before, equal⟩)
    · rcases List.mem_append.mp member with before | last
      · refine (h.all other before).imp (List.mem_append_left _) ?_
        rintro ⟨first, kept_first, equal⟩
        exact ⟨first, List.mem_append_left _ kept_first, equal⟩
      · exact .inl (List.mem_append_right _ last)

/-- **The values without those that an earlier one equals are a set of them.** -/
theorem isSetOf_distinctBy (same : α → α → Bool) (values : List α) :
    IsSetOf same values (distinctBy same values) := by
  rw [distinctBy]
  induction values using List.reverseRecOn with
  | nil => exact ⟨.slnil, .nil, List.forall_mem_nil _⟩
  | append_singleton values value ih =>
    rw [List.foldl_append]
    exact isSetOf_append ih value

/-! ## Tables -/

/-- One entry for every key, the last one of a list of entries. -/
structure IsTableOf (entries table : List (Int × α)) : Prop where
  keys : (table.map Prod.fst).Nodup
  last : ∀ key, table.lookup key = entries.reverse.lookup key

theorem lookup_append_singleton {table : List (Int × α)} {entry : Int × α}
    (new : entry.1 ∉ table.map Prod.fst) (key : Int) :
    (table ++ [entry]).lookup key = (entry :: table).lookup key := by
  induction table with
  | nil => rfl
  | cons first table ih =>
    obtain ⟨name, value⟩ := first
    obtain ⟨other, value'⟩ := entry
    rw [List.map_cons, List.mem_cons, not_or] at new
    have later := ih new.2
    simp only [List.cons_append, List.lookup_cons] at later ⊢
    rw [later]
    have apart : other ≠ name := new.1
    by_cases here : key = name
    · have elsewhere : (name == other) = false := beq_eq_false_iff_ne.mpr apart.symm
      simp [here, elsewhere]
    · simp [beq_eq_false_iff_ne.mpr here]

def replacing (entry : Int × α) (table : List (Int × α)) : List (Int × α) :=
  table.map fun other => if other.1 == entry.1 then entry else other

theorem keys_replacing (entry : Int × α) (table : List (Int × α)) :
    (replacing entry table).map Prod.fst = table.map Prod.fst := by
  rw [replacing, List.map_map]
  refine List.map_congr_left fun other _ => ?_
  rw [Function.comp_apply]
  split_ifs with same
  · exact (eq_of_beq same).symm
  · rfl

theorem lookup_replacing_of_ne {entry : Int × α} {key : Int} (other : key ≠ entry.1)
    (table : List (Int × α)) : (replacing entry table).lookup key = table.lookup key := by
  induction table with
  | nil => rfl
  | cons first table ih =>
    rw [replacing] at ih ⊢
    rw [List.map_cons]
    split_ifs with same
    · have away : (key == entry.1) = false := beq_eq_false_iff_ne.mpr other
      have gone : (key == first.1) = false := by rwa [eq_of_beq same]
      rw [List.lookup_cons, List.lookup_cons, away, gone]
      exact ih
    · rw [List.lookup_cons, List.lookup_cons, ih]

theorem lookup_replacing {table : List (Int × α)} {entry : Int × α}
    (known : entry.1 ∈ table.map Prod.fst) (key : Int) :
    (replacing entry table).lookup key = (entry :: table).lookup key := by
  by_cases here : key = entry.1
  · subst here
    have found : (entry :: table).lookup entry.1 = some entry.2 := List.lookup_cons_self
    rw [found]
    induction table with
    | nil => cases known
    | cons first table ih =>
      rw [replacing] at ih ⊢
      rw [List.map_cons]
      split_ifs with same
      · exact List.lookup_cons_self
      · have apart : (entry.1 == first.1) = false :=
          beq_eq_false_iff_ne.mpr fun equal => same (beq_iff_eq.mpr equal.symm)
        rw [List.lookup_cons, apart]
        refine ih ((List.mem_cons.mp known).resolve_left ?_) List.lookup_cons_self
        exact beq_eq_false_iff_ne.mp apart
  · rw [lookup_replacing_of_ne here, List.lookup_cons, beq_eq_false_iff_ne.mpr here]

theorem isTableOf_append {entries table : List (Int × α)} (h : IsTableOf entries table)
    (entry : Int × α) :
    IsTableOf (entries ++ [entry])
      (if table.any (·.1 == entry.1) then replacing entry table else table ++ [entry]) := by
  have known : table.any (·.1 == entry.1) = true ↔ entry.1 ∈ table.map Prod.fst := by
    simp
  have next (key : Int) : (entries ++ [entry]).reverse.lookup key =
      (entry :: table).lookup key := by
    rw [List.reverse_append, List.reverse_singleton, List.singleton_append]
    obtain ⟨name, value⟩ := entry
    rw [List.lookup_cons, List.lookup_cons, h.last key]
  split_ifs with there
  · refine ⟨?_, fun key => ?_⟩
    · rw [keys_replacing]
      exact h.keys
    · rw [next, lookup_replacing (known.mp there)]
  · have new := mt known.mpr there
    refine ⟨?_, fun key => ?_⟩
    · rw [List.map_append]
      exact h.keys.append (List.nodup_singleton _) (List.disjoint_singleton.mpr new)
    · rw [next, lookup_append_singleton new]

/-- **The last values by key are a table of them.** -/
theorem isTableOf_lastByKey (entries : List (Int × α)) :
    IsTableOf entries (lastByKey entries) := by
  rw [lastByKey]
  induction entries using List.reverseRecOn with
  | nil => exact ⟨List.nodup_nil, fun _ => rfl⟩
  | append_singleton entries entry ih =>
    rw [List.foldl_append]
    exact isTableOf_append ih entry

end TradeWire
