import FusionMpt.Binding.Registry

/-!
# Looking Up Handles

What each operation of a registry does to what is found under a handle. The
entries are a list with the handles in it, but nothing needs to know: a lookup
after an operation is a lookup before it, except under the one handle that the
operation is about.

Nothing is assumed of the handles here. Even when the numbers have run out and
start over, an entry under the new handle takes the place of the old one.

## Theorems

* `Registry.get?_eq_none_iff`: Nothing is found under handles that are not
  listed.
* `Registry.get?_insert`, `Registry.get?_erase`, `Registry.get?_set`: Lookups
  after each operation.
* `Registry.entries_insert`, `Registry.exists_entries_erase`: A new entry comes
  last, and an entry that goes leaves the others in their order.
* `Registry.toNat_next_insert`, `Registry.next_lt_next_insert`: As long as the
  numbers last, the next handle is a later one.
* `Registry.nodup_insert`, `Registry.nodup_erase`, `Registry.handles_set`: No
  handle is in use twice.
* `Registry.size_insert`, `Registry.size_erase`: One entry more and one less.
-/

namespace FusionMpt

namespace Registry

variable {α : Type} {r : Registry α} {handle : Handle}

theorem get?_eq_none_iff : r.get? handle = none ↔ handle ∉ r.handles := by
  unfold get? handles
  rw [Option.map_eq_none_iff, List.find?_eq_none, List.mem_map]
  constructor
  · intro h hmem
    rcases hmem with ⟨entry, hentry, heq⟩
    exact h entry hentry (decide_eq_true heq)
  · intro h entry hentry heq
    exact h ⟨entry, hentry, of_decide_eq_true heq⟩

-- What is found under a handle is an entry of that handle.
theorem key_of_find? {entries : List (Handle × α)} {entry : Handle × α}
    (h : (entries.find? fun entry => entry.1 = handle) = some entry) : entry.1 = handle := by
  have htest := List.find?_some h
  exact of_decide_eq_true htest

theorem mem_of_get?_eq_some {value : α} (h : r.get? handle = some value) :
    (handle, value) ∈ r.entries := by
  rcases Option.map_eq_some_iff.mp h with ⟨entry, hfind, rfl⟩
  rw [← key_of_find? hfind]
  exact List.mem_of_find?_eq_some hfind

theorem get?_erase (r : Registry α) (handle other : Handle) :
    (r.erase handle).get? other = if other = handle then none else r.get? other := by
  by_cases hother : other = handle
  · rw [if_pos hother, get?_eq_none_iff, hother]
    intro hmem
    rcases List.mem_map.mp hmem with ⟨entry, hentry, heq⟩
    exact of_decide_eq_true (List.mem_filter.mp hentry).2 heq
  · rw [if_neg hother]
    unfold get? erase
    rw [List.find?_filter]
    refine congrArg (fun test => (r.entries.find? test).map (·.2)) (funext fun entry => ?_)
    -- an entry of the other handle is not among those left out
    rw [decide_eq_decide]
    constructor
    · intro h
      exact of_decide_eq_true h.2
    · intro hentry
      exact ⟨decide_eq_true fun heq => hother (hentry.symm.trans heq), decide_eq_true hentry⟩

theorem get?_insert (r : Registry α) (value : α) (other : Handle) :
    (r.insert value).2.get? other = if other = ⟨r.next⟩ then some value else r.get? other := by
  have herase := get?_erase r ⟨r.next⟩ other
  unfold get? at herase ⊢
  change (((r.erase ⟨r.next⟩).entries ++ [((⟨r.next⟩ : Handle), value)]).find? _).map _ = _
  rw [List.find?_append, Option.map_or, herase, List.find?_singleton]
  by_cases hother : other = ⟨r.next⟩
  · rw [if_pos hother, if_pos hother, if_pos (decide_eq_true hother.symm)]
    rfl
  · rw [if_neg hother, if_neg hother, if_neg fun h => hother (of_decide_eq_true h).symm]
    exact Option.or_none

-- Replacing an entry leaves its handle.
theorem key_replaced (handle : Handle) (value : α) (entry : Handle × α) :
    (if entry.1 = handle then (handle, value) else entry).1 = entry.1 := by
  by_cases hentry : entry.1 = handle
  · rw [if_pos hentry, hentry]
  · rw [if_neg hentry]

theorem get?_set (r : Registry α) (handle other : Handle) (value : α) :
    (r.set handle value).get? other =
      if other = handle then (r.get? handle).map fun _ => value else r.get? other := by
  unfold get? set
  simp only [List.find?_map, Function.comp_def, key_replaced, Option.map_map]
  by_cases hother : other = handle
  · rw [if_pos hother, hother]
    refine Option.map_congr fun entry hfind => ?_
    rw [if_pos (key_of_find? hfind)]
  · rw [if_neg hother]
    refine Option.map_congr fun entry hfind => ?_
    rw [if_neg fun heq => hother ((key_of_find? hfind).symm.trans heq)]

theorem entries_erase (h : r.get? handle = none) : (r.erase handle).entries = r.entries := by
  rw [get?_eq_none_iff] at h
  change r.entries.filter _ = _
  rw [List.filter_eq_self]
  intro entry hentry
  exact decide_eq_true fun heq => h (List.mem_map.mpr ⟨entry, hentry, heq⟩)

theorem erase_eq_self (h : r.get? handle = none) : r.erase handle = r :=
  congrArg (fun entries => { r with entries }) (entries_erase h)

/-- Under a handle that is not in use a new entry comes after the others, which
    stay what they are. -/
theorem entries_insert {value : α} (h : r.get? ⟨r.next⟩ = none) :
    (r.insert value).2.entries = r.entries ++ [(⟨r.next⟩, value)] := by
  change (r.erase ⟨r.next⟩).entries ++ _ = _
  rw [entries_erase h]

/-! ## Numbers -/

theorem toNat_next_insert (hroom : r.next.toNat + 1 < UInt64.size) (value : α) :
    (r.insert value).2.next.toNat = r.next.toNat + 1 := by
  change (r.next + 1).toNat = _
  rw [UInt64.toNat_add]
  exact Nat.mod_eq_of_lt hroom

theorem next_lt_next_insert (hroom : r.next.toNat + 1 < UInt64.size) (value : α) :
    r.next < (r.insert value).2.next := by
  rw [UInt64.lt_iff_toNat_lt, toNat_next_insert hroom]
  exact Nat.lt_succ_self _

/-! ## Handles -/

theorem handles_set (r : Registry α) (handle : Handle) (value : α) :
    (r.set handle value).handles = r.handles := by
  unfold handles set
  rw [List.map_map]
  exact List.map_congr_left fun entry _ => key_replaced handle value entry

theorem nodup_erase (h : r.handles.Nodup) (handle : Handle) : (r.erase handle).handles.Nodup :=
  h.sublist (List.filter_sublist.map _)

/-- No handle is in use twice, whatever the number that comes next. -/
theorem nodup_insert (h : r.handles.Nodup) (value : α) : (r.insert value).2.handles.Nodup := by
  have hfresh : (⟨r.next⟩ : Handle) ∉ (r.erase ⟨r.next⟩).handles := by
    rw [← get?_eq_none_iff, get?_erase, if_pos rfl]
  change (((r.erase ⟨r.next⟩).entries ++ [((⟨r.next⟩ : Handle), value)]).map Prod.fst).Nodup
  rw [List.map_append, List.nodup_append]
  refine ⟨nodup_erase h _, List.pairwise_singleton _ _, fun other hother last hlast heq => ?_⟩
  have hnew : other = ⟨r.next⟩ := heq.trans (List.mem_singleton.mp hlast)
  rw [hnew] at hother
  exact hfresh hother

/-- An entry that is taken out is one of the list, and the others stay in their
    order. -/
theorem exists_entries_erase {value : α} (hdistinct : r.handles.Nodup)
    (h : r.get? handle = some value) :
    ∃ front back, r.entries = front ++ (handle, value) :: back ∧
      (r.erase handle).entries = front ++ back := by
  rcases List.append_of_mem (mem_of_get?_eq_some h) with ⟨front, back, hsplit⟩
  refine ⟨front, back, hsplit, ?_⟩
  -- no entry before it or behind it has its handle
  unfold handles at hdistinct
  rw [hsplit, List.map_append, List.map_cons, List.nodup_append, List.nodup_cons] at hdistinct
  have hkept : ∀ entry ∈ front ++ back, decide (entry.1 ≠ handle) = true := by
    intro entry hentry
    refine decide_eq_true fun heq => ?_
    rcases List.mem_append.mp hentry with hfront | hback
    · exact hdistinct.2.2 entry.1 (List.mem_map_of_mem hfront) handle List.mem_cons_self heq
    · exact hdistinct.2.1.1 (List.mem_map.mpr ⟨entry, hback, heq⟩)
  change r.entries.filter _ = _
  rw [hsplit, List.filter_append, List.filter_cons_of_neg (by simp), ← List.filter_append,
    List.filter_eq_self.mpr hkept]

/-! ## Sizes -/

theorem isEmpty_iff : r.isEmpty = true ↔ r.size = 0 := by
  unfold isEmpty size
  rw [List.isEmpty_iff, List.length_eq_zero_iff]

theorem length_handles (r : Registry α) : r.handles.length = r.size :=
  List.length_map _

theorem size_insert {value : α} (h : r.get? ⟨r.next⟩ = none) :
    (r.insert value).2.size = r.size + 1 := by
  unfold size
  rw [entries_insert h]
  exact List.length_append

theorem size_erase {value : α} (hdistinct : r.handles.Nodup) (h : r.get? handle = some value) :
    (r.erase handle).size + 1 = r.size := by
  rcases exists_entries_erase hdistinct h with ⟨front, back, hbefore, hafter⟩
  unfold size
  rw [hbefore, hafter, List.length_append, List.length_append, List.length_cons, Nat.add_assoc]

end Registry

end FusionMpt
