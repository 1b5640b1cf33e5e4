import FusionMpt.Proofs.Binding.Registry
import FusionMpt.Proofs.Platform.Log

/-!
# A Ledger of Handles

A registry is a map that makes up its keys. What it answers can be told from what
has been done with it, and no entry needs to be looked at: a handle that was given
out and not taken back holds what was put under it last, and any other handle
holds nothing.

Everything rests on one bound. The handles given out so far are numbered below the
one that comes next, so a new handle is none of them, in use or not. The bound
lasts as long as the numbers do: they start from one, and the counter of 64 bits
has to hold the number behind the last.

## Main definitions

* `RegistryCall`, `RegistryDeed`: A call of a registry, and the call with its
  answer.
* `RegistryCall.made`, `RegistryCall.play`: What calls come to.
* `issued`, `taken`: The handles that have been given out and taken back.
* `InUse`, `held`: The handles in use and what is under them, by what was done.
* `RegistryDeed.Follows`: The answer is what is expected after others.
* `Registry.Reflects`: The registry is what the deeds have made of it.

## Theorems

* `held_inserted`, `held_removed`, `held_replaced`: What is held after each deed.
* `Registry.Reflects.snoc`: One more call.
* `RegistryCall.reflects_play`, `RegistryCall.follows_play`: Any number of calls.
* `RegistryCall.fresh_map`: All of it, from an empty registry.
-/

namespace FusionMpt

/-- A call of a registry. -/
inductive RegistryCall (α : Type) where
  | insert (value : α)
  | get (handle : Handle)
  /-- Look for an entry to change, and put this one in its place. -/
  | replace (handle : Handle) (value : α)
  | remove (handle : Handle)
  | handles

/-- A call of a registry and what it has answered. -/
inductive RegistryDeed (α : Type) where
  | inserted (value : α) (handle : Handle)
  | got (handle : Handle) (found : Option α)
  | replaced (handle : Handle) (value : α) (found : Option α)
  | removed (handle : Handle) (found : Option α)
  | listed (handles : List Handle)

variable {α : Type}

/-- The number of entries that are to be added. -/
def inserts (calls : List (RegistryCall α)) : Nat :=
  calls.countP fun call => call matches .insert _

namespace RegistryDeed

/-- The call that was answered. -/
def call : RegistryDeed α → RegistryCall α
  | .inserted value _ => .insert value
  | .got handle _ => .get handle
  | .replaced handle value _ => .replace handle value
  | .removed handle _ => .remove handle
  | .listed _ => .handles

/-- The handle that was given out. -/
def issued? : RegistryDeed α → Option Handle
  | .inserted _ handle => some handle
  | _ => none

/-- The handle whose entry was taken out. -/
def taken? : RegistryDeed α → Option Handle
  | .removed handle (some _) => some handle
  | _ => none

/-- The entry that was put under a handle. -/
def put? (handle : Handle) : RegistryDeed α → Option α
  | .inserted value new => if new = handle then some value else none
  | .replaced old value (some _) => if old = handle then some value else none
  | _ => none

end RegistryDeed

/-- The handles that have been given out, in order. -/
def issued (deeds : List (RegistryDeed α)) : List Handle :=
  deeds.filterMap RegistryDeed.issued?

/-- The handles whose entries have been taken out. -/
def taken (deeds : List (RegistryDeed α)) : List Handle :=
  deeds.filterMap RegistryDeed.taken?

/-- The handle was given out and not taken back. -/
def InUse (deeds : List (RegistryDeed α)) (handle : Handle) : Prop :=
  handle ∈ issued deeds ∧ handle ∉ taken deeds

instance (deeds : List (RegistryDeed α)) (handle : Handle) : Decidable (InUse deeds handle) :=
  inferInstanceAs (Decidable (_ ∧ _))

/-- The entry that was put under the handle last. -/
def lastPut? (deeds : List (RegistryDeed α)) (handle : Handle) : Option α :=
  latest? (RegistryDeed.put? handle) deeds

/-- What is under the handle. -/
def held (deeds : List (RegistryDeed α)) (handle : Handle) : Option α :=
  if InUse deeds handle then lastPut? deeds handle else none

/-- The answer is what is expected of it when the deeds `past` have gone before. -/
def RegistryDeed.Follows (past : List (RegistryDeed α)) : RegistryDeed α → Prop
  | .inserted _ handle => ∀ earlier ∈ issued past, earlier.number < handle.number
  | .got handle found => found = held past handle
  | .replaced handle _ found => found = held past handle
  | .removed handle found => found = held past handle
  | .listed handles => handles.Nodup ∧ ∀ handle, handle ∈ handles ↔ InUse past handle

/-- The registry is what the deeds have made of an empty one. -/
structure Registry.Reflects (deeds : List (RegistryDeed α)) (r : Registry α) : Prop where
  get?_eq : ∀ handle, r.get? handle = held deeds handle
  distinct : r.handles.Nodup
  size_add : r.size + (taken deeds).length = (issued deeds).length
  ascending : (issued deeds).Pairwise fun earlier later => earlier.number < later.number
  /-- An entry is taken out once at most, and only one that was there. -/
  once : (taken deeds).Nodup
  taken_issued : ∀ handle ∈ taken deeds, handle ∈ issued deeds
  next_eq : r.next.toNat = (issued deeds).length + 1
  below : ∀ handle ∈ issued deeds, handle.number < r.next

/-! ## One more deed -/

section

variable (past : List (RegistryDeed α)) (deed : RegistryDeed α) (value : α) (handle : Handle)

theorem issued_snoc : issued (past ++ [deed]) = issued past ++ deed.issued?.toList := by
  unfold issued
  rw [List.filterMap_append]
  cases hdeed : deed.issued? <;> simp [hdeed]

theorem taken_snoc : taken (past ++ [deed]) = taken past ++ deed.taken?.toList := by
  unfold taken
  rw [List.filterMap_append]
  cases hdeed : deed.taken? <;> simp [hdeed]

theorem issued_inserted : issued (past ++ [.inserted value handle]) = issued past ++ [handle] :=
  issued_snoc past _

theorem taken_inserted : taken (past ++ [.inserted value handle]) = taken past :=
  (taken_snoc past _).trans (List.append_nil _)

theorem issued_removed : issued (past ++ [.removed handle (some value)]) = issued past :=
  (issued_snoc past _).trans (List.append_nil _)

theorem taken_removed :
    taken (past ++ [.removed handle (some value)]) = taken past ++ [handle] :=
  taken_snoc past _

end

variable {past : List (RegistryDeed α)} {deed : RegistryDeed α} {r : Registry α} {handle : Handle}

/-- Under a handle that is in use if it was, there is what the deed has put there, or
    what there was. -/
theorem held_snoc (huse : InUse (past ++ [deed]) handle ↔ InUse past handle) :
    held (past ++ [deed]) handle =
      if InUse past handle then (deed.put? handle).or (lastPut? past handle) else none := by
  simp only [held, lastPut?, latest?_snoc, huse]

theorem held_snoc_of_put?_eq_none (huse : InUse (past ++ [deed]) handle ↔ InUse past handle)
    (hput : deed.put? handle = none) : held (past ++ [deed]) handle = held past handle := by
  rw [held_snoc huse, hput]
  rfl

/-- A handle that is given out is in use at once, if it was not taken back before. -/
theorem held_inserted {new : Handle} (htaken : new ∉ taken past) (value : α) (handle : Handle) :
    held (past ++ [.inserted value new]) handle =
      if handle = new then some value else held past handle := by
  by_cases hnew : handle = new
  · have huse : InUse (past ++ [.inserted value new]) handle := by
      unfold InUse
      rw [issued_inserted, taken_inserted, hnew]
      exact ⟨List.mem_append_right _ List.mem_cons_self, htaken⟩
    unfold held
    rw [if_pos hnew, if_pos huse, lastPut?, latest?_snoc]
    simp [RegistryDeed.put?, hnew]
  · have huse : InUse (past ++ [.inserted value new]) handle ↔ InUse past handle := by
      unfold InUse
      rw [issued_inserted, taken_inserted]
      simp [hnew]
    rw [if_neg hnew, held_snoc_of_put?_eq_none huse (if_neg (Ne.symm hnew))]

theorem held_removed (old : Handle) (value : α) (handle : Handle) :
    held (past ++ [.removed old (some value)]) handle =
      if handle = old then none else held past handle := by
  by_cases hold : handle = old
  · have hgone : ¬ InUse (past ++ [.removed old (some value)]) handle := by
      unfold InUse
      rw [taken_removed, hold]
      exact fun huse => huse.2 (List.mem_append_right _ List.mem_cons_self)
    rw [if_pos hold]
    exact if_neg hgone
  · have huse : InUse (past ++ [.removed old (some value)]) handle ↔ InUse past handle := by
      unfold InUse
      rw [issued_removed, taken_removed]
      simp [hold]
    rw [if_neg hold, held_snoc_of_put?_eq_none huse rfl]

theorem held_quiet (hissued : deed.issued? = none) (htaken : deed.taken? = none)
    (handle : Handle) :
    held (past ++ [deed]) handle =
      if InUse past handle then (deed.put? handle).or (lastPut? past handle) else none := by
  refine held_snoc ?_
  unfold InUse
  rw [issued_snoc, taken_snoc, hissued, htaken]
  simp

/-- Something was put under every handle that was given out. -/
theorem isSome_lastPut? (h : handle ∈ issued past) : (lastPut? past handle).isSome = true := by
  rcases List.mem_filterMap.mp h with ⟨deed, hdeed, hissued⟩
  refine isSome_latest? hdeed ?_
  cases deed with
  | inserted value new =>
      rw [Option.some.inj hissued]
      simp [RegistryDeed.put?]
  | _ => nomatch hissued

/-- Something is under the handles in use and under no others. -/
theorem isSome_held_iff : (held past handle).isSome = true ↔ InUse past handle := by
  unfold held
  by_cases huse : InUse past handle
  · rw [if_pos huse]
    exact iff_of_true (isSome_lastPut? huse.1) huse
  · rw [if_neg huse]
    exact iff_of_false Bool.noConfusion huse

/-- Something else can be put only where something is. -/
theorem held_replaced (old : Handle) (value : α) (handle : Handle) :
    held (past ++ [.replaced old value (held past old)]) handle =
      if handle = old then (held past old).map fun _ => value else held past handle := by
  rw [held_quiet rfl rfl]
  by_cases hold : handle = old
  · rw [if_pos hold, hold]
    by_cases huse : InUse past old
    · rcases Option.isSome_iff_exists.mp (isSome_held_iff.mpr huse) with ⟨before, hbefore⟩
      rw [if_pos huse, hbefore]
      simp [RegistryDeed.put?]
    · -- nothing is there, so nothing was put
      have hnone : held past old = none := if_neg huse
      rw [if_neg huse, hnone]
      rfl
  · have hput : (RegistryDeed.replaced old value (held past old)).put? handle = none := by
      cases held past old with
      | none => rfl
      | some before => exact if_neg (Ne.symm hold)
    rw [if_neg hold, hput]
    rfl

/-- What a call of a registry comes to. -/
def RegistryCall.made (call : RegistryCall α) (r : Registry α) : RegistryDeed α × Registry α :=
  match call with
  | .insert value => (.inserted value (r.insert value).1, (r.insert value).2)
  | .get handle => (.got handle (r.get? handle), r)
  | .replace handle value => (.replaced handle value (r.get? handle), r.set handle value)
  | .remove handle => (.removed handle (r.remove handle).1, (r.remove handle).2)
  | .handles => (.listed r.handles, r)

namespace Registry.Reflects

theorem empty : Reflects [] ({} : Registry α) where
  get?_eq _ := rfl
  distinct := List.nodup_nil
  size_add := rfl
  ascending := List.Pairwise.nil
  once := List.nodup_nil
  taken_issued _ h := h
  next_eq := rfl
  below _ h := nomatch h

theorem mem_handles_iff (h : Reflects past r) : handle ∈ r.handles ↔ InUse past handle := by
  rw [← isSome_held_iff, ← h.get?_eq]
  cases hget : r.get? handle with
  | none => exact iff_of_false (get?_eq_none_iff.mp hget) Bool.noConfusion
  | some value => exact iff_of_true (List.mem_map.mpr ⟨_, mem_of_get?_eq_some hget, rfl⟩) rfl

theorem inUse (h : Reflects past r) {value : α} (hget : r.get? handle = some value) :
    InUse past handle := by
  rw [← isSome_held_iff, ← h.get?_eq, hget]
  rfl

/-- The next handle has never been given out. -/
theorem next_not_mem (h : Reflects past r) : ⟨r.next⟩ ∉ issued past := fun hmem =>
  absurd (h.below _ hmem) (UInt64.lt_irrefl _)

/-- Every answer is as expected. -/
theorem follows (h : Reflects past r) (call : RegistryCall α) : (call.made r).1.Follows past := by
  cases call with
  | insert value => exact h.below
  | get handle => exact h.get?_eq handle
  | replace handle value => exact h.get?_eq handle
  | remove handle => exact h.get?_eq handle
  | handles => exact ⟨h.distinct, fun _ => h.mem_handles_iff⟩

/-- Without a handle given out or taken back, only what is under handles can have
    changed. -/
theorem quiet {r' : Registry α} (h : Reflects past r) (hissued : deed.issued? = none)
    (htaken : deed.taken? = none) (hhandles : r'.handles = r.handles) (hnext : r'.next = r.next)
    (hget : ∀ handle, r'.get? handle = held (past ++ [deed]) handle) :
    Reflects (past ++ [deed]) r' := by
  have hissued' : issued (past ++ [deed]) = issued past := by
    simp [issued_snoc, hissued]
  have htaken' : taken (past ++ [deed]) = taken past := by
    simp [taken_snoc, htaken]
  have hsize : r'.size = r.size := by
    rw [← length_handles, hhandles, length_handles]
  constructor
  case get?_eq => exact hget
  case distinct => exact hhandles ▸ h.distinct
  case size_add => rw [hsize, hissued', htaken', h.size_add]
  case ascending => exact hissued' ▸ h.ascending
  case once => exact htaken' ▸ h.once
  case taken_issued => rw [hissued', htaken']; exact h.taken_issued
  case next_eq => rw [hnext, hissued', h.next_eq]
  case below => rw [hnext, hissued']; exact h.below

-- Looking changes nothing.
theorem looked (h : Reflects past r) (hissued : deed.issued? = none) (htaken : deed.taken? = none)
    (hput : ∀ handle, deed.put? handle = none) : Reflects (past ++ [deed]) r :=
  h.quiet hissued htaken rfl rfl fun handle => by
    rw [held_quiet hissued htaken, hput, h.get?_eq]
    rfl

theorem replace (h : Reflects past r) (handle : Handle) (value : α) :
    Reflects (past ++ [.replaced handle value (r.get? handle)]) (r.set handle value) := by
  refine h.quiet rfl rfl (handles_set r handle value) rfl fun other => ?_
  rw [get?_set, h.get?_eq, h.get?_eq, held_replaced]

theorem insert (h : Reflects past r) (hroom : (issued past).length + 2 < UInt64.size) (value : α) :
    Reflects (past ++ [.inserted value ⟨r.next⟩]) (r.insert value).2 := by
  have hfresh := h.next_not_mem
  have hunused : r.get? ⟨r.next⟩ = none := by
    rw [h.get?_eq]
    exact if_neg fun huse => hfresh huse.1
  have hlast : r.next.toNat + 1 < UInt64.size := by
    rw [h.next_eq]
    exact hroom
  constructor
  case get?_eq =>
    intro handle
    -- a handle that is not given out is not taken back either
    rw [get?_insert, held_inserted fun hmem => hfresh (h.taken_issued _ hmem), h.get?_eq]
  case distinct => exact nodup_insert h.distinct value
  case size_add =>
    have hadd := h.size_add
    rw [size_insert hunused, issued_inserted, taken_inserted, List.length_append,
      List.length_singleton]
    omega
  case ascending =>
    rw [issued_inserted, List.pairwise_append]
    refine ⟨h.ascending, List.pairwise_singleton _ _, fun earlier hearlier last hlast => ?_⟩
    rw [List.mem_singleton.mp hlast]
    exact h.below earlier hearlier
  case once =>
    rw [taken_inserted]
    exact h.once
  case taken_issued =>
    rw [issued_inserted, taken_inserted]
    exact fun handle hmem => List.mem_append_left _ (h.taken_issued handle hmem)
  case next_eq =>
    rw [toNat_next_insert hlast, h.next_eq, issued_inserted, List.length_append,
      List.length_singleton]
  case below =>
    intro handle hmem
    have hnext := next_lt_next_insert hlast value
    rw [issued_inserted, List.mem_append, List.mem_singleton] at hmem
    rcases hmem with hmem | rfl
    · exact UInt64.lt_trans (h.below handle hmem) hnext
    · exact hnext

theorem remove {value : α} (h : Reflects past r) (hget : r.get? handle = some value) :
    Reflects (past ++ [.removed handle (some value)]) (r.erase handle) := by
  have huse := h.inUse hget
  constructor
  case get?_eq =>
    intro other
    rw [get?_erase, held_removed, h.get?_eq]
  case distinct => exact nodup_erase h.distinct handle
  case size_add =>
    have hadd := h.size_add
    have hsize := size_erase h.distinct hget
    rw [issued_removed, taken_removed, List.length_append, List.length_singleton]
    omega
  case ascending =>
    rw [issued_removed]
    exact h.ascending
  case once =>
    rw [taken_removed, List.nodup_append]
    refine ⟨h.once, List.pairwise_singleton _ _, fun earlier hearlier last hlast heq => ?_⟩
    rw [heq, List.mem_singleton.mp hlast] at hearlier
    exact huse.2 hearlier
  case taken_issued =>
    intro other hmem
    rw [issued_removed]
    rw [taken_removed, List.mem_append, List.mem_singleton] at hmem
    rcases hmem with hmem | rfl
    · exact h.taken_issued other hmem
    · exact huse.1
  case next_eq =>
    rw [issued_removed]
    exact h.next_eq
  case below =>
    rw [issued_removed]
    exact h.below

/-- A registry that is what the deeds have made of it still is after one more
    call, as long as the numbers last. -/
theorem snoc (h : Reflects past r) (call : RegistryCall α)
    (hroom : (issued (past ++ [(call.made r).1])).length + 1 < UInt64.size) :
    Reflects (past ++ [(call.made r).1]) (call.made r).2 := by
  cases call with
  | insert value =>
      rw [issued_snoc, List.length_append] at hroom
      exact h.insert hroom value
  | get handle => exact h.looked rfl rfl fun _ => rfl
  | replace handle value => exact h.replace handle value
  | remove handle =>
      cases hget : r.get? handle with
      | none =>
          change Reflects (past ++ [.removed handle (r.get? handle)]) (r.erase handle)
          rw [hget, erase_eq_self hget]
          exact h.looked rfl rfl fun _ => rfl
      | some value =>
          change Reflects (past ++ [.removed handle (r.get? handle)]) (r.erase handle)
          rw [hget]
          exact h.remove hget
  | handles => exact h.looked rfl rfl fun _ => rfl

end Registry.Reflects

namespace RegistryCall

/-- What calls of a registry come to. -/
def play (r : Registry α) (calls : List (RegistryCall α)) : List (RegistryDeed α) × Registry α :=
  logged made r calls

theorem call_made (call : RegistryCall α) (r : Registry α) : (call.made r).1.call = call := by
  cases call <;> rfl

/-- As many handles are given out as entries are to be added. -/
theorem length_issued (deeds : List (RegistryDeed α)) :
    (issued deeds).length = inserts (deeds.map RegistryDeed.call) := by
  unfold issued inserts
  rw [List.length_filterMap_eq_countP, List.countP_map]
  refine List.countP_congr fun deed _ => ?_
  cases deed <;> rfl

/-- As long as the numbers last, a registry is what the deeds have made of it. -/
theorem reflects_made (past : List (RegistryDeed α)) (r : Registry α) (call : RegistryCall α)
    (h : (issued past).length + 1 < UInt64.size → r.Reflects past)
    (hroom : (issued (past ++ [(call.made r).1])).length + 1 < UInt64.size) :
    (call.made r).2.Reflects (past ++ [(call.made r).1]) := by
  refine (h ?_).snoc call hroom
  rw [issued_snoc, List.length_append] at hroom
  omega

theorem reflects_play (calls : List (RegistryCall α))
    (hroom : (issued (play {} calls).1).length + 1 < UInt64.size) :
    (play {} calls).2.Reflects (play {} calls).1 :=
  logged_invariant reflects_made (fun _ => Registry.Reflects.empty) calls hroom

theorem follows_play (calls : List (RegistryCall α))
    (hroom : (issued (play {} calls).1).length + 1 < UInt64.size)
    {past later : List (RegistryDeed α)} {deed : RegistryDeed α}
    (hsplit : (play {} calls).1 = past ++ deed :: later) : deed.Follows past := by
  rcases exists_of_logged_eq reflects_made (fun _ => Registry.Reflects.empty) hsplit with
    ⟨call, r, hbefore, rfl⟩
  refine (hbefore ?_).follows call
  -- no more handles were given out before than in all
  have hprefix : (issued (past ++ (call.made r).1 :: later)).length =
      (issued past).length + (issued ((call.made r).1 :: later)).length := by
    unfold issued
    rw [List.filterMap_append, List.length_append]
  rw [hsplit, hprefix] at hroom
  change (issued past).length + 1 < UInt64.size
  omega

/-- A registry that starts out empty is a map with keys of its own making, for as
    many calls as come before the numbers run out. Each handle given out is greater
    than all before it. What is found under a handle, to be looked at, changed, or
    taken out, is what was put there last, if the handle was given out and not taken
    back, and nothing otherwise. The handles that are listed are those in use, each
    once. There are as many entries in the end as were added, less those that were
    taken out. -/
theorem fresh_map (calls : List (RegistryCall α)) (hroom : inserts calls < UInt64.size - 1) :
    ∃ deeds r, play {} calls = (deeds, r) ∧ deeds.map RegistryDeed.call = calls ∧
      (issued deeds).Pairwise (fun earlier later => earlier.number < later.number) ∧
      (∀ past deed later, deeds = past ++ deed :: later → deed.Follows past) ∧
      (taken deeds).Nodup ∧
      (∀ handle, r.get? handle = held deeds handle) ∧
      r.handles.Nodup ∧ (∀ handle, handle ∈ r.handles ↔ InUse deeds handle) ∧
      r.size + (taken deeds).length = inserts calls ∧
      (r.isEmpty = true ↔ r.size = 0) := by
  have hcalls : (play {} calls).1.map RegistryDeed.call = calls := map_logged call_made _ calls
  have hinserts : (issued (play {} calls).1).length = inserts calls := by
    rw [length_issued, hcalls]
  have hlast : (issued (play {} calls).1).length + 1 < UInt64.size := by
    rw [hinserts]
    exact Nat.add_lt_of_lt_sub hroom
  have hend := reflects_play calls hlast
  exact ⟨(play {} calls).1, (play {} calls).2, rfl, hcalls, hend.ascending,
    fun past deed later hsplit => follows_play calls hlast hsplit, hend.once, hend.get?_eq,
    hend.distinct, fun _ => hend.mem_handles_iff, hend.size_add.trans hinserts,
    Registry.isEmpty_iff⟩

/-- An entry is taken out, another one comes, and the handle of the first is used
    once more. -/
def staleCalls : List (RegistryCall Nat) :=
  [.insert 10, .remove ⟨1⟩, .insert 20, .get ⟨1⟩, .replace ⟨2⟩ 30, .replace ⟨1⟩ 40, .remove ⟨1⟩,
    .get ⟨2⟩, .handles]

/-- It finds nothing. -/
theorem fresh_map_of_stale_handle :
    ∃ deeds r, play {} staleCalls = (deeds, r) ∧
      deeds = [.inserted 10 ⟨1⟩, .removed ⟨1⟩ (some 10), .inserted 20 ⟨2⟩, .got ⟨1⟩ none,
        .replaced ⟨2⟩ 30 (some 20), .replaced ⟨1⟩ 40 none, .removed ⟨1⟩ none, .got ⟨2⟩ (some 30),
        .listed [⟨2⟩]] ∧
      (∀ past deed later, deeds = past ++ deed :: later → deed.Follows past) ∧
      (∀ handle, r.get? handle = held deeds handle) ∧
      r.size + (taken deeds).length = inserts staleCalls := by
  rcases fresh_map staleCalls (by decide) with
    ⟨deeds, r, hplay, -, -, hfollows, -, hget, -, -, hsize, -⟩
  have hdeeds : (play {} staleCalls).1 = deeds := congrArg Prod.fst hplay
  exact ⟨deeds, r, hplay, hdeeds.symm, hfollows, hget, hsize⟩

end RegistryCall

end FusionMpt
