/-!
# Registries

Entries kept under handles that the registry gives out. A new entry gets the
next handle, and a handle is not given out again when its entry is gone, so a
handle left over from an earlier entry finds nothing rather than somebody
else's.

Handles are numbered from one, in 64 bits. Entries are kept in the order of
their insertion, which is the order of their handles.

## Main definitions

* `Handle`: The name of an entry.
* `Registry`: Entries under handles.
* `Registry.insert`, `Registry.remove`: Add an entry, take one out.
* `Registry.get?`, `Registry.set`: Look at an entry, replace one.
* `Registry.handles`: The handles of all entries.
-/

namespace FusionMpt

/-- The name of an entry. -/
structure Handle where
  number : UInt64
deriving DecidableEq, Repr

/-- The handle as diagnostics show it. -/
def Handle.text (handle : Handle) : String :=
  s!"ControllerHandle({handle.number})"

/-- Entries under handles. -/
structure Registry (α : Type) where
  /-- The entries with their handles, in the order of insertion. -/
  entries : List (Handle × α) := []
  /-- The number of the handle to be given next. -/
  next : UInt64 := 1
deriving DecidableEq, Repr

namespace Registry

variable {α : Type}

/-- The entry of a handle. -/
def get? (r : Registry α) (handle : Handle) : Option α :=
  (r.entries.find? fun entry => entry.1 = handle).map (·.2)

/-- The registry without the entry of a handle. -/
def erase (r : Registry α) (handle : Handle) : Registry α :=
  { r with entries := r.entries.filter fun entry => entry.1 ≠ handle }

/-- Add an entry under the next handle. -/
def insert (r : Registry α) (value : α) : Handle × Registry α :=
  let handle : Handle := ⟨r.next⟩
  (handle, { entries := (r.erase handle).entries ++ [(handle, value)], next := r.next + 1 })

/-- Replace the entry of a handle, if there is one. -/
def set (r : Registry α) (handle : Handle) (value : α) : Registry α :=
  { r with
    entries := r.entries.map fun entry => if entry.1 = handle then (handle, value) else entry }

/-- Take out the entry of a handle. -/
def remove (r : Registry α) (handle : Handle) : Option α × Registry α :=
  (r.get? handle, r.erase handle)

/-- The handles of all entries, in the order of insertion. -/
def handles (r : Registry α) : List Handle :=
  r.entries.map (·.1)

/-- The number of entries. -/
def size (r : Registry α) : Nat :=
  r.entries.length

/-- There is no entry. -/
def isEmpty (r : Registry α) : Bool :=
  r.entries.isEmpty

end Registry

end FusionMpt
