import RxSteering.Identifiers

/-!
The live sockets of a dispatcher: each registered handle with the ring that it leads to. New
handles come from a counter that wraps and passes over the handles that are still live.
-/
namespace RxSteering

abbrev RingId := Nat

theorem find?_without {α β : Type} [DecidableEq α] (entries : List (α × β)) (key other : α) :
    (entries.filter fun entry => entry.1 ≠ key).find? (fun entry => entry.1 = other) =
      if key = other then none else entries.find? fun entry => entry.1 = other := by
  rw [List.find?_filter]
  split
  next same =>
    subst same
    simp
  next apart =>
    congr 1
    funext entry
    by_cases found : entry.1 = other
    · simp [found, Ne.symm apart]
    · simp [found]

structure Registry where
  entries : List (SocketHandle × RingId)
  distinct : (entries.map Prod.fst).Nodup
  deriving DecidableEq, Repr

namespace Registry

def empty : Registry := ⟨[], List.nodup_nil⟩

def handles (registry : Registry) : List SocketHandle := registry.entries.map Prod.fst

def size (registry : Registry) : Nat := registry.entries.length

def ring? (registry : Registry) (handle : SocketHandle) : Option RingId :=
  (registry.entries.find? fun entry => entry.1 = handle).map Prod.snd

def isLive (registry : Registry) (handle : SocketHandle) : Bool :=
  (registry.ring? handle).isSome

def erase (registry : Registry) (handle : SocketHandle) : Registry where
  entries := registry.entries.filter fun entry => entry.1 ≠ handle
  distinct := registry.distinct.sublist (List.filter_sublist.map Prod.fst)

def insert (registry : Registry) (handle : SocketHandle) (ring : RingId) : Registry where
  entries := (handle, ring) :: (registry.erase handle).entries
  distinct := by
    refine List.nodup_cons.mpr ⟨?_, (registry.erase handle).distinct⟩
    simp [erase]

theorem ring?_erase (registry : Registry) (handle other : SocketHandle) :
    (registry.erase handle).ring? other =
      if handle = other then none else registry.ring? other := by
  rw [ring?, erase, find?_without]
  split
  · rfl
  · rfl

theorem ring?_insert (registry : Registry) (handle other : SocketHandle) (ring : RingId) :
    (registry.insert handle ring).ring? other =
      if handle = other then some ring else registry.ring? other := by
  by_cases same : handle = other
  · simp [ring?, insert, same]
  · have erased := registry.ring?_erase handle other
    rw [if_neg same] at erased
    rw [if_neg same, ← erased]
    simp [ring?, insert, same]

def passedOver? (registry : Registry) : Nat → UInt32 → Option Nat
  | 0, _ => none
  | n + 1, counter =>
    if registry.isLive ⟨counter⟩ then (registry.passedOver? n (counter + 1)).map (· + 1) else some 0

/-- A handle that is not live, and the counter one further on, unless every id is taken. One id more
than there are live handles is enough to find it. -/
def fresh? (registry : Registry) (counter : UInt32) : Option (SocketHandle × UInt32) :=
  (registry.passedOver? (registry.size + 1) counter).map fun passed =>
    (⟨counter + UInt32.ofNat passed⟩, counter + UInt32.ofNat passed + 1)

end Registry
end RxSteering
