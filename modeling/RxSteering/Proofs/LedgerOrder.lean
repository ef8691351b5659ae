import RxSteering.Proofs.HandleSupply

/-!
A ledger in which no handle is given out while it is enrolled, and none is torn down that is not.
Between two registrations of a handle there is the end of the first, and between two teardowns of a
handle there is a registration.
-/
namespace RxSteering

variable {β : Type}

/-- A registration is of a handle that is not enrolled, and an unregistration of one that is. -/
def Change.Due (before : List Change) : Change → Prop
  | registered handle _ => ¬ IsEnrolled before handle
  | unregistered handle => IsEnrolled before handle
  | _ => True

def InOrder (ledger : List Change) : Prop :=
  ∀ before change after, ledger = before ++ change :: after → change.Due before

namespace InOrder

variable {ledger before between after : List Change} {change : Change} {handle : SocketHandle}
  {ring other : RingId}

theorem nil : InOrder [] := by
  intro before change after split
  cases before with
  | nil => cases split
  | cons head rest => cases split

theorem append (inOrder : InOrder ledger) (due : change.Due ledger) :
    InOrder (ledger ++ [change]) := by
  intro before earlier after split
  rcases List.eq_nil_or_concat after with rfl | ⟨rest, last, rfl⟩
  · obtain ⟨rfl, same⟩ := List.append_inj' split rfl
    cases same
    exact due
  · have shorter : ledger ++ [change] = (before ++ earlier :: rest) ++ [last] := by
      rw [split, List.concat_eq_append, List.append_assoc, List.cons_append]
    obtain ⟨rfl, -⟩ := List.append_inj' shorter rfl
    exact inOrder before earlier rest rfl

theorem unregistered_between (inOrder : InOrder ledger)
    (split : ledger =
      before ++ .registered handle ring :: (between ++ .registered handle other :: after)) :
    .unregistered handle ∈ between := by
  have split : ledger =
      (before ++ .registered handle ring :: between) ++ .registered handle other :: after := by
    rw [split, List.append_assoc, List.cons_append]
  have due : ¬ IsEnrolled (before ++ .registered handle ring :: between) handle :=
    inOrder _ _ _ split
  apply Classical.byContradiction
  intro never
  refine due ⟨before, _, between, rfl, ⟨ring, rfl⟩, ?_⟩
  rintro later member rfl
  exact never member

theorem registered_between (inOrder : InOrder ledger)
    (split : ledger =
      before ++ .unregistered handle :: (between ++ .unregistered handle :: after)) :
    ∃ ring, .registered handle ring ∈ between := by
  have split : ledger =
      (before ++ .unregistered handle :: between) ++ .unregistered handle :: after := by
    rw [split, List.append_assoc, List.cons_append]
  obtain ⟨earlier, start, later, same, ⟨ring, rfl⟩, lasting⟩ : IsEnrolled _ handle :=
    inOrder _ _ _ split
  rcases List.append_eq_append_iff.mp same with ⟨rest, rfl, tail⟩ | ⟨rest, -, tail⟩
  · cases rest with
    | nil => cases tail
    | cons head rest =>
      cases tail
      exact ⟨ring, List.mem_append_right _ List.mem_cons_self⟩
  · -- the registration came before the first teardown, which would have ended it
    cases rest with
    | nil => cases tail
    | cons head rest =>
      cases tail
      exact absurd rfl (lasting _ (List.mem_append_right _ List.mem_cons_self))

theorem leadsTo (inOrder : InOrder ledger)
    (split : ledger = before ++ .registered handle ring :: after)
    (lasts : .unregistered handle ∉ after) : LeadsTo ledger handle ring := by
  refine ⟨before, _, after, split, rfl, ?_⟩
  rintro later member (⟨other, rfl⟩ | rfl)
  · obtain ⟨between, rest, rfl⟩ := List.append_of_mem member
    exact lasts (List.mem_append_left _ (inOrder.unregistered_between split))
  · exact lasts member

end InOrder

structure Ledgered (d : DispatcherId) (changes : List Change) (host : Host β) : Prop where
  inside : d < host.dispatchers.length
  leads : LeadsAs d changes host
  inOrder : InOrder changes

namespace Ledgered

variable {d : DispatcherId} {changes : List Change} {host : Host β} {handle : SocketHandle}
  {ring : RingId}

theorem start (inside : d < host.dispatchers.length)
    (nobody : (host.dispatcher d).registry = .empty) : Ledgered d [] host where
  inside := inside
  leads handle ring := by
    refine iff_of_false ?_ (not_since_nil _ _)
    rw [Host.socket?, nobody]
    intro leads
    cases leads
  inOrder := .nil

theorem of_same (ledgered : Ledgered d changes host) {after : Host β}
    (length : after.dispatchers.length = host.dispatchers.length)
    (registry : (after.dispatcher d).registry = (host.dispatcher d).registry) :
    Ledgered d changes after where
  inside := by
    rw [length]
    exact ledgered.inside
  leads handle ring := by
    rw [Host.socket?, registry]
    exact ledgered.leads handle ring
  inOrder := ledgered.inOrder

theorem isEnrolled (ledgered : Ledgered d changes host) :
    IsEnrolled changes handle ↔ ∃ ring, host.socket? d handle = some ring := by
  rw [isEnrolled_iff]
  exact exists_congr fun ring => (ledgered.leads handle ring).symm

theorem register (ledgered : Ledgered d changes host) (free : host.socket? d handle = none)
    (next : UInt32) (ring : RingId) :
    Ledgered d (changes ++ [.registered handle ring]) (host.addSocket d handle next ring) where
  inside := by
    rw [Host.length_addSocket]
    exact ledgered.inside
  leads := ledgered.leads.addSocket ledgered.inside handle next ring
  inOrder := by
    refine ledgered.inOrder.append ?_
    change ¬ IsEnrolled changes handle
    rw [ledgered.isEnrolled, free]
    exact nofun

theorem unregister (ledgered : Ledgered d changes host)
    (live : host.socket? d handle = some ring) :
    Ledgered d (changes ++ [.unregistered handle]) (host.removeSocket d handle ring) where
  inside := by
    rw [Host.length_removeSocket]
    exact ledgered.inside
  leads := ledgered.leads.removeSocket ledgered.inside handle ring
  inOrder := ledgered.inOrder.append (ledgered.isEnrolled.mpr ⟨ring, live⟩)

end Ledgered

end RxSteering
