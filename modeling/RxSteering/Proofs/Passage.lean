import RxSteering.Proofs.FrameOutcome

/-!
A frame on its way through a dispatcher, one access after the other: the frame is counted, its queue
is looked up in the table, the bound socket is looked up among the live ones, its ring is offered
the payload, and the outcome is counted. Other parties may come in between any two. With nobody in
between the way ends as the whole dispatch does (`passes_arrived`).
-/
namespace RxSteering

open scoped List in
theorem perm_flatMap_set {α γ : Type} (list : List α) (f : α → List γ) {index : Nat} {old : α}
    (here : list[index]? = some old) (new : α) :
    (f old ++ (list.set index new).flatMap f).Perm (f new ++ list.flatMap f) := by
  obtain ⟨inside, same⟩ := List.getElem?_eq_some_iff.mp here
  have split : list = list.take index ++ old :: list.drop (index + 1) := by
    rw [← same, List.getElem_cons_drop, List.take_append_drop]
  rw [List.set_eq_take_append_cons_drop, if_pos inside]
  conv => rhs; rw [split]
  simp only [List.flatMap_append, List.flatMap_cons]
  calc
    _ ~ (list.take index).flatMap f ++ (f old ++ (f new ++ (list.drop (index + 1)).flatMap f)) :=
      List.perm_append_comm_assoc ..
    _ ~ (list.take index).flatMap f ++ (f new ++ (f old ++ (list.drop (index + 1)).flatMap f)) :=
      (List.perm_append_comm_assoc ..).append_left _
    _ ~ _ := List.perm_append_comm_assoc ..

variable {β : Type}

inductive Passage (β : Type) where
  | arrived (frame : Frame β)
  /-- the frame was counted; its queue is looked up next -/
  | counted (frame : Frame β)
  /-- the queue was looked up; a bound socket is looked up next -/
  | decided (decision : Decision) (payload : β)
  /-- the socket was looked up; its ring, if it is live, is offered the payload next -/
  | aimed (handle : SocketHandle) (target : Option RingId) (payload : β)
  /-- the payload is where it goes; the outcome is counted next -/
  | settled (disposition : Disposition β)
  | answered (disposition : Disposition β)
  deriving DecidableEq, Repr

namespace Passage

def payload? : Passage β → Option β
  | arrived frame => some frame.payload
  | counted frame => some frame.payload
  | decided _ payload => some payload
  | aimed _ _ payload => some payload
  | settled _ => none
  | answered _ => none

def target? : Passage β → Option RingId
  | aimed _ target _ => target
  | _ => none

def disposition? : Passage β → Option (Disposition β)
  | settled disposition => some disposition
  | answered disposition => some disposition
  | _ => none

end Passage

namespace Host

def pass (host : Host β) (d : DispatcherId) : Passage β → Host β × Passage β
  | .arrived frame => (host.countFrame d, .counted frame)
  | .counted frame => (host, .decided ((host.classifier d).classify frame) frame.payload)
  | .decided (.redirect handle) payload => (host, .aimed handle (host.socket? d handle) payload)
  | .decided .drop _ => (host, .settled (.dropped .unmappedQueue))
  | .decided .pass payload => (host, .settled (.passed payload))
  | .aimed handle target payload =>
    let (disposition, after) := host.offerTo handle target payload
    (after, .settled disposition)
  | .settled disposition => (host.countOutcome d disposition, .answered disposition)
  | .answered disposition => (host, .answered disposition)

def passes (host : Host β) (d : DispatcherId) (passage : Passage β) : Nat → Host β × Passage β
  | 0 => (host, passage)
  | n + 1 => (host.pass d passage).1.passes d (host.pass d passage).2 n

/-- Five accesses in a row are a whole dispatch. -/
theorem passes_arrived (host : Host β) (d : DispatcherId) (frame : Frame β) :
    host.passes d (.arrived frame) 5 =
      ((host.dispatch d frame).2, .answered (host.dispatch d frame).1) := by
  simp only [passes, pass, dispatch]
  cases ((host.countFrame d).classifier d).classify frame with
  | redirect handle =>
    have offered := (host.countFrame d).offer_eq_offerTo d handle frame.payload
    simp only [carryOut, transfer, offered]
  | drop => rfl
  | pass => rfl

end Host
end RxSteering
