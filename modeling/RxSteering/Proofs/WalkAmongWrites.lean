import Mathlib.Data.List.Nodup
import RxSteering.Proofs.QueueIndependence
import RxSteering.Walk

/-!
A walk over a table that others write to between its calls. Each call passes the queues up to the
first that it finds bound, or all that are left; the walk never turns back, so each queue is passed
once and is listed just when it is bound at that moment. What is written behind the walk does not
show, and once it has come to the end it stays there.
-/
namespace RxSteering

open Table

/-- One call of a walk: the table that it found, where the walk stood before and after it, and what
it answered. -/
structure Glimpse where
  table : Table
  before : Walk
  after : Walk
  answer : Option Binding
  deriving DecidableEq, Repr

def Glimpse.Passes (glimpse : Glimpse) (queue : QueueId) : Prop :=
  glimpse.before.passed ≤ queue.index.toNat ∧ queue.index.toNat < glimpse.after.passed

namespace Walk

def glimpse (walk : Walk) (table : Table) : Glimpse :=
  ⟨table, walk, (walk.next table).2, (walk.next table).1⟩

/-- Calls the walk once after each round of operations by others. -/
def calls (walk : Walk) (table : Table) : List (List Table.Operation) → List Glimpse
  | [] => []
  | round :: rest =>
    let found := (answersTo perform table round).2
    walk.glimpse found :: (walk.next found).2.calls found rest

def reached (walk : Walk) (table : Table) : List (List Table.Operation) → Walk × Table
  | [] => (walk, table)
  | round :: rest =>
    let found := (answersTo perform table round).2
    (walk.next found).2.reached found rest

def entries (glimpses : List Glimpse) : List Binding := glimpses.filterMap Glimpse.answer

inductive Came (walk : Walk) (table : Table) : Option Binding × Walk → Prop where
  | found {queue : QueueId} {handle : SocketHandle} (ahead : walk.passed ≤ queue.index.toNat)
      (bound : table.lookup queue = some handle)
      (skipped : ∀ other : QueueId, walk.passed ≤ other.index.toNat →
        other.index.toNat < queue.index.toNat → table.lookup other = none) :
      Came walk table (some (queue, handle), ⟨queue.index.toNat + 1⟩)
  | ended (unbound : ∀ other : QueueId, walk.passed ≤ other.index.toNat →
        table.lookup other = none) :
      Came walk table (none, ⟨table.slots.length⟩)

theorem firstBound_none {start : Nat} {slots : List Slot} (ended : firstBound start slots = none) :
    ∀ slot ∈ slots, slot.binding? = none := by
  induction slots generalizing start with
  | nil => simp
  | cons slot rest ih =>
    unfold firstBound at ended
    split at ended
    · cases ended
    next unbound => simpa [unbound] using ih ended

theorem firstBound_some {start index : Nat} {slots : List Slot} {handle : SocketHandle}
    (found : firstBound start slots = some (index, handle)) :
    ∃ skipped slot rest, slots = skipped ++ slot :: rest ∧ index = start + skipped.length ∧
      slot.binding? = some handle ∧ ∀ slot ∈ skipped, slot.binding? = none := by
  induction slots generalizing start with
  | nil => cases found
  | cons slot rest ih =>
    unfold firstBound at found
    split at found
    next bound =>
      cases found
      exact ⟨[], slot, rest, rfl, rfl, bound, by simp⟩
    next unbound =>
      obtain ⟨skipped, last, after, split, here, bound, unboundAll⟩ := ih found
      refine ⟨slot :: skipped, last, after, ?_, ?_, bound, ?_⟩
      · rw [split, List.cons_append]
      · rw [here, List.length_cons]
        omega
      · simpa [unbound] using unboundAll

theorem lookup_ahead {table : Table} {passed : Nat} {queue : QueueId}
    (ahead : passed ≤ queue.index.toNat) :
    table.lookup queue =
      (table.slots.drop passed)[queue.index.toNat - passed]?.bind Slot.binding? := by
  rw [List.getElem?_drop, Nat.add_sub_cancel' ahead]
  rfl

theorem came_next {walk : Walk} {table : Table} (inside : walk.passed ≤ table.slots.length) :
    Came walk table (walk.next table) := by
  unfold next
  split
  next index handle found =>
    obtain ⟨skipped, slot, rest, split, here, bound, unbound⟩ := firstBound_some found
    have within : index < table.slots.length := by
      have length := congrArg List.length split
      rw [List.length_drop, List.length_append, List.length_cons] at length
      omega
    have number : (UInt32.ofNat index).toNat = index := toNat_ofNat_of_inside within
    let queue : QueueId := ⟨UInt32.ofNat index⟩
    have ahead : walk.passed ≤ queue.index.toNat := by
      change walk.passed ≤ (UInt32.ofNat index).toNat
      omega
    have came : Came walk table (some (queue, handle), ⟨(UInt32.ofNat index).toNat + 1⟩) := by
      refine .found ahead ?_ ?_
      · rw [lookup_ahead ahead, split, number, here, Nat.add_sub_cancel_left,
          List.getElem?_append_right (Nat.le_refl _), Nat.sub_self]
        exact bound
      · intro other ahead before
        rw [number] at before
        have short : other.index.toNat - walk.passed < skipped.length := by omega
        rw [lookup_ahead ahead, split, List.getElem?_append_left short,
          List.getElem?_eq_getElem short]
        exact unbound _ (List.getElem_mem short)
    rwa [number] at came
  next ended =>
    rw [Nat.max_eq_right inside]
    refine .ended ?_
    intro other ahead
    rw [lookup_ahead ahead]
    cases here : (table.slots.drop walk.passed)[other.index.toNat - walk.passed]? with
    | none => rfl
    | some slot => exact firstBound_none ended slot (List.mem_of_getElem? here)

end Walk

/-- A call lists the queue that it passes and finds bound, and no other. It goes on to the end when
it lists none. -/
structure Glimpse.Exact (glimpse : Glimpse) : Prop where
  forward : glimpse.before.passed ≤ glimpse.after.passed
  inside : glimpse.after.passed ≤ glimpse.table.slots.length
  lists : ∀ queue handle, glimpse.answer = some (queue, handle) ↔
    glimpse.Passes queue ∧ glimpse.table.lookup queue = some handle
  ends : glimpse.answer = none → glimpse.after.passed = glimpse.table.slots.length

namespace Walk

theorem glimpse_exact {walk : Walk} {table : Table} (inside : walk.passed ≤ table.slots.length) :
    (walk.glimpse table).Exact := by
  have came := came_next inside
  unfold glimpse
  generalize walk.next table = result at came ⊢
  cases came with
  | @found queue handle ahead bound skipped =>
    refine ⟨Nat.le_succ_of_le ahead, inside_of_lookup bound, ?_, nofun⟩
    intro other socket
    constructor
    · intro same
      cases same
      exact ⟨⟨ahead, Nat.lt_succ_self _⟩, bound⟩
    · rintro ⟨⟨beyond, before⟩, seen⟩
      rcases Nat.lt_succ_iff_lt_or_eq.mp before with sooner | here
      · change table.lookup other = some socket at seen
        rw [skipped other beyond sooner] at seen
        cases seen
      · obtain rfl := QueueId.toNat_inj.mp here
        exact congrArg (fun found => some (other, found)) (Option.some.inj (bound.symm.trans seen))
  | ended unbound =>
    refine ⟨inside, Nat.le_refl _, ?_, fun _ => rfl⟩
    intro other socket
    refine iff_of_false nofun ?_
    rintro ⟨⟨beyond, -⟩, seen⟩
    change table.lookup other = some socket at seen
    rw [unbound other beyond] at seen
    cases seen

end Walk

namespace Glimpse.Exact

variable {glimpse : Glimpse}

theorem answer_at_end (exact : glimpse.Exact)
    (atEnd : glimpse.before.passed = glimpse.table.slots.length) : glimpse.answer = none := by
  cases answered : glimpse.answer with
  | none => rfl
  | some binding =>
    obtain ⟨⟨ahead, -⟩, bound⟩ := (exact.lists binding.1 binding.2).mp answered
    have within := inside_of_lookup bound
    omega

theorem advances (exact : glimpse.Exact) (answered : glimpse.answer ≠ none) :
    glimpse.before.passed < glimpse.after.passed := by
  obtain ⟨binding, listed⟩ := Option.ne_none_iff_exists'.mp answered
  obtain ⟨⟨ahead, behind⟩, -⟩ := (exact.lists binding.1 binding.2).mp listed
  omega

end Glimpse.Exact

namespace Table

theorem length_perform (table : Table) (operation : Operation) :
    (table.perform operation).2.slots.length = table.slots.length := by
  cases names : operation.queue? with
  | some queue =>
    rw [perform_of_queue? table names]
    exact List.length_modify ..
  | none =>
    cases operation with
    | lookup queue => cases names
    | update queue handle => cases names
    | delete queue => cases names
    | deleteIf queue handle => cases names
    | clear => exact List.length_map ..
    | count => rfl
    | isEmpty => rfl
    | capacity => rfl
    | snapshot => rfl

theorem length_answersTo (table : Table) (operations : List Operation) :
    (answersTo perform table operations).2.slots.length = table.slots.length :=
  have step (after : Table) (operation : Operation)
      (same : after.slots.length = table.slots.length) :
      (perform after operation).2.slots.length = table.slots.length :=
    (after.length_perform operation).trans same
  answersTo_keeps step rfl operations

end Table

namespace Walk

variable {walk : Walk} {table : Table} {rounds : List (List Table.Operation)}

theorem exact_after_round (inside : walk.passed ≤ table.slots.length)
    (round : List Table.Operation) : (walk.glimpse (answersTo perform table round).2).Exact := by
  apply glimpse_exact
  rw [table.length_answersTo round]
  exact inside

theorem mem_entries {glimpses : List Glimpse} {queue : QueueId} :
    queue ∈ (entries glimpses).map Prod.fst ↔
      ∃ glimpse ∈ glimpses, ∃ handle, glimpse.answer = some (queue, handle) := by
  rw [List.mem_map]
  constructor
  · rintro ⟨⟨_, handle⟩, listed, rfl⟩
    obtain ⟨glimpse, member, answered⟩ := List.mem_filterMap.mp listed
    exact ⟨glimpse, member, handle, answered⟩
  · rintro ⟨glimpse, member, handle, answered⟩
    exact ⟨(queue, handle), List.mem_filterMap.mpr ⟨glimpse, member, answered⟩, rfl⟩

theorem calls_exact (inside : walk.passed ≤ table.slots.length) :
    ∀ glimpse ∈ walk.calls table rounds, glimpse.Exact ∧
      walk.passed ≤ glimpse.before.passed ∧
      glimpse.table.slots.length = table.slots.length := by
  induction rounds generalizing walk table with
  | nil => nofun
  | cons round rest ih =>
    intro glimpse member
    have length := table.length_answersTo round
    have head := exact_after_round inside round
    rcases List.mem_cons.mp member with rfl | member
    · exact ⟨head, Nat.le_refl _, length⟩
    · obtain ⟨exact, later, same⟩ := ih head.inside glimpse member
      exact ⟨exact, Nat.le_trans head.forward later, same.trans length⟩

theorem calls_forward (inside : walk.passed ≤ table.slots.length) :
    (walk.calls table rounds).Pairwise fun first second =>
      first.after.passed ≤ second.before.passed := by
  induction rounds generalizing walk table with
  | nil => exact .nil
  | cons round rest ih =>
    have length := table.length_answersTo round
    have head := exact_after_round inside round
    exact .cons (fun glimpse member => (calls_exact head.inside glimpse member).2.1)
      (ih head.inside)

theorem entries_ascending (inside : walk.passed ≤ table.slots.length) :
    (entries (walk.calls table rounds)).Pairwise fun first second =>
      first.1.index < second.1.index := by
  rw [entries, List.pairwise_filterMap]
  refine (calls_forward inside).imp_of_mem ?_
  intro first second firstMember secondMember forward binding listed later follows
  have firstExact := (calls_exact inside first firstMember).1
  have secondExact := (calls_exact inside second secondMember).1
  obtain ⟨⟨-, behind⟩, -⟩ := (firstExact.lists binding.1 binding.2).mp listed
  obtain ⟨⟨ahead, -⟩, -⟩ := (secondExact.lists later.1 later.2).mp follows
  rw [UInt32.lt_iff_toNat_lt]
  omega

theorem calls_stay_ended (inside : walk.passed ≤ table.slots.length) :
    (walk.calls table rounds).Pairwise fun first second =>
      first.answer = none → second.answer = none := by
  refine (calls_forward inside).imp_of_mem ?_
  intro first second firstMember secondMember forward ended
  obtain ⟨firstExact, -, firstLength⟩ := calls_exact inside first firstMember
  obtain ⟨secondExact, -, secondLength⟩ := calls_exact inside second secondMember
  apply secondExact.answer_at_end
  have atEnd := firstExact.ends ended
  have beyond := secondExact.forward
  have within := secondExact.inside
  omega

theorem calls_end (inside : walk.passed ≤ table.slots.length)
    (enough : table.slots.length < walk.passed + rounds.length) :
    ∃ glimpse ∈ walk.calls table rounds, glimpse.answer = none := by
  induction rounds generalizing walk table with
  | nil => exact absurd enough (Nat.not_lt.mpr inside)
  | cons round rest ih =>
    have length := table.length_answersTo round
    have head := exact_after_round inside round
    by_cases ended : (walk.glimpse (answersTo perform table round).2).answer = none
    · exact ⟨_, List.mem_cons_self .., ended⟩
    · have advanced := head.advances ended
      have more : (answersTo perform table round).2.slots.length <
          (walk.next (answersTo perform table round).2).2.passed + rest.length := by
        change walk.passed < (walk.next (answersTo perform table round).2).2.passed at advanced
        rw [List.length_cons] at enough
        omega
      obtain ⟨glimpse, member, answered⟩ := ih head.inside more
      exact ⟨glimpse, List.mem_cons_of_mem _ member, answered⟩

theorem inside_of_bound {queue : QueueId} (ahead : walk.passed ≤ queue.index.toNat)
    (called : rounds ≠ [])
    (bound : ∀ glimpse ∈ walk.calls table rounds, glimpse.before.passed ≤ queue.index.toNat →
      (glimpse.table.lookup queue).isSome = true) : queue.index.toNat < table.slots.length := by
  obtain ⟨round, rest, rfl⟩ := List.exists_cons_of_ne_nil called
  obtain ⟨handle, seen⟩ :=
    Option.isSome_iff_exists.mp (bound _ (List.mem_cons_self ..) ahead)
  rw [← table.length_answersTo round]
  exact inside_of_lookup seen

theorem exists_passes (inside : walk.passed ≤ table.slots.length) {queue : QueueId}
    (ahead : walk.passed ≤ queue.index.toNat) (within : queue.index.toNat < table.slots.length)
    (ended : ∃ glimpse ∈ walk.calls table rounds, glimpse.answer = none) :
    ∃ glimpse ∈ walk.calls table rounds, glimpse.Passes queue := by
  induction rounds generalizing walk table with
  | nil =>
    obtain ⟨glimpse, member, -⟩ := ended
    cases member
  | cons round rest ih =>
    have length := table.length_answersTo round
    have head := exact_after_round inside round
    by_cases behind : queue.index.toNat < (walk.next (answersTo perform table round).2).2.passed
    · exact ⟨_, List.mem_cons_self .., ahead, behind⟩
    · obtain ⟨glimpse, member, answered⟩ := ended
      rcases List.mem_cons.mp member with rfl | member
      · -- a call that lists nothing has passed all queues
        have atEnd : (walk.next (answersTo perform table round).2).2.passed = _ :=
          head.ends answered
        change _ = (answersTo perform table round).2.slots.length at atEnd
        omega
      · obtain ⟨passing, later, passes⟩ := ih head.inside (Nat.not_lt.mp behind)
          (Nat.lt_of_lt_of_eq within length.symm) ⟨glimpse, member, answered⟩
        exact ⟨passing, List.mem_cons_of_mem _ later, passes⟩

theorem calls_append (earlier later : List (List Table.Operation)) :
    walk.calls table (earlier ++ later) = walk.calls table earlier ++
      (walk.reached table earlier).1.calls (walk.reached table earlier).2 later := by
  induction earlier generalizing walk table with
  | nil => rfl
  | cons round rest ih => exact congrArg (List.cons _) ih

theorem reached_inside (inside : walk.passed ≤ table.slots.length) :
    (walk.reached table rounds).1.passed ≤ (walk.reached table rounds).2.slots.length := by
  induction rounds generalizing walk table with
  | nil => exact inside
  | cons round rest ih => exact ih (exact_after_round inside round).inside

/-- Two tables that differ in slots behind the walk at most. -/
structure AgreeAhead (passed : Nat) (one another : Table) : Prop where
  length : one.slots.length = another.slots.length
  slot? : ∀ queue : QueueId, passed ≤ queue.index.toNat → one.slot? queue = another.slot? queue

variable {one another : Table}

theorem AgreeAhead.drop (agree : AgreeAhead walk.passed one another) :
    one.slots.drop walk.passed = another.slots.drop walk.passed := by
  apply List.ext_getElem?
  intro index
  rw [List.getElem?_drop, List.getElem?_drop]
  rcases Nat.lt_or_ge (walk.passed + index) one.slots.length with within | beyond
  · have number := toNat_ofNat_of_inside within
    have same := agree.slot? ⟨UInt32.ofNat (walk.passed + index)⟩ (by
      change walk.passed ≤ (UInt32.ofNat (walk.passed + index)).toNat
      omega)
    rwa [Table.slot?, Table.slot?, number] at same
  · rw [List.getElem?_eq_none beyond, List.getElem?_eq_none (agree.length ▸ beyond)]

theorem AgreeAhead.next (agree : AgreeAhead walk.passed one another) :
    walk.next one = walk.next another := by
  rw [Walk.next, Walk.next, agree.drop, agree.length]

theorem AgreeAhead.round (agree : AgreeAhead walk.passed one another)
    (round : List Table.Operation) :
    AgreeAhead walk.passed (answersTo perform one round).2 (answersTo perform another round).2 where
  length := by
    rw [length_answersTo, length_answersTo, agree.length]
  slot? queue ahead := by
    rw [slot?_answersTo, slot?_answersTo, agree.slot? queue ahead]

theorem AgreeAhead.further {passed : Nat} (agree : AgreeAhead walk.passed one another)
    (later : walk.passed ≤ passed) : AgreeAhead passed one another :=
  ⟨agree.length, fun queue ahead => agree.slot? queue (Nat.le_trans later ahead)⟩

theorem AgreeAhead.answers (agree : AgreeAhead walk.passed one another)
    (inside : walk.passed ≤ one.slots.length) (rounds : List (List Table.Operation)) :
    (walk.calls one rounds).map Glimpse.answer = (walk.calls another rounds).map Glimpse.answer := by
  induction rounds generalizing walk one another with
  | nil => rfl
  | cons round rest ih =>
    have after := agree.round round
    have head := exact_after_round inside round
    have later := ih (after.further head.forward) head.inside
    change (walk.next (answersTo perform one round).2).1 :: _ =
      (walk.next (answersTo perform another round).2).1 :: _
    rw [← after.next]
    exact congrArg (List.cons _) later

/-- A round may be replaced by one that leaves the same in all slots ahead. -/
theorem answers_of_round (inside : walk.passed ≤ table.slots.length)
    {earlier later : List (List Table.Operation)} {round other : List Table.Operation}
    (agree : ∀ queue : QueueId, (walk.reached table earlier).1.passed ≤ queue.index.toNat →
      (answersTo perform (walk.reached table earlier).2 round).2.slot? queue =
        (answersTo perform (walk.reached table earlier).2 other).2.slot? queue) :
    (walk.calls table (earlier ++ round :: later)).map Glimpse.answer =
      (walk.calls table (earlier ++ other :: later)).map Glimpse.answer := by
  have within : (walk.reached table earlier).1.passed ≤
      (walk.reached table earlier).2.slots.length := reached_inside inside
  rw [calls_append, calls_append, List.map_append, List.map_append]
  generalize walk.reached table earlier = reached at agree within ⊢
  have agree : AgreeAhead reached.1.passed (answersTo perform reached.2 round).2
      (answersTo perform reached.2 other).2 :=
    ⟨by rw [length_answersTo, length_answersTo], agree⟩
  -- both rounds are over when the walk is called, so they are like two tables with empty rounds
  exact congrArg (_ ++ ·) (agree.answers (by rwa [length_answersTo]) ([] :: later))

def ahead (walk : Walk) (table : Table) : List Binding :=
  bindingsFrom walk.passed (table.slots.drop walk.passed)

theorem bindingsFrom_of_firstBound (start : Nat) (slots : List Slot) :
    bindingsFrom start slots =
      match firstBound start slots with
      | some (index, handle) =>
        (⟨UInt32.ofNat index⟩, handle) :: bindingsFrom (index + 1) (slots.drop (index + 1 - start))
      | none => [] := by
  induction slots generalizing start with
  | nil => rfl
  | cons slot rest ih =>
    rw [bindingsFrom, firstBound]
    cases slot.binding? with
    | some handle =>
      have shift : start + 1 - start = 1 := Nat.add_sub_cancel_left ..
      simp only [shift, List.drop_one, List.tail_cons]
    | none =>
      dsimp only
      rw [ih]
      cases found : firstBound (start + 1) rest with
      | none => rfl
      | some pair =>
        obtain ⟨index, handle⟩ := pair
        obtain ⟨skipped, -, -, -, here, -, -⟩ := firstBound_some found
        have shift : index + 1 - start = index + 1 - (start + 1) + 1 := by omega
        simp only [shift, List.drop_succ_cons]

theorem ahead_next (inside : walk.passed ≤ table.slots.length) :
    walk.ahead table = (walk.next table).1.toList ++ (walk.next table).2.ahead table := by
  rw [ahead, bindingsFrom_of_firstBound]
  unfold next
  cases found : firstBound walk.passed (table.slots.drop walk.passed) with
  | none =>
    have past : table.slots.drop table.slots.length = [] := List.drop_length
    simp only [Option.toList_none, List.nil_append, ahead, Nat.max_eq_right inside, past]
    rfl
  | some pair =>
    obtain ⟨index, handle⟩ := pair
    obtain ⟨skipped, -, -, -, here, -, -⟩ := firstBound_some found
    have shift : walk.passed + (index + 1 - walk.passed) = index + 1 := by omega
    simp only [Option.toList_some, ahead, List.drop_drop, shift]
    rfl

theorem entries_ahead (inside : walk.passed ≤ table.slots.length)
    (still : ∀ glimpse ∈ walk.calls table rounds, glimpse.table = table) :
    entries (walk.calls table rounds) ++ (walk.reached table rounds).1.ahead table =
      walk.ahead table := by
  induction rounds generalizing walk with
  | nil => rfl
  | cons round rest ih =>
    have same : (answersTo perform table round).2 = table := still _ (List.mem_cons_self ..)
    have head := glimpse_exact inside
    have split : walk.calls table (round :: rest) =
        walk.glimpse table :: (walk.next table).2.calls table rest := by
      rw [calls, same]
    rw [split] at still
    have later : _ = (walk.next table).2.ahead table :=
      ih head.inside fun glimpse member => still glimpse (List.mem_cons_of_mem _ member)
    rw [split, ahead_next inside, ← later, reached, same, entries, List.filterMap_cons]
    have answer : (walk.glimpse table).answer = (walk.next table).1 := rfl
    rw [answer]
    cases (walk.next table).1 with
    | none => rfl
    | some binding => rfl

theorem ahead_of_ended (ended : (walk.next table).1 = none)
    (inside : walk.passed ≤ table.slots.length) : (walk.next table).2.ahead table = [] := by
  have atEnd : (walk.next table).2.passed = table.slots.length := (glimpse_exact inside).ends ended
  rw [ahead, atEnd, List.drop_length]
  rfl

theorem ahead_reached (inside : walk.passed ≤ table.slots.length)
    (still : ∀ glimpse ∈ walk.calls table rounds, glimpse.table = table)
    (ended : ∃ glimpse ∈ walk.calls table rounds, glimpse.answer = none) :
    (walk.reached table rounds).1.ahead table = [] := by
  induction rounds generalizing walk with
  | nil =>
    obtain ⟨glimpse, member, -⟩ := ended
    cases member
  | cons round rest ih =>
    have same : (answersTo perform table round).2 = table := still _ (List.mem_cons_self ..)
    have head : (walk.next table).2.passed ≤ table.slots.length := (glimpse_exact inside).inside
    rw [calls, same] at still ended
    rw [reached, same]
    have later : ∀ glimpse ∈ (walk.next table).2.calls table rest, glimpse.table = table :=
      fun glimpse member => still glimpse (List.mem_cons_of_mem _ member)
    obtain ⟨glimpse, member, answered⟩ := ended
    rcases List.mem_cons.mp member with rfl | member
    · have none := ahead_of_ended answered inside
      rw [← entries_ahead head later] at none
      exact (List.append_eq_nil_iff.mp none).2
    · exact ih head later ⟨glimpse, member, answered⟩

theorem take_eq (inside : walk.passed ≤ table.slots.length) (n : Nat) :
    (walk.take table n).1 = (walk.ahead table).take n := by
  induction n generalizing walk with
  | zero => rfl
  | succ n ih =>
    have head : (walk.next table).2.passed ≤ table.slots.length := (glimpse_exact inside).inside
    have past : (walk.next table).1 = none → walk.passed ≤ table.slots.length →
        (walk.next table).2.ahead table = [] := ahead_of_ended
    have later := ih head
    rw [ahead_next inside, take]
    generalize walk.next table = result at past later ⊢
    obtain ⟨answer, after⟩ := result
    cases answer with
    | none =>
      rw [past rfl inside]
      rfl
    | some binding => exact congrArg (List.cons binding) later

end Walk

open Walk

/-- What the calls of a walk list, when the table is written to in a round before each. -/
structure ListsWhatItPasses (table : Table) (rounds : List (List Table.Operation))
    (glimpses : List Glimpse) : Prop where
  forward : glimpses.Pairwise fun first second => first.after.passed ≤ second.before.passed
  exact : ∀ glimpse ∈ glimpses, ∀ queue handle, glimpse.answer = some (queue, handle) ↔
    glimpse.Passes queue ∧ glimpse.table.lookup queue = some handle
  ascending : (entries glimpses).Pairwise fun first second => first.1.index < second.1.index
  /-- a queue that is bound until it is passed is listed once -/
  once : ∀ queue : QueueId, (∃ glimpse ∈ glimpses, glimpse.answer = none) →
    (∀ glimpse ∈ glimpses, glimpse.before.passed ≤ queue.index.toNat →
      (glimpse.table.lookup queue).isSome = true) →
    ((entries glimpses).map Prod.fst).count queue = 1
  never : ∀ queue : QueueId,
    (∀ glimpse ∈ glimpses, glimpse.before.passed ≤ queue.index.toNat →
      glimpse.table.lookup queue = none) →
    ((entries glimpses).map Prod.fst).count queue = 0
  /-- rounds that leave the same in the slots ahead look alike -/
  ahead : ∀ (earlier later : List (List Table.Operation)) (round other : List Table.Operation),
    (∀ queue : QueueId, (Walk.start.reached table earlier).1.passed ≤ queue.index.toNat →
      (answersTo perform (Walk.start.reached table earlier).2 round).2.slot? queue =
        (answersTo perform (Walk.start.reached table earlier).2 other).2.slot? queue) →
    (Walk.start.calls table (earlier ++ round :: later)).map Glimpse.answer =
      (Walk.start.calls table (earlier ++ other :: later)).map Glimpse.answer
  /-- so what is written to a queue behind the walk does not show -/
  behind : ∀ (earlier later : List (List Table.Operation)) (writes more : List Table.Operation)
    (operation : Table.Operation) (queue : QueueId), operation.queue? = some queue →
    queue.index.toNat < (Walk.start.reached table earlier).1.passed →
    (Walk.start.calls table (earlier ++ (writes ++ operation :: more) :: later)).map
        Glimpse.answer =
      (Walk.start.calls table (earlier ++ (writes ++ more) :: later)).map Glimpse.answer
  ends : table.slots.length < rounds.length → ∃ glimpse ∈ glimpses, glimpse.answer = none
  staysEnded : glimpses.Pairwise fun first second => first.answer = none → second.answer = none
  undisturbed : (∀ glimpse ∈ glimpses, glimpse.table = table) →
    entries glimpses <+: table.snapshot
  snapshot : (∀ glimpse ∈ glimpses, glimpse.table = table) →
    (∃ glimpse ∈ glimpses, glimpse.answer = none) → entries glimpses = table.snapshot
  take : ∀ n, (Walk.start.take table n).1 = table.snapshot.take n

/-- However a table is written to between the calls of a walk, each call lists the one queue that it
passes and finds bound, with its socket at that moment, and the walk comes to an end. If nothing
changes it lists the snapshot. -/
theorem walk_lists_what_it_passes (table : Table) (rounds : List (List Table.Operation)) :
    ListsWhatItPasses table rounds (Walk.start.calls table rounds) := by
  let glimpses := Walk.start.calls table rounds
  let listed := entries glimpses
  have inside : Walk.start.passed ≤ table.slots.length := Nat.zero_le _
  have exact : ∀ glimpse ∈ glimpses, glimpse.Exact :=
    fun glimpse member => (calls_exact inside glimpse member).1
  have ascending : listed.Pairwise fun first second => first.1.index < second.1.index :=
    entries_ascending inside
  constructor
  case forward => exact calls_forward inside
  case exact => exact fun glimpse member => (exact glimpse member).lists
  case ascending => exact ascending
  case once =>
    intro queue ended bound
    have called : rounds ≠ [] := by
      rintro rfl
      obtain ⟨glimpse, member, -⟩ := ended
      exact List.not_mem_nil member
    have within := inside_of_bound (Nat.zero_le queue.index.toNat) called bound
    obtain ⟨glimpse, member, passes⟩ :=
      exists_passes inside (Nat.zero_le queue.index.toNat) within ended
    obtain ⟨handle, seen⟩ := Option.isSome_iff_exists.mp (bound glimpse member passes.1)
    have answered := ((exact glimpse member).lists queue handle).mpr ⟨passes, seen⟩
    have once : (listed.map Prod.fst).Nodup := by
      refine List.pairwise_map.mpr (ascending.imp ?_)
      intro first second before same
      rw [same] at before
      exact UInt32.lt_irrefl _ before
    exact List.count_eq_one_of_mem once (mem_entries.mpr ⟨glimpse, member, handle, answered⟩)
  case never =>
    intro queue unbound
    refine List.count_eq_zero.mpr fun present => ?_
    obtain ⟨glimpse, member, handle, answered⟩ := mem_entries.mp present
    obtain ⟨passes, seen⟩ := ((exact glimpse member).lists queue handle).mp answered
    rw [unbound glimpse member passes.1] at seen
    cases seen
  case ahead => exact fun earlier later round other agree => answers_of_round inside agree
  case behind =>
    intro earlier later writes more operation queue names behind
    apply answers_of_round inside
    intro other ahead
    have apart : operation.concerns other = false := by
      have notClear : operation ≠ .clear := by
        rintro rfl
        cases names
      have elsewhere : queue ≠ other := by
        rintro rfl
        omega
      simp [Operation.concerns, names, elsewhere, notClear]
    rw [slot?_answersTo, slot?_answersTo, List.filter_append, List.filter_append,
      List.filter_cons_of_neg (by simp [apart])]
  case ends =>
    intro enough
    exact calls_end inside (Nat.lt_of_lt_of_eq enough (Nat.zero_add _).symm)
  case staysEnded => exact calls_stay_ended inside
  case undisturbed => exact fun still => ⟨_, entries_ahead inside still⟩
  case snapshot =>
    intro still ended
    have whole := entries_ahead inside still
    rw [ahead_reached inside still ended, List.append_nil] at whole
    exact whole
  case take => exact take_eq inside

/-- The queue that was just passed is bound anew, one ahead is bound and one unbound, and another is
bound when the walk has ended. -/
example :
    entries (Walk.start.calls ⟨[.bound ⟨7⟩, .empty, .bound ⟨8⟩, .empty], by decide, by decide⟩
      [[], [.update ⟨0⟩ ⟨9⟩, .update ⟨1⟩ ⟨5⟩, .delete ⟨2⟩], [], [.update ⟨3⟩ ⟨6⟩]]) =
      [(⟨0⟩, ⟨7⟩), (⟨1⟩, ⟨5⟩)] := by decide

end RxSteering
