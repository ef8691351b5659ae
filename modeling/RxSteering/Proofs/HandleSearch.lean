import RxSteering.Proofs.HandleSupply

/-!
The search for a free handle, without a bound. It takes ids from the counter one by one and ends
with the first that is not live, however many that takes; the bounded search of a registration is
the same search, because the ids that it passes over are all different and all live. While an id is
free it ends, after one id more than there are live handles at most.
-/
namespace RxSteering.Registry

variable {registry : Registry} {counter next : UInt32} {taken passed : Nat} {handle : SocketHandle}

/-- From this counter on the search takes so many ids, ends with the handle and leaves the counter
there. Each step is one id taken. -/
inductive Search (registry : Registry) : UInt32 → Nat → SocketHandle → UInt32 → Prop where
  | found {counter : UInt32} (free : registry.isLive ⟨counter⟩ = false) :
      Search registry counter 1 ⟨counter⟩ (counter + 1)
  | passes {counter next : UInt32} {taken : Nat} {handle : SocketHandle}
      (live : registry.isLive ⟨counter⟩ = true)
      (later : Search registry (counter + 1) taken handle next) :
      Search registry counter (taken + 1) handle next

structure FirstFree (registry : Registry) (counter : UInt32) (passed : Nat) : Prop where
  free : registry.isLive ⟨counter + .ofNat passed⟩ = false
  live : ∀ index < passed, registry.isLive ⟨counter + .ofNat index⟩ = true

theorem firstFree_zero (free : registry.isLive ⟨counter⟩ = false) :
    registry.FirstFree counter 0 where
  free := by simpa using free
  live index below := absurd below (Nat.not_lt_zero index)

theorem firstFree_succ :
    registry.FirstFree counter (passed + 1) ↔
      registry.isLive ⟨counter⟩ = true ∧ registry.FirstFree (counter + 1) passed := by
  constructor
  · intro first
    refine ⟨by simpa using first.live 0 (Nat.succ_pos passed), ?_, ?_⟩
    · rw [add_ofNat_succ]
      exact first.free
    · intro index below
      rw [add_ofNat_succ]
      exact first.live (index + 1) (by omega)
  · rintro ⟨live, first⟩
    refine ⟨?_, ?_⟩
    · rw [← add_ofNat_succ]
      exact first.free
    · intro index below
      cases index with
      | zero => simpa using live
      | succ index =>
        rw [← add_ofNat_succ]
        exact first.live index (by omega)

theorem search_iff :
    registry.Search counter taken handle next ↔
      ∃ passed, registry.FirstFree counter passed ∧ taken = passed + 1 ∧
        handle = ⟨counter + .ofNat passed⟩ ∧ next = counter + .ofNat passed + 1 := by
  constructor
  · intro search
    induction search with
    | found free => exact ⟨0, firstFree_zero free, rfl, by simp, by simp⟩
    | passes live _ ih =>
      obtain ⟨passed, first, rfl, rfl, rfl⟩ := ih
      refine ⟨passed + 1, firstFree_succ.mpr ⟨live, first⟩, rfl, ?_, ?_⟩
      · rw [add_ofNat_succ]
      · rw [add_ofNat_succ]
  · rintro ⟨passed, first, rfl, rfl, rfl⟩
    induction passed generalizing counter with
    | zero =>
      have free : registry.isLive ⟨counter⟩ = false := by simpa using first.free
      simpa using Search.found free
    | succ passed ih =>
      obtain ⟨live, rest⟩ := firstFree_succ.mp first
      have later := ih rest
      rw [add_ofNat_succ] at later
      exact .passes live later

theorem FirstFree.unique (first : registry.FirstFree counter passed) {other : Nat}
    (again : registry.FirstFree counter other) : other = passed := by
  rcases Nat.lt_trichotomy other passed with below | same | above
  · have live := first.live other below
    rw [again.free] at live
    cases live
  · exact same
  · have live := again.live passed above
    rw [first.free] at live
    cases live

theorem passedOver?_eq_some_iff {bound : Nat} :
    registry.passedOver? bound counter = some passed ↔
      passed < bound ∧ registry.FirstFree counter passed := by
  induction bound generalizing counter passed with
  | zero => simp [passedOver?]
  | succ bound ih =>
    unfold passedOver?
    cases live : registry.isLive ⟨counter⟩ with
    | false =>
      simp only [Bool.false_eq_true, if_false, Option.some.injEq]
      constructor
      · rintro rfl
        exact ⟨Nat.succ_pos bound, firstFree_zero live⟩
      · rintro ⟨-, first⟩
        exact first.unique (firstFree_zero live)
    | true =>
      simp only [if_true, Option.map_eq_some_iff]
      constructor
      · rintro ⟨passed, found, rfl⟩
        obtain ⟨below, first⟩ := ih.mp found
        exact ⟨by omega, firstFree_succ.mpr ⟨live, first⟩⟩
      · rintro ⟨below, first⟩
        cases passed with
        | zero =>
          have free : registry.isLive ⟨counter⟩ = false := by simpa using first.free
          rw [live] at free
          cases free
        | succ passed =>
          exact ⟨passed, ih.mpr ⟨by omega, (firstFree_succ.mp first).2⟩, rfl⟩

/-- An id that is passed over twice would have been found to be free the first time. -/
theorem FirstFree.below_round (first : registry.FirstFree counter passed) :
    passed < UInt32.size := by
  apply Nat.lt_of_not_le
  intro around
  have same : UInt32.ofNat (passed % UInt32.size) = UInt32.ofNat passed := by
    apply UInt32.toNat.inj
    simp [UInt32.size]
  have live := first.live (passed % UInt32.size)
    (Nat.lt_of_lt_of_le (Nat.mod_lt passed (by decide)) around)
  rw [same, first.free] at live
  cases live

theorem FirstFree.passed_le (first : registry.FirstFree counter passed) :
    passed ≤ registry.size :=
  row_le_size (Nat.le_of_lt first.below_round) first.live

/-- The bound of the search that a registration makes is no bound: it finds what an unbounded
search finds, and nothing just when that does not end. -/
theorem fresh?_eq_some_iff :
    registry.fresh? counter = some (handle, next) ↔
      ∃ taken, registry.Search counter taken handle next := by
  constructor
  · intro found
    obtain ⟨passed, search, same⟩ := Option.map_eq_some_iff.mp found
    cases same
    have first := (passedOver?_eq_some_iff.mp search).2
    exact ⟨passed + 1, search_iff.mpr ⟨passed, first, rfl, rfl, rfl⟩⟩
  · rintro ⟨taken, search⟩
    obtain ⟨passed, first, rfl, rfl, rfl⟩ := search_iff.mp search
    have soon := passedOver?_eq_some_iff.mpr ⟨Nat.lt_succ_of_le first.passed_le, first⟩
    rw [fresh?, soon]
    rfl

theorem Search.taken_eq (search : registry.Search counter taken handle next) :
    registry.idsTaken counter = taken := by
  obtain ⟨passed, first, rfl, -, -⟩ := search_iff.mp search
  have soon := passedOver?_eq_some_iff.mpr ⟨Nat.lt_succ_of_le first.passed_le, first⟩
  rw [idsTaken, soon]
  rfl

/-- From this counter on the search passes so many ids over, answers the next one and leaves the
counter one past it. -/
structure EndsPast (registry : Registry) (counter : UInt32) (passed : Nat) : Prop where
  first : registry.FirstFree counter passed
  search : registry.Search counter (passed + 1) ⟨counter + .ofNat passed⟩
    (counter + .ofNat passed + 1)
  only : ∀ taken handle next, registry.Search counter taken handle next →
    taken = passed + 1 ∧ handle = ⟨counter + .ofNat passed⟩ ∧ next = counter + .ofNat passed + 1
  /-- a registration makes just this search -/
  found : registry.fresh? counter =
    some (⟨counter + .ofNat passed⟩, counter + .ofNat passed + 1)
  taken : registry.idsTaken counter = passed + 1

/-- While an id is free, the search for one ends at the first that is, counting on from the last id to
the first, and takes one id more at most than there are live handles. -/
theorem search_ends_at_first_free (registry : Registry) (room : registry.size < UInt32.size)
    (counter : UInt32) : ∃ passed ≤ registry.size, registry.EndsPast counter passed := by
  obtain ⟨handle, next, found⟩ := exists_fresh room counter
  obtain ⟨taken, search⟩ := fresh?_eq_some_iff.mp found
  have taken_eq := search.taken_eq
  obtain ⟨passed, first, rfl, rfl, rfl⟩ := search_iff.mp search
  refine ⟨passed, first.passed_le, first, search, ?_, found, taken_eq⟩
  intro taken handle next again
  obtain ⟨other, anew, rfl, rfl, rfl⟩ := search_iff.mp again
  obtain rfl := first.unique anew
  exact ⟨rfl, rfl, rfl⟩

def acrossTheEnd : Registry :=
  ⟨[(⟨0xFFFFFFFE⟩, 0), (⟨0xFFFFFFFF⟩, 1), (⟨0⟩, 2), (⟨1⟩, 3)], by decide⟩

theorem search_ends_across_the_end :
    acrossTheEnd.size < UInt32.size ∧
      acrossTheEnd.Search 0xFFFFFFFE 5 ⟨2⟩ 3 ∧
      acrossTheEnd.fresh? 0xFFFFFFFE = some (⟨2⟩, 3) := by
  have room : acrossTheEnd.size < UInt32.size := by decide
  obtain ⟨passed, few, ends⟩ := search_ends_at_first_free acrossTheEnd room 0xFFFFFFFE
  have free := ends.first.free
  have all : ∀ index < 4, acrossTheEnd.isLive ⟨0xFFFFFFFE + .ofNat index⟩ = true := by decide
  have last : passed = 4 := by
    apply Nat.le_antisymm few
    apply Nat.le_of_not_lt
    intro below
    rw [all passed below] at free
    cases free
  subst last
  exact ⟨room, ends.search, ends.found⟩

end RxSteering.Registry
