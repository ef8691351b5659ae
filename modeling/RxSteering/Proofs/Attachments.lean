import RxSteering.Proofs.KernelAgreement

/-!
The interfaces that a program is attached to. An attachment stays for as long as the program is
there: a program that attaches to one interface and then to another is attached to both, and its
link is the later one. What fails changes nothing.
-/
namespace RxSteering.LoadedProgram

def isAccepted (mode : AttachMode) (accepts : LinkKind → Bool) : Bool :=
  (attempts mode).any accepts

def attachAll (program : LoadedProgram) (calls : List (UInt32 × (LinkKind → Bool))) :
    LoadedProgram :=
  calls.foldl (fun program call => (program.attach call.1 call.2).2.2) program

def taken (mode : AttachMode) (calls : List (UInt32 × (LinkKind → Bool))) : List UInt32 :=
  (calls.filter fun call => isAccepted mode call.2).map Prod.fst

theorem attempt_fst (interface : UInt32) (accepts : LinkKind → Bool) (kinds : List LinkKind) :
    (attempt interface accepts kinds).1 = kinds.any accepts := by
  induction kinds with
  | nil => rfl
  | cons kind rest ih =>
    cases rest with
    | nil => simp [attempt]
    | cons next rest =>
      unfold attempt
      split
      next accepted => simp [accepted]
      next refused =>
        change (attempt interface accepts (next :: rest)).1 = _
        have head : (kind :: next :: rest).any accepts = (next :: rest).any accepts := by
          rw [List.any_cons, Bool.not_eq_true _ |>.mp refused, Bool.false_or]
        rw [ih, head]

variable {program : LoadedProgram} {interface : UInt32} {accepts : LinkKind → Bool}

theorem attach_accepted (accepted : isAccepted program.options.mode accepts = true) :
    (program.attach interface accepts).1 = .ok () ∧
      (program.attach interface accepts).2.2 =
        { program with
          link? := some interface, attachments := interface :: program.attachments } := by
  have answer := attempt_fst interface accepts (attempts program.options.mode)
  rw [← isAccepted, accepted] at answer
  unfold attach
  split
  next => exact ⟨rfl, rfl⟩
  next refused =>
    rw [refused] at answer
    cases answer

theorem attach_refused (refused : isAccepted program.options.mode accepts = false) :
    (program.attach interface accepts).1 = .error (.program .linkRefused) ∧
      (program.attach interface accepts).2.2 = program := by
  have answer := attempt_fst interface accepts (attempts program.options.mode)
  rw [← isAccepted, refused] at answer
  unfold attach
  split
  next accepted =>
    rw [accepted] at answer
    cases answer
  next => exact ⟨rfl, rfl⟩

theorem attachAll_eq (program : LoadedProgram) (calls : List (UInt32 × (LinkKind → Bool))) :
    program.attachAll calls =
      { program with
        link? := (taken program.options.mode calls).getLast?.or program.link?
        attachments := (taken program.options.mode calls).reverse ++ program.attachments } := by
  induction calls generalizing program with
  | nil => rfl
  | cons call rest ih =>
    change (program.attach call.1 call.2).2.2.attachAll rest = _
    cases answer : isAccepted program.options.mode call.2 with
    | true =>
      have head : taken program.options.mode (call :: rest) =
          call.1 :: taken program.options.mode rest := by simp [taken, answer]
      rw [(attach_accepted answer).2, ih, head, List.getLast?_cons]
      cases (taken program.options.mode rest).getLast? with
      | none => simp
      | some last => simp
    | false =>
      have head : taken program.options.mode (call :: rest) = taken program.options.mode rest := by
        simp [taken, answer]
      rw [(attach_refused answer).2, ih, head]

/-- A loaded program is attached to exactly the interfaces on which an attempt succeeded, and its
link is the last of them. So the link is all that it is attached to just when all successes were on
one interface. A call that fails changes nothing. -/
theorem attached_to_every_success {content : Except Object.Fault Object.File}
    {options : ProgramOptions} {verifies : Object.Routine → Bool} {record : LoaderRecord}
    {program : LoadedProgram} (loaded : load content options verifies = .ok (record, program))
    (calls : List (UInt32 × (LinkKind → Bool))) :
    let after := program.attachAll calls
    let successes := taken options.mode calls
    after.attachments = successes.reverse ∧ after.link? = successes.getLast? ∧
    ((∀ interface ∈ after.attachments, after.link? = some interface) ↔
      ∀ first ∈ successes, ∀ second ∈ successes, first = second) ∧
    ∀ interface accepts,
      if isAccepted options.mode accepts then
        (after.attach interface accepts).1 = .ok () ∧
          (after.attach interface accepts).2.2.attachments = interface :: after.attachments ∧
          (after.attach interface accepts).2.2.link? = some interface
      else
        (after.attach interface accepts).1 = .error (.program .linkRefused) ∧
          (after.attach interface accepts).2.2 = after := by
  obtain ⟨rfl, -, link, attachments⟩ := keeps_of_load loaded
  intro after successes
  have run : after = { program with
      link? := successes.getLast?, attachments := successes.reverse } := by
    have general := program.attachAll_eq calls
    rw [link, attachments, Option.or_none, List.append_nil] at general
    exact general
  have all : after.attachments = successes.reverse := by rw [run]
  have last : after.link? = successes.getLast? := by rw [run]
  have mode : after.options.mode = program.options.mode := by rw [run]
  refine ⟨all, last, ?_, ?_⟩
  · rw [all, last]
    constructor
    · intro only first isFirst second isSecond
      have one := only first (List.mem_reverse.mpr isFirst)
      have other := only second (List.mem_reverse.mpr isSecond)
      exact Option.some.inj (one.symm.trans other)
    · intro alike interface member
      have present := List.mem_reverse.mp member
      have nonempty : successes ≠ [] := List.ne_nil_of_mem present
      rw [List.getLast?_eq_some_getLast nonempty,
        alike _ (List.getLast_mem nonempty) interface present]
  · intro interface accepts
    split
    next accepted =>
      rw [← mode] at accepted
      have outcome : (after.attach interface accepts).1 = .ok () ∧ _ := attach_accepted accepted
      rw [outcome.2]
      exact ⟨outcome.1, rfl, rfl⟩
    next refused =>
      rw [← mode, Bool.not_eq_true] at refused
      exact attach_refused refused

theorem attached_to_every_success_plainProgram :
    load (.ok plainObject) { miss := .pass } = .ok (.loaded .pass, plainProgram) ∧
      (plainProgram.attachAll [(1, fun _ => true), (5, fun _ => false),
        (2, fun kind => kind = .generic)]).attachments = [2, 1] :=
  ⟨load_plainObject, (attached_to_every_success load_plainObject _).1⟩

/-- The earlier attachment is still there, and is not the link. -/
theorem attached_to_two_interfaces :
    let after := plainProgram.attachAll [(1, fun _ => true), (2, fun _ => true)]
    load (.ok plainObject) { miss := .pass } = .ok (.loaded .pass, plainProgram) ∧
      after.attachments = [2, 1] ∧ after.link? = some 2 ∧ after.detach = [.detached 2] ∧
      ¬ ∀ first ∈ after.attachments, ∀ second ∈ after.attachments, first = second := by
  refine ⟨load_plainObject, rfl, rfl, rfl, ?_⟩
  intro alike
  exact absurd (alike 2 (List.mem_cons_self ..) 1 (by decide)) (by decide)

end RxSteering.LoadedProgram
