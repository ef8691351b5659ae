/-!
What a machine answers to a list of operations, one after the other, and the state that it ends in.
What every operation keeps a whole run keeps, and two machines that stay related step by step give
the same answers for ever.
-/
namespace RxSteering

def answersTo {σ ι ο : Type} (perform : σ → ι → ο × σ) (state : σ) : List ι → List ο × σ
  | [] => ([], state)
  | operation :: rest =>
    let (answer, after) := perform state operation
    let (more, last) := answersTo perform after rest
    (answer :: more, last)

/-- Two machines in states that stay related give the same answers for ever. -/
theorem answersTo_of_step {σ τ ι ο : Type} {real : σ → ι → ο × σ} {ideal : τ → ι → ο × τ}
    {related : τ → σ → Prop}
    (step : ∀ state model operation, related model state →
      (real state operation).1 = (ideal model operation).1 ∧
        related (ideal model operation).2 (real state operation).2)
    {state : σ} {model : τ} (start : related model state) (operations : List ι) :
    (answersTo real state operations).1 = (answersTo ideal model operations).1 ∧
      related (answersTo ideal model operations).2 (answersTo real state operations).2 := by
  induction operations generalizing state model with
  | nil => exact ⟨rfl, start⟩
  | cons operation rest ih =>
    obtain ⟨answer, after⟩ := step state model operation start
    obtain ⟨more, last⟩ := ih after
    refine ⟨?_, last⟩
    change _ :: _ = _ :: _
    rw [answer, more]

variable {σ ι ο : Type} {perform : σ → ι → ο × σ}

def transcript (perform : σ → ι → ο × σ) (state : σ) (operations : List ι) : List (ι × ο) :=
  operations.zip (answersTo perform state operations).1

theorem answersTo_cons (state : σ) (operation : ι) (rest : List ι) :
    answersTo perform state (operation :: rest) =
      ((perform state operation).1 :: (answersTo perform (perform state operation).2 rest).1,
        (answersTo perform (perform state operation).2 rest).2) := rfl

theorem answersTo_append (state : σ) (first second : List ι) :
    (answersTo perform state (first ++ second)).2 =
      (answersTo perform (answersTo perform state first).2 second).2 := by
  induction first generalizing state with
  | nil => rfl
  | cons operation rest ih => exact ih (perform state operation).2

theorem transcript_cons (state : σ) (operation : ι) (rest : List ι) :
    transcript perform state (operation :: rest) =
      (operation, (perform state operation).1) ::
        transcript perform (perform state operation).2 rest := rfl

theorem answersTo_keeps {kept : σ → Prop}
    (step : ∀ state operation, kept state → kept (perform state operation).2) {state : σ}
    (holds : kept state) (operations : List ι) : kept (answersTo perform state operations).2 := by
  induction operations generalizing state with
  | nil => exact holds
  | cons operation rest ih => exact ih (step state operation holds)

end RxSteering
