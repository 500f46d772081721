/-!
# Sessions

A session takes one action after another, and every action is answered. What each step keeps
is kept by the whole session, and two systems that stay in step give the same answers.
-/

namespace SyscallKernel.Session

variable {σ τ α β γ : Type}

/-- The state after some actions. -/
def after (step : σ → α → σ × β) (state : σ) : List α → σ
  | [] => state
  | action :: rest => after step (step state action).1 rest

/-- Some actions, each with its answer. -/
def transcript (step : σ → α → σ × β) (state : σ) : List α → List (α × β)
  | [] => []
  | action :: rest => (action, (step state action).2) :: transcript step (step state action).1 rest

variable {step : σ → α → σ × β} {state : σ}

/-- What every step keeps is kept. -/
theorem after_induction {kept : σ → Prop}
    (preserved : ∀ state action, kept state → kept (step state action).1) (start : kept state)
    (actions : List α) : kept (after step state actions) := by
  induction actions generalizing state with
  | nil => exact start
  | cons action rest ih => exact ih (preserved state action start)

/-- Some actions and then others. -/
theorem after_append (step : σ → α → σ × β) (state : σ) (actions later : List α) :
    after step state (actions ++ later) = after step (after step state actions) later := by
  induction actions generalizing state with
  | nil => rfl
  | cons action rest ih => exact ih _

/-- What every step keeps is kept, together with what is noted of the answers. -/
theorem note_induction {ρ : Type} {kept : σ → ρ → Prop} {note : ρ → α × β → ρ} {notes : ρ}
    (preserved : ∀ state notes action, kept state notes →
      kept (step state action).1 (note notes (action, (step state action).2)))
    (start : kept state notes) (actions : List α) :
    kept (after step state actions) ((transcript step state actions).foldl note notes) := by
  induction actions generalizing state notes with
  | nil => exact start
  | cons action rest ih => exact ih (preserved state notes action start)

/-- Two systems that stay in step answer alike, up to what is seen of the answers. -/
theorem simulation {step' : τ → α → τ × γ} {state' : τ} {related : σ → τ → Prop} {view : β → γ}
    (square : ∀ state state' action, related state state' →
      related (step state action).1 (step' state' action).1 ∧
        view (step state action).2 = (step' state' action).2)
    (start : related state state') (actions : List α) :
    related (after step state actions) (after step' state' actions) ∧
      (transcript step state actions).map (fun entry => (entry.1, view entry.2)) =
        transcript step' state' actions := by
  induction actions generalizing state state' with
  | nil => exact ⟨start, rfl⟩
  | cons action rest ih =>
    obtain ⟨next, answer⟩ := square state state' action start
    obtain ⟨final, answers⟩ := ih next
    refine ⟨final, ?_⟩
    simp only [transcript, List.map_cons, answers, answer]

end SyscallKernel.Session
