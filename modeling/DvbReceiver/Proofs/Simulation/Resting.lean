import DvbReceiver.Proofs.Session.Continuing
import DvbReceiver.Proofs.Simulation.Runs

/-!
# A session rests between the steps of a scenario

After each step of a scenario the session is left alone until it has nothing more to do, and by then
it has noticed all the time that has passed (`Scenario.rests_last`). So what is true of sessions
that rest is true of all that a scenario shows but its first snapshot.
-/

namespace DvbReceiver

namespace Session

variable {σ : Type} (devices : Devices σ) {s t : Session σ}

/-- All the time that has passed has been noticed. -/
def Prompt (s : Session σ) : Prop := s.alarm = s.clock

theorem Prompt.noticeTime_eq (h : s.Prompt) : s.noticeTime = s :=
  congrArg (fun time => { s with alarm := time }) h.symm

/-- Deliveries take no time. -/
theorem Prompt.deliver (h : s.Prompt) (delivery : Delivery) : (s.deliver delivery).Prompt := by
  rcases hlive : s.outcome? with _ | outcome
  · obtain ⟨entries, -, heq⟩ := exists_deliver hlive delivery
    rw [heq]
    exact h
  · obtain ⟨tables, heq⟩ := exists_deliver_of_outcome? hlive delivery
    rw [heq]
    exact h

theorem Prompt.request (h : s.Prompt) (request : ChannelRequest) :
    (s.request request).2.Prompt := by
  unfold Session.request
  split
  · exact h
  · exact h.deliver (.request request)

section Undisturbed

variable [devices.Undisturbed]

/-- Steps take no time. -/
theorem Prompt.settle (h : s.Prompt) : (s.settle devices).Prompt := by
  fun_induction Session.settle devices s with
  | case1 s next hstep ih =>
    obtain ⟨hclock, halarm⟩ := (upshot_of_step? devices hstep).time devices
    exact ih (halarm.trans (h.trans hclock.symm))
  | case2 s _ => exact h

theorem Prompt.rests_settle (h : s.Prompt) : Rests devices (s.settle devices) := by
  rw [Rests, (h.settle devices).noticeTime_eq]
  exact step?_settle devices s

theorem Prompt.join (h : s.Prompt) : (s.join devices).Prompt := by
  unfold Session.join
  have hsettled := h.settle devices
  generalize s.settle devices = settled at hsettled ⊢
  extract_lets
  split
  · exact Prompt.settle devices rfl
  · exact hsettled

end Undisturbed

end Session

namespace Simulation

open Session

namespace Scene

mutual

theorem prompt_perform {scene : Scene} (h : scene.session.Prompt) : ∀ step,
    (scene.perform step).1.session.Prompt
  | .pause => h
  | .deliver delivery => h.deliver delivery
  | .advance _ => rfl
  | .change _ => h
  | .report => h
  | .request request => by
    rw [perform]
    split
    · exact h.request request
    · exact h
  | .volume _ => by
    rw [perform]
    split <;> exact h
  | .drop => by
    rw [perform]
    split
    · exact h.deliver .shutdown
    · exact h
  | .shutdown => by
    rw [perform]
    split
    · exact (h.deliver .shutdown).join devices
    · exact h
  | .join => by
    rw [perform]
    split
    · exact h.join devices
    · exact h
  | .batch steps => prompt_performAll h steps

theorem prompt_performAll {scene : Scene} (h : scene.session.Prompt) : ∀ steps,
    (scene.performAll steps).1.session.Prompt
  | [] => h
  | step :: steps => prompt_performAll (prompt_perform h step) steps

end

/-- The scene after a step, when the session has settled. -/
def after (scene : Scene) (step : Step) : Scene :=
  { (scene.perform step).1 with session := (scene.perform step).1.session.settle devices }

/-- The scene at the end of the steps. -/
def last (scene : Scene) (steps : List Step) : Scene := steps.foldl after scene

theorem prompt_last {scene : Scene} (h : scene.session.Prompt) (steps : List Step) :
    (scene.last steps).session.Prompt := by
  induction steps generalizing scene with
  | nil => exact h
  | cons step steps ih => exact ih ((prompt_perform h step).settle devices)

theorem reachable_last {config : Config} {scene : Scene}
    (h : Reachable devices config scene.session) (steps : List Step) :
    Reachable devices config (scene.last steps).session := by
  induction steps generalizing scene with
  | nil => exact h
  | cons step steps ih => exact ih (reachable_perform h step)

end Scene

namespace Scenario

/-- The scene before the first step. -/
def scene (scenario : Scenario) : Scene where
  session := .start scenario.config { script := scenario.script }
  quiet := scenario.quiet

/-- The session at the end of the scenario. -/
def last (scenario : Scenario) : Session Hardware := (scenario.scene.last scenario.steps).session

theorem reachable_last (scenario : Scenario) :
    Reachable devices scenario.config scenario.last :=
  Scene.reachable_last ⟨_, .refl⟩ scenario.steps

/-- **A session rests after the steps of a scenario.** -/
theorem rests_last (scenario : Scenario) (h : scenario.steps ≠ []) :
    Rests devices scenario.last := by
  obtain ⟨steps, step, hsteps⟩ := List.eq_nil_or_concat' scenario.steps |>.resolve_left h
  have hstart : scenario.scene.session.Prompt := rfl
  rw [last, hsteps, Scene.last, List.foldl_concat]
  exact (Scene.prompt_perform (Scene.prompt_last hstart steps) step).rests_settle devices

end Scenario

end Simulation

end DvbReceiver
