import DvbReceiver.Proofs.Session.Noise
import DvbReceiver.Proofs.Simulation.Resting

/-!
# Noise in a scenario

Noise may be put into a scenario: between steps, though not before the first, and anywhere into
batches. `Piece` tells what was put in from what was there. Each piece does the same to a scene
with the noise as it does to one without (`Scene.Alike.perform_piece`), and with what was put in
taken out again the snapshots are the same (`unmoved_of_noise`).
-/

namespace DvbReceiver.Simulation

open Session

/-- The step hands over noise. -/
def Step.IsNoise : Step → Prop
  | deliver delivery => delivery.IsNoise
  | request asked => asked = .direct 0
  | _ => False

/-- A part of a scenario with noise. -/
inductive Piece
  | step (step : Step)
  | batch (pieces : List Piece)
  /-- Noise that was put in. -/
  | inserted (noise : Step) (h : noise.IsNoise)

namespace Piece

mutual

/-- The step with the noise. -/
def whole : Piece → Step
  | step taken => taken
  | batch pieces => .batch (wholeAll pieces)
  | inserted noise _ => noise

def wholeAll : List Piece → List Step
  | [] => []
  | piece :: pieces => piece.whole :: wholeAll pieces

end

mutual

/-- The step without the noise, if there is one. -/
def bare : Piece → List Step
  | step taken => [taken]
  | batch pieces => [.batch (bareAll pieces)]
  | inserted _ _ => []

def bareAll : List Piece → List Step
  | [] => []
  | piece :: pieces => piece.bare ++ bareAll pieces

end

mutual

/-- What is left of the result when the results of the noise are taken out. -/
def kept : Piece → Result → List Result
  | batch pieces, .batch results => [.batch (keptAll pieces results)]
  | inserted _ _, _ => []
  | _, result => [result]

def keptAll : List Piece → List Result → List Result
  | piece :: pieces, result :: results => piece.kept result ++ keptAll pieces results
  | _, _ => []

end

end Piece

namespace Scene

variable {a b : Scene}

/-- The scenes differ by noise only. -/
structure Alike (a b : Scene) : Prop where
  session : a.session.Alike b.session
  attached : b.attached = a.attached
  quiet : b.quiet = a.quiet

theorem Alike.trans {c : Scene} (h : a.Alike b) (h' : b.Alike c) : a.Alike c :=
  ⟨h.session.trans h'.session, h'.attached.trans h.attached, h'.quiet.trans h.quiet⟩

theorem Alike.joined {s t : Session Hardware} (h : a.Alike b) (hst : s.Alike t) :
    (a.joined s).1.Alike (b.joined t).1 ∧ (b.joined t).2 = (a.joined s).2 := by
  have hjoined := hst.join devices
  refine ⟨⟨hjoined, rfl, h.quiet⟩, ?_⟩
  simp only [Scene.joined]
  rw [hjoined.outcome?]

mutual

/-- The same step does the same to scenes that are alike. -/
theorem Alike.perform {a b : Scene} (h : a.Alike b) : ∀ step,
    (a.perform step).1.Alike (b.perform step).1 ∧ (b.perform step).2 = (a.perform step).2
  | .pause => ⟨h, rfl⟩
  | .deliver delivery => ⟨⟨h.session.deliver delivery, h.attached, h.quiet⟩, rfl⟩
  | .advance milliseconds => ⟨⟨h.session.advance devices milliseconds, h.attached, h.quiet⟩, rfl⟩
  | .change change => by
    have hscript := h.session.map
      (fun u => { u with hardware.script := change.apply u.hardware.script }) fun _ => rfl
    exact ⟨⟨hscript, h.attached, h.quiet⟩, rfl⟩
  | .report => by
    refine ⟨h, ?_⟩
    rw [Scene.perform, Scene.perform, h.session.registry]
  | .request request => by
    obtain ⟨hresult, hsession⟩ := h.session.request request
    simp only [Scene.perform, h.attached]
    split
    · exact ⟨⟨hsession, rfl, h.quiet⟩, by rw [hresult]⟩
    · exact ⟨h, rfl⟩
  | .volume level => by
    simp only [Scene.perform, h.attached]
    split
    · exact ⟨⟨h.session.record _, rfl, h.quiet⟩, rfl⟩
    · exact ⟨h, rfl⟩
  | .drop => by
    simp only [Scene.perform, h.attached]
    split
    · exact ⟨⟨h.session.post _, rfl, h.quiet⟩, rfl⟩
    · exact ⟨h, rfl⟩
  | .shutdown => by
    simp only [Scene.perform, h.attached]
    split
    · exact h.joined (h.session.post _)
    · exact ⟨h, rfl⟩
  | .join => by
    simp only [Scene.perform, h.attached]
    split
    · exact h.joined h.session
    · exact ⟨h, rfl⟩
  | .batch steps => by
    obtain ⟨hscene, hresults⟩ := h.performAll steps
    exact ⟨hscene, congrArg Result.batch hresults⟩

theorem Alike.performAll {a b : Scene} (h : a.Alike b) : ∀ steps,
    (a.performAll steps).1.Alike (b.performAll steps).1 ∧
      (b.performAll steps).2 = (a.performAll steps).2
  | [] => ⟨h, rfl⟩
  | step :: steps => by
    obtain ⟨hscene, hresult⟩ := h.perform step
    obtain ⟨hscenes, hresults⟩ := hscene.performAll steps
    exact ⟨hscenes, congrArg₂ List.cons hresult hresults⟩

end

/-- Noise changes nothing else. -/
theorem Alike.of_isNoise (scene : Scene) {noise : Step} (h : noise.IsNoise) :
    scene.Alike (scene.perform noise).1 := by
  cases noise with
  | deliver delivery => exact ⟨Session.Alike.of_deliver h scene.session, rfl, rfl⟩
  | request request =>
    obtain rfl : request = .direct 0 := h
    rw [Scene.perform]
    split
    · exact ⟨Session.Alike.of_request scene.session, rfl, rfl⟩
    · exact ⟨rfl, rfl, rfl⟩
  | _ => exact h.elim

theorem performAll_append (scene : Scene) (steps more : List Step) :
    scene.performAll (steps ++ more) =
      (((scene.performAll steps).1.performAll more).1,
        (scene.performAll steps).2 ++ ((scene.performAll steps).1.performAll more).2) := by
  induction steps generalizing scene with
  | nil => rfl
  | cons step steps ih => simp only [List.cons_append, performAll, ih]

mutual

/-- **A piece does the same with the noise and without.** -/
theorem Alike.perform_piece {a b : Scene} (h : a.Alike b) : ∀ piece : Piece,
    (a.performAll piece.bare).1.Alike (b.perform piece.whole).1 ∧
      (a.performAll piece.bare).2 = piece.kept (b.perform piece.whole).2
  | .step step => by
    obtain ⟨hscene, hresult⟩ := h.perform step
    refine ⟨hscene, ?_⟩
    simp [Piece.bare, Piece.whole, Scene.performAll, Piece.kept, hresult]
  | .inserted noise hnoise => ⟨h.trans (.of_isNoise b hnoise), rfl⟩
  | .batch pieces => by
    obtain ⟨hscene, hresults⟩ := h.performAll_pieces pieces
    refine ⟨hscene, ?_⟩
    simp [Piece.bare, Piece.whole, Scene.performAll, Scene.perform, Piece.kept, hresults]

theorem Alike.performAll_pieces {a b : Scene} (h : a.Alike b) : ∀ pieces : List Piece,
    (a.performAll (Piece.bareAll pieces)).1.Alike (b.performAll (Piece.wholeAll pieces)).1 ∧
      (a.performAll (Piece.bareAll pieces)).2 =
        Piece.keptAll pieces (b.performAll (Piece.wholeAll pieces)).2
  | [] => ⟨h, rfl⟩
  | piece :: pieces => by
    obtain ⟨hscene, hresult⟩ := h.perform_piece piece
    obtain ⟨hscenes, hresults⟩ := hscene.performAll_pieces pieces
    rw [Piece.bareAll, performAll_append]
    exact ⟨hscenes, congrArg₂ (· ++ ·) hresult hresults⟩

end

/-! ## Snapshots -/

theorem play_cons (scene : Scene) (seen : Nat) (step : Step) (steps : List Step) :
    scene.play seen (step :: steps) =
      (scene.after step).snapshot seen (scene.perform step).2 ::
        (scene.after step).play (scene.after step).noticed.length steps := by
  rw [play]
  rfl

theorem Alike.noticed (h : a.Alike b) : b.noticed = a.noticed := by
  rw [Scene.noticed, Scene.noticed, h.session.events, h.quiet]

theorem Alike.snapshot (h : a.Alike b) (seen : Nat) (result : Result) :
    b.snapshot seen result = a.snapshot seen result := by
  simp only [Scene.snapshot, h.noticed, h.attached, h.session.registry, h.session.outcome?,
    h.session.phase, h.session.channel]

theorem Alike.settle (h : a.Alike b) :
    { a with session := a.session.settle devices }.Alike
      { b with session := b.session.settle devices } :=
  ⟨h.session.settle devices, h.attached, h.quiet⟩

/-- A scene that has settled does nothing on noise. -/
theorem Alike.after_inserted {noise : Step} (hnoise : noise.IsNoise)
    (hsettled : b.session.step? devices = none) : b.Alike (b.after noise) := by
  have hsame : { b with session := b.session.settle devices } = b := by
    rw [settle_of_step?_eq_none devices hsettled]
  have hafter := (Alike.of_isNoise b hnoise).settle
  rwa [hsame] at hafter

end Scene

/-- The snapshot shows what the one before has shown, and no events. -/
structure Snapshot.Repeats (snapshot before : Snapshot) : Prop where
  events : snapshot.events = []
  view : snapshot.view = before.view
  sequence : snapshot.sequence = before.sequence
  tables : snapshot.tables = before.tables

/-- The snapshots with the noise that follow the snapshot `last`, and those without the noise. -/
inductive Matches : (last : Snapshot) → List Piece → List Snapshot → List Snapshot → Prop
  | nil (last : Snapshot) : Matches last [] [] []
  /-- Nothing comes of noise between the steps but its own result. -/
  | inserted {last snapshot : Snapshot} {noise : Step} {hnoise : noise.IsNoise}
    {pieces : List Piece} {snapshots others : List Snapshot} (hrepeats : snapshot.Repeats last)
    (h : Matches snapshot pieces snapshots others) :
    Matches last (.inserted noise hnoise :: pieces) (snapshot :: snapshots) others
  /-- Nothing comes of noise in a batch but its own results. -/
  | kept {last snapshot : Snapshot} {piece : Piece} {result : Result} {pieces : List Piece}
    {snapshots others : List Snapshot} (hresult : piece.kept snapshot.result = [result])
    (h : Matches snapshot pieces snapshots others) :
    Matches last (piece :: pieces) (snapshot :: snapshots) ({ snapshot with result } :: others)

namespace Scene

variable {a b : Scene}

/-- Through the pieces the scenes stay alike, and their snapshots match. -/
def Agree (a b : Scene) (pieces : List Piece) : Prop :=
  (∀ seen result, Matches (b.snapshot seen result) pieces
    (b.play b.noticed.length (Piece.wholeAll pieces))
    (a.play a.noticed.length (Piece.bareAll pieces))) ∧
  (a.last (Piece.bareAll pieces)).Alike (b.last (Piece.wholeAll pieces))

/-- A piece that was there. -/
theorem Alike.agree_cons {piece : Piece} {step : Step} {pieces : List Piece} (h : a.Alike b)
    (hbare : piece.bare = [step])
    (hrest : ∀ {a b : Scene}, a.Alike b → b.session.step? devices = none → a.Agree b pieces) :
    a.Agree b (piece :: pieces) := by
  obtain ⟨hscene, hresult⟩ := h.perform_piece piece
  rw [hbare] at hscene hresult
  have hafter : (a.after step).Alike (b.after piece.whole) := Alike.settle hscene
  obtain ⟨hmatches, hlast⟩ := hrest hafter (step?_settle devices _)
  rw [Agree, Piece.bareAll, hbare, List.singleton_append, Piece.wholeAll]
  refine ⟨fun seen result => ?_, hlast⟩
  rw [play_cons, play_cons, h.noticed, ← hafter.snapshot]
  exact .kept hresult.symm (hmatches _ _)

/-- **Once the session has settled**, pieces of all sorts agree. -/
theorem Alike.agree (h : a.Alike b) (hsettled : b.session.step? devices = none)
    (pieces : List Piece) : a.Agree b pieces := by
  induction pieces generalizing a b with
  | nil => exact ⟨fun _ _ => .nil _, h⟩
  | cons piece pieces ih =>
    cases piece with
    | step step => exact h.agree_cons rfl ih
    | batch batched => exact h.agree_cons rfl ih
    | inserted noise hnoise =>
      have hafter := Alike.after_inserted hnoise hsettled
      obtain ⟨hmatches, hlast⟩ := ih (h.trans hafter) (step?_settle devices _)
      refine ⟨fun seen result => ?_, hlast⟩
      have hrepeats : ((b.after noise).snapshot b.noticed.length (b.perform noise).2).Repeats
          (b.snapshot seen result) := by
        rw [hafter.snapshot]
        exact ⟨List.drop_length, rfl, rfl, rfl⟩
      rw [Piece.wholeAll, Piece.whole, play_cons]
      exact .inserted hrepeats (hmatches _ _)

/-- **From the first step on**, pieces of all sorts agree if that step was there. -/
theorem Alike.agree_of_head? (h : a.Alike b) {pieces : List Piece}
    (hfirst : ∀ noise hnoise, pieces.head? ≠ some (.inserted noise hnoise)) :
    a.Agree b pieces := by
  rcases pieces with _ | ⟨piece, pieces⟩
  · exact ⟨fun _ _ => .nil _, h⟩
  · have hrest : ∀ {a b : Scene}, a.Alike b → b.session.step? devices = none →
        a.Agree b pieces := fun h hsettled => h.agree hsettled pieces
    cases piece with
    | step step => exact h.agree_cons rfl hrest
    | batch batched => exact h.agree_cons rfl hrest
    | inserted noise hnoise => exact absurd rfl (hfirst noise hnoise)

end Scene

namespace Scenario

/-- The second scenario is the first with noise, which makes no difference. -/
structure Unmoved (plain noisy : Scenario) (pieces : List Piece) : Prop where
  /-- Taken step by step, the snapshots are the same. -/
  snapshots : ∃ first snapshots others, noisy.snapshots = first :: snapshots ∧
    plain.snapshots = first :: others ∧ Matches first pieces snapshots others
  /-- After each piece, the sessions differ by noise only. -/
  stages : ∀ before after, pieces = before ++ after →
    (plain.scene.last (Piece.bareAll before)).Alike (noisy.scene.last (Piece.wholeAll before))
  /-- The calls and the notifications are the same, in the same order. -/
  events : noisy.last.events = plain.last.events
  outcome : noisy.last.outcome? = plain.last.outcome?
  clock : noisy.last.clock = plain.last.clock
  registry : noisy.last.registry = plain.last.registry

/-- **Noise makes no difference to a scenario**, unless it is put in before the first step. -/
theorem unmoved_of_noise (plain noisy : Scenario) (pieces : List Piece)
    (hplain : plain.steps = Piece.bareAll pieces)
    (hnoisy : noisy = { plain with steps := Piece.wholeAll pieces })
    (hfirst : ∀ noise hnoise, pieces.head? ≠ some (.inserted noise hnoise)) :
    Unmoved plain noisy pieces := by
  have hstart : plain.scene.Alike noisy.scene := by
    rw [hnoisy]
    exact ⟨rfl, rfl, rfl⟩
  obtain ⟨hmatches, hlast⟩ := hstart.agree_of_head? hfirst
  have hsteps : noisy.steps = Piece.wholeAll pieces := by rw [hnoisy]
  rw [← hplain, ← hsteps] at hmatches hlast
  refine ⟨⟨_, _, _, rfl, ?_, hmatches 0 .nothing⟩, ?_, hlast.session.events,
    hlast.session.outcome?, hlast.session.clock, hlast.session.registry⟩
  · exact congrArg (· :: _) (hstart.snapshot 0 .nothing).symm
  · rintro before after rfl
    refine (hstart.agree_of_head? fun noise hnoise hhead => ?_).2
    exact hfirst noise hnoise (by rw [List.head?_append, hhead, Option.some_or])

open Sample in
/-- Noise of every sort, between the steps and in a batch. -/
theorem unmoved_of_pieces :
    ∃ (plain noisy : Scenario) (pieces : List Piece), plain.steps = Piece.bareAll pieces ∧
      noisy = { plain with steps := Piece.wholeAll pieces } ∧
      (∀ noise hnoise, pieces.head? ≠ some (.inserted noise hnoise)) ∧
      plain.steps.length = 3 ∧ noisy.steps.length = 5 ∧ Unmoved plain noisy pieces := by
  have hunhandled : (Step.deliver (.arrived [0xff])).IsNoise := by
    intro table
    rw [show Table.ofSection? [0xff] = none by decide +kernel]
    rintro ⟨⟩
  have hrejected : (Step.deliver (.arrived [0x00])).IsNoise := by
    intro table
    rw [show Table.ofSection? [0x00] = some (.error (.truncated 8 1)) by decide +kernel]
    rintro ⟨⟩
  let pieces : List Piece :=
    [.step .pause, .inserted (.deliver (.status .notLocked)) rfl,
      .batch [.inserted (.request (.direct 0)) rfl, .step (.deliver (.arrived pmt₁)),
        .inserted (.deliver (.arrived [0x00])) hrejected],
      .inserted (.deliver (.arrived [0xff])) hunhandled, .step (.advance 35000)]
  let plain : Scenario :=
    { config := {}, script := Sample.hardware.script, steps := Piece.bareAll pieces }
  let noisy : Scenario := { plain with steps := Piece.wholeAll pieces }
  have hfirst : ∀ noise hnoise, pieces.head? ≠ some (.inserted noise hnoise) := by
    rintro _ _ ⟨⟩
  exact ⟨plain, noisy, pieces, rfl, rfl, hfirst, rfl, rfl,
    unmoved_of_noise plain noisy pieces rfl rfl hfirst⟩

end Scenario

end DvbReceiver.Simulation
