import DvbReceiver.Proofs.Session.Runs
import DvbReceiver.Simulation.Scenario

/-!
# Scenarios are runs

Whatever a scenario does to a session is a run of that session on scripted hardware
(`Scene.run_perform`). So what is true of every session that can be reached is true of every
session that a scenario shows.

`Sample.tuned` is a session that has found a PAT with the programmes 1 and 2, and waits for the PMT
of programme 1.
-/

namespace DvbReceiver.Simulation

open Session

namespace Scene

mutual

/-- **A step of a scenario** is a run of the session. -/
theorem run_perform (scene : Scene) :
    ∀ step, Run devices scene.session (scene.perform step).1.session
  | .pause => .refl
  | .deliver delivery => .single (.deliver _ delivery)
  | .advance milliseconds => run_advance devices _ milliseconds
  | .request request => by
    rw [perform]
    split
    · exact run_request devices _ request
    · exact .refl
  | .volume level => by
    rw [perform]
    split
    · exact .single (.volume _ level)
    · exact .refl
  | .change change => .single (.hardware _ _)
  | .report => .refl
  | .drop => by
    rw [perform]
    split
    · exact run_shutdown devices _
    · exact .refl
  | .shutdown => by
    rw [perform]
    split
    · exact (run_shutdown devices _).trans (run_join devices _)
    · exact .refl
  | .join => by
    rw [perform]
    split
    · exact run_join devices _
    · exact .refl
  | .batch steps => run_performAll scene steps

theorem run_performAll (scene : Scene) :
    ∀ steps, Run devices scene.session (scene.performAll steps).1.session
  | [] => .refl
  | step :: steps => (run_perform scene step).trans (run_performAll _ steps)

end

/-- A session stays reachable when a scenario takes a step and lets it settle. -/
theorem reachable_perform {config : Config} {scene : Scene}
    (h : Reachable devices config scene.session) (step : Step) :
    Reachable devices config ((scene.perform step).1.session.settle devices) := by
  obtain ⟨hardware, hrun⟩ := h
  exact ⟨hardware, (hrun.trans (run_perform scene step)).trans (run_settle devices _)⟩

end Scene

/-! ## A sample -/

namespace Sample

/-- A PAT: the programmes 1 and 2 have their PMTs on the PIDs `0x100` and `0x200`. -/
def pat : Bytes :=
  [0x00, 0xb0, 0x15, 0x00, 0x01, 0xc1, 0x00, 0x00, 0x00, 0x00, 0xe0, 0x10, 0x00, 0x01, 0xe1, 0x00,
    0x00, 0x02, 0xe2, 0x00, 0x00, 0x00, 0x00, 0x00]

/-- What `pat` decodes to. -/
def programmes : Pat where
  header :=
    { tableId := 0x00
      sectionSyntaxIndicator := true
      sectionLength := 21
      tableIdExtension := 1
      versionNumber := 0
      currentNextIndicator := true
      sectionNumber := 0
      lastSectionNumber := 0 }
  services := ⟨[⟨0, 0x10⟩, ⟨1, 0x100⟩, ⟨2, 0x200⟩], by decide⟩

/-- The PMT of programme 1: MPEG-2 video and MPEG-2 audio. -/
def pmt₁ : Bytes :=
  [0x02, 0xb0, 0x17, 0x00, 0x01, 0xc1, 0x00, 0x00, 0xe1, 0x01, 0xf0, 0x00, 0x02, 0xe1, 0x01, 0xf0,
    0x00, 0x04, 0xe1, 0x02, 0xf0, 0x00, 0x00, 0x00, 0x00, 0x00]

/-- What `pmt₁` decodes to. -/
def programme₁ : Pmt where
  header :=
    { tableId := 0x02
      sectionSyntaxIndicator := true
      sectionLength := 23
      tableIdExtension := 1
      versionNumber := 0
      currentNextIndicator := true
      sectionNumber := 0
      lastSectionNumber := 0
      pcrPid := 0x101
      programInfoLength := 0 }
  streams := ⟨[⟨0x02, 0x101, 0⟩, ⟨0x04, 0x102, 0⟩], by decide⟩

theorem ofSection?_pmt₁ : Table.ofSection? pmt₁ = some (.ok (.pmt programme₁)) := by
  decide +kernel

/-- The PMT of programme 2: MPEG-2 video. -/
def pmt₂ : Bytes :=
  [0x02, 0xb0, 0x12, 0x00, 0x02, 0xc1, 0x00, 0x00, 0xe1, 0x01, 0xf0, 0x00, 0x02, 0xe2, 0x01, 0xf0,
    0x00, 0x00, 0x00, 0x00, 0x00]

/-- Hardware that locks at once and sends the PAT to a filter for it. -/
def hardware : Hardware :=
  { script :=
    { canned := [{ pid := 0x0000, tableId := 0x00, bytes := pat }]
      lockStatuses := [.locked] } }

/-- The session that waits for the PMT of programme 1. -/
def tuned : Session Hardware := (start {} hardware).takeSteps devices 3

theorem run_tuned : Run devices (start {} hardware) tuned := run_takeSteps devices _ 3

theorem reachable_of_run {s : Session Hardware} (h : Run devices tuned s) :
    Reachable devices {} s :=
  ⟨hardware, run_tuned.trans h⟩

end Sample

end DvbReceiver.Simulation
