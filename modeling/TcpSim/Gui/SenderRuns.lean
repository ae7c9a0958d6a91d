import TcpSim.Gui.SenderBlocks
import TcpSim.Lib.Runs

/-! Runs of interleaved start and stop requests: what runs stays referenced exactly as long
as every step is safe. -/

set_option autoImplicit false

namespace TcpSim.Gui.Interleaved

open Interleaving

structure Sane (system : System) : Prop where
  shared : system.shared.Valid
  points : ∀ point ∈ system.points, point.Valid system.shared

/-- The steps that take nothing running out of sight: all but the end of some awaits. -/
def Safe (self : System) : Event → Prop
  | .resume request _ => ∀ point, self.points[request]? = some point → point.Safe self.shared
  | _ => True

def Event.isEngineEnd : Event → Bool
  | .engineEnds _ => true
  | _ => false

theorem idleSystem_sane : Sane idleSystem where
  shared :=
    { transport := fun _ runs => by cases runs
      engine := fun _ runs => by cases runs
      activeTransport := fun _ active => by cases active
      currentEngine := fun _ current => by cases current }
  points := fun _ member => by cases member

theorem idleSystem_tracked : idleSystem.shared.Tracked where
  transport := fun _ runs => by cases runs
  engine := fun _ runs => by cases runs

/-! ## One step -/

theorem launch_sane {self : System} (sane : Sane self) {block : Block}
    (sound : Sound self.shared (block self.shared)) : Sane (self.launch block) where
  shared := sound.valid
  points := points_launch sane.points block (fun _ valid => valid.mono sound.grows) sound.point

theorem engineEnds_eq_some {self next : System} {engine : Nat}
    (taken : step self (.engineEnds engine) = some next) :
    self.shared.engines engine = .running ∧
      next = { self with shared := self.shared.setEngine engine .ended } := by
  simp only [step] at taken
  split at taken
  next runs => exact ⟨runs, (Option.some.inj taken).symm⟩
  next _ => cases taken

theorem step_sane {self next : System} {event : Event} (sane : Sane self)
    (taken : step self event = some next) : Sane next := by
  cases event with
  | startTransmission launch awaits =>
      obtain rfl := Option.some.inj taken
      exact launch_sane sane (startTransmission_sound awaits sane.shared launch)
  | stopTransport awaits =>
      obtain rfl := Option.some.inj taken
      exact launch_sane sane
        (stopTransport_sound awaits .nothing finish_soundAfter sane.shared)
  | resume request awaits =>
      obtain ⟨point, run, found, chosen, rfl⟩ := advance_eq_some.mp taken
      have known := sane.points point (List.mem_of_getElem? found)
      have leads := resume_leads awaits sane.shared known chosen
      exact ⟨leads.valid, points_set sane.points request (fun _ valid => valid.mono leads.grows)
        leads.point⟩
  | engineEnds engine =>
      obtain ⟨_, rfl⟩ := engineEnds_eq_some taken
      have grows : Grows self.shared (self.shared.setEngine engine .ended) :=
        setEngine_grows (by simp)
      exact ⟨setEngine_valid sane.shared (by simp), fun point member =>
        (sane.points point member).mono grows⟩

/-- A step other than the end of an engine by itself: what is out of sight stays so, and what
is in sight stays so exactly when the step is safe. -/
theorem step_tracked_iff {self next : System} {event : Event} (sane : Sane self)
    (external : event.isEngineEnd = false) (taken : step self event = some next) :
    next.shared.Tracked ↔ self.shared.Tracked ∧ Safe self event := by
  cases event with
  | startTransmission launch awaits =>
      obtain rfl := Option.some.inj taken
      exact (startTransmission_sound awaits sane.shared launch).tracked.trans
        (and_iff_left trivial).symm
  | stopTransport awaits =>
      obtain rfl := Option.some.inj taken
      exact (stopTransport_sound awaits .nothing finish_soundAfter sane.shared).tracked.trans
        (and_iff_left trivial).symm
  | resume request awaits =>
      obtain ⟨point, run, found, chosen, rfl⟩ := advance_eq_some.mp taken
      have known := sane.points point (List.mem_of_getElem? found)
      have leads := resume_leads awaits sane.shared known chosen
      have safe : Safe self (.resume request awaits) ↔ point.Safe self.shared := by
        simp [Safe, found]
      rw [safe]
      exact leads.tracked.trans (firstChange_tracked sane.shared known)
  | engineEnds engine => cases external

theorem engineEnds_tracked {self next : System} {engine : Nat} (sane : Sane self)
    (tracked : self.shared.Tracked) (taken : step self (.engineEnds engine) = some next) :
    next.shared.Tracked := by
  obtain ⟨runs, rfl⟩ := engineEnds_eq_some taken
  have quiet : Quiet self.shared (self.shared.setEngine engine .ended) :=
    setEngine_quiet sane.shared (tracked.engine engine runs) (by simp)
  exact quiet.tracked.mpr tracked

theorem step_tracked_iff_safe {self next : System} {event : Event} (sane : Sane self)
    (tracked : self.shared.Tracked) (taken : step self event = some next) :
    next.shared.Tracked ↔ Safe self event := by
  cases external : event.isEngineEnd with
  | false => exact (step_tracked_iff sane external taken).trans (and_iff_right tracked)
  | true =>
      cases event with
      | engineEnds engine => exact iff_of_true (engineEnds_tracked sane tracked taken) trivial
      | startTransmission launch awaits => cases external
      | stopTransport awaits => cases external
      | resume request awaits => cases external

/-! ## Runs -/

theorem tracked_iff_safe {events : List Event} {final : System}
    (ran : Runs.run step idleSystem events = some final) :
    (∀ visited, Runs.Visits step idleSystem events visited → visited.shared.Tracked) ↔
      Runs.Each step Safe idleSystem events :=
  Runs.stays_iff_each (fun _ => True) Sane (fun system => system.shared.Tracked) Safe
    (fun _ _ _ _ sane taken => step_sane sane taken)
    (fun _ _ _ _ sane tracked taken => step_tracked_iff_safe sane tracked taken)
    idleSystem_sane idleSystem_tracked (fun _ _ => trivial) ran

/-- Unless engines end by themselves, what is out of sight stays out of sight. -/
theorem final_tracked_iff_safe {events : List Event} {final : System}
    (external : ∀ event ∈ events, event.isEngineEnd = false)
    (ran : Runs.run step idleSystem events = some final) :
    final.shared.Tracked ↔ Runs.Each step Safe idleSystem events :=
  (Runs.final_iff_each (fun event => event.isEngineEnd = false) Sane
    (fun system => system.shared.Tracked) Safe
    (fun _ _ _ _ sane taken => step_sane sane taken)
    (fun _ _ _ external sane taken => step_tracked_iff sane external taken)
    idleSystem_sane external ran).trans (and_iff_right idleSystem_tracked)

end TcpSim.Gui.Interleaved
