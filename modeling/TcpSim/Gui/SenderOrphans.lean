import TcpSim.Gui.SenderCoverage

/-! Interleaved start and stop requests of the sender: when nothing that was started is left
behind, and the stop that overtakes a start. -/

set_option autoImplicit false

namespace TcpSim.Gui.Interleaved

open Interleaving

/-! ## A stop on its own -/

structure Pipeline.Quiescent (pipeline : Pipeline) : Prop where
  transport : ∀ transport, (pipeline.transports transport).started = false
  engine : ∀ engine, pipeline.engines engine ≠ .running

/-- How far a stop has come that no other request runs beside. -/
def Point.Stopped (pipeline : Pipeline) : Point → Prop
  | .done => pipeline.Quiescent
  | .statsStopping .nothing => pipeline.Tracked
  | .engineStopping engine .nothing => (pipeline.clearEngine engine).Tracked
  | .transportStopping _ .nothing => pipeline.clearTransport.Tracked ∧ pipeline.engine = none
  | _ => False

theorem Pipeline.Tracked.quiescent {self : Pipeline} (tracked : self.Tracked)
    (vacant : self.activeTransport = none) (absent : self.engine = none) : self.Quiescent where
  transport := by
    intro transport
    cases runs : (self.transports transport).started with
    | false => rfl
    | true =>
        have active := tracked.transport transport runs
        rw [vacant] at active
        cases active
  engine := by
    intro engine runs
    have current := tracked.engine engine runs
    rw [absent] at current
    cases current

theorem stopActiveTransport_stopped (awaits : StopAwaits) {self : Pipeline} (valid : self.Valid)
    (tracked : self.Tracked) (absent : self.engine = none) :
    (stopActiveTransport awaits .nothing finish self).2.Stopped
      (stopActiveTransport awaits .nothing finish self).1 := by
  unfold stopActiveTransport
  split
  next vacant => exact tracked.quiescent vacant absent
  next transport active =>
    have halted : (self.setStarted transport false).TransportStopped := by
      intro other published
      obtain rfl := Option.some.inj (active.symm.trans published)
      exact setStarted_started_self transport false
    split
    next _ =>
      have stillTracked := (setStarted_quiet valid active false).tracked.mpr tracked
      exact ⟨clearTransport_tracked.mpr ⟨stillTracked, halted⟩, absent⟩
    next atOnce =>
      have stopped : self.TransportStopped := by
        intro other published
        obtain rfl := Option.some.inj (active.symm.trans published)
        exact Transport.stopped_of_not_givesWay (Bool.eq_false_iff.mpr atOnce)
      exact (clearTransport_tracked.mpr ⟨tracked, stopped⟩).quiescent rfl absent

theorem stopEngine_stopped (awaits : StopAwaits) {self : Pipeline} (valid : self.Valid)
    (tracked : self.Tracked) :
    (stopEngine awaits .nothing finish self).2.Stopped
      (stopEngine awaits .nothing finish self).1 := by
  unfold stopEngine
  split
  next absent => exact stopActiveTransport_stopped awaits valid tracked absent
  next engine current =>
    split
    next _ =>
      have stops := EngineTask.cancel_ne_running (self.engines engine)
      have cancelled := (setEngine_quiet valid current stops).tracked.mpr tracked
      have ended : (self.setEngine engine (self.engines engine).cancel).engines engine ≠
          .running := by
        rw [setEngine_self]
        exact stops
      refine (clearEngine_tracked ended).mpr ⟨cancelled, ?_⟩
      intro other referenced
      obtain rfl := Option.some.inj (current.symm.trans referenced)
      exact ended
    next atOnce =>
      have ended := EngineTask.not_running_of_not_givesWay (Bool.eq_false_iff.mpr atOnce)
      have stopped : self.EngineStopped := by
        intro other referenced
        obtain rfl := Option.some.inj (current.symm.trans referenced)
        exact ended
      exact stopActiveTransport_stopped awaits (clearEngine_valid valid engine)
        ((clearEngine_tracked ended).mpr ⟨tracked, stopped⟩) rfl

theorem stopTransport_stopped (awaits : StopAwaits) {self : Pipeline} (valid : self.Valid)
    (tracked : self.Tracked) :
    (stopTransport awaits .nothing finish self).2.Stopped
      (stopTransport awaits .nothing finish self).1 := by
  unfold stopTransport
  split
  · exact tracked
  · have quiet := setStats_quiet valid false
    exact stopEngine_stopped awaits quiet.valid (quiet.tracked.mpr tracked)

theorem resume_stopped (awaits : StopAwaits) {self : Pipeline} (valid : self.Valid) {point : Point}
    (stopped : point.Stopped self) {run : Block} (chosen : point.resume awaits = some run) :
    (run self).2.Stopped (run self).1 := by
  cases point with
  | done => cases chosen
  | statsStopping after =>
      cases after with
      | nothing =>
          cases chosen
          have quiet := setStats_quiet valid false
          exact stopEngine_stopped awaits quiet.valid (quiet.tracked.mpr stopped)
      | build launch => cases stopped
  | engineStopping engine after =>
      cases after with
      | nothing =>
          cases chosen
          exact stopActiveTransport_stopped awaits (clearEngine_valid valid engine) stopped rfl
      | build launch => cases stopped
  | transportStopping transport after =>
      cases after with
      | nothing =>
          cases chosen
          exact stopped.1.quiescent rfl stopped.2
      | build launch => cases stopped
  | transportStarting transport launch => cases stopped
  | engineStarting => cases stopped

def Event.isResume : Event → Bool
  | .resume _ _ => true
  | _ => false

/-- Every request is over, but for the last one, which stops the sender. -/
structure StoppingAlone (system : System) : Prop where
  sane : Sane system
  alone : ∃ past point, system.points = past ++ [point] ∧ (∀ other ∈ past, other = .done) ∧
    point.Stopped system.shared

theorem stop_alone {self : System} (sane : Sane self) (tracked : self.shared.Tracked)
    (idle : self.Idle .done) (awaits : StopAwaits) :
    StoppingAlone (self.launch (stopTransport awaits .nothing finish)) where
  sane := launch_sane sane (stopTransport_sound awaits .nothing finish_soundAfter sane.shared)
  alone := ⟨self.points, _, rfl, idle, stopTransport_stopped awaits sane.shared tracked⟩

theorem resume_alone {self next : System} {request : Nat} {awaits : StopAwaits}
    (alone : StoppingAlone self) (taken : step self (.resume request awaits) = some next) :
    StoppingAlone next := by
  have sane := step_sane alone.sane taken
  obtain ⟨past, last, shape, others, stopped⟩ := alone.alone
  obtain ⟨point, run, found, chosen, rfl⟩ := advance_eq_some.mp taken
  -- a request that is over is not resumed, so the one that runs is the last
  have running : ¬request < past.length := by
    intro early
    rw [shape, List.getElem?_append_left early] at found
    rw [others point (List.mem_of_getElem? found)] at chosen
    cases chosen
  have position : request = past.length := by
    have inside := (List.getElem?_eq_some_iff.mp found).1
    rw [shape, List.length_append, List.length_singleton] at inside
    omega
  subst position
  rw [shape, List.getElem?_concat_length] at found
  obtain rfl := Option.some.inj found
  refine ⟨sane, past, (run self.shared).2, ?_, others,
    resume_stopped awaits alone.sane.shared stopped chosen⟩
  simp [shape]

theorem StoppingAlone.quiescent {self : System} (alone : StoppingAlone self)
    (idle : self.Idle .done) : self.shared.Quiescent := by
  obtain ⟨past, last, shape, _, stopped⟩ := alone.alone
  have finished : last = .done := idle last (by simp [shape])
  rw [finished] at stopped
  exact stopped

/-- A stop that runs while no other request does leaves nothing running. -/
def StopsEverything (self : System) : Prop :=
  ∀ awaits resumes final, (∀ event ∈ resumes, Event.isResume event = true) →
    Runs.run step self (.stopTransport awaits :: resumes) = some final →
    final.Idle .done → final.shared.Quiescent

theorem stopsEverything_of_tracked {self : System} (sane : Sane self)
    (tracked : self.shared.Tracked) (idle : self.Idle .done) : StopsEverything self := by
  intro awaits resumes final only ran finished
  obtain ⟨next, taken, rest⟩ := Runs.run_cons_eq_some.mp ran
  obtain rfl := Option.some.inj taken
  have alone := Runs.run_invariant_of (fun event => Event.isResume event = true) StoppingAlone
    (fun state event after resumes held taken => by
      cases event with
      | resume request awaits => exact resume_alone held taken
      | startTransmission launch awaits => cases resumes
      | stopTransport awaits => cases resumes
      | engineEnds engine => cases resumes)
    (stop_alone sane tracked idle awaits) only rest
  exact alone.quiescent finished

/-! ## Runs -/

theorem idleSystem_covered : Covered idleSystem where
  transport := fun _ active => by cases active
  engine := fun _ current => by cases current

theorem exactly_of_safe {events : List Event} {visited : System}
    (each : Runs.Each step (fun self event => Safe self event ∧ Handled self event) idleSystem
      events)
    (visits : Runs.Visits step idleSystem events visited) (idle : visited.Idle .done) :
    visited.shared.Exactly ∧ StopsEverything visited := by
  obtain ⟨sane, tracked, covered⟩ := each.visits_invariant
    (fun system => Sane system ∧ system.shared.Tracked ∧ Covered system)
    (fun _ _ _ met held taken => ⟨step_sane held.1 taken,
      (step_tracked_iff_safe held.1 held.2.1 taken).mpr met.1,
      step_covered held.1 held.2.2 met.2 taken⟩)
    ⟨idleSystem_sane, idleSystem_tracked, idleSystem_covered⟩ visits
  exact ⟨exactly_of_idle tracked covered idle, stopsEverything_of_tracked sane tracked idle⟩

/-- What runs stays referenced exactly along the safe steps; unless engines end by themselves,
an unsafe step leaves something behind for good. After safe steps that raise nothing unhandled,
what runs is exactly what is referenced whenever no request is in progress. -/
theorem sender_pipeline_referenced_iff {events : List Event} {final : System}
    (ran : Runs.run step idleSystem events = some final) :
    ((∀ visited, Runs.Visits step idleSystem events visited → visited.shared.Tracked) ↔
      Runs.Each step Safe idleSystem events) ∧
    ((∀ event ∈ events, event.isEngineEnd = false) →
      (final.shared.Tracked ↔ Runs.Each step Safe idleSystem events)) ∧
    (Runs.Each step (fun self event => Safe self event ∧ Handled self event) idleSystem events →
      ∀ visited, Runs.Visits step idleSystem events visited → visited.Idle .done →
        visited.shared.Exactly ∧ StopsEverything visited) :=
  ⟨tracked_iff_safe ran, fun external => final_tracked_iff_safe external ran,
    fun each _ visits idle => exactly_of_safe each visits idle⟩

def serverLaunch : Launch where
  settings := { mode := "server", protocol := "tcp", host := "127.0.0.1", port := 5565 }

/-- A start that completes, and then a stop. -/
def startThenStop : List Event :=
  [.startTransmission serverLaunch {}, .resume 0 {}, .resume 0 {}, .stopTransport {},
    .resume 1 {}, .resume 1 {}, .resume 1 {}]

theorem sender_pipeline_referenced_server : ∃ final,
    Runs.run step idleSystem startThenStop = some final ∧
      (final.shared.Tracked ↔ Runs.Each step Safe idleSystem startThenStop) := by
  have possible : (Runs.run step idleSystem startThenStop).isSome = true := by decide +kernel
  have ran := (Option.some_get possible).symm
  exact ⟨_, ran, (sender_pipeline_referenced_iff ran).2.1 (by decide)⟩

/-- The stop comes while the server is being started. -/
def stopDuringStart : List Event :=
  [.startTransmission serverLaunch {}, .stopTransport {}, .resume 0 {}, .resume 0 {}]

theorem stopDuringStart_orphans : ∃ final,
    Runs.run step idleSystem stopDuringStart = some final ∧ final.Idle .done ∧
      (final.shared.transports 0).started = true ∧ final.shared.activeTransport = none ∧
      ¬final.shared.Exactly := by
  have possible : (Runs.run step idleSystem stopDuringStart).isSome = true := by decide +kernel
  have bothDone : (Runs.run step idleSystem stopDuringStart).map (·.points) =
      some [.done, .done] := by decide +kernel
  have running : (Runs.run step idleSystem stopDuringStart).map
      (fun final => (final.shared.transports 0).started) = some true := by decide +kernel
  have cleared : (Runs.run step idleSystem stopDuringStart).map
      (·.shared.activeTransport) = some none := by decide +kernel
  obtain ⟨final, ran⟩ := Option.isSome_iff_exists.mp possible
  rw [ran] at bothDone running cleared
  have points : final.points = [.done, .done] := Option.some.inj bothDone
  have runs : (final.shared.transports 0).started = true := Option.some.inj running
  have unpublished : final.shared.activeTransport = none := Option.some.inj cleared
  refine ⟨final, ran, ?_, runs, unpublished, ?_⟩
  · intro point member
    rw [points] at member
    simpa using member
  · intro exact
    have published := (exact.transport 0).mp runs
    rw [unpublished] at published
    cases published

end TcpSim.Gui.Interleaved
