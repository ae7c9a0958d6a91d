import TcpSim.Engine.DatagramReception

/-! A datagram that the filter of the client rejects leaves no trace but its count: without it
the run goes on the same way. -/

set_option autoImplicit false

namespace TcpSim.Engine

open Transport

def forgetClient (client : UdpClientReceiver) : UdpClientReceiver :=
  { client with packetsFiltered := 0 }

/-- The receiver, but for the number of datagrams filtered out. -/
def forgetFiltered : UdpReceiver → UdpReceiver
  | .server receiver => .server receiver
  | .client receiver => .client (forgetClient receiver)

section Client

variable (client : UdpClientReceiver)

theorem sendHello_forget : (forgetClient client).sendHello = forgetClient client.sendHello := by
  have hello : (forgetClient client).hello = client.hello := rfl
  have isOpen : (forgetClient client).transportOpen = client.transportOpen := rfl
  simp only [UdpClientReceiver.sendHello, hello, isOpen]
  split <;> rfl

theorem startHello_forget : (forgetClient client).startHello = forgetClient client.startHello := by
  have hello : (forgetClient client).hello = client.hello := rfl
  have config : (forgetClient client).config = client.config := rfl
  simp only [UdpClientReceiver.startHello, hello, config, sendHello_forget]
  split
  · split <;> rfl
  · rfl

theorem start_forget (endpoint : Except String (Option Int)) :
    (forgetClient client).start endpoint = forgetClient (client.start endpoint) := by
  have running : (forgetClient client).running = client.running := rfl
  simp only [UdpClientReceiver.start, running]
  split
  · rfl
  · split
    · rfl
    next sockname =>
        exact startHello_forget ({ client with transportOpen := true, running := true }.emit
          (.receiverBound client.config.localHost (sockname.getD client.config.localPort)
            client.config.remote))

theorem stop_forget : (forgetClient client).stop = forgetClient client.stop := by
  have running : (forgetClient client).running = client.running := rfl
  have task : (forgetClient client).helloTask = client.helloTask := rfl
  simp only [UdpClientReceiver.stop, running, task]
  split
  · split <;> rfl
  · rfl

theorem helloWakes_forget : (forgetClient client).helloWakes = forgetClient client.helloWakes := by
  have running : (forgetClient client).running = client.running := rfl
  simp only [UdpClientReceiver.helloWakes, running]
  split
  · exact sendHello_forget client
  · rfl

end Client

section Receiver

variable (receiver : UdpReceiver)

theorem forgetFiltered_transportOpen :
    (forgetFiltered receiver).transportOpen = receiver.transportOpen := by
  cases receiver <;> rfl

theorem forgetFiltered_stopWaits : (forgetFiltered receiver).stopWaits = receiver.stopWaits := by
  cases receiver <;> rfl

theorem forgetFiltered_emit (event : DatagramEvent) :
    (forgetFiltered receiver).emit event = forgetFiltered (receiver.emit event) := by
  cases receiver <;> rfl

theorem forgetFiltered_start (endpoint : Except String (Option Int)) :
    (forgetFiltered receiver).start endpoint = forgetFiltered (receiver.start endpoint) := by
  cases receiver with
  | server receiver => rfl
  | client client => exact congrArg UdpReceiver.client (start_forget client endpoint)

theorem forgetFiltered_stop : (forgetFiltered receiver).stop = forgetFiltered receiver.stop := by
  cases receiver with
  | server receiver => rfl
  | client client => exact congrArg UdpReceiver.client (stop_forget client)

theorem forgetFiltered_stopReturns :
    (forgetFiltered receiver).stopReturns = receiver.stopReturns.map forgetFiltered := by
  cases receiver with
  | server receiver => rfl
  | client client =>
      have task : (forgetClient client).helloTask = client.helloTask := rfl
      simp only [forgetFiltered, UdpReceiver.stopReturns, task]
      split <;> rfl

theorem forgetFiltered_helloWakes :
    (forgetFiltered receiver).helloWakes = receiver.helloWakes.map forgetFiltered := by
  cases receiver with
  | server receiver => rfl
  | client client =>
      have task : (forgetClient client).helloTask = client.helloTask := rfl
      simp only [forgetFiltered, UdpReceiver.helloWakes, task, helloWakes_forget]
      split <;> rfl

end Receiver

section Datagram

variable {receiver : UdpReceiver} {arrival : Arrival}

theorem onDatagram_forgetFiltered (admits : (admissionOf receiver).admits arrival = true) :
    (forgetFiltered receiver).onDatagram arrival.1 arrival.2 =
      ((receiver.onDatagram arrival.1 arrival.2).1,
        forgetFiltered (receiver.onDatagram arrival.1 arrival.2).2) := by
  cases receiver with
  | server receiver => rfl
  | client client =>
      have wanted := (admits_client_iff client arrival).mp admits
      have forgotten := (admits_client_iff (forgetClient client) arrival).mp admits
      simp only [forgetFiltered, UdpReceiver.onDatagram, UdpClientReceiver.onDatagram,
        if_neg wanted, if_neg forgotten]
      rfl

theorem onDatagram_rejected (rejects : (admissionOf receiver).admits arrival = false) :
    (receiver.onDatagram arrival.1 arrival.2).1 = none ∧
      forgetFiltered (receiver.onDatagram arrival.1 arrival.2).2 = forgetFiltered receiver := by
  cases receiver with
  | server receiver => cases rejects
  | client client =>
      have foreign : client.config.filterRemotePeer = true ∧
          (arrival.2.host ≠ client.config.host ∨ arrival.2.port ≠ client.config.port) := by
        by_contra wanted
        rw [(admits_client_iff client arrival).mpr wanted] at rejects
        cases rejects
      simp only [UdpReceiver.onDatagram, UdpClientReceiver.onDatagram, if_pos foreign]
      exact ⟨trivial, rfl⟩

end Datagram

namespace DatagramEngine

variable (self : DatagramEngine)

def forget : DatagramEngine := { self with receiver := forgetFiltered self.receiver }

theorem takeSink_forget (sink : SinkWriter) :
    self.forget.takeSink sink = (self.takeSink sink).forget := by
  have receiver := takeSink_receiver self sink
  have forgotten := takeSink_receiver self.forget sink
  simp only [takeSink, forget] at receiver forgotten ⊢
  rw [receiver, forgotten]

theorem handleRecord_forget (src : String) (record : FramedRecord) :
    self.forget.handleRecord src record = (self.handleRecord src record).forget := by
  rw [handleRecord_eq, handleRecord_eq]
  have sink : self.forget.sink = self.sink := rfl
  rw [sink, takeSink_forget]
  split
  · rfl
  · simp only [forget]
    cases (self.takeSink (self.sink.submit record src).2).receiver <;> rfl

/-- What the filter lets through, and everything that is not a datagram. -/
def wanted (admission : Admission) (action : DatagramAction) : Bool :=
  action.arrival.all admission.admits

variable {self}

theorem onDatagram_forget {arrival : Arrival}
    (admits : (admissionOf self.receiver).admits arrival = true) :
    self.forget.onDatagram arrival.1 arrival.2 = (self.onDatagram arrival.1 arrival.2).forget := by
  have receiver : self.forget.receiver = forgetFiltered self.receiver := rfl
  unfold onDatagram
  rw [receiver, onDatagram_forgetFiltered admits]
  rcases self.receiver.onDatagram arrival.1 arrival.2 with ⟨delivery, after⟩
  cases delivery with
  | none => rfl
  | some delivery => exact handleRecord_forget { self with receiver := after } delivery.1 delivery.2

theorem onDatagram_unwanted {arrival : Arrival}
    (rejects : (admissionOf self.receiver).admits arrival = false) :
    (self.onDatagram arrival.1 arrival.2).forget = self.forget := by
  have outcome := onDatagram_rejected rejects
  unfold onDatagram
  generalize self.receiver.onDatagram arrival.1 arrival.2 = result at outcome ⊢
  obtain ⟨delivery, after⟩ := result
  obtain ⟨rfl, same⟩ := outcome
  simp only [forget]
  rw [same]

theorem step_forget {next : DatagramEngine} {action : DatagramAction}
    (wants : wanted (admissionOf self.receiver) action = true) (taken : self.step action = some next) :
    self.forget.step action = some next.forget := by
  have receiver : self.forget.receiver = forgetFiltered self.receiver := rfl
  cases action with
  | sink action =>
      simp only [step] at taken ⊢
      split at taken
      · cases taken
      next silent =>
          obtain ⟨sink, sinkTaken, rfl⟩ := Option.map_eq_some_iff.mp taken
          rw [if_neg silent]
          change (self.sink.step action).map self.forget.takeSink = _
          rw [sinkTaken, Option.map_some, takeSink_forget]
  | start endpoint =>
      simp only [step, receiver, forgetFiltered_stopWaits, forgetFiltered_start] at taken ⊢
      split at taken
      · cases taken
      · cases taken
        rw [if_neg ‹_›]
        rfl
  | datagram data addr =>
      have admits : (admissionOf self.receiver).admits (data, addr) = true := wants
      simp only [step, receiver, forgetFiltered_transportOpen] at taken ⊢
      split at taken
      next isOpen =>
          cases taken
          rw [if_pos isOpen]
          exact congrArg some (onDatagram_forget admits)
      · cases taken
  | errorReceived error =>
      simp only [step, receiver, forgetFiltered_transportOpen, forgetFiltered_emit] at taken ⊢
      split at taken
      next isOpen =>
          cases taken
          rw [if_pos isOpen]
          rfl
      · cases taken
  | helloWakes =>
      obtain ⟨after, wakes, rfl⟩ := Option.map_eq_some_iff.mp taken
      simp only [step, receiver, forgetFiltered_helloWakes, wakes, Option.map_some]
      rfl
  | stop =>
      cases taken
      simp only [step, receiver, forgetFiltered_stop]
      rfl
  | stopReturns =>
      obtain ⟨after, returns, rfl⟩ := Option.map_eq_some_iff.mp taken
      simp only [step, receiver, forgetFiltered_stopReturns, returns, Option.map_some]
      rfl

theorem step_unwanted {next : DatagramEngine} {action : DatagramAction}
    (unwanted : wanted (admissionOf self.receiver) action = false)
    (taken : self.step action = some next) : next.forget = self.forget := by
  cases action with
  | datagram data addr =>
      have rejects : (admissionOf self.receiver).admits (data, addr) = false := unwanted
      simp only [step] at taken
      split at taken
      · cases taken
        exact onDatagram_unwanted rejects
      · cases taken
  | _ => cases unwanted

theorem step_admission {next : DatagramEngine} {action : DatagramAction}
    (taken : self.step action = some next) : admissionOf next.receiver = admissionOf self.receiver := by
  cases steps_of_step taken with
  | sink => rw [takeSink_receiver]
  | transport quiet same => exact congrArg (·.1) same
  | arrives arrival =>
      have outcome := onDatagram_taken self.receiver arrival
      unfold onDatagram
      generalize self.receiver.onDatagram arrival.1 arrival.2 = result at outcome
      cases outcome with
      | @admitted receiver admits counted =>
          have config : admissionOf receiver = admissionOf self.receiver := congrArg (·.1) counted
          dsimp only
          rw [handleRecord_eq]
          split
          · rw [takeSink_receiver, config]
          · rw [takeSink_receiver, ← config]
            cases receiver <;> rfl
      | filtered rejects counted => exact congrArg (·.1) counted

end DatagramEngine

/-- Leave out of a run all datagrams that the filter rejects: the rest is still a run, and it ends
in the same state, but for the number of datagrams filtered out. -/
theorem filtered_leave_no_trace {engine final : DatagramEngine} {actions : List DatagramAction}
    (ran : Runs.run DatagramEngine.step engine actions = some final) :
    Runs.run DatagramEngine.step engine.forget
        (actions.filter (DatagramEngine.wanted (admissionOf engine.receiver))) =
      some final.forget := by
  have mirrored : ∃ after, Runs.run DatagramEngine.step engine.forget (actions.flatMap fun action =>
      [action].filter (DatagramEngine.wanted (admissionOf engine.receiver))) = some after ∧
        after = final.forget ∧ admissionOf final.receiver = admissionOf engine.receiver := by
    refine Runs.run_simulates _ (fun state image => image = DatagramEngine.forget state ∧
      admissionOf state.receiver = admissionOf engine.receiver) ?_ ⟨rfl, rfl⟩ ran
    rintro state _ action next ⟨rfl, config⟩ taken
    refine ⟨next.forget, ?_, rfl, (DatagramEngine.step_admission taken).trans config⟩
    rw [← config]
    cases wants : DatagramEngine.wanted (admissionOf state.receiver) action with
    | true =>
        rw [List.filter_cons_of_pos wants]
        exact Runs.run_cons_eq_some.mpr ⟨_, DatagramEngine.step_forget wants taken, rfl⟩
    | false =>
        rw [List.filter_cons_of_neg (by simp [wants])]
        exact congrArg some (DatagramEngine.step_unwanted wants taken).symm
  obtain ⟨after, reached, rfl, _⟩ := mirrored
  rw [← reached, ← List.filter_flatMap]
  simp

theorem filtered_leave_no_trace_long_foreign_dropped : ∃ final,
    Runs.run DatagramEngine.step (DatagramEngine.init filteringClient twoByteQueue fun _ => none)
      longForeignDropped = some final ∧
    Runs.run DatagramEngine.step
        (DatagramEngine.init filteringClient twoByteQueue fun _ => none).forget
        (longForeignDropped.filter (DatagramEngine.wanted (admissionOf
          (DatagramEngine.init filteringClient twoByteQueue fun _ => none).receiver))) =
      some final.forget := by
  have reached : (Runs.run DatagramEngine.step
      (DatagramEngine.init filteringClient twoByteQueue fun _ => none)
      longForeignDropped).isSome = true := by decide +kernel
  obtain ⟨final, ran⟩ := Option.isSome_iff_exists.mp reached
  exact ⟨final, ran, filtered_leave_no_trace ran⟩

end TcpSim.Engine
