import TcpSim.Transport.Streams

/-! Clients that join while records are broadcast one after the other: each gets the header and
then the records from some point on, without a gap. -/

set_option autoImplicit false

namespace TcpSim.Transport

variable {ι τ : Type}

def TcpServerConfig.settings (config : TcpServerConfig τ) : Settings τ where
  sendHeaderOnConnect := config.sendHeaderOnConnect
  headerPayload := config.headerPayload
  thresholds :=
    { highWatermarkBytes := config.queueHighWatermarkBytes
      lowWatermarkBytes := config.queueLowWatermarkBytes
      hardCapBytes := config.queueHardCapBytes
      slowClientTimeoutSeconds := config.slowClientTimeoutSeconds }
  sent := []

/-- The header first, then records without a gap; nothing at all where the header is over the
hard cap. -/
def TcpServerConfig.Stream (config : TcpServerConfig τ) (sent accepted : List (Payload τ)) : Prop :=
  if config.settings.turnsAway then accepted = []
  else ∃ segment, segment <:+: sent ∧ accepted = config.settings.greeting.toList ++ segment

/-- A client that is up to date has the records to the last one, a client that waits to the
last but one. -/
def TcpServerConfig.expectation (config : TcpServerConfig τ) (sent : List (Payload τ)) :
    Expectation τ where
  settings := { config.settings with sent }
  everyone := config.Stream sent
  upToDate accepted := config.settings.turnsAway = false ∧
    ∃ segment, segment <:+ sent ∧ accepted = config.settings.greeting.toList ++ segment
  awaiting accepted := config.settings.turnsAway = false ∧
    ∃ segment, segment <:+ sent.dropLast ∧ accepted = config.settings.greeting.toList ++ segment

namespace TcpServerConfig

variable (config : TcpServerConfig τ) (sent : List (Payload τ))

theorem stream_grows {accepted : List (Payload τ)} (stream : config.Stream sent accepted)
    (payload : Payload τ) : config.Stream (sent ++ [payload]) accepted := by
  unfold Stream at stream ⊢
  split at stream
  next turned =>
    rw [if_pos turned]
    exact stream
  next welcome =>
    rw [if_neg welcome]
    obtain ⟨segment, inside, shape⟩ := stream
    exact ⟨segment, inside.trans (List.prefix_append sent [payload]).isInfix, shape⟩

theorem expectation_waits {accepted : List (Payload τ)} {payload : Payload τ}
    (current : (config.expectation sent).upToDate accepted) :
    (config.expectation (sent ++ [payload])).awaiting accepted := by
  obtain ⟨welcome, segment, inside, shape⟩ := current
  refine ⟨welcome, segment, ?_, shape⟩
  rw [List.dropLast_concat]
  exact inside

theorem expectation_accepts (payload : Payload τ) :
    (config.expectation (sent ++ [payload])).Accepts payload := by
  intro accepted waits
  obtain ⟨welcome, segment, inside, shape⟩ := waits
  rw [List.dropLast_concat] at inside
  obtain ⟨before, whole⟩ := inside
  have reached : segment ++ [payload] <:+ sent ++ [payload] :=
    ⟨before, by rw [← List.append_assoc, whole]⟩
  refine ⟨?_, welcome, segment ++ [payload], reached, by rw [shape, List.append_assoc]⟩
  unfold expectation Stream
  simp only [welcome, Bool.false_eq_true, if_false]
  exact ⟨segment ++ [payload], reached.isInfix, by rw [shape, List.append_assoc]⟩

theorem stream_first : config.Stream sent (config.expectation sent).settings.firstAccepted := by
  have same : (config.expectation sent).settings.turnsAway = config.settings.turnsAway := rfl
  unfold Stream Settings.firstAccepted
  rw [same]
  split
  · rfl
  · exact ⟨[], List.nil_infix, (List.append_nil _).symm⟩

theorem expectation_first (welcome : (config.expectation sent).settings.turnsAway = false) :
    (config.expectation sent).upToDate (config.expectation sent).settings.firstAccepted := by
  refine ⟨welcome, [], List.nil_suffix, ?_⟩
  unfold Settings.firstAccepted
  rw [welcome, List.append_nil]
  rfl

end TcpServerConfig

namespace System

variable [DecidableEq ι]

/-- No broadcast begins while an earlier one has clients left, even if that was cancelled, the
header stays as it is, and no two connections have the same name. -/
def Joinable (self : System ι τ) : ServerAction ι τ → Prop
  | .connect id => ∀ state ∈ self.shared.connectionManager.states, state.clientId ≠ id
  | .broadcast _ _ => self.pendings false = []
  | .updateHeader _ _ => False
  | _ => True

instance (self : System ι τ) (action : ServerAction ι τ) : Decidable (self.Joinable action) :=
  match action with
  | .connect id => inferInstanceAs
      (Decidable (∀ state ∈ self.shared.connectionManager.states, state.clientId ≠ id))
  | .broadcast _ _ => decidable_of_iff ((self.pendings false).isEmpty = true) List.isEmpty_iff
  | .updateHeader _ _ => .isFalse id
  | .resume _ _ | .closeCancelled _ | .cancelBroadcast _ | .stop | .tick _ => .isTrue trivial

theorem step_late_joiners {config : TcpServerConfig τ} {self next : System ι τ}
    {action : ServerAction ι τ} (joinable : self.Joinable action)
    (held : ∃ sent, self.Streaming (config.expectation sent))
    (taken : self.step action = some next) :
    ∃ sent, next.Streaming (config.expectation sent) := by
  obtain ⟨sent, held⟩ := held
  cases action with
  | connect id =>
      have settings := held.streams.settings
      refine ⟨sent, connect_streaming held taken ?_ ?_ ?_⟩
      · rw [settings]
        exact config.stream_first sent
      · rw [settings]
        exact config.expectation_first sent
      · intro named
        obtain ⟨state, member, same⟩ :=
          List.mem_map.mp (held.streams.remainingNamed id named)
        exact absurd same (joinable state member)
  | resume task ok => exact ⟨sent, resume_streaming held taken⟩
  | closeCancelled task => exact ⟨sent, closeCancelled_streaming held taken⟩
  | broadcast payload order =>
      by_cases empty : payload.bytes = []
      · exact ⟨sent, broadcast_empty_streaming held taken empty⟩
      · exact ⟨sent ++ [payload], broadcast_streaming held joinable rfl rfl taken
          (fun _ stream => config.stream_grows sent stream payload)
          (fun _ _ _ _ current => config.expectation_waits sent current)
          (config.expectation_accepts sent payload) empty⟩
  | cancelBroadcast task => exact ⟨sent, cancelBroadcast_streaming held taken⟩
  | updateHeader sendHeaderOnConnect headerPayload => exact joinable.elim
  | stop => exact ⟨sent, stop_streaming held taken⟩
  | tick now => exact ⟨sent, tick_streaming held taken⟩

/-- Each client accepts the header and then a contiguous part of the broadcast payloads, and
its writer is given a prefix of that. -/
theorem late_joiners_contiguous (config : TcpServerConfig τ) {final : System ι τ}
    {actions : List (ServerAction ι τ)}
    (each : Runs.Each step Joinable (started config) actions)
    (ran : Runs.run step (started config) actions = some final) :
    ∀ state ∈ final.shared.connectionManager.states,
      config.Stream final.shared.sent state.accepted ∧
        state.writer.written <+: state.accepted := by
  obtain ⟨sent, held⟩ := each.visits_invariant
    (fun system => ∃ sent, system.Streaming (config.expectation sent))
    (fun _ _ _ joinable held taken => step_late_joiners joinable held taken)
    ⟨[], started_streaming config _ rfl⟩ ⟨actions, List.prefix_rfl, ran⟩
  have same : final.shared.sent = sent := congrArg Settings.sent held.streams.settings
  intro state member
  rw [same]
  refine ⟨held.streams.everyone state member, state.queuedPayloads, ?_⟩
  exact held.streams.delivers state member

/-- The second client joins after the first record. -/
def secondClientJoins : List (ServerAction String Nat) :=
  [.connect "a", .resume 2 true, .broadcast ⟨[1], 1⟩ ["a"], .connect "b",
    .broadcast ⟨[2], 2⟩ ["a", "b"], .resume 1 true, .resume 5 true]

theorem late_joiners_contiguous_two_clients : ∃ final,
    Runs.run step (started { sendHeaderOnConnect := true, headerPayload := some ⟨[0], 0⟩ })
      secondClientJoins = some final ∧
    ∀ state ∈ final.shared.connectionManager.states,
      ({ sendHeaderOnConnect := true, headerPayload := some ⟨[0], 0⟩ } :
        TcpServerConfig Nat).Stream final.shared.sent state.accepted ∧
        state.writer.written <+: state.accepted := by
  have possible : (Runs.run step
      (started { sendHeaderOnConnect := true, headerPayload := some ⟨[0], 0⟩ })
      secondClientJoins).isSome = true := by decide +kernel
  obtain ⟨final, ran⟩ := Option.isSome_iff_exists.mp possible
  exact ⟨final, ran, late_joiners_contiguous _ (by decide +kernel) ran⟩

example : (Runs.run step
    (started { sendHeaderOnConnect := true, headerPayload := some ⟨[0], 0⟩ })
    secondClientJoins).map (fun final => final.shared.connectionManager.states.map fun state =>
      (state.accepted.map (·.tag), state.writer.written.map (·.tag))) =
    some [([0, 1, 2], [0]), ([0, 2], [])] := by decide +kernel

end System

end TcpSim.Transport
