import Mathlib.Data.List.Perm.Subperm
import TcpSim.Lib.Runs

/-! A datagram channel: a message that is sent may be delivered out of order, lost, or delivered
more than once. -/

set_option autoImplicit false

variable {μ : Type}

structure Channel (μ : Type) where
  inFlight : List μ := []
  /-- History: what was sent, duplicated on the way, delivered and lost, each in its order. -/
  sent : List μ := []
  copied : List μ := []
  delivered : List μ := []
  lost : List μ := []

inductive ChannelAction (μ : Type) where
  | send (message : μ)
  /-- The message at a place among those in flight is delivered, lost or duplicated. -/
  | deliver (place : Nat)
  | lose (place : Nat)
  | copy (place : Nat)

/-- Nothing is lost, duplicated or overtaken. -/
def ChannelAction.InOrder : ChannelAction μ → Prop
  | .send _ => True
  | .deliver place => place = 0
  | .lose _ => False
  | .copy _ => False

namespace Channel

def step (self : Channel μ) : ChannelAction μ → Option (Channel μ)
  | .send message =>
      some { self with
        inFlight := self.inFlight ++ [message]
        sent := self.sent ++ [message] }
  | .deliver place => self.inFlight[place]?.map fun message =>
      { self with
        inFlight := self.inFlight.eraseIdx place
        delivered := self.delivered ++ [message] }
  | .lose place => self.inFlight[place]?.map fun message =>
      { self with
        inFlight := self.inFlight.eraseIdx place
        lost := self.lost ++ [message] }
  | .copy place => self.inFlight[place]?.map fun message =>
      { self with
        inFlight := self.inFlight ++ [message]
        copied := self.copied ++ [message] }

/-! ## Conservation -/

/-- What was put on the channel is what left it and what is still on it. -/
def Conserved (channel : Channel μ) : Prop :=
  (channel.delivered ++ channel.lost ++ channel.inFlight).Perm (channel.sent ++ channel.copied)

theorem perm_eraseIdx {messages : List μ} {place : Nat} {message : μ}
    (found : messages[place]? = some message) :
    messages.Perm (message :: messages.eraseIdx place) := by
  obtain ⟨inside, rfl⟩ := List.getElem?_eq_some_iff.mp found
  exact (List.getElem_cons_eraseIdx_perm inside).symm

theorem Conserved.step {channel next : Channel μ} {action : ChannelAction μ}
    (conserved : channel.Conserved) (taken : channel.step action = some next) : next.Conserved := by
  cases action with
  | send message =>
      cases taken
      have moved : (channel.sent ++ channel.copied ++ [message]).Perm
          (channel.sent ++ [message] ++ channel.copied) := by
        rw [List.append_assoc, List.append_assoc]
        exact List.perm_append_comm.append_left _
      refine List.Perm.trans ?_ moved
      rw [← List.append_assoc]
      exact conserved.append_right _
  | deliver place =>
      obtain ⟨message, found, rfl⟩ := Option.map_eq_some_iff.mp taken
      refine List.Perm.trans ?_ conserved
      have moved := (perm_eraseIdx found).symm.append_left (channel.delivered ++ channel.lost)
      refine List.Perm.trans ?_ moved
      simp only [List.append_assoc, List.singleton_append]
      exact (List.perm_middle.symm).append_left _
  | lose place =>
      obtain ⟨message, found, rfl⟩ := Option.map_eq_some_iff.mp taken
      refine List.Perm.trans ?_ conserved
      have moved := (perm_eraseIdx found).symm.append_left (channel.delivered ++ channel.lost)
      refine List.Perm.trans ?_ moved
      simp
  | copy place =>
      obtain ⟨message, found, rfl⟩ := Option.map_eq_some_iff.mp taken
      change (_ ++ (channel.inFlight ++ [message])).Perm (_ ++ (channel.copied ++ [message]))
      rw [← List.append_assoc, ← List.append_assoc]
      exact conserved.append_right _

/-- What is on the way, and what was duplicated on it, was sent. -/
structure Known (channel : Channel μ) : Prop where
  inFlight : channel.inFlight ⊆ channel.sent
  copied : channel.copied ⊆ channel.sent

theorem Known.step {channel next : Channel μ} {action : ChannelAction μ} (known : channel.Known)
    (taken : channel.step action = some next) : next.Known := by
  have fewer (place : Nat) : channel.inFlight.eraseIdx place ⊆ channel.sent :=
    fun _ member => known.inFlight ((List.eraseIdx_sublist _ place).subset member)
  cases action with
  | send message =>
      cases taken
      constructor
      · exact List.append_subset.mpr ⟨List.subset_append_of_subset_left _ known.inFlight,
          List.subset_append_right _ _⟩
      · exact List.subset_append_of_subset_left _ known.copied
  | deliver place =>
      obtain ⟨message, found, rfl⟩ := Option.map_eq_some_iff.mp taken
      exact ⟨fewer place, known.copied⟩
  | lose place =>
      obtain ⟨message, found, rfl⟩ := Option.map_eq_some_iff.mp taken
      exact ⟨fewer place, known.copied⟩
  | copy place =>
      obtain ⟨message, found, rfl⟩ := Option.map_eq_some_iff.mp taken
      have sent : [message] ⊆ channel.sent :=
        List.cons_subset.mpr ⟨known.inFlight (List.mem_of_getElem? found), List.nil_subset _⟩
      exact ⟨List.append_subset.mpr ⟨known.inFlight, sent⟩,
        List.append_subset.mpr ⟨known.copied, sent⟩⟩

/-! ## A channel without faults -/

structure InOrder (channel : Channel μ) : Prop where
  sent : channel.sent = channel.delivered ++ channel.inFlight
  copied : channel.copied = []
  lost : channel.lost = []

theorem InOrder.step {channel next : Channel μ} {action : ChannelAction μ}
    (ordered : channel.InOrder) (taken : channel.step action = some next)
    (faultless : action.InOrder) : next.InOrder := by
  cases action with
  | send message =>
      cases taken
      exact ⟨by rw [ordered.sent, List.append_assoc], ordered.copied, ordered.lost⟩
  | deliver place =>
      obtain ⟨message, found, rfl⟩ := Option.map_eq_some_iff.mp taken
      obtain rfl : place = 0 := faultless
      refine ⟨?_, ordered.copied, ordered.lost⟩
      cases flying : channel.inFlight with
      | nil => simp [flying] at found
      | cons first rest =>
          have same : first = message := by simpa [flying] using found
          simp [ordered.sent, flying, same]
  | lose place => cases faultless
  | copy place => cases faultless

end Channel
