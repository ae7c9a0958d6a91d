import TcpSim.Engine.Framer
import TcpSim.Lib.OrderedDict
import Mathlib.Data.Rat.Defs

/-! The UDP sender: it remembers who sent it a datagram lately and replies to them, or sends
to a multicast group. Readings of the clock are arguments; `ι` is the type of addresses. -/

set_option autoImplicit false

namespace TcpSim.Transport

open Engine

inductive RecipientMode where
  | replyToSenders
  | multicast
  deriving DecidableEq, Repr

structure UdpServerConfig (ι : Type) where
  port : Nat := 5565
  recipientMode : RecipientMode := .replyToSenders
  /-- `multicast_host` and `multicast_port`. -/
  multicastAddress : ι
  recipientCacheTtlSeconds : ℚ := 300
  recipientCacheMaxEntries : Nat := 256

inductive UdpEvent where
  | serverStarted (port : Nat)
  | serverStopped
  | sendMulticast (bytes : Nat)
  | sendReply (recipients bytes : Nat)
  | recipientEvicted (policy : String)
  | recipientExpired (count : Nat)
  deriving DecidableEq, Repr

structure UdpServerSender (ι : Type) where
  config : UdpServerConfig ι
  /-- `_transport` is not `None`. -/
  transportOpen : Bool := false
  recipientCache : OrderedDict ι ℚ := .empty
  running : Bool := false
  boundPort : Nat := config.port
  events : List UdpEvent := []
  /-- History: the arguments of `sendto`. -/
  datagrams : List (Bytes × ι) := []

variable {ι : Type}

namespace UdpServerSender

def init (config : UdpServerConfig ι) : UdpServerSender ι := { config }

def emit (self : UdpServerSender ι) (event : UdpEvent) : UdpServerSender ι :=
  { self with events := self.events ++ [event] }

/-- `start`; the socket is bound to `sockname`, if it tells its name. -/
def start (self : UdpServerSender ι) (sockname : Option Nat) : UdpServerSender ι :=
  if self.running then self
  else
    let boundPort := sockname.getD self.boundPort
    { self with transportOpen := true, running := true, boundPort }.emit (.serverStarted boundPort)

def stop (self : UdpServerSender ι) : UdpServerSender ι :=
  if self.running then
    { self with running := false, transportOpen := false, recipientCache := .empty }.emit
      .serverStopped
  else self

variable [DecidableEq ι] (self : UdpServerSender ι)

def registerSender (addr : ι) (now : ℚ) : UdpServerSender ι :=
  let (recipientCache, evicted) :=
    (self.recipientCache.touch addr now).evictOldest self.config.recipientCacheMaxEntries
  { self with
    recipientCache
    events := self.events ++ List.replicate evicted (.recipientEvicted "lru") }

def cleanupExpired (now : ℚ) : UdpServerSender ι :=
  let expired := (self.recipientCache.entries.filter fun (_, lastSeen) =>
    decide (now - lastSeen > self.config.recipientCacheTtlSeconds)).map Prod.fst
  let cleaned := { self with recipientCache := self.recipientCache.popAll expired }
  if expired = [] then cleaned else cleaned.emit (.recipientExpired expired.length)

def sendto (payload : Bytes) (addr : ι) : UdpServerSender ι :=
  { self with datagrams := self.datagrams ++ [(payload, addr)] }

def send (payload : Bytes) (now : ℚ) : Except String (UdpServerSender ι) :=
  if !self.transportOpen then .error "UDP server is not started"
  else
    let self := self.cleanupExpired now
    match self.config.recipientMode with
    | .multicast =>
        .ok ((self.sendto payload self.config.multicastAddress).emit
          (.sendMulticast payload.length))
    | .replyToSenders =>
        let recipients := self.recipientCache.entries.map Prod.fst
        .ok ((recipients.foldl (·.sendto payload) self).emit
          (.sendReply recipients.length payload.length))

end UdpServerSender

/-- The calls between `start` and `stop`, each with its reading of the clock. -/
inductive UdpCall (ι : Type) where
  | registerSender (addr : ι) (now : ℚ)
  | cleanupExpired (now : ℚ)
  | send (payload : Bytes) (now : ℚ)

def UdpCall.now : UdpCall ι → ℚ
  | .registerSender _ now => now
  | .cleanupExpired now => now
  | .send _ now => now

namespace UdpServerSender

variable [DecidableEq ι] (self : UdpServerSender ι)

/-- One call; one that raises changes nothing. -/
def call : UdpCall ι → UdpServerSender ι
  | .registerSender addr now => self.registerSender addr now
  | .cleanupExpired now => self.cleanupExpired now
  | .send payload now => (self.send payload now).toOption.getD self

/-- The server after `start` and these calls. -/
def afterCalls (config : UdpServerConfig ι) (sockname : Option Nat) (calls : List (UdpCall ι)) :
    UdpServerSender ι :=
  calls.foldl call ((init config).start sockname)

end UdpServerSender

end TcpSim.Transport
