import TcpSim.Transport.UdpReceivers

/-! The UDP client that sends to a configured destination. -/

set_option autoImplicit false

namespace TcpSim.Transport

open Engine

structure UdpClientConfig where
  host : String
  port : Int
  deriving DecidableEq, Repr

structure UdpClientSender where
  config : UdpClientConfig
  transportOpen : Bool := false
  /-- History: the arguments of `sendto`. -/
  datagrams : List (Bytes × Address) := []

namespace UdpClientSender

variable (self : UdpClientSender)

/-- `start`; the endpoint may fail to be created. -/
def start (endpoint : Except String Unit) : UdpClientSender :=
  if self.transportOpen then self
  else
    match endpoint with
    | .error _ => self
    | .ok _ => { self with transportOpen := true }

def stop : UdpClientSender := { self with transportOpen := false }

def send (payload : Bytes) : Except String UdpClientSender :=
  if !self.transportOpen then .error "UDP client is not started"
  else
    .ok { self with
      datagrams := self.datagrams ++
        [(payload, { host := self.config.host, port := self.config.port })] }

end UdpClientSender

end TcpSim.Transport
