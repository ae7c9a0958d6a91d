import TcpSim.Transport.TcpServerProperties
import Mathlib.Data.List.TakeWhile

/-! Slow clients and the others: `broadcast` and the monitor tear a client down inside the loop
that serves all of them, so whoever comes later in the loop waits for that teardown. -/

set_option autoImplicit false

namespace TcpSim.Transport

variable {ι τ : Type}

/-! ## The first block of `broadcast` -/

namespace TcpServerSender

variable [DecidableEq ι] (self : TcpServerSender ι τ) (points : List (Point ι τ)) (task : Nat)

end TcpServerSender

namespace System

variable [DecidableEq ι]

end System

end TcpSim.Transport
