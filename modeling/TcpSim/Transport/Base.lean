import Mathlib.Data.Rat.Defs
import Mathlib.Tactic.Linarith

/-! What the two TCP clients share: the backoff between connection attempts, the TLS set-up
and the exceptions of a connection with the class hierarchy of the interpreter. -/

set_option autoImplicit false

namespace TcpSim.Transport

/-! ## Backoff -/

/-- The delays of `ReconnectBackoff`; `initial` is already clamped to `max`. -/
structure ReconnectBackoff where
  initial : ℚ := 1
  max : ℚ := 30
  current : ℚ := initial
  initial_pos : 0 < initial := by norm_num
  initial_le : initial ≤ current := by norm_num
  current_le : current ≤ max := by norm_num

namespace ReconnectBackoff

def standard : ReconnectBackoff := {}

/-- The constructor, with the message of each `ValueError`. -/
def create (initialSeconds maxSeconds : ℚ) : Except String ReconnectBackoff :=
  if initial : initialSeconds ≤ 0 then .error "initial_seconds must be > 0"
  else if maximum : maxSeconds ≤ 0 then .error "max_seconds must be > 0"
  else .ok {
    initial := min initialSeconds maxSeconds
    max := maxSeconds
    initial_pos := lt_min (not_le.mp initial) (not_le.mp maximum)
    initial_le := le_rfl
    current_le := min_le_right _ _ }

def reset (self : ReconnectBackoff) : ReconnectBackoff :=
  { self with
    current := self.initial
    initial_le := le_rfl
    current_le := self.initial_le.trans self.current_le }

/-- The current delay, which is doubled up to the maximum for the next call. -/
def advance (self : ReconnectBackoff) : ℚ × ReconnectBackoff :=
  (self.current, { self with
    current := min (self.current * 2) self.max
    initial_le := by
      have positive := self.initial_pos
      have low := self.initial_le
      exact le_min (by linarith) (low.trans self.current_le)
    current_le := min_le_right _ _ })

end ReconnectBackoff

/-! ## Exceptions -/

/-- A supported interpreter is Python 3.`minor` from 3.10 on. -/
structure Interpreter where
  minor : Nat
  supported : 10 ≤ minor := by decide

/-- An exception whose class is `OSError` or below it. -/
structure OSError where
  className : String
  text : String
  deriving DecidableEq, Repr

/-- What a connection raises; `timeout` is the `asyncio.TimeoutError` of `wait_for`. -/
inductive NetworkError where
  | osError (error : OSError)
  | timeout
  deriving DecidableEq, Repr

namespace NetworkError

/-- `isinstance(exc, OSError)`: `asyncio.TimeoutError` is a class of its own before 3.11. -/
def isOSError (python : Interpreter) : NetworkError → Bool
  | .osError _ => true
  | .timeout => 11 ≤ python.minor

def className : NetworkError → String
  | .osError error => error.className
  | .timeout => "TimeoutError"

/-- `str(exc)`. -/
def text : NetworkError → String
  | .osError error => error.text
  | .timeout => ""

end NetworkError

/-! ## TLS -/

structure TcpClientConfig where
  host : String
  port : Nat
  reconnectMaxBackoffSeconds : ℚ := 30
  useTls : Bool := false
  tlsCaFile : Option String := none
  tlsVerify : Bool := true
  tlsServerHostname : Option String := none

/-- A client context with the default certificates and, if given, those of `caFile`; it
checks the server's certificate and host name. -/
structure SslContext where
  caFile : Option String
  deriving DecidableEq, Repr

/-- `create_client_ssl_context`; `loads` is what `load_verify_locations` raises, if it does. -/
def createClientSslContext (config : TcpClientConfig) (loads : Option String) :
    Except String (Option SslContext) :=
  if !config.useTls then .ok none
  else if !config.tlsVerify then
    .error "Insecure TLS mode is not supported; enable tls_verify"
  else
    match config.tlsCaFile.filter (· ≠ ""), loads with
    | none, _ => .ok (some { caFile := none })
    | some caFile, none => .ok (some { caFile := some caFile })
    | some _, some message => .error message

/-- The arguments of a call of `asyncio.open_connection`. -/
structure ConnectionAttempt where
  host : String
  port : Nat
  ssl : Option SslContext
  serverHostname : Option String
  deriving DecidableEq, Repr

end TcpSim.Transport
