import Mathlib.Data.Nat.Notation

set_option autoImplicit false

/-! # Identifiers, time and errors

The scalar types every module of the daemon shares, and the crate-wide error type of
`errors/error.rs` with the texts its `Display` produces.

`Instant` and `Duration` count nanoseconds. Identifiers are natural numbers; `wrapU32` is the
release build's wrapping arithmetic and is applied where the source increments a `u32` that a long
run can exhaust (session ids, attempt counters). Of the `u64` counters only that of the connection
ids is wrapped (`wrapU64`), where the connections are counted; those of the inhibitor and elevation
request ids are not. -/

namespace MitosSession

/-- `session::SessionId` (`u32`). -/
abbrev SessionId := ℕ

/-- `ipc::ConnId` (`u64`). -/
abbrev ConnId := ℕ

/-- `elevation::ElevationRequestId` (`u64`). -/
abbrev ElevationRequestId := ℕ

/-- The process id of a spawned child. -/
abbrev Pid := ℕ

/-- A reading of the monotonic clock, in nanoseconds. -/
abbrev Instant := ℕ

/-- A span of time, in nanoseconds. -/
abbrev Duration := ℕ

/-- `Duration::from_secs`. -/
def Duration.fromSecs (secs : ℕ) : Duration :=
  secs * 1000000000

/-- `Duration::as_secs`: whole seconds, rounded down. -/
def Duration.asSecs (d : Duration) : ℕ :=
  d / 1000000000

/-- The number of values of a `u32`. -/
def u32Size : ℕ := 4294967296

/-- Wrapping `u32` arithmetic. -/
def wrapU32 (n : ℕ) : ℕ :=
  n % u32Size

theorem wrapU32_of_lt {n : ℕ} (h : n < u32Size) : wrapU32 n = n :=
  Nat.mod_eq_of_lt h

theorem wrapU32_succ_ne (n : ℕ) : wrapU32 (n + 1) ≠ n := by
  unfold wrapU32 u32Size
  omega

/-- The number of values of a `u64`. -/
def u64Size : ℕ := 18446744073709551616

/-- Wrapping `u64` arithmetic. -/
def wrapU64 (n : ℕ) : ℕ :=
  n % u64Size

/-! ## Errors -/

/-- `errors::SessionError`. The payload of `Io` is the operating system's message. -/
inductive SessionError where
  | io (message : String)
  | config (message : String)
  | unknownUser (name : String)
  | unknownSeat (id : String)
  | unknownSession (id : SessionId)
  | unknownInhibitor (id : ℕ)
  | unknownElevationRequest (id : ElevationRequestId)
  | authFailed (message : String)
  | lockedOut (secs : ℕ)
  | pam (message : String)
  | permissionDenied (message : String)
  | protocol (message : String)
  | disconnected
  | invalidTransition (message : String)
  | unsupported (message : String)
  | cancelled
  | poisoned (message : String)
deriving DecidableEq

/-- The `Display` text of an error, which is what a `Response::Error` carries. -/
def SessionError.display : SessionError → String
  | .io message => "I/O error: " ++ message
  | .config message => "configuration error: " ++ message
  | .unknownUser name => "no such user: " ++ name
  | .unknownSeat id => "no such seat: " ++ id
  | .unknownSession id => "no such session: " ++ toString id
  | .unknownInhibitor id => "no such inhibitor: " ++ toString id
  | .unknownElevationRequest id => "no such elevation request: " ++ toString id
  | .authFailed message => "authentication failed: " ++ message
  | .lockedOut secs => "account is temporarily locked out (" ++ toString secs ++ "s remaining)"
  | .pam message => "PAM error: " ++ message
  | .permissionDenied message => "permission denied: " ++ message
  | .protocol message => "ipc protocol error: " ++ message
  | .disconnected => "ipc peer disconnected"
  | .invalidTransition message => "invalid state transition: " ++ message
  | .unsupported message => "operation not supported: " ++ message
  | .cancelled => "a background operation was cancelled"
  | .poisoned message => "internal lock was poisoned: " ++ message

/-- `errors::Result`. -/
abbrev Result (α : Type) := Except SessionError α

end MitosSession
