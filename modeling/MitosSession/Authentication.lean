import MitosSession.Config

set_option autoImplicit false

/-! # Authentication

The credential check both password flows share (`authentication/`): the request, the outcome the
IPC layer reports, the attempt policy, the PAM-backed authenticator and `check`, which runs an
authenticator and keeps the caller's attempt counter.

PAM itself is outside the crate. `PamStack` is its verdict on the three calls the authenticator
makes, and stays a parameter. -/

namespace MitosSession

/-- `authentication::AuthRequest`. -/
structure AuthRequest where
  sessionId : SessionId
  userName : String
  password : String
deriving DecidableEq

/-- `authentication::AuthOutcome`. -/
inductive AuthOutcome where
  | success
  | failure (attemptsRemaining : ℕ)
  | lockedOut (retryAfterSecs : ℕ)
  | error (message : String)
  | cancelled
deriving DecidableEq

/-- `authentication::AuthPolicy`. -/
structure AuthPolicy where
  pamService : String
  allowEmptyPassword : Bool
  maxAttempts : ℕ
  lockout : Duration
deriving DecidableEq

/-- `AuthPolicy::new`, the policy of lock-screen unlock attempts. -/
def AuthPolicy.new (auth : AuthSettings) (lock : LockSettings) : AuthPolicy :=
  { pamService := auth.pamService
    allowEmptyPassword := auth.allowEmptyPassword
    maxAttempts := lock.maxAuthAttempts
    lockout := Duration.fromSecs lock.lockoutSecs }

/-- `authentication::Authenticator`: anything that can check a credential. -/
abbrev Authenticator := AuthRequest → Result Unit

/-! ## The PAM backend -/

/-- PAM's answers to `Client::with_password`, `authenticate` and `open_session`, for a service and
    the credentials set on the conversation; an error is its message. -/
structure PamStack where
  withPassword : String → Except String Unit
  authenticate : String → String → String → Except String Unit
  openSession : String → String → String → Except String Unit

/-- `authentication::PamAuthenticator`. -/
structure PamAuthenticator where
  service : String
deriving DecidableEq

def PamAuthenticator.new (policy : AuthPolicy) : PamAuthenticator :=
  { service := policy.pamService }

/-- `PamAuthenticator::authenticate`. An empty password never reaches PAM. -/
def PamAuthenticator.authenticate (pam : PamStack) (self : PamAuthenticator) : Authenticator :=
  fun request =>
    if request.password.isEmpty then
      .error (.authFailed "empty password")
    else
      match pam.withPassword self.service with
      | .error e => .error (.pam e)
      | .ok () =>
        match pam.authenticate self.service request.userName request.password with
        | .error e => .error (.authFailed e)
        | .ok () =>
          match pam.openSession self.service request.userName request.password with
          | .error e => .error (.pam e)
          | .ok () => .ok ()

/-- A PAM stack that knows some accounts and their passwords: the concrete stack of the
    examples. -/
def PamStack.knowing (accounts : List (String × String)) : PamStack where
  withPassword _ := .ok ()
  authenticate _ user given :=
    if (user, given) ∈ accounts then .ok () else .error "Authentication failure"
  openSession _ _ _ := .ok ()

/-! ## The attempt-counting check -/

/-- Whether the authenticator accepts the credential. -/
def Authenticator.accepts (authenticator : Authenticator) (request : AuthRequest) : Bool :=
  match authenticator request with
  | .ok () => true
  | .error _ => false

/-- `authentication::check`: the outcome, and the attempt counter afterwards. -/
def check (authenticator : Authenticator) (request : AuthRequest) (policy : AuthPolicy)
    (attemptsSoFar : ℕ) : AuthOutcome × ℕ :=
  match authenticator request with
  | .ok () => (.success, 0)
  | .error _ =>
    let attempts := wrapU32 (attemptsSoFar + 1)
    if attempts ≥ policy.maxAttempts then
      (.lockedOut policy.lockout.asSecs, attempts)
    else
      (.failure (policy.maxAttempts - attempts), attempts)

section Check

variable {authenticator : Authenticator} {request : AuthRequest} (policy : AuthPolicy)
  (attempts : ℕ)

theorem check_of_accepts (h : authenticator.accepts request = true) :
    check authenticator request policy attempts = (.success, 0) := by
  unfold Authenticator.accepts at h
  unfold check
  cases hr : authenticator request with
  | ok _ => rfl
  | error e => simp [hr] at h

theorem check_of_rejects (h : authenticator.accepts request = false) :
    check authenticator request policy attempts
      = if wrapU32 (attempts + 1) ≥ policy.maxAttempts then
          (.lockedOut policy.lockout.asSecs, wrapU32 (attempts + 1))
        else
          (.failure (policy.maxAttempts - wrapU32 (attempts + 1)), wrapU32 (attempts + 1)) := by
  unfold Authenticator.accepts at h
  unfold check
  cases hr : authenticator request with
  | ok _ => simp [hr] at h
  | error e => rfl

end Check

end MitosSession
