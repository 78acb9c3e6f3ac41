import MitosSession.Library.Run
import MitosSession.Lock

set_option autoImplicit false

/-! # The lock-screen lockout as a cooling-off period

Runs of the lock manager under one `AuthPolicy`: any operation, on any session, in any order, with
the hash maps reordered at will in between. After a failed check locked a session out at time `t`,
unlock attempts for it are to be refused unseen until a tick at `t + lockout` or later.

What carries the refusal is `CoolingOff`: the entry says `LockedOut` and the timer is not due
before the deadline. Every operation keeps it but one. `LockManager::lock` writes `Locked` over
whatever the state was, so locking a session that is locked out ends the period early
(`Relocks`); `coolingOff_iff_no_relock` says that this is the only way. -/

namespace MitosSession

/-- An operation of the lock manager, as the daemon's handlers and its tick perform them. -/
inductive LockOp where
  | lock (session : SessionId) (policy : LockPolicy)
  | attemptUnlock (authenticator : Authenticator) (request : AuthRequest) (now : Instant)
  | addInhibitor (what : InhibitWhat) (who why : String) (mode : InhibitMode)
  | releaseInhibitor (id : ℕ)
  /-- `expired_lockouts` and `clear_lockout` for each. -/
  | tick (now : Instant)

namespace LockManager

/-- The manager after an operation; a failed one leaves it untouched. -/
def perform (policy : AuthPolicy) (self : LockManager) : LockOp → LockManager
  | .lock session lockPolicy =>
    match self.lock session lockPolicy with
    | .ok self' => self'
    | .error _ => self
  | .attemptUnlock authenticator request now =>
    (self.attemptUnlock authenticator request policy now).manager
  | .addInhibitor what who why mode => (self.addInhibitor what who why mode).1
  | .releaseInhibitor id =>
    match self.releaseInhibitor id with
    | .ok self' => self'
    | .error _ => self
  | .tick now => self.sweepLockouts now

/-- One step of a run under `policy`: an operation, or (`none`) a change of iteration order. -/
inductive Step (policy : AuthPolicy) : LockManager → Option LockOp → LockManager → Prop
  | perform (m : LockManager) (op : LockOp) : Step policy m (some op) (m.perform policy op)
  | rehash {m m' : LockManager} : Rehash m m' → Step policy m none m'

/-- Every unlock attempt for the session is refused without asking the authenticator. -/
def Refuses (policy : AuthPolicy) (session : SessionId) (m : LockManager) : Prop :=
  ∀ authenticator request now, request.sessionId = session →
    (m.attemptUnlock authenticator request policy now).calls = [] ∧
      (m.attemptUnlock authenticator request policy now).outcome
        = .lockedOut policy.lockout.asSecs

/-- The transition is a `lock` of the session that goes through while the session is locked
    out. -/
def Relocks (session : SessionId) (x : Transition LockManager (Option LockOp)) : Prop :=
  ∃ lockPolicy, x.label = some (.lock session lockPolicy) ∧ lockPolicy.enabled = true
    ∧ x.pre.inhibitors.blocks .lock = false ∧ (x.pre.entry session).state = .lockedOut

/-- The session is locked out and its timer is not due before `deadline`. -/
structure CoolingOff (session : SessionId) (deadline : Instant) (m : LockManager) : Prop where
  lockedOut : (m.entry session).state = .lockedOut
  timer : ∀ expiry, m.timeouts.lockoutExpiry.lookup session = some expiry → deadline ≤ expiry

/-! ## What one operation keeps -/

section

variable {policy : AuthPolicy} {session : SessionId} {deadline : Instant} {m m' : LockManager}

/-- An attempt is refused exactly while the session is locked out. -/
theorem refuses_iff : Refuses policy session m ↔ (m.entry session).state = .lockedOut := by
  constructor
  · intro h
    have hunseen := (h (fun _ => .ok ()) { sessionId := session, userName := "", password := "" }
      0 rfl).1
    exact (attemptUnlock_unseen_iff ..).1 hunseen
  · rintro h authenticator request now rfl
    rw [attemptUnlock_refused m authenticator request policy now h]
    exact ⟨rfl, rfl⟩

theorem CoolingOff.lock {k : SessionId} {lockPolicy : LockPolicy}
    (h : CoolingOff session deadline m) (hlock : m.lock k lockPolicy = .ok m')
    (hne : session ≠ k) : CoolingOff session deadline m' where
  lockedOut := by
    rw [lock_entry hlock, if_neg hne]
    exact h.lockedOut
  timer := by
    rw [(lock_frame hlock).2]
    exact h.timer

/-- Attempts on other sessions start other timers; an attempt on this one is refused. -/
theorem CoolingOff.attemptUnlock (authenticator : Authenticator) (request : AuthRequest)
    (now : Instant) (h : CoolingOff session deadline m) :
    CoolingOff session deadline (m.attemptUnlock authenticator request policy now).manager := by
  by_cases hs : request.sessionId = session
  · subst hs
    rw [attemptUnlock_refused m authenticator request policy now h.lockedOut]
    refine ⟨?_, h.timer⟩
    rw [entry_insert, if_pos rfl]
    exact h.lockedOut
  · have hne : session ≠ request.sessionId := fun heq => hs heq.symm
    obtain ⟨hlookup, htimer⟩ := attemptUnlock_frame m authenticator request policy now hne
    have hentry := entry_eq_of_lookup hlookup
    exact ⟨hentry ▸ h.lockedOut, htimer ▸ h.timer⟩

theorem CoolingOff.sweepLockouts {now : Instant} (h : CoolingOff session deadline m)
    (hnow : now < deadline) : CoolingOff session deadline (m.sweepLockouts now) where
  lockedOut := by
    rw [sweepLockouts_entry, if_neg]
    · exact h.lockedOut
    · rintro ⟨expiry, hl, hdue⟩
      exact absurd (Nat.lt_of_lt_of_le hnow (h.timer expiry hl)) (Nat.not_lt.2 hdue)
  timer := fun expiry hl => h.timer expiry (sweepLockouts_lockoutExpiry.1 hl).1

theorem CoolingOff.rehash (h : CoolingOff session deadline m) (hm : Rehash m m') :
    CoolingOff session deadline m' where
  lockedOut := by
    rw [hm.entry_eq]
    exact h.lockedOut
  timer := by
    intro expiry hl
    rw [hm.lockoutExpiry.lookup_eq] at hl
    exact h.timer expiry hl

/-- One step keeps the period running, unless it is a tick after the deadline or a `lock` of this
    very session that goes through. -/
theorem CoolingOff.step {op : Option LockOp} (h : CoolingOff session deadline m)
    (hstep : Step policy m op m') (htick : ∀ now, op = some (.tick now) → now < deadline)
    (hgood : ¬ Relocks session ⟨m, op, m'⟩) : CoolingOff session deadline m' := by
  cases hstep with
  | rehash hm => exact h.rehash hm
  | perform op =>
      cases op with
      | lock k lockPolicy =>
          simp only [perform]
          split
          · rename_i m' hlock
            obtain ⟨⟨hen, hbl⟩, _⟩ := lock_eq_ok_iff.1 hlock
            refine h.lock hlock ?_
            rintro rfl
            exact hgood ⟨lockPolicy, rfl, hen, hbl, h.lockedOut⟩
          · exact h
      | attemptUnlock authenticator request now => exact h.attemptUnlock authenticator request now
      | addInhibitor what who why mode => exact ⟨h.lockedOut, h.timer⟩
      | releaseInhibitor id =>
          simp only [perform]
          split
          · rename_i m' hrel
            rw [releaseInhibitor_eq hrel]
            exact ⟨h.lockedOut, h.timer⟩
          · exact h
      | tick now => exact h.sweepLockouts (htick now rfl)

/-- A failed check that locks the session out starts the period. -/
theorem CoolingOff.start {authenticator : Authenticator} {request : AuthRequest} {t : Instant}
    {secs : ℕ}
    (hout : (m.attemptUnlock authenticator request policy t).outcome = .lockedOut secs)
    (hcalls : (m.attemptUnlock authenticator request policy t).calls ≠ []) :
    CoolingOff request.sessionId (t + policy.lockout)
      (m.attemptUnlock authenticator request policy t).manager := by
  obtain ⟨hlocked, htimer⟩ := attemptUnlock_starts m authenticator request policy t hcalls hout
  refine ⟨hlocked, fun expiry hl => ?_⟩
  rw [htimer] at hl
  exact (Option.some.inj hl).le

/-- A `lock` that goes through leaves the session merely `Locked`, open to attempts again. -/
theorem not_refuses_of_relocks {op : Option LockOp} (hstep : Step policy m op m')
    (h : Relocks session ⟨m, op, m'⟩) : ¬ Refuses policy session m' := by
  obtain ⟨lockPolicy, hlabel, hen, hbl, -⟩ := h
  have hlock : m.lock session lockPolicy = .ok _ := lock_eq_ok_iff.2 ⟨⟨hen, hbl⟩, rfl⟩
  cases hstep with
  | rehash => cases hlabel
  | perform op =>
      obtain rfl := Option.some.inj hlabel
      simp only [refuses_iff, perform, hlock, entry_insert, if_true]
      exact LockState.noConfusion

end

/-! ## Whole runs -/

/-- **The lockout holds exactly as long as nobody locks the session again.** Take a failed check
    at time `t` that locked a session out, and any run from there on without a tick at
    `t + lockout` or later. Every state reached refuses attempts for the session if and only if
    no step of the run is a `lock` that goes through while the session is locked out. -/
theorem coolingOff_iff_no_relock {policy : AuthPolicy} {m m' : LockManager}
    {authenticator : Authenticator} {request : AuthRequest} {t : Instant} {secs : ℕ}
    {tr : List (Transition LockManager (Option LockOp))}
    (hout : (m.attemptUnlock authenticator request policy t).outcome = .lockedOut secs)
    (hcalls : (m.attemptUnlock authenticator request policy t).calls ≠ [])
    (hrun : Run (Step policy) (m.attemptUnlock authenticator request policy t).manager tr m')
    (hticks : ∀ x ∈ tr, ∀ now, x.label = some (.tick now) → now < t + policy.lockout) :
    (Refuses policy request.sessionId (m.attemptUnlock authenticator request policy t).manager
        ∧ ∀ x ∈ tr, Refuses policy request.sessionId x.post) ↔
      ∀ x ∈ tr, ¬ Relocks request.sessionId x := by
  have hstart := CoolingOff.start hout hcalls
  constructor
  · -- right after a relock the next attempt reaches the authenticator
    rintro ⟨-, h⟩ x hx hrelock
    obtain ⟨-, hstep⟩ := hrun.of_mem hx
    exact not_refuses_of_relocks hstep hrelock (h x hx)
  · intro hgood
    have hall := hrun.forall_transitions
      (I := CoolingOff request.sessionId (t + policy.lockout))
      (G := fun x => (∀ now, x.label = some (.tick now) → now < t + policy.lockout)
        ∧ ¬ Relocks request.sessionId x)
      (Q := fun x => Refuses policy request.sessionId x.post)
      hstart (fun x hx => ⟨hticks x hx, hgood x hx⟩)
      (fun s l s' hs hstep hG => by
        have hs' := hs.step hstep hG.1 hG.2
        exact ⟨hs', refuses_iff.2 hs'.lockedOut⟩)
    exact ⟨refuses_iff.2 hstart.lockedOut, hall.2⟩

section Example

/-- The default attempt policy: three attempts, then thirty seconds. -/
private def defaultPolicy : AuthPolicy :=
  AuthPolicy.new default default

private def aliceAuthenticator : Authenticator :=
  (PamAuthenticator.new defaultPolicy).authenticate (PamStack.knowing [("alice", "hunter2")])

private def guess : AuthRequest := { sessionId := 1, userName := "alice", password := "1234" }

private def right : AuthRequest := { sessionId := 1, userName := "alice", password := "hunter2" }

/-- Session 1, locked, after two wrong guesses. -/
private def twoGuesses : LockManager :=
  [.lock 1 (LockPolicy.from default), .attemptUnlock aliceAuthenticator guess 0,
    .attemptUnlock aliceAuthenticator guess 1].foldl (perform defaultPolicy) {}

private theorem third_guess :
    (twoGuesses.attemptUnlock aliceAuthenticator guess defaultPolicy 2).outcome = .lockedOut 30
      ∧ (twoGuesses.attemptUnlock aliceAuthenticator guess defaultPolicy 2).calls = [guess] := by
  decide

/-- With no `lock` in between, even the right password is refused during the period. -/
theorem coolingOff_refuses_right_password :
    Refuses defaultPolicy 1
      ((twoGuesses.attemptUnlock aliceAuthenticator guess defaultPolicy 2).manager.perform
        defaultPolicy (.attemptUnlock aliceAuthenticator right 3)) := by
  have hrefused := (coolingOff_iff_no_relock third_guess.1
    (by rw [third_guess.2]; simp)
    (Run.single (Step.perform _ (.attemptUnlock aliceAuthenticator right 3)))
    (by simp)).2 (by simp [Relocks])
  exact hrefused.2 _ (List.mem_singleton_self _)

/-- The third wrong guess locks session 1 out for thirty seconds; `LockSession` locks it again,
    and one nanosecond after the guess the authenticator is asked, and accepts. -/
theorem relock_ends_coolingOff :
    (twoGuesses.attemptUnlock aliceAuthenticator guess defaultPolicy 2).outcome = .lockedOut 30
      ∧ (twoGuesses.attemptUnlock aliceAuthenticator guess defaultPolicy 2).calls = [guess]
      ∧ ¬ ∀ tr m', Run (Step defaultPolicy)
            (twoGuesses.attemptUnlock aliceAuthenticator guess defaultPolicy 2).manager tr m' →
          (∀ x ∈ tr, ∀ now, x.label = some (.tick now) → now < 2 + defaultPolicy.lockout) →
          (m'.attemptUnlock aliceAuthenticator right defaultPolicy 3).calls = [] := by
  refine ⟨third_guess.1, third_guess.2, fun h => ?_⟩
  have hnone := h _ _ (Run.single (Step.perform _ (.lock 1 (LockPolicy.from default)))) (by simp)
  exact absurd hnone (by decide)

end Example

end LockManager

end MitosSession
