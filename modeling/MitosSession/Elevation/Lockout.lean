import MitosSession.Library.Run
import MitosSession.Elevation

set_option autoImplicit false

/-! # The elevation lockout and the prompts it covers

Runs of the elevation manager under one `AuthPolicy`, with any number of prompts open at once.
After an attempt on a prompt of a session was answered `LockedOut` at time `t`, neither an open
prompt of that session nor a new one is to reach the authenticator until
`clear_expired_lockouts` runs at `t + lockout` or later.

`begin` honours the flag, `attempt` never reads it. So the lockout covers the session exactly when
the prompt that tripped it was the only one the session had open
(`barred_iff_no_other_prompt`). -/

namespace MitosSession

/-- An operation of the elevation manager. -/
inductive ElevationOp where
  | begin (sessionId : SessionId) (compositorConn requesterConn : ConnId)
      (policy : ElevationPolicy) (now : Instant)
  | attempt (id : ElevationRequestId) (authenticator : Authenticator) (request : AuthRequest)
      (now : Instant)
  | cancel (id : ElevationRequestId)
  | expirePending (now : Instant)
  | abandonSession (sessionId : SessionId)
  | abandonConnection (connId : ConnId)
  | clearExpiredLockouts (now : Instant)

namespace ElevationManager

/-- The manager after an operation; a failed one leaves it untouched. -/
def perform (policy : AuthPolicy) (self : ElevationManager) : ElevationOp → ElevationManager
  | .begin sessionId compositorConn requesterConn elevationPolicy now =>
    match self.begin sessionId compositorConn requesterConn elevationPolicy policy now with
    | .ok begun => begun.1
    | .error _ => self
  | .attempt id authenticator request now =>
    match self.attempt id authenticator request policy now with
    | some out => out.manager
    | none => self
  | .cancel id =>
    match self.cancel id with
    | some cancelled => cancelled.1
    | none => self
  | .expirePending now => (self.expirePending now).1
  | .abandonSession sessionId => (self.abandonSession sessionId).1
  | .abandonConnection connId => (self.abandonConnection connId).1
  | .clearExpiredLockouts now => self.clearExpiredLockouts now

/-- One step of a run under `policy`: an operation, or (`none`) a change of iteration order. -/
inductive Step (policy : AuthPolicy) :
    ElevationManager → Option ElevationOp → ElevationManager → Prop
  | perform (m : ElevationManager) (op : ElevationOp) :
      Step policy m (some op) (m.perform policy op)
  | rehash {m m' : ElevationManager} : Rehash m m' → Step policy m none m'

/-- No attempt on a prompt of the session reaches the authenticator or succeeds, and no new prompt
    for it can be opened. -/
def Barred (policy : AuthPolicy) (session : SessionId) (m : ElevationManager) : Prop :=
  (∀ id authenticator request now out,
      m.attempt id authenticator request policy now = some out →
      out.resolved.sessionId = session → out.calls = [] ∧ out.resolved.outcome ≠ .success)
    ∧ ∀ compositorConn requesterConn elevationPolicy now begun,
      m.begin session compositorConn requesterConn elevationPolicy policy now ≠ .ok begun

/-- The session is locked out, its timer is not due before `deadline`, and it has no prompt
    open. -/
structure CoolingOff (session : SessionId) (deadline : Instant) (m : ElevationManager) :
    Prop where
  lockedOut : (m.auth session).lockedOut = true
  timer : ∀ expiry, m.timeouts.lockoutExpiry.lookup session = some expiry → deadline ≤ expiry
  noPrompt : ∀ id p, m.pending.lookup id = some p → p.sessionId ≠ session

section

variable {policy : AuthPolicy} {session : SessionId} {deadline : Instant}
  {m m' : ElevationManager}

/-- An attempt on an open prompt always asks the authenticator, and belongs to the prompt's
    session. -/
theorem attempt_calls {id : ElevationRequestId} {p : PendingElevation}
    {authenticator : Authenticator} {request : AuthRequest} {now : Instant}
    {out : ElevationAttempt} (hl : m.pending.lookup id = some p)
    (hout : m.attempt id authenticator request policy now = some out) :
    out.calls = [request] ∧ out.resolved.sessionId = p.sessionId := by
  cases ha : authenticator.accepts request with
  | true =>
      rw [attempt_accepted policy now hl ha] at hout
      obtain rfl := Option.some.inj hout
      exact ⟨rfl, rfl⟩
  | false =>
      rw [attempt_rejected policy now hl ha] at hout
      split at hout <;>
      · obtain rfl := Option.some.inj hout
        exact ⟨rfl, rfl⟩

theorem CoolingOff.barred (h : CoolingOff session deadline m) : Barred policy session m := by
  constructor
  · intro id authenticator request now out hout hs
    obtain ⟨p, hl⟩ := attempt_eq_some policy now hout
    exact absurd ((attempt_calls hl hout).2.symm.trans hs) (h.noPrompt id p hl)
  · intro compositorConn requesterConn elevationPolicy now begun hbegun
    have hopen := (begin_eq_ok_iff.1 hbegun).1.1
    rw [h.lockedOut] at hopen
    cases hopen

/-! ## What one operation keeps -/

/-- Closing prompts, however many, keeps the period running. -/
theorem CoolingOff.shrink (h : CoolingOff session deadline m) (hsame : SameRecords m m')
    (hsub : ∀ id p, m'.pending.lookup id = some p → m.pending.lookup id = some p) :
    CoolingOff session deadline m' where
  lockedOut := by
    simp only [auth, hsame.sessionAuth]
    exact h.lockedOut
  timer := by
    rw [hsame.lockoutExpiry]
    exact h.timer
  noPrompt := fun id p hl => h.noPrompt id p (hsub id p hl)

theorem CoolingOff.close (h : CoolingOff session deadline m) (id : ElevationRequestId) :
    CoolingOff session deadline (m.close id) := by
  refine h.shrink ⟨rfl, rfl, rfl, rfl⟩ fun id' p hl => ?_
  rw [close_pending] at hl
  split at hl
  · cases hl
  · exact hl

theorem CoolingOff.abandonWhere (h : CoolingOff session deadline m)
    (predicate : PendingElevation → Bool) :
    CoolingOff session deadline (m.abandonWhere predicate).1 :=
  h.shrink (takeAll_spec _ _).2.2 fun _ _ hl => (abandonWhere_pending m predicate).1 hl |>.1

/-- The record of another session may change at will. -/
theorem CoolingOff.recordOther (h : CoolingOff session deadline m) {k : SessionId}
    (hne : session ≠ k) (record : SessionElevationAuth) :
    CoolingOff session deadline
      { m with sessionAuth := m.sessionAuth.insert k record : ElevationManager } where
  lockedOut := by
    rw [auth_insert, if_neg hne]
    exact h.lockedOut
  timer := h.timer
  noPrompt := h.noPrompt

/-- So may its timer. -/
theorem CoolingOff.startLockoutOther (h : CoolingOff session deadline m) {k : SessionId}
    (hne : session ≠ k) (now : Instant) (lockout : Duration) :
    CoolingOff session deadline
      { m with timeouts := m.timeouts.startLockout k now lockout : ElevationManager } where
  lockedOut := h.lockedOut
  timer := by
    intro expiry hx
    simp only [ElevationTimeouts.startLockout, AList.lookup_insert_ne hne] at hx
    exact h.timer expiry hx
  noPrompt := h.noPrompt

theorem CoolingOff.begin {k : SessionId} {compositorConn requesterConn : ConnId}
    {elevationPolicy : ElevationPolicy} {now : Instant} {id : ElevationRequestId}
    (h : CoolingOff session deadline m)
    (hbegun : m.begin k compositorConn requesterConn elevationPolicy policy now = .ok (m', id)) :
    CoolingOff session deadline m' := by
  obtain ⟨⟨hopen, -⟩, -, rfl⟩ := begin_eq_ok_iff.1 hbegun
  refine ⟨h.lockedOut, h.timer, fun id' p hl => ?_⟩
  simp only [Table.lookup_insert_eq] at hl
  split at hl
  · obtain rfl := Option.some.inj hl
    rintro rfl
    rw [h.lockedOut] at hopen
    cases hopen
  · exact h.noPrompt id' p hl

theorem CoolingOff.attempt {id : ElevationRequestId} {authenticator : Authenticator}
    {request : AuthRequest} {now : Instant} {out : ElevationAttempt}
    (h : CoolingOff session deadline m)
    (hout : m.attempt id authenticator request policy now = some out) :
    CoolingOff session deadline out.manager := by
  obtain ⟨p, hl⟩ := attempt_eq_some policy now hout
  have hne : session ≠ p.sessionId := fun heq => h.noPrompt id p hl heq.symm
  cases ha : authenticator.accepts request with
  | true =>
      rw [attempt_accepted policy now hl ha] at hout
      obtain rfl := Option.some.inj hout
      exact (h.recordOther hne _).close id
  | false =>
      rw [attempt_rejected policy now hl ha] at hout
      split at hout
      · obtain rfl := Option.some.inj hout
        exact ((h.recordOther hne _).startLockoutOther hne _ _).close id
      · obtain rfl := Option.some.inj hout
        exact h.recordOther hne _

theorem CoolingOff.clearExpiredLockouts {now : Instant} (h : CoolingOff session deadline m)
    (hnow : now < deadline) : CoolingOff session deadline (m.clearExpiredLockouts now) where
  lockedOut := by
    rw [clearExpiredLockouts_auth fun expiry hl => Nat.lt_of_lt_of_le hnow (h.timer expiry hl)]
    exact h.lockedOut
  timer := fun expiry hl => h.timer expiry (clearExpiredLockouts_lockoutExpiry.1 hl).1
  noPrompt := h.noPrompt

/-- One step keeps the period running, unless it clears expired lockouts after the deadline. -/
theorem CoolingOff.step {op : Option ElevationOp} (h : CoolingOff session deadline m)
    (hstep : Step policy m op m')
    (hclear : ∀ now, op = some (.clearExpiredLockouts now) → now < deadline) :
    CoolingOff session deadline m' := by
  cases hstep with
  | rehash hm =>
      refine ⟨?_, fun expiry hl => ?_, fun id p hl => ?_⟩
      · rw [hm.auth_eq]
        exact h.lockedOut
      · rw [hm.lockoutExpiry.lookup_eq] at hl
        exact h.timer expiry hl
      · rw [hm.pending.lookup_eq] at hl
        exact h.noPrompt id p hl
  | perform op =>
      cases op with
      | begin k compositorConn requesterConn elevationPolicy now =>
          simp only [perform]
          split
          · rename_i begun hbegun
            exact h.begin hbegun
          · exact h
      | attempt id authenticator request now =>
          simp only [perform]
          split
          · rename_i out hout
            exact h.attempt hout
          · exact h
      | cancel id =>
          simp only [perform, cancel]
          cases m.pending.lookup id with
          | none => exact h
          | some p => exact h.close id
      | expirePending now =>
          obtain ⟨hsub, hsame⟩ := expirePending_spec m now
          exact h.shrink hsame hsub
      | abandonSession k => exact h.abandonWhere _
      | abandonConnection connId => exact h.abandonWhere _
      | clearExpiredLockouts now => exact h.clearExpiredLockouts (hclear now rfl)

/-- An attempt answered `LockedOut` starts the period, if it closed the session's only prompt. -/
theorem CoolingOff.start {id : ElevationRequestId} {p : PendingElevation}
    {authenticator : Authenticator} {request : AuthRequest} {t : Instant} {secs : ℕ}
    {out : ElevationAttempt} (hl : m.pending.lookup id = some p)
    (hout : m.attempt id authenticator request policy t = some out)
    (hlocked : out.resolved.outcome = .lockedOut secs)
    (honly : ∀ id' p', m.pending.lookup id' = some p' → p'.sessionId = p.sessionId → id' = id) :
    CoolingOff p.sessionId (t + policy.lockout) out.manager := by
  cases ha : authenticator.accepts request with
  | true =>
      rw [attempt_accepted policy t hl ha] at hout
      obtain rfl := Option.some.inj hout
      cases hlocked
  | false =>
      rw [attempt_rejected policy t hl ha] at hout
      split at hout
      · obtain rfl := Option.some.inj hout
        refine ⟨?_, fun expiry hx => ?_, fun id' p' hp' hs => ?_⟩
        · simp only [auth, ElevationManager.close, AList.lookup_insert, Option.getD_some]
        · simp only [ElevationManager.close, ElevationTimeouts.cancelPrompt,
            ElevationTimeouts.startLockout, AList.lookup_insert, Option.some.injEq] at hx
          exact Nat.le_of_eq hx
        · rw [close_pending] at hp'
          split at hp'
          · cases hp'
          · rename_i hne
            exact hne (honly id' p' hp' hs)
      · obtain rfl := Option.some.inj hout
        cases hlocked

/-- Another prompt of the session survives the lockout, open to answers. -/
theorem pending_after_lockout {id id' : ElevationRequestId} {p p' : PendingElevation}
    {authenticator : Authenticator} {request : AuthRequest} {t : Instant}
    {out : ElevationAttempt} (hl : m.pending.lookup id = some p)
    (hout : m.attempt id authenticator request policy t = some out)
    (hl' : m.pending.lookup id' = some p') (hne : id' ≠ id) :
    out.manager.pending.lookup id' = some p' := by
  have hclosed : ∀ m₁ : ElevationManager, m₁.pending = m.pending →
      (m₁.close id).pending.lookup id' = some p' := by
    intro m₁ hm₁
    rw [close_pending, if_neg hne, hm₁]
    exact hl'
  cases ha : authenticator.accepts request with
  | true =>
      rw [attempt_accepted policy t hl ha] at hout
      obtain rfl := Option.some.inj hout
      exact hclosed _ rfl
  | false =>
      rw [attempt_rejected policy t hl ha] at hout
      split at hout
      · obtain rfl := Option.some.inj hout
        exact hclosed _ rfl
      · obtain rfl := Option.some.inj hout
        exact hl'

end

/-! ## Whole runs -/

/-- **The lockout covers the session exactly when it had no other prompt open.** Take an attempt
    on prompt `id` answered `LockedOut` at time `t`. In every run from there on that has not
    cleared expired lockouts at `t + lockout` or later, the session is barred in the state
    reached, if and only if `id` was the session's only prompt when the attempt was made. -/
theorem barred_iff_no_other_prompt {policy : AuthPolicy} {m : ElevationManager}
    {id : ElevationRequestId} {p : PendingElevation} {authenticator : Authenticator}
    {request : AuthRequest} {t : Instant} {secs : ℕ} {out : ElevationAttempt}
    (hl : m.pending.lookup id = some p)
    (hout : m.attempt id authenticator request policy t = some out)
    (hlocked : out.resolved.outcome = .lockedOut secs) :
    (∀ tr m', Run (Step policy) out.manager tr m' →
        (∀ x ∈ tr, ∀ now, x.label = some (.clearExpiredLockouts now) →
          now < t + policy.lockout) →
        Barred policy p.sessionId m') ↔
      ∀ id' p', m.pending.lookup id' = some p' → p'.sessionId = p.sessionId → id' = id := by
  constructor
  · intro h id' p' hl' hs
    by_contra hne
    -- the other prompt can be answered at once
    have hpending := pending_after_lockout hl hout hl' hne
    have haccepted : out.manager.attempt id' (fun _ => .ok ()) request policy t = some _ :=
      attempt_accepted policy t hpending rfl
    have hbarred := (h [] _ Run.nil (by simp)).1 id' (fun _ => .ok ()) request t _ haccepted hs
    exact hbarred.2 rfl
  · -- with no prompt left the flag is all that matters, and `begin` reads it
    intro honly tr m' hrun hclear
    have hall := hrun.forall_transitions
      (I := CoolingOff p.sessionId (t + policy.lockout))
      (G := fun x => ∀ now, x.label = some (.clearExpiredLockouts now) → now < t + policy.lockout)
      (Q := fun _ => True)
      (CoolingOff.start hl hout hlocked honly) hclear
      (fun s l s' hs hstep hG => ⟨hs.step hstep hG, trivial⟩)
    exact hall.1.barred

section Example

/-- The default policy of elevation prompts: three attempts, then thirty seconds. -/
private def promptPolicy : AuthPolicy :=
  { pamService := "mitos-elevate"
    allowEmptyPassword := false
    maxAttempts := 3
    lockout := Duration.fromSecs 30 }

private def promptAuthenticator : Authenticator :=
  (PamAuthenticator.new promptPolicy).authenticate (PamStack.knowing [("alice", "hunter2")])

private def promptAnswer (password : String) : AuthRequest :=
  { sessionId := 1, userName := "alice", password }

/-- `n` prompts open for session 1, and two wrong answers to the first of them. -/
private def twoWrongAnswers (n : ℕ) : ElevationManager :=
  let opened : ElevationOp := .begin 1 10 20 (ElevationPolicy.from default) 0
  let wrong : ElevationOp := .attempt 1 promptAuthenticator (promptAnswer "1234") 1
  (List.replicate n opened ++ List.replicate 2 wrong).foldl (perform promptPolicy) {}

/-- The third wrong answer to the first prompt. -/
private def thirdWrongAnswer (n : ℕ) : Option ElevationAttempt :=
  (twoWrongAnswers n).attempt 1 promptAuthenticator (promptAnswer "1234") promptPolicy 2

/-- With a single prompt open, the third wrong answer bars the session. -/
theorem barred_after_only_prompt :
    (thirdWrongAnswer 1).map (·.resolved.outcome) = some (.lockedOut 30)
      ∧ ∀ out ∈ thirdWrongAnswer 1, Barred promptPolicy 1 out.manager := by
  have houtcome : (thirdWrongAnswer 1).map (·.resolved.outcome) = some (.lockedOut 30) := by
    decide
  refine ⟨houtcome, fun out hout => ?_⟩
  have hlocked : out.resolved.outcome = .lockedOut 30 := by
    rw [Option.mem_def.1 hout] at houtcome
    exact Option.some.inj houtcome
  refine (barred_iff_no_other_prompt (p := ⟨1, 10, 20⟩) (by decide) (Option.mem_def.1 hout)
    hlocked).2 ?_ [] _ Run.nil (by simp)
  intro id' p' hl' _
  have hentries : (twoWrongAnswers 1).pending.entries = [⟨1, ⟨1, 10, 20⟩⟩] := by decide
  rw [Table.lookup_eq_some_iff, hentries] at hl'
  simp_all

/-- With two prompts open, three wrong answers to the first lock the session out; the second is
    then answered at once, and the authenticator is asked and accepts. -/
theorem other_prompt_escapes_lockout :
    (thirdWrongAnswer 2).map (·.resolved.outcome) = some (.lockedOut 30)
      ∧ ((thirdWrongAnswer 2).bind fun out =>
          out.manager.attempt 2 promptAuthenticator (promptAnswer "hunter2") promptPolicy 3).map
            (fun out => (out.resolved.sessionId, out.resolved.outcome, out.calls))
        = some (1, .success, [promptAnswer "hunter2"]) := by
  decide

end Example

end ElevationManager

end MitosSession
