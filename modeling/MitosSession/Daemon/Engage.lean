import MitosSession.Daemon.LockPersistence
import MitosSession.Daemon.Standing

set_option autoImplicit false

/-! # What engages a lock

Four events can turn a session that is not locked into one that is: a `LockSession` request, the
`Unlock` attempt that uses up the last try, `power::suspend`, and the idle tick. `Engages` says for
each of them, in terms of the daemon before the event, exactly when it does (`handle_engages_iff`).

What the stage changes of one tick do depends on the standing part of the daemon only, which none
of them writes to. So the loop of the tick is described by its rounds taken one by one
(`onIdleTick_isLocked`), in whatever order they come. -/

namespace MitosSession

namespace Standing

/-- `LockManager::lock` succeeds. -/
def canLock (self : Standing) : Bool :=
  self.settings.lock.enabled && !self.inhibitors.blocks .lock

/-- The session is known, and its user has no usable password. -/
def passwordless (self : Standing) (shadow : Option String) (s : SessionId) : Bool :=
  (self.roster s).any fun session => !userHasPassword shadow session.userName

/-- `power::suspend` visits the session and locks it. -/
def SuspendLocks (self : Standing) (s : SessionId) : Prop :=
  self.inhibitors.blocks .suspend = false ∧ self.settings.lock.lockOnSuspend = true
    ∧ self.canLock = true ∧ ∃ k session, self.roster k = some session ∧ session.id = s

/-- The idle lock of a seat locks the session. -/
def IdleLocks (self : Standing) (shadow : Option String) (seatId : String) (s : SessionId) :
    Prop :=
  self.settings.lock.lockOnIdle = true ∧ self.seats.activeSession seatId = .ok (some s)
    ∧ self.passwordless shadow s = false ∧ self.canLock = true

/-- A stage change locks the session. -/
def StageLocks (self : Standing) (shadow : Option String) (change : String × IdleStage)
    (s : SessionId) : Prop :=
  (change.2 = .lockRequested ∧ self.IdleLocks shadow change.1 s)
    ∨ (change.2 = .suspendRequested ∧ self.SuspendLocks s)

end Standing

namespace Daemon

variable {d d' : Daemon} {env : Env} {s : SessionId}

theorem cannotUnlock_eq (d : Daemon) (env : Env) (s : SessionId) :
    d.cannotUnlock env s = d.standing.passwordless env.shadow s := by
  simp only [cannotUnlock, SessionManager.get, Standing.passwordless, standing,
    SessionManager.roster]
  cases d.sessions.sessions.lookup s <;> rfl

theorem lock_isOk_iff {k : SessionId} :
    (∃ locks, d.locks.lock k (LockPolicy.from d.settings.lock) = .ok locks) ↔
      d.standing.canLock = true := by
  simp only [LockManager.lock_eq_ok_iff, exists_and_left, exists_eq, and_true,
    Standing.canLock, standing, LockPolicy.from, Bool.and_eq_true, Bool.not_eq_true']

/-! ## One handler each -/

/-- `Daemon::lock_session` locks the session unless its user has no password or `lock` fails. -/
theorem lockSession_isLocked (k : SessionId) (reason : LockReason) :
    (d.lockSession env k reason).daemon.locks.isLocked s = true ↔
      d.locks.isLocked s = true
        ∨ (s = k ∧ d.standing.passwordless env.shadow k = false ∧ d.standing.canLock = true) := by
  unfold lockSession
  rw [cannotUnlock_eq]
  cases hpassword : d.standing.passwordless env.shadow k with
  | true => simp
  | false =>
      simp only [Bool.false_eq_true, if_false, true_and]
      cases hlock : d.locks.lock k (LockPolicy.from d.settings.lock) with
      | error e =>
          have hno : d.standing.canLock = false := by
            by_contra hcan
            obtain ⟨locks, hok⟩ := (lock_isOk_iff (k := k)).2 (by simpa using hcan)
            rw [hlock] at hok
            cases hok
          simp [hno]
      | ok locks =>
          have hcan : d.standing.canLock = true := lock_isOk_iff.1 ⟨locks, hlock⟩
          simp only [showLock_locks, LockManager.lock_isLocked hlock, hcan, and_true]
          exact or_comm

/-- The `LockRequested` arm does nothing, or locks the one session it is about. -/
theorem idleLock_cases (d : Daemon) (env : Env) (seatId : String) :
    (d.idleLock env seatId = (d, []) ∧ ∀ s, ¬ d.standing.IdleLocks env.shadow seatId s)
      ∨ ∃ k locks, (∀ s, d.standing.IdleLocks env.shadow seatId s ↔ s = k)
        ∧ d.locks.lock k (LockPolicy.from d.settings.lock) = .ok locks
        ∧ d.idleLock env seatId = { d with locks }.showLock k .idle := by
  have hidle : d.standing.settings.lock.lockOnIdle
      = (LockPolicy.from d.settings.lock).lockOnIdle := rfl
  have hseats : d.standing.seats = d.seats := rfl
  simp only [Standing.IdleLocks, idleLock, cannotUnlock_eq, hidle, hseats]
  cases (LockPolicy.from d.settings.lock).lockOnIdle with
  | false => simp
  | true =>
      cases hactive : d.seats.activeSession seatId with
      | error e => simp
      | ok active =>
          cases active with
          | none => simp
          | some k =>
              cases hpassword : d.standing.passwordless env.shadow k with
              | true =>
                  left
                  simp only [Bool.not_true, Bool.false_eq_true, if_false, hpassword, if_true,
                    true_and]
                  rintro s ⟨hs, hno, -⟩
                  obtain rfl := Option.some.inj (Except.ok.inj hs)
                  rw [hpassword] at hno
                  cases hno
              | false =>
                  cases hlock : d.locks.lock k (LockPolicy.from d.settings.lock) with
                  | error e =>
                      left
                      simp only [Bool.not_true, Bool.false_eq_true, if_false, hpassword, hlock,
                        true_and]
                      rintro s ⟨-, -, hcan⟩
                      obtain ⟨locks, hok⟩ := (lock_isOk_iff (k := k)).2 hcan
                      rw [hlock] at hok
                      cases hok
                  | ok locks =>
                      have hcan : d.standing.canLock = true := lock_isOk_iff.1 ⟨locks, hlock⟩
                      refine Or.inr ⟨k, locks, fun s => ?_, hlock, ?_⟩
                      · simp only [hcan, and_true, true_and, Except.ok.injEq, Option.some.injEq]
                        constructor
                        · rintro ⟨rfl, -⟩
                          rfl
                        · rintro rfl
                          exact ⟨rfl, hpassword⟩
                      · simp only [Bool.not_true, Bool.false_eq_true, if_false, hpassword, hlock]

theorem idleLock_isLocked (seatId : String) :
    (d.idleLock env seatId).1.locks.isLocked s = true ↔
      d.locks.isLocked s = true ∨ d.standing.IdleLocks env.shadow seatId s := by
  rcases idleLock_cases d env seatId with ⟨hsame, hno⟩ | ⟨k, locks, hk, hlock, heq⟩
  · simp [hsame, hno]
  · rw [heq, showLock_locks, LockManager.lock_isLocked hlock, hk]
    exact or_comm

theorem idleSuspend_isLocked :
    (d.idleSuspend env).1.locks.isLocked s = true ↔
      d.locks.isLocked s = true ∨ d.standing.SuspendLocks s := by
  refine (suspend_isLocked ..).trans (or_congr_right ?_)
  have hvisited : s ∈ d.sessions.list.map SessionContext.id ↔
      ∃ k session, d.sessions.roster k = some session ∧ session.id = s := by
    simp only [List.mem_map, SessionManager.list, Table.mem_values,
      SessionManager.roster_eq_some_iff]
    constructor
    · rintro ⟨ctx, ⟨k, hk⟩, hs⟩
      exact ⟨k, _, ⟨ctx, hk, rfl⟩, hs⟩
    · rintro ⟨k, _, ⟨ctx, hk, rfl⟩, hs⟩
      exact ⟨ctx, ⟨k, hk⟩, hs⟩
  rw [hvisited]
  simp only [Standing.SuspendLocks, Standing.canLock, standing, locksOnSuspend, LockPolicy.from,
    Bool.and_eq_true, Bool.not_eq_true', and_assoc]

/-- A suspend that goes through locks every session, or none. -/
theorem suspendLocks_iff
    (hid : ∀ k ctx, d.sessions.sessions.lookup k = some ctx → ctx.id = k) {session : Session}
    (hs : d.sessions.roster s = some session) :
    d.standing.SuspendLocks s ↔ d.locks.inhibitors.blocks .suspend = false
      ∧ locksOnSuspend (LockPolicy.from d.settings.lock) d.locks = true := by
  have hvisited : ∃ k session, d.standing.roster k = some session ∧ session.id = s := by
    obtain ⟨ctx, hctx, rfl⟩ := SessionManager.roster_eq_some_iff.1 hs
    exact ⟨s, ctx.session, hs, hid s ctx hctx⟩
  simp only [Standing.SuspendLocks, hvisited, and_true]
  simp only [Standing.canLock, standing, locksOnSuspend, LockPolicy.from, Bool.and_eq_true,
    Bool.not_eq_true', and_assoc]

/-- `power::suspend` is blocked, locks nothing, or finds `P` true of every session. -/
def SuspendFinds (d : Daemon) (P : SessionId → Prop) : Prop :=
  d.locks.inhibitors.blocks .suspend = true
    ∨ locksOnSuspend (LockPolicy.from d.settings.lock) d.locks = false
    ∨ ∀ s session, d.sessions.roster s = some session → P s

/-- It is the condition that `P` holds of whatever `power::suspend` locks. -/
theorem suspendFinds_iff (hid : ∀ k ctx, d.sessions.sessions.lookup k = some ctx → ctx.id = k)
    {P : SessionId → Prop} :
    SuspendFinds d P ↔
      ∀ s session, d.sessions.roster s = some session → d.standing.SuspendLocks s → P s := by
  constructor
  · intro h s session hs hlocks
    obtain ⟨hblocks, hon⟩ := (suspendLocks_iff hid hs).1 hlocks
    rcases h with hblocked | hoff | hall
    · rw [hblocks] at hblocked
      cases hblocked
    · rw [hon] at hoff
      cases hoff
    · exact hall s session hs
  · intro h
    cases hblocks : d.locks.inhibitors.blocks .suspend with
    | true => exact Or.inl hblocks
    | false =>
        cases hon : locksOnSuspend (LockPolicy.from d.settings.lock) d.locks with
        | false => exact Or.inr (Or.inl hon)
        | true =>
            exact Or.inr (Or.inr fun s session hs =>
              h s session hs ((suspendLocks_iff hid hs).2 ⟨hblocks, hon⟩))

/-! ## The idle tick -/

theorem idleChange_isLocked (change : String × IdleStage) :
    (idleChange env d change).1.locks.isLocked s = true ↔
      d.locks.isLocked s = true ∨ d.standing.StageLocks env.shadow change s := by
  obtain ⟨seatId, stage⟩ := change
  cases stage with
  | active => simp [idleChange, Standing.StageLocks]
  | dimmed => simp [idleChange, Standing.StageLocks]
  | lockRequested => simpa [idleChange, Standing.StageLocks] using idleLock_isLocked seatId
  | suspendRequested => simpa [idleChange, Standing.StageLocks] using idleSuspend_isLocked

/-- The rounds of the loop do not get in each other's way. -/
theorem idleChanges_isLocked (changes : List (String × IdleStage)) (d : Daemon) :
    (forEach (idleChange env) d changes).1.locks.isLocked s = true ↔
      d.locks.isLocked s = true
        ∨ ∃ change ∈ changes, d.standing.StageLocks env.shadow change s := by
  induction changes generalizing d with
  | nil => simp
  | cons change rest ih =>
      have hrests : Rests d [] (idleChange env d change).1 := idleChange_rests change
      rw [Rests] at hrests
      simp only [forEach_cons, ih, idleChange_isLocked, hrests, List.exists_mem_cons_iff,
        or_assoc]

/-- The stage changes of a tick. -/
def stageChanges (self : Daemon) (now : Instant) : List (String × IdleStage) :=
  (self.idle.tick now (IdlePolicy.from self.settings.idle)).2

/-- The idle lock of some seat, in this tick, is the session's. -/
def IdleLocked (d : Daemon) (env : Env) (s : SessionId) : Prop :=
  ∃ seatId, (seatId, .lockRequested) ∈ d.stageChanges env.now
    ∧ d.standing.IdleLocks env.shadow seatId s

theorem onIdleTick_isLocked :
    (d.onIdleTick env).1.locks.isLocked s = true ↔
      d.locks.isLocked s = true
        ∨ ∃ change ∈ d.stageChanges env.now, d.standing.StageLocks env.shadow change s := by
  simp only [onIdleTick, sweep, LockManager.sweepLockouts_isLocked]
  exact idleChanges_isLocked _ _

/-! ## Unlock attempts -/

/-- A rejected attempt on the session is its last one before a lockout. -/
def LastAttempt (d : Daemon) (env : Env) (s : SessionId) (userName password : String) : Prop :=
  (d.authenticator.authenticate env.pam).accepts { sessionId := s, userName, password } = false
    ∧ (authPolicy d.settings.authentication d.settings.lock).maxAttempts
      ≤ wrapU32 ((d.locks.entry s).attempts + 1)

theorem unlock_locks (k : SessionId) (userName password : String) :
    (d.unlock env k userName password).daemon.locks
      = (d.unlockAttempt env k userName password).manager := by
  by_cases hs : (d.unlockAttempt env k userName password).outcome = .success
  · rw [unlock_success hs]
  · rw [unlock_failure hs]

/-- An attempt on a session that is not locked locks it exactly if it is its last one. -/
theorem unlockAttempt_isLocked_iff (h : d.locks.isLocked s = false) (userName password : String) :
    (d.unlockAttempt env s userName password).manager.isLocked s = true ↔
      LastAttempt d env s userName password := by
  constructor
  · exact unlockAttempt_locks h
  · rintro ⟨hrejected, hlast⟩
    have hout : (d.locks.entry s).state ≠ .lockedOut := by
      intro hout
      rw [LockManager.isLocked_iff.2 (by simp [hout])] at h
      cases h
    unfold unlockAttempt
    rw [LockManager.attemptUnlock_rejected _ _ { sessionId := s, userName, password } _ _ hout
      hrejected, if_pos hlast, LockManager.isLocked_iff]
    simp [LockManager.entry]

/-! ## The inversion -/

/-- The event locks a session that is not locked. -/
def Engages (d : Daemon) (env : Env) (s : SessionId) : DaemonEvent → Prop
  | .ipc (.command cmd) =>
    authorize env.userByName cmd.peer cmd.connId cmd.request d.sessions d.elevation = .ok ()
      ∧ match cmd.request with
        | .lockSession k =>
          s = k ∧ d.standing.passwordless env.shadow k = false ∧ d.standing.canLock = true
        | .unlock k userName password => s = k ∧ LastAttempt d env k userName password
        | .suspend => d.standing.SuspendLocks s
        | _ => False
  | .idleTick => ∃ change ∈ d.stageChanges env.now, d.standing.StageLocks env.shadow change s
  | _ => False

theorem releaseInhibit_isLocked (connId : ConnId) (inhibitId : ℕ) :
    (d.dispatch env connId (.releaseInhibit inhibitId)).daemon.locks.isLocked s
      = d.locks.isLocked s := by
  simp only [dispatch]
  split
  · rename_i locks hrelease
    rw [LockManager.releaseInhibitor_eq hrelease]
    rfl
  · rfl

theorem reapChildren_locks (children : List ReapedChild) (d : Daemon) :
    (d.reapChildren children).1.locks = d.locks := by
  unfold reapChildren
  induction children generalizing d with
  | nil => rfl
  | cons child rest ih =>
      rw [forEach_cons]
      exact (ih _).trans (handleCompositorExit_locks child)

theorem dispatch_engages_iff (h : d.locks.isLocked s = false) {cmd : ManagerCommand}
    (hauth : authorize env.userByName cmd.peer cmd.connId cmd.request d.sessions d.elevation
      = .ok ()) :
    (d.dispatch env cmd.connId cmd.request).daemon.locks.isLocked s = true ↔
      Engages d env s (.ipc (.command cmd)) := by
  have hsame : ∀ {d' : Daemon}, d'.locks.isLocked s = d.locks.isLocked s →
      (d'.locks.isLocked s = true ↔ False) := by
    intro d' hd'
    rw [hd', h]
    simp
  simp only [Engages, hauth, true_and]
  cases hrequest : cmd.request with
  | lockSession k =>
      refine (lockSession_isLocked k .manual).trans ?_
      simp [h]
  | unlock k userName password =>
      simp only [dispatch, unlock_locks]
      by_cases hs : s = k
      · subst hs
        simpa using unlockAttempt_isLocked_iff h userName password
      · simp [unlockAttempt_isLocked_ne hs, h, hs]
  | inhibit what who why mode => exact hsame rfl
  | releaseInhibit inhibitId => exact hsame (releaseInhibit_isLocked cmd.connId inhibitId)
  | suspend =>
      have hsuspend : (d.idleSuspend env).1.locks.isLocked s = true ↔ _ := idleSuspend_isLocked
      refine hsuspend.trans ?_
      simp [h]
  | _ => exact hsame (by rw [dispatch_locks cmd.connId rfl])

/-- **A session is locked by an event exactly if the event engages its lock.** -/
theorem handle_engages_iff (h : d.locks.isLocked s = false) (event : DaemonEvent) :
    (d.handle env event).1.locks.isLocked s = true ↔ Engages d env s event := by
  have hsame : ∀ {d' : Daemon}, d'.locks = d.locks → (d'.locks.isLocked s = true ↔ False) := by
    intro d' hd'
    rw [hd', h]
    simp
  match event with
  | .ipc (.connected connId peer outbox) => exact hsame rfl
  | .ipc (.disconnected connId) => exact hsame rfl
  | .ipc (.command cmd) =>
      cases hauth : authorize env.userByName cmd.peer cmd.connId cmd.request d.sessions
        d.elevation with
      | error e =>
          rw [handle_rejected hauth]
          simp [Engages, hauth, h]
      | ok u =>
          rw [handle_authorized hauth]
          exact dispatch_engages_iff h hauth
  | .idleTick =>
      refine onIdleTick_isLocked.trans ?_
      simp [Engages, h]
  | .signal .terminate => exact hsame rfl
  | .signal .reloadConfig =>
      refine hsame ?_
      simp only [handle, onSignal, reloadConfig]
      split <;> rfl
  | .signal (.reapChildren children) => exact hsame (reapChildren_locks children d)

end Daemon

end MitosSession
