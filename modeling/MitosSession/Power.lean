import MitosSession.Policy

set_option autoImplicit false

/-! # Effects and power transitions

`Effect` is everything the daemon does to the outside that this development speaks about: what it
hands to a connection's outbox, which credentials it has checked, and which power transitions and
processes it starts. The power functions (`power/suspend.rs`, `reboot.rs`, `shutdown.rs`,
`resume.rs`) are the first to produce them.

A send is recorded even when the registry does not know the connection, in which case `queued` is
`false` and the message goes nowhere, as in `ConnRegistry::send_event`. -/

namespace MitosSession

/-- What `launcher` spawns for a session. -/
inductive Program where
  | compositor
  | fallbackTerminal
deriving DecidableEq

/-- An observable action of the daemon. -/
inductive Effect where
  /-- `send_response` or `send_event`; `queued` tells whether the connection was registered. -/
  | send (conn : ConnId) (message : Message) (queued : Bool)
  /-- A call of the authenticator configured for `service`. -/
  | authenticate (service : String) (request : AuthRequest) (accepted : Bool)
  /-- `thread::sleep`, while delay inhibitors finish. -/
  | sleep (duration : Duration)
  /-- `backend.suspend()`, with the sessions and the lock manager as they stand at that
      moment. -/
  | backendSuspend (sessions : SessionManager) (locks : LockManager)
  | backendReboot
  | backendPoweroff
  /-- A child process was spawned, or could not be. -/
  | spawn (session : SessionId) (program : Program) (spawned : Bool)

/-- The message an effect hands to a connection, and whether it was queued. -/
def Effect.sent : Effect → Option (ConnId × Message × Bool)
  | .send conn message queued => some (conn, message, queued)
  | _ => none

theorem Effect.mem_sent {effects : List Effect} {conn : ConnId} {message : Message}
    {queued : Bool} :
    (conn, message, queued) ∈ effects.filterMap Effect.sent ↔
      Effect.send conn message queued ∈ effects := by
  rw [List.mem_filterMap]
  constructor
  · rintro ⟨e, he, hsent⟩
    cases e <;> simp only [Effect.sent, Option.some.injEq, Prod.mk.injEq, reduceCtorEq] at hsent
    obtain ⟨rfl, rfl, rfl⟩ := hsent
    exact he
  · intro he
    exact ⟨_, he, rfl⟩

namespace ConnRegistry

/-- `ConnRegistry::send_response`. -/
def sendResponse (self : ConnRegistry) (id : ConnId) (response : Response) : Effect :=
  .send id (.response response) (self.knows id)

/-- `ConnRegistry::send_event`. -/
def sendEvent (self : ConnRegistry) (id : ConnId) (event : Event) : Effect :=
  .send id (.event event) (self.knows id)

/-- `if let Some(c) = conn { registry.send_event(c, event) }`. -/
def sendEventTo (self : ConnRegistry) (conn : Option ConnId) (event : Event) : List Effect :=
  (conn.map fun c => self.sendEvent c event).toList

end ConnRegistry

/-! ## Backends -/

/-- The `SystemPowerBackend` in use: `PowerBackendKind` together with what `make` captured. -/
inductive PowerBackend where
  | mitosPower (socket : String)
  | direct
  | supervised
deriving DecidableEq

/-- `PowerBackendKind::make`. -/
def PowerBackendKind.make (self : PowerBackendKind) (mitosPowerSocket : String) : PowerBackend :=
  match self with
  | .mitosPower => .mitosPower mitosPowerSocket
  | .direct => .direct
  | .supervised => .supervised

/-- The three calls of a `SystemPowerBackend`. -/
inductive PowerCall where
  | suspend
  | reboot
  | poweroff
deriving DecidableEq

/-! ## Transitions -/

/-- `if !delayers.is_empty() { thread::sleep(grace) }`. -/
def waitForDelayers (inhibitors : InhibitorRegistry) (what : InhibitWhat) (grace : Duration) :
    List Effect :=
  if (inhibitors.delays what).isEmpty then [] else [.sleep grace]

/-- The body of the loop of `power::suspend` over the sessions: lock, then tell the compositor.
    The result of `lock` is discarded. -/
def suspendSession (lockPolicy : LockPolicy) (registry : ConnRegistry) (locks : LockManager)
    (ctx : SessionContext) : LockManager × List Effect :=
  let locks :=
    if lockPolicy.lockOnSuspend then
      match locks.lock ctx.id lockPolicy with
      | .ok locks => locks
      | .error _ => locks
    else
      locks
  (locks, registry.sendEventTo ctx.compositorConn .prepareForSleep)

/-- `power::suspend`; `answer` is what the backend returns. -/
def suspend (sessions : SessionManager) (locks : LockManager) (lockPolicy : LockPolicy)
    (registry : ConnRegistry) (answer : Result Unit) (grace : Duration) :
    LockManager × List Effect × Result Unit :=
  if locks.inhibitors.blocks .suspend then
    (locks, [], .error (.permissionDenied "an application is inhibiting suspend"))
  else
    let waited := waitForDelayers locks.inhibitors .suspend grace
    let prepared := forEach (suspendSession lockPolicy registry) locks sessions.list
    (prepared.1, waited ++ prepared.2 ++ [.backendSuspend sessions prepared.1], answer)

/-- Whether the loop of `power::suspend` locks the sessions it visits. -/
def locksOnSuspend (lockPolicy : LockPolicy) (locks : LockManager) : Bool :=
  lockPolicy.lockOnSuspend && lockPolicy.enabled && !locks.inhibitors.blocks .lock

/-- The loop of `power::suspend` locks every session it visits, or none. -/
theorem forEach_suspendSession (lockPolicy : LockPolicy) (registry : ConnRegistry)
    (visited : List SessionContext) (locks : LockManager) :
    let after := (forEach (suspendSession lockPolicy registry) locks visited).1
    after.inhibitors = locks.inhibitors
      ∧ ∀ s, after.isLocked s = true ↔ locks.isLocked s = true
        ∨ (locksOnSuspend lockPolicy locks = true ∧ s ∈ visited.map SessionContext.id) := by
  induction visited generalizing locks with
  | nil => simp
  | cons ctx rest ih =>
      simp only [forEach_cons]
      cases hlock : locks.lock ctx.id lockPolicy with
      | error e =>
          have hoff : locksOnSuspend lockPolicy locks = false := by
            by_contra hon
            simp only [locksOnSuspend, Bool.not_eq_false, Bool.and_eq_true,
              Bool.not_eq_eq_eq_not, Bool.not_true] at hon
            rw [LockManager.lock_eq_ok_iff.2 ⟨⟨hon.1.2, hon.2⟩, rfl⟩] at hlock
            cases hlock
          have hsame : (suspendSession lockPolicy registry locks ctx).1 = locks := by
            simp only [suspendSession, hlock, ite_self]
          rw [hsame]
          simpa [hoff] using ih locks
      | ok locks' =>
          by_cases hsus : lockPolicy.lockOnSuspend = true
          · have hlocked : (suspendSession lockPolicy registry locks ctx).1 = locks' := by
              simp only [suspendSession, hlock, hsus, if_true]
            obtain ⟨⟨hen, hbl⟩, -⟩ := LockManager.lock_eq_ok_iff.1 hlock
            obtain ⟨hframe, -⟩ := LockManager.lock_frame hlock
            rw [hlocked]
            obtain ⟨hinh, hiff⟩ := ih locks'
            refine ⟨hinh.trans hframe, fun s => ?_⟩
            rw [hiff s, LockManager.lock_isLocked hlock]
            simp only [locksOnSuspend, hframe, hsus, hen, hbl, Bool.and_self, Bool.not_false,
              true_and, List.map_cons, List.mem_cons]
            tauto
          · have hoff : locksOnSuspend lockPolicy locks = false := by
              simp [locksOnSuspend, hsus]
            have hsame : (suspendSession lockPolicy registry locks ctx).1 = locks := by
              simp only [suspendSession, hsus, Bool.false_eq_true, if_false]
            rw [hsame]
            simpa [hoff] using ih locks

/-- While a `Block` inhibitor on the lock screen is held, the loop changes nothing. -/
theorem forEach_suspendSession_blocked (lockPolicy : LockPolicy) (registry : ConnRegistry)
    (visited : List SessionContext) {locks : LockManager}
    (h : locks.inhibitors.blocks .lock = true) :
    (forEach (suspendSession lockPolicy registry) locks visited).1 = locks := by
  induction visited with
  | nil => rfl
  | cons ctx rest ih =>
      have hsame : (suspendSession lockPolicy registry locks ctx).1 = locks := by
        unfold suspendSession
        dsimp only
        split
        · cases hlock : locks.lock ctx.id lockPolicy with
          | error e => rfl
          | ok locks' =>
              rw [(LockManager.lock_eq_ok_iff.1 hlock).1.2] at h
              cases h
        · rfl
      rw [forEach_cons, hsame]
      exact ih

/-- What `power::suspend` locks: unless an inhibitor stops it, every session, or none. -/
theorem suspend_isLocked (sessions : SessionManager) (locks : LockManager)
    (lockPolicy : LockPolicy) (registry : ConnRegistry) (answer : Result Unit) (grace : Duration)
    (s : SessionId) :
    (suspend sessions locks lockPolicy registry answer grace).1.isLocked s = true ↔
      locks.isLocked s = true
        ∨ (locks.inhibitors.blocks .suspend = false ∧ locksOnSuspend lockPolicy locks = true
          ∧ s ∈ sessions.list.map SessionContext.id) := by
  unfold suspend
  cases hblocks : locks.inhibitors.blocks .suspend with
  | true => simp
  | false =>
      simp only [Bool.false_eq_true, if_false, true_and]
      exact (forEach_suspendSession lockPolicy registry sessions.list locks).2 s

/-- `power::reboot`. -/
def reboot (sessions : SessionManager) (locks : LockManager) (answer : Result Unit)
    (grace : Duration) : SessionManager × List Effect × Result Unit :=
  if locks.inhibitors.blocks .shutdown then
    (sessions, [], .error (.permissionDenied "an application is inhibiting shutdown/reboot"))
  else
    let waited := waitForDelayers locks.inhibitors .shutdown grace
    (sessions.terminateAll, waited ++ [.backendReboot], answer)

/-- `power::poweroff`. -/
def poweroff (sessions : SessionManager) (locks : LockManager) (answer : Result Unit)
    (grace : Duration) : SessionManager × List Effect × Result Unit :=
  if locks.inhibitors.blocks .shutdown then
    (sessions, [], .error (.permissionDenied "an application is inhibiting shutdown"))
  else
    let waited := waitForDelayers locks.inhibitors .shutdown grace
    (sessions.terminateAll, waited ++ [.backendPoweroff], answer)

/-- `power::on_resume`. -/
def onResume (sessions : SessionManager) (registry : ConnRegistry) : List Effect :=
  sessions.list.flatMap fun ctx => registry.sendEventTo ctx.compositorConn .resumedFromSleep

/-! ## Compositor restarts -/

/-- `launcher::RestartDecision`. -/
inductive RestartDecision where
  | restart
  | fallbackToTerminal
deriving DecidableEq

/-- `launcher::decide_restart`. -/
def decideRestart (restartsSoFar maxRestarts : ℕ) : RestartDecision :=
  if restartsSoFar < maxRestarts then .restart else .fallbackToTerminal

end MitosSession
