import MitosSession.Daemon.Change

set_option autoImplicit false

/-! # Every way an event can go

`Daemon.handled` is the inversion of the event loop: one constructor of `Daemon.Handled` for each
way an event can be handled. Most commands are answered at once after a chain of changes
(`replied`); the idle tick and the reaping of children are chains of acts (`Daemon.Act`): changes,
calls of `power::suspend`, and compositors lost. -/

namespace MitosSession

namespace Daemon

/-- The first thing `handle_compositor_exit` does: the session stored under `key` forgets its
    compositor, whose connection is dropped from the registry. -/
def loseCompositor (self : Daemon) (key : SessionId) (found : SessionContext) : Daemon :=
  { self with
    registry :=
      match found.compositorConn with
      | some conn => self.registry.unregister conn
      | none => self.registry
    sessions := self.sessions.update key fun ctx =>
      { ctx with compositorProcess := none, compositorConn := none } }

/-- What the idle tick and the reaping of children consist of. -/
inductive Act (d : Daemon) : List Effect → Daemon → Prop
  | change {effects : List Effect} {d' : Daemon} (h : Change none d effects d') : Act d effects d'
  | suspend (env : Env) : Act d (d.idleSuspend env).2 (d.idleSuspend env).1
  | lose {key : SessionId} {found : SessionContext}
      (h : d.sessions.sessions.lookup key = some found) : Act d [] (d.loseCompositor key found)

/-- Chains of acts. -/
abbrev Acts : Daemon → List Effect → Daemon → Prop :=
  Chain Act

variable {d d' : Daemon} {env : Env} {effects : List Effect}

theorem Changes.acts (h : Changes none d effects d') : Acts d effects d' :=
  h.mono fun _ _ _ hchange => Act.change hchange

/-! ## Suspending -/

/-- `power::suspend` tells compositors to prepare, and calls the backend; it shows no lock
    screen. -/
theorem idleSuspend_isNotice (d : Daemon) (env : Env) :
    ∀ e ∈ (d.idleSuspend env).2, e.isNotice = true := by
  intro e he
  simp only [idleSuspend, MitosSession.suspend] at he
  split at he
  · cases he
  · have hloop : ∀ (visited : List SessionContext) (locks : LockManager),
        ∀ e ∈ (forEach (suspendSession (LockPolicy.from d.settings.lock) d.registry) locks
          visited).2, e.isNotice = true := by
      intro visited
      induction visited with
      | nil => simp
      | cons ctx rest ih =>
          intro locks e he
          rw [forEach_cons] at he
          rcases List.mem_append.1 he with hmem | hmem
          · exact isNotice_sendEventTo (fun _ _ => rfl) e hmem
          · exact ih _ e hmem
    simp only [List.mem_append, List.mem_singleton] at he
    rcases he with (hwait | hmem) | rfl
    · unfold waitForDelayers at hwait
      split at hwait
      · cases hwait
      · obtain rfl := List.mem_singleton.1 hwait
        rfl
    · exact hloop _ _ e hmem
    · rfl

/-! ## The idle tick -/

theorem idleLock_changes (seatId : String) :
    Changes none d (d.idleLock env seatId).2 (d.idleLock env seatId).1 := by
  rcases idleLock_shows d env seatId with heq | ⟨sessionId, locks, hlock, heq⟩
  · rw [heq]
    exact Changes.nothing
  · rw [heq]
    exact Chain.single (Change.lock .idle hlock)

theorem notifyActiveCompositor_changes (seatId : String) :
    Changes none d (d.notifyActiveCompositor seatId (.dim seatId)) d := by
  refine Changes.notice ?_
  unfold notifyActiveCompositor
  split
  · split
    · exact isNotice_sendEventTo fun _ _ => rfl
    · simp
  · simp

/-- Every stage but the last is a chain of changes; the last is `power::suspend`. -/
theorem idleChange_changes {change : String × IdleStage} (h : change.2 ≠ .suspendRequested) :
    Changes none d (idleChange env d change).2 (idleChange env d change).1 := by
  obtain ⟨seatId, stage⟩ := change
  cases stage with
  | active => exact Changes.nothing
  | dimmed => exact notifyActiveCompositor_changes seatId
  | lockRequested => exact idleLock_changes seatId
  | suspendRequested => exact absurd rfl h

theorem sweep_changes (now : Instant) :
    Changes none d (d.sweep now).2 (d.sweep now).1 := by
  have hlocks : Change none d [] _ := Change.sweepLocks now
  have hrecord : Change none { d with locks := d.locks.sweepLockouts now } [] _ := Change.record
    (d.elevation.clearExpiredLockouts now).sessionAuth
    (d.elevation.clearExpiredLockouts now).timeouts.lockoutExpiry
  have htimers : Change none
      { d with
        locks := d.locks.sweepLockouts now
        elevation := d.elevation.clearExpiredLockouts now } [] _ := Change.promptTimers
    ((d.elevation.clearExpiredLockouts now).timeouts.expiredPrompts now).2.promptExpiry
  exact Chain.cons hlocks (Chain.cons hrecord (Chain.cons htimers
    (takeAll_changes "timed out waiting for a response" _ _)))

theorem onIdleTick_acts : Acts d (d.onIdleTick env).2 (d.onIdleTick env).1 := by
  have hdesk : Change none d [] _ := Change.desk d.seats
    (d.idle.tick env.now (IdlePolicy.from d.settings.idle)).1 d.shouldExit
  refine Chain.append ?_ (sweep_changes env.now).acts
  refine Chain.silent (Act.change hdesk) ?_
  refine (Chain.seqClosed Act).loop (idleChange env) _ (fun d change _ => ?_) _
  by_cases hstage : change.2 = .suspendRequested
  · have hsuspend : idleChange env d change = d.idleSuspend env := by
      simp only [idleChange, hstage]
    rw [hsuspend]
    exact Chain.single (Act.suspend env)
  · exact (idleChange_changes hstage).acts

/-! ## Children -/

/-- Either the child was nobody's compositor, or a session loses its compositor and then restarts
    or falls back, which touches no connection. -/
theorem handleCompositorExit_loses (child : ReapedChild) :
    (d.handleCompositorExit child = (d, []))
      ∨ ∃ key found, d.sessions.sessions.lookup key = some found
        ∧ found.compositorProcess = some child.pid
        ∧ (d.handleCompositorExit child).1.registry = (d.loseCompositor key found).registry
        ∧ Changes none (d.loseCompositor key found) (d.handleCompositorExit child).2
            (d.handleCompositorExit child).1 := by
  unfold handleCompositorExit
  split
  · exact Or.inl rfl
  · rename_i key found hfind
    right
    have hmem := List.mem_of_find?_eq_some hfind
    have hpid := List.find?_some hfind
    refine ⟨key, found, Table.lookup_eq_some_iff.2 hmem, by simpa using hpid, ?_⟩
    have hrestart : Change none (d.loseCompositor key found) [] _ := Change.restarting found.id
    dsimp only
    split
    · refine ⟨trySpawnCompositor_registry ..,
        Chain.silent hrestart (Chain.silent (Change.process found.id (fun ctx =>
          { ctx with compositorRestarts := wrapU32 (ctx.compositorRestarts + 1) })
          fun _ => rfl) ?_)⟩
      exact trySpawnCompositor_changes child.respawned found.id
    · split
      · rename_i pid _ _
        refine ⟨rfl, Chain.silent hrestart (Chain.silent (Change.process found.id (fun ctx =>
          { ctx with compositorProcess := some pid }) fun _ => rfl) ?_)⟩
        exact Changes.notice (by simp [Effect.isNotice])
      · exact ⟨rfl, Chain.silent hrestart (Changes.notice (by simp [Effect.isNotice]))⟩
      · exact ⟨rfl, Chain.silent hrestart Changes.nothing⟩

theorem handleCompositorExit_cases (child : ReapedChild) :
    (d.handleCompositorExit child = (d, []))
      ∨ ∃ key found, d.sessions.sessions.lookup key = some found
        ∧ found.compositorProcess = some child.pid
        ∧ Changes none (d.loseCompositor key found) (d.handleCompositorExit child).2
            (d.handleCompositorExit child).1 := by
  obtain hnone | ⟨key, found, hfound, hpid, -, hchanges⟩ :=
    handleCompositorExit_loses (d := d) child
  · exact Or.inl hnone
  · exact Or.inr ⟨key, found, hfound, hpid, hchanges⟩

theorem reapChildren_acts (children : List ReapedChild) :
    Acts d (d.reapChildren children).2 (d.reapChildren children).1 := by
  refine (Chain.seqClosed Act).loop handleCompositorExit _ (fun d child _ => ?_) _
  obtain hnone | ⟨key, found, hfound, -, hchanges⟩ := handleCompositorExit_cases (d := d) child
  · rw [hnone]
    exact Chain.nil d
  · exact Chain.silent (Act.lose hfound) hchanges.acts

/-! ## Connections and configuration -/

theorem disconnected_changes (connId : ConnId) :
    Changes none d (d.disconnected connId).2 (d.disconnected connId).1 :=
  Chain.silent (Change.disconnect connId)
    (takeAll_changes "a required connection disconnected" _ _)

theorem reloadConfig_changes : Changes none d [] (d.reloadConfig env) := by
  unfold reloadConfig
  split
  · exact Changes.nothing
  · rename_i settings _
    exact Chain.single (Change.configure settings _ _)

/-! ## Unlock attempts -/

/-- The attempt an `Unlock` request makes. -/
def unlockAttempt (self : Daemon) (env : Env) (sessionId : SessionId) (userName password : String) :
    UnlockAttempt :=
  self.locks.attemptUnlock (self.authenticator.authenticate env.pam)
    { sessionId, userName, password } (authPolicy self.settings.authentication self.settings.lock)
    env.now

section Attempt

variable {k : SessionId}

/-- An attempt on one session leaves the others as they are. -/
theorem unlockAttempt_frame (d : Daemon) (env : Env) {s : SessionId} (h : s ≠ k)
    (userName password : String) :
    (d.unlockAttempt env k userName password).manager.locks.lookup s = d.locks.locks.lookup s
      ∧ (d.unlockAttempt env k userName password).manager.timeouts.lockoutExpiry.lookup s
        = d.locks.timeouts.lockoutExpiry.lookup s :=
  d.locks.attemptUnlock_frame _ { sessionId := k, userName, password } _ _ h

theorem unlockAttempt_isLocked_ne {s : SessionId} (h : s ≠ k) (userName password : String) :
    (d.unlockAttempt env k userName password).manager.isLocked s = d.locks.isLocked s := by
  unfold LockManager.isLocked
  rw [(d.unlockAttempt_frame env h userName password).1]

theorem unlockAttempt_success_iff (d : Daemon) (env : Env) (k : SessionId)
    (userName password : String) :
    (d.unlockAttempt env k userName password).outcome = .success ↔
      (d.locks.entry k).state ≠ .lockedOut
        ∧ (d.authenticator.authenticate env.pam).accepts { sessionId := k, userName, password }
          = true :=
  d.locks.attemptUnlock_success_iff _ { sessionId := k, userName, password } _ _

theorem unlockAttempt_unlocks {userName password : String}
    (h : (d.unlockAttempt env k userName password).outcome = .success) :
    (d.unlockAttempt env k userName password).manager.isLocked k = false :=
  d.locks.attemptUnlock_unlocks _ { sessionId := k, userName, password } _ _ h

/-- An attempt on another session, or one that fails, unlocks nothing. -/
theorem unlockAttempt_keeps {s : SessionId} {userName password : String}
    (h : d.locks.isLocked s = true)
    (hfail : s = k → (d.unlockAttempt env k userName password).outcome ≠ .success) :
    (d.unlockAttempt env k userName password).manager.isLocked s = true :=
  d.locks.attemptUnlock_isLocked _ { sessionId := k, userName, password } _ _ h hfail

/-- What locks a session is a rejected attempt that reaches the limit. -/
theorem unlockAttempt_locks {userName password : String} (h : d.locks.isLocked k = false)
    (hlocked : (d.unlockAttempt env k userName password).manager.isLocked k = true) :
    (d.authenticator.authenticate env.pam).accepts { sessionId := k, userName, password } = false
      ∧ (authPolicy d.settings.authentication d.settings.lock).maxAttempts
        ≤ wrapU32 ((d.locks.entry k).attempts + 1) :=
  d.locks.attemptUnlock_locks _ { sessionId := k, userName, password } _ _ h hlocked

end Attempt

/-- What the compositor of a session is told. -/
def tells (self : Daemon) (sessionId : SessionId) (event : Event) : List Effect :=
  match self.sessions.get sessionId with
  | .ok ctx => self.registry.sendEventTo ctx.compositorConn event
  | .error _ => []

theorem unlock_success {k : SessionId} {userName password : String}
    (h : (d.unlockAttempt env k userName password).outcome = .success) :
    d.unlock env k userName password =
      { daemon := { d with
          locks := (d.unlockAttempt env k userName password).manager
          sessions := d.sessions.update k (·.transition .active) }
        effects := d.authEffects env (d.unlockAttempt env k userName password).calls
          ++ d.tells k (.hideLockScreen k)
        response := some (.authResult .success) } := by
  unfold unlock
  simp only [unlockAttempt] at h ⊢
  simp only [h, if_true]
  rfl

theorem unlock_failure {k : SessionId} {userName password : String}
    (h : (d.unlockAttempt env k userName password).outcome ≠ .success) :
    d.unlock env k userName password =
      { daemon := { d with locks := (d.unlockAttempt env k userName password).manager }
        effects := d.authEffects env (d.unlockAttempt env k userName password).calls
          ++ d.tells k (.authFeedback k (d.unlockAttempt env k userName password).outcome)
        response := some (.authResult (d.unlockAttempt env k userName password).outcome) } := by
  unfold unlock
  simp only [unlockAttempt] at h ⊢
  simp only [h, if_false]
  rfl

theorem unlock_response (k : SessionId) (userName password : String) :
    (d.unlock env k userName password).response
      = some (.authResult (d.unlockAttempt env k userName password).outcome) := by
  by_cases hs : (d.unlockAttempt env k userName password).outcome = .success
  · rw [unlock_success hs, hs]
  · rw [unlock_failure hs]

theorem mem_tells {k : SessionId} {event : Event} {e : Effect} (h : e ∈ d.tells k event) :
    ∃ conn queued, e = .send conn (.event event) queued := by
  unfold tells at h
  split at h
  · rename_i ctx _
    cases hconn : ctx.compositorConn with
    | none => simp [ConnRegistry.sendEventTo, hconn] at h
    | some conn =>
        simp only [ConnRegistry.sendEventTo, hconn, Option.map_some, Option.toList_some,
          List.mem_singleton] at h
        exact ⟨conn, _, h⟩
  · cases h

/-! ## The inversion -/

/-- Every way an event can go: its effects and the daemon afterwards. -/
inductive Handled (d : Daemon) (env : Env) : DaemonEvent → List Effect → Daemon → Prop
  | connected (connId : ConnId) (peer : PeerCred) (outbox : OutboxSender) :
      Handled d env (.ipc (.connected connId peer outbox)) []
        { d with registry := d.registry.register connId outbox }
  | disconnected (connId : ConnId) :
      Handled d env (.ipc (.disconnected connId)) (d.disconnected connId).2
        (d.disconnected connId).1
  | rejected (cmd : ManagerCommand) (e : SessionError)
      (hauth : authorize env.userByName cmd.peer cmd.connId cmd.request d.sessions d.elevation
        = .error e) :
      Handled d env (.ipc (.command cmd)) [d.registry.sendResponse cmd.connId (.error e.display)] d
  | replied (cmd : ManagerCommand) {effects : List Effect} {d₁ d' : Daemon} (response : Response)
      (hauth : authorize env.userByName cmd.peer cmd.connId cmd.request d.sessions d.elevation
        = .ok ())
      (henters : Enters d d₁) (hchanges : Changes (some cmd) d₁ effects d')
      (hsuccess : response = .authResult .success → ∃ id password,
        cmd.request = .respondElevation id (.password password)) :
      Handled d env (.ipc (.command cmd))
        (effects ++ [d'.registry.sendResponse cmd.connId response]) d'
  | unlock (cmd : ManagerCommand) (sessionId : SessionId) (userName password : String)
      (hauth : authorize env.userByName cmd.peer cmd.connId cmd.request d.sessions d.elevation
        = .ok ())
      (hrequest : cmd.request = .unlock sessionId userName password) :
      Handled d env (.ipc (.command cmd))
        ((d.unlock env sessionId userName password).effects ++
          [d.registry.sendResponse cmd.connId
            (.authResult (d.unlockAttempt env sessionId userName password).outcome)])
        (d.unlock env sessionId userName password).daemon
  | begun (cmd : ManagerCommand) {sessionId : SessionId} {action : ElevationAction}
      {ctx : SessionContext} {compositorConn : ConnId} {elevation : ElevationManager}
      {id : ElevationRequestId}
      (hauth : authorize env.userByName cmd.peer cmd.connId cmd.request d.sessions d.elevation
        = .ok ())
      (hrequest : cmd.request = .requestElevation sessionId action)
      (hctx : d.sessions.sessions.lookup sessionId = some ctx)
      (hconn : ctx.compositorConn = some compositorConn)
      (hbegin : d.elevation.begin sessionId compositorConn cmd.connId
        (ElevationPolicy.from d.settings.elevation) (elevationAuthPolicy d.settings.elevation)
        env.now = .ok (elevation, id)) :
      Handled d env (.ipc (.command cmd))
        [d.registry.sendEvent compositorConn (.showElevationPrompt id sessionId action)]
        { d with elevation }
  | suspended (cmd : ManagerCommand) (response : Response) (hrequest : cmd.request = .suspend)
      (hresponse : response ≠ .authResult .success) :
      Handled d env (.ipc (.command cmd))
        ((d.idleSuspend env).2 ++ [d.registry.sendResponse cmd.connId response])
        (d.idleSuspend env).1
  | ticked : Handled d env .idleTick (d.onIdleTick env).2 (d.onIdleTick env).1
  | reaped (children : List ReapedChild) :
      Handled d env (.signal (.reapChildren children)) (d.reapChildren children).2
        (d.reapChildren children).1
  | signalled (event : SignalEvent) {d' : Daemon} (hchanges : Changes none d [] d') :
      Handled d env (.signal event) [] d'

/-- A request dispatched to a handler that answers at once. -/
theorem Replied.handled {cmd : ManagerCommand} {reply : Reply} {d₁ : Daemon}
    (h : Replied (some cmd) d₁ reply) (henters : Enters d d₁)
    (hauth : authorize env.userByName cmd.peer cmd.connId cmd.request d.sessions d.elevation
      = .ok ()) :
    Handled d env (.ipc (.command cmd))
      (reply.effects ++ (reply.response.map (reply.daemon.registry.sendResponse cmd.connId)).toList)
      reply.daemon := by
  obtain ⟨hchanges, response, hresponse, hsuccess⟩ := h
  rw [hresponse]
  refine Handled.replied cmd response hauth henters hchanges fun hs => ?_
  obtain ⟨cmd', id, password, hcmd, hrequest⟩ := hsuccess hs
  obtain rfl := Option.some.inj hcmd
  exact ⟨id, password, hrequest⟩

theorem registerCompositor_replied {cmd : ManagerCommand} {sessionId : SessionId}
    (hrequest : cmd.request = .registerCompositor sessionId)
    (hauth : authorize env.userByName cmd.peer cmd.connId cmd.request d.sessions d.elevation
      = .ok ()) :
    Replied (some cmd) d (d.registerCompositor cmd.connId sessionId) := by
  cases hctx : d.sessions.sessions.lookup sessionId with
  | none =>
      simp only [registerCompositor, SessionManager.get, hctx]
      exact Replied.same (by simp)
  | some ctx =>
      refine ⟨Chain.single (Change.registerCompositor rfl hrequest hctx ?_), .ok, ?_, by simp⟩
      · have howned := authorize_owned (s := sessionId) (by rw [hrequest]; rfl) hauth
        refine howned.imp_right ?_
        rintro ⟨ctx', hctx', huid⟩
        rw [hctx] at hctx'
        obtain rfl := Option.some.inj hctx'
        exact huid.symm
      · simp only [registerCompositor, SessionManager.get, hctx]
        split <;> rfl

theorem startElevation_handled {cmd : ManagerCommand} {sessionId : SessionId}
    {action : ElevationAction} (hrequest : cmd.request = .requestElevation sessionId action)
    (hauth : authorize env.userByName cmd.peer cmd.connId cmd.request d.sessions d.elevation
      = .ok ()) :
    let reply := d.startElevation env cmd.connId sessionId action
    Handled d env (.ipc (.command cmd))
      (reply.effects ++ (reply.response.map (reply.daemon.registry.sendResponse cmd.connId)).toList)
      reply.daemon := by
  intro reply
  unfold reply
  rcases startElevation_cases d env cmd.connId sessionId action with
    ⟨response, hne, heq⟩ | ⟨ctx, compositorConn, begun, hctx, hconn, hbegin, heq⟩
  · rw [heq]
    exact (Replied.same hne).handled Enters.none hauth
  · rw [heq]
    exact Handled.begun cmd hauth hrequest hctx hconn hbegin

/-- A command that is not authorized is answered with the reason. -/
theorem handle_rejected {cmd : ManagerCommand} {e : SessionError}
    (hauth : authorize env.userByName cmd.peer cmd.connId cmd.request d.sessions d.elevation
      = .error e) :
    d.handle env (.ipc (.command cmd))
      = (d, [d.registry.sendResponse cmd.connId (.error e.display)]) := by
  simp only [handle, handleIpc, handleCommand, hauth]

/-- A command that is authorized is dispatched, and its answer sent if it has one. -/
theorem handle_authorized {cmd : ManagerCommand}
    (hauth : authorize env.userByName cmd.peer cmd.connId cmd.request d.sessions d.elevation
      = .ok ()) :
    let reply := d.dispatch env cmd.connId cmd.request
    d.handle env (.ipc (.command cmd)) = (reply.daemon, reply.effects
      ++ (reply.response.map (reply.daemon.registry.sendResponse cmd.connId)).toList) := by
  simp only [handle, handleIpc, handleCommand, hauth]

private theorem unitResponse_ne (result : Result Unit) :
    unitResponse result ≠ .authResult .success := by
  unfold unitResponse
  split <;> simp

/-- Ending every session, as a power transition does, with whatever else it does outside. -/
theorem terminated_replied {cause : Option ManagerCommand} {sessions : SessionManager}
    {effects : List Effect} {result : Result Unit}
    (hsessions : sessions = d.sessions ∨ sessions = d.sessions.terminateAll)
    (heffects : ∀ e ∈ effects, e.isNotice = true) :
    Replied cause d
      { daemon := { d with sessions }, effects, response := some (unitResponse result) } := by
  refine ⟨?_, _, rfl, fun h => absurd h (unitResponse_ne result)⟩
  rcases hsessions with rfl | rfl
  · exact Changes.notice heffects
  · exact (Chain.seqClosed _).silent (terminateAll_changes d) (Changes.notice heffects)

private theorem isNotice_waitForDelayers (inhibitors : InhibitorRegistry) (what : InhibitWhat)
    (grace : Duration) (last : Effect) (hlast : last.isNotice = true) :
    ∀ e ∈ waitForDelayers inhibitors what grace ++ [last], e.isNotice = true := by
  have hsleep : (Effect.sleep grace).isNotice = true := rfl
  unfold waitForDelayers
  split <;> simp [hsleep, hlast]

theorem reboot_replied {cause : Option ManagerCommand} (answer : Result Unit) (grace : Duration) :
    let done := MitosSession.reboot d.sessions d.locks answer grace
    Replied cause d
      { daemon := { d with sessions := done.1 }
        effects := done.2.1
        response := some (unitResponse done.2.2) } := by
  intro done
  refine terminated_replied ?_ ?_ <;> unfold done MitosSession.reboot <;> split
  · exact Or.inl rfl
  · exact Or.inr rfl
  · simp
  · exact isNotice_waitForDelayers _ _ _ _ rfl

theorem poweroff_replied {cause : Option ManagerCommand} (answer : Result Unit)
    (grace : Duration) :
    let done := MitosSession.poweroff d.sessions d.locks answer grace
    Replied cause d
      { daemon := { d with sessions := done.1 }
        effects := done.2.1
        response := some (unitResponse done.2.2) } := by
  intro done
  refine terminated_replied ?_ ?_ <;> unfold done MitosSession.poweroff <;> split
  · exact Or.inl rfl
  · exact Or.inr rfl
  · simp
  · exact isNotice_waitForDelayers _ _ _ _ rfl

theorem handleCommand_handled (cmd : ManagerCommand) :
    Handled d env (.ipc (.command cmd)) (d.handleCommand env cmd).2
      (d.handleCommand env cmd).1 := by
  unfold handleCommand
  split
  · rename_i e hauth
    exact Handled.rejected cmd e hauth
  · rename_i hauth
    dsimp only
    cases hrequest : cmd.request with
    | createSession userName seatId sessionType =>
        obtain ⟨d₁, henters, hreplied⟩ :=
          createSession_replied env userName seatId sessionType
        exact hreplied.handled henters hauth
    | terminateSession sessionId =>
        exact (terminateSession_replied sessionId).handled Enters.none hauth
    | registerCompositor sessionId =>
        exact (registerCompositor_replied hrequest hauth).handled Enters.none hauth
    | listSessions => exact (Replied.same (by simp)).handled Enters.none hauth
    | sessionStatus sessionId =>
        refine (Replied.same ?_).handled Enters.none hauth
        split <;> simp
    | lockSession sessionId =>
        exact (lockSession_replied env sessionId .manual).handled Enters.none hauth
    | unlock sessionId userName password =>
        simp only [dispatch, unlock_response, unlock_registry]
        exact Handled.unlock cmd sessionId userName password hauth hrequest
    | reportActivity seatId =>
        exact Replied.handled ⟨Chain.single (Change.desk d.seats
          (d.idle.recordActivity seatId env.now) d.shouldExit), _, rfl, by simp⟩ Enters.none hauth
    | switchSession seatId sessionId =>
        exact (switchSession_replied seatId sessionId).handled Enters.none hauth
    | inhibit what who why mode =>
        exact Replied.handled ⟨Chain.single (Change.inhibit
          (d.locks.inhibitors.add what who why mode).1), _, rfl, by simp⟩ Enters.none hauth
    | releaseInhibit inhibitId =>
        cases hrel : d.locks.releaseInhibitor inhibitId with
        | error e =>
            simp only [dispatch, hrel]
            exact (Replied.same (by simp)).handled Enters.none hauth
        | ok locks =>
            obtain rfl := LockManager.releaseInhibitor_eq hrel
            simp only [dispatch, hrel]
            have hchange : Change (some cmd) d [] _ := Change.inhibit
              { d.locks.inhibitors with
                inhibitors := d.locks.inhibitors.inhibitors.erase inhibitId }
            have hreplied : Replied (some cmd) d ⟨_, [], some .ok⟩ :=
              ⟨Chain.single hchange, _, rfl, by simp⟩
            exact hreplied.handled Enters.none hauth
    | listInhibitors => exact (Replied.same (by simp)).handled Enters.none hauth
    | suspend =>
        exact Handled.suspended cmd _ hrequest (unitResponse_ne _)
    | reboot => exact (reboot_replied _ _).handled Enters.none hauth
    | powerOff => exact (poweroff_replied _ _).handled Enters.none hauth
    | requestElevation sessionId action => exact startElevation_handled hrequest hauth
    | respondElevation requestId response =>
        exact (respondElevation_replied env hrequest).handled Enters.none hauth

/-- **Inversion of the event loop.** -/
theorem handled (d : Daemon) (env : Env) (event : DaemonEvent) :
    Handled d env event (d.handle env event).2 (d.handle env event).1 := by
  match event with
  | .ipc (.connected connId peer outbox) => exact Handled.connected connId peer outbox
  | .ipc (.disconnected connId) => exact Handled.disconnected connId
  | .ipc (.command cmd) => exact handleCommand_handled cmd
  | .idleTick => exact Handled.ticked
  | .signal .terminate =>
      refine Handled.signalled .terminate ?_
      exact (Chain.seqClosed _).silent (terminateAll_changes d)
        (Chain.single (Change.desk d.seats d.idle true))
  | .signal .reloadConfig => exact Handled.signalled .reloadConfig reloadConfig_changes
  | .signal (.reapChildren children) => exact Handled.reaped children

end Daemon

end MitosSession
