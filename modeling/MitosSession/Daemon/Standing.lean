import MitosSession.Daemon.Handled

set_option autoImplicit false

/-! # What an event leaves standing

Most events touch locks, records and prompts only. `Daemon.standing` collects what they leave
alone: the configuration and what was built from it, the seats, the idle detector, the inhibitors,
and which sessions there are. `Stands` is the inversion of the event loop for this part of the
daemon, one constructor for each event that does write to it.

It complements `Daemon.Handled`, whose chains of changes say nothing about what is written to the
seats or which configuration comes in. -/

namespace MitosSession

/-- The part of the daemon that only few events write to. -/
structure Standing where
  settings : Settings
  authenticator : PamAuthenticator
  powerBackend : PowerBackend
  seats : SeatManager
  idle : IdleDetector
  inhibitors : InhibitorRegistry
  /-- The sessions there are, and what was fixed when they were created. -/
  roster : SessionId → Option Session

namespace SessionManager

/-- The sessions there are, without the part of their record that changes. -/
def roster (self : SessionManager) (id : SessionId) : Option Session :=
  (self.sessions.lookup id).map SessionContext.session

theorem update_roster (self : SessionManager) (id : SessionId)
    {f : SessionContext → SessionContext} (hf : ∀ ctx, (f ctx).session = ctx.session) :
    (self.update id f).roster = self.roster := by
  funext k
  unfold roster
  rw [update_lookup]
  split
  · cases self.sessions.lookup k with
    | none => rfl
    | some ctx => exact congrArg some (hf ctx)
  · rfl

theorem roster_eq_some_iff {self : SessionManager} {id : SessionId} {session : Session} :
    self.roster id = some session ↔
      ∃ ctx, self.sessions.lookup id = some ctx ∧ ctx.session = session :=
  Option.map_eq_some_iff

theorem Rehash.roster_eq {m m' : SessionManager} (h : Rehash m m') : m'.roster = m.roster := by
  funext id
  simp only [roster, h.sessions.lookup_eq]

/-- Ending every session leaves none that was not there. -/
theorem terminateAll_lookup (self : SessionManager) (id : SessionId) :
    self.terminateAll.sessions.lookup id = none
      ∨ self.terminateAll.sessions.lookup id = self.sessions.lookup id := by
  unfold terminateAll
  generalize self.list.map SessionContext.id = ids
  induction ids generalizing self with
  | nil => exact Or.inr rfl
  | cons k rest ih =>
      rw [List.foldl_cons]
      unfold terminateSession
      cases hk : self.sessions.lookup k with
      | none => exact ih self
      | some ctx =>
          refine (ih _).elim Or.inl fun hrest => ?_
          simp only [Table.lookup_erase_eq] at hrest
          split at hrest
          · exact Or.inl hrest
          · exact Or.inr hrest

theorem terminateAll_roster (self : SessionManager) {id : SessionId} {session : Session}
    (h : self.terminateAll.roster id = some session) : self.roster id = some session := by
  unfold roster at h ⊢
  rcases self.terminateAll_lookup id with hnone | hsame
  · simp [hnone] at h
  · rwa [hsame] at h

/-- With no session there is none to end. -/
theorem terminateAll_of_empty {self : SessionManager} (h : self.roster = fun _ => none) :
    self.terminateAll = self := by
  have hempty : self.list = [] := by
    rw [List.eq_nil_iff_forall_not_mem]
    intro ctx hmem
    obtain ⟨id, hid⟩ := Table.mem_values.1 hmem
    have hnone := congrFun h id
    simp [roster, hid] at hnone
  simp [terminateAll, hempty]

end SessionManager

namespace Daemon

/-- The standing part of a daemon. -/
def standing (self : Daemon) : Standing where
  settings := self.settings
  authenticator := self.authenticator
  powerBackend := self.powerBackend
  seats := self.seats
  idle := self.idle
  inhibitors := self.locks.inhibitors
  roster := self.sessions.roster

/-- A handler that leaves the standing part alone. -/
def Rests (d : Daemon) (_ : List Effect) (d' : Daemon) : Prop :=
  d'.standing = d.standing

theorem rests_seqClosed : SeqClosed Rests where
  refl := fun _ => rfl
  trans := fun h h' => Eq.trans h' h

variable {d d' : Daemon} {env : Env} {effects : List Effect}

/-! ## Handlers that leave it alone -/

/-- Writing to records and inhibitor-free parts of the lock manager. -/
theorem Rests.of_parts (hsettings : d'.settings = d.settings)
    (hauthenticator : d'.authenticator = d.authenticator)
    (hpower : d'.powerBackend = d.powerBackend) (hseats : d'.seats = d.seats)
    (hidle : d'.idle = d.idle) (hinhibitors : d'.locks.inhibitors = d.locks.inhibitors)
    (hroster : d'.sessions.roster = d.sessions.roster) : Rests d effects d' := by
  simp only [Rests, standing, hsettings, hauthenticator, hpower, hseats, hidle, hinhibitors,
    hroster]

/-- Rewriting one record, but not the session in it. -/
theorem Rests.of_update (id : SessionId) {f : SessionContext → SessionContext}
    (hf : ∀ ctx, (f ctx).session = ctx.session) :
    Rests d effects { d with sessions := d.sessions.update id f } :=
  Rests.of_parts rfl rfl rfl rfl rfl rfl (SessionManager.update_roster _ _ hf)

theorem trySpawnCompositor_rests (spawned : Result Pid) (id : SessionId) :
    Rests d (d.trySpawnCompositor spawned id).2 (d.trySpawnCompositor spawned id).1 := by
  unfold trySpawnCompositor
  split
  · rfl
  · split
    · exact Rests.of_update id fun _ => rfl
    · rfl

theorem registerCompositor_rests (connId : ConnId) (id : SessionId) :
    Rests d effects (d.registerCompositor connId id).daemon := by
  unfold registerCompositor
  split
  · rfl
  · dsimp only
    split <;> exact Rests.of_update id fun ctx => SessionContext.transition_session ..

theorem showLock_rests (id : SessionId) (reason : LockReason) :
    Rests d effects (d.showLock id reason).1 := by
  unfold showLock
  split
  · rfl
  · exact Rests.of_update id fun ctx => SessionContext.transition_session ..

/-- Engaging a lock touches no inhibitor. -/
theorem lock_rests {id : SessionId} {locks : LockManager} (reason : LockReason)
    (hlock : d.locks.lock id (LockPolicy.from d.settings.lock) = .ok locks) :
    Rests d effects ({ d with locks }.showLock id reason).1 := by
  have hlocks : Rests d [] { d with locks } :=
    Rests.of_parts rfl rfl rfl rfl rfl (LockManager.lock_frame hlock).1 rfl
  have hshown : Rests { d with locks } [] ({ d with locks }.showLock id reason).1 :=
    showLock_rests id reason
  exact hshown.trans hlocks

theorem lockSession_rests (id : SessionId) (reason : LockReason) :
    Rests d effects (d.lockSession env id reason).daemon := by
  rcases lockSession_cases d env id reason with ⟨text, heq⟩ | ⟨locks, hlock, heq⟩
  · rw [heq]
    rfl
  · rw [heq]
    exact lock_rests reason hlock

theorem unlockAttempt_inhibitors (id : SessionId) (userName password : String) :
    (d.unlockAttempt env id userName password).manager.inhibitors = d.locks.inhibitors := by
  unfold unlockAttempt LockManager.attemptUnlock
  dsimp only
  split
  · rfl
  · split <;> rfl

theorem unlock_rests (id : SessionId) (userName password : String) :
    Rests d effects (d.unlock env id userName password).daemon := by
  have hinhibitors : (d.unlockAttempt env id userName password).manager.inhibitors
      = d.locks.inhibitors := unlockAttempt_inhibitors id userName password
  by_cases hs : (d.unlockAttempt env id userName password).outcome = .success
  · rw [unlock_success hs]
    exact Rests.of_parts rfl rfl rfl rfl rfl hinhibitors
      (SessionManager.update_roster _ _ fun ctx => SessionContext.transition_session ..)
  · rw [unlock_failure hs]
    exact Rests.of_parts rfl rfl rfl rfl rfl hinhibitors rfl

theorem startElevation_rests (connId : ConnId) (id : SessionId) (action : ElevationAction) :
    Rests d effects (d.startElevation env connId id action).daemon := by
  obtain ⟨elevation, heq⟩ := startElevation_writes d env connId id action
  rw [heq]
  rfl

theorem respondElevation_rests (requestId : ElevationRequestId) (response : ElevationResponse) :
    Rests d effects (d.respondElevation env requestId response).daemon := by
  obtain ⟨elevation, heq⟩ := respondElevation_writes d env requestId response
  rw [heq]
  rfl

theorem disconnected_rests (connId : ConnId) :
    Rests d effects (d.disconnected connId).1 := by
  refine Rests.of_parts rfl rfl rfl rfl rfl rfl ?_
  funext k
  simp only [SessionManager.roster, disconnected, Table.lookup_mapVal, Option.map_map]
  congr 1
  funext ctx
  simp only [Function.comp_apply]
  split <;> rfl

theorem idleSuspend_rests : Rests d effects (d.idleSuspend env).1 := by
  refine Rests.of_parts rfl rfl rfl rfl rfl ?_ rfl
  simp only [idleSuspend, MitosSession.suspend]
  split
  · rfl
  · exact (forEach_suspendSession _ _ _ _).1

theorem idleLock_rests (seatId : String) : Rests d effects (d.idleLock env seatId).1 := by
  rcases idleLock_shows d env seatId with heq | ⟨sessionId, locks, hlock, heq⟩
  · rw [heq]
    rfl
  · rw [heq]
    exact lock_rests .idle hlock

theorem idleChange_rests (change : String × IdleStage) :
    Rests d effects (idleChange env d change).1 := by
  obtain ⟨seatId, stage⟩ := change
  cases stage with
  | active => rfl
  | dimmed => rfl
  | lockRequested => exact idleLock_rests seatId
  | suspendRequested => exact idleSuspend_rests

theorem sweepLockouts_inhibitors (locks : LockManager) (now : Instant) :
    (locks.sweepLockouts now).inhibitors = locks.inhibitors := by
  have hloop : ∀ (ks : List SessionId) (m : LockManager),
      (ks.foldl LockManager.clearLockout m).inhibitors = m.inhibitors := by
    intro ks
    induction ks with
    | nil => exact fun _ => rfl
    | cons k rest ih => exact fun m => ih (m.clearLockout k)
  exact hloop _ _

theorem sweep_rests (now : Instant) : Rests d effects (d.sweep now).1 :=
  Rests.of_parts rfl rfl rfl rfl rfl (sweepLockouts_inhibitors _ _) rfl

theorem handleCompositorExit_rests (child : ReapedChild) :
    Rests d (d.handleCompositorExit child).2 (d.handleCompositorExit child).1 := by
  unfold handleCompositorExit
  split
  · rfl
  · rename_i key found _
    have hlose : Rests d [] (d.loseCompositor key found) :=
      Rests.of_parts rfl rfl rfl rfl rfl rfl (SessionManager.update_roster _ _ fun _ => rfl)
    have hrestart : Rests (d.loseCompositor key found) [] _ :=
      Rests.of_update found.id fun ctx => SessionContext.transition_session ctx .starting
    refine rests_seqClosed.silent hlose (rests_seqClosed.silent hrestart ?_)
    dsimp only
    split
    · have hcounted : Rests _ [] _ := Rests.of_update
        (d := { d.loseCompositor key found with
          sessions := (d.loseCompositor key found).sessions.update found.id
            (·.transition .starting) })
        (f := fun ctx => { ctx with compositorRestarts := wrapU32 (ctx.compositorRestarts + 1) })
        found.id fun _ => rfl
      exact rests_seqClosed.silent hcounted
        (trySpawnCompositor_rests child.respawned found.id)
    · split
      · exact Rests.of_update found.id fun _ => rfl
      · rfl
      · rfl

theorem reapChildren_rests (children : List ReapedChild) :
    Rests d (d.reapChildren children).2 (d.reapChildren children).1 :=
  rests_seqClosed.loop handleCompositorExit _ (fun _ child _ => handleCompositorExit_rests child) _

/-! ## The inversion -/

/-- Every way an event can write to the standing part. -/
inductive Stands (d : Daemon) (env : Env) : DaemonEvent → Standing → Prop
  | same (event : DaemonEvent) (h : event ≠ .idleTick) : Stands d env event d.standing
  | created (cmd : ManagerCommand) {userName : String} {seat kind : Option String}
      (session : Session)
      (hauth : authorize env.userByName cmd.peer cmd.connId cmd.request d.sessions d.elevation
        = .ok ())
      (hrequest : cmd.request = .createSession userName seat kind)
      (hid : session.id = d.sessions.nextId)
      (hseat : session.seatId = seat.getD d.settings.seat.defaultSeat)
      (huser : ∃ user, env.userByName userName = .ok user ∧ session.userName = user.name) :
      Stands d env (.ipc (.command cmd))
        { d.standing with
          seats := d.seats.attachSession session.seatId session.id
          roster := Function.update d.sessions.roster session.id (some session) }
  | terminated (cmd : ManagerCommand) {id : SessionId} {ctx : SessionContext}
      (hauth : authorize env.userByName cmd.peer cmd.connId cmd.request d.sessions d.elevation
        = .ok ())
      (hrequest : cmd.request = .terminateSession id)
      (hctx : d.sessions.sessions.lookup id = some ctx) :
      Stands d env (.ipc (.command cmd))
        { d.standing with
          seats := d.seats.detachSession id
          roster := Function.update d.sessions.roster id none }
  | switched (cmd : ManagerCommand) {seatId : String} {id : SessionId}
      {switched : SeatManager × Option SessionId}
      (hauth : authorize env.userByName cmd.peer cmd.connId cmd.request d.sessions d.elevation
        = .ok ())
      (hrequest : cmd.request = .switchSession seatId id)
      (hswitch : d.seats.switchActive seatId id = .ok switched) :
      Stands d env (.ipc (.command cmd)) { d.standing with seats := switched.1 }
  | reported (cmd : ManagerCommand) {seatId : String}
      (hrequest : cmd.request = .reportActivity seatId) :
      Stands d env (.ipc (.command cmd))
        { d.standing with idle := d.idle.recordActivity seatId env.now }
  | inhibited (cmd : ManagerCommand) {what : InhibitWhat} {who why : String} {mode : InhibitMode}
      (hrequest : cmd.request = .inhibit what who why mode) :
      Stands d env (.ipc (.command cmd))
        { d.standing with inhibitors := (d.locks.inhibitors.add what who why mode).1 }
  | released (cmd : ManagerCommand) {inhibitId : ℕ} {inhibitor : Inhibitor}
      (hrequest : cmd.request = .releaseInhibit inhibitId)
      (hheld : d.locks.inhibitors.inhibitors.lookup inhibitId = some inhibitor) :
      Stands d env (.ipc (.command cmd))
        { d.standing with inhibitors := { d.locks.inhibitors with
            inhibitors := d.locks.inhibitors.inhibitors.erase inhibitId } }
  /-- A reboot or a power-off that goes through. -/
  | ended (cmd : ManagerCommand) (hrequest : cmd.request = .reboot ∨ cmd.request = .powerOff)
      (hblocks : d.locks.inhibitors.blocks .shutdown = false) :
      Stands d env (.ipc (.command cmd))
        { d.standing with roster := d.sessions.terminateAll.roster }
  | shutDown :
      Stands d env (.signal .terminate)
        { d.standing with roster := d.sessions.terminateAll.roster }
  | ticked :
      Stands d env .idleTick
        { d.standing with idle := (d.idle.tick env.now (IdlePolicy.from d.settings.idle)).1 }
  | reloaded {settings : Settings} (hload : load env.config none = .ok settings) :
      Stands d env (.signal .reloadConfig)
        { d.standing with
          settings
          authenticator := PamAuthenticator.new
            (authPolicy settings.authentication settings.lock) }

theorem onIdleTick_standing :
    (d.onIdleTick env).1.standing
      = { d.standing with idle := (d.idle.tick env.now (IdlePolicy.from d.settings.idle)).1 } := by
  have hloop := rests_seqClosed.loop (idleChange env)
    (d.idle.tick env.now (IdlePolicy.from d.settings.idle)).2
    (fun _ change _ => idleChange_rests change)
    { d with idle := (d.idle.tick env.now (IdlePolicy.from d.settings.idle)).1 }
  have hsweep : Rests _ [] (d.onIdleTick env).1 := sweep_rests env.now
  exact hsweep.trans hloop

theorem createSession_stands {cmd : ManagerCommand} {userName : String}
    {seat kind : Option String}
    (hauth : authorize env.userByName cmd.peer cmd.connId cmd.request d.sessions d.elevation
      = .ok ())
    (hrequest : cmd.request = .createSession userName seat kind) :
    Stands d env (.ipc (.command cmd))
      (d.createSession env userName seat kind).daemon.standing := by
  rcases createSession_cases d env userName seat kind with
    ⟨e, sessions, hspent, heq⟩ | ⟨user, ctx, type, launched, response, huser, -, hbegin, hlaunched,
      -, heq⟩
  · have hrests : Rests d [] { d with sessions } := by
      refine Rests.of_parts rfl rfl rfl rfl rfl rfl ?_
      rcases hspent with rfl | rfl
      · rfl
      · rfl
    rw [heq, hrests]
    exact Stands.same _ (by simp)
  · obtain ⟨hsession, -, -⟩ := begin_eq_ok hbegin
    have hentered : Stands d env (.ipc (.command cmd))
        (d.enter (seat.getD d.settings.seat.defaultSeat) ctx).standing := by
      have hstands : Stands d env (.ipc (.command cmd)) _ := Stands.created cmd ctx.session
        hauth hrequest (by rw [hsession]) (by rw [hsession]) ⟨user, huser, by rw [hsession]⟩
      convert hstands using 1
      simp only [standing, enter, hsession, Standing.mk.injEq, true_and]
      funext id
      simp only [SessionManager.roster, Table.lookup_insert_eq, Function.update_apply]
      split <;> simp [hsession]
    rw [heq]
    rcases hlaunched with rfl | rfl
    · exact Eq.mpr (congrArg _ (trySpawnCompositor_rests env.spawned d.sessions.nextId)) hentered
    · exact hentered

theorem terminateSession_stands {cmd : ManagerCommand} {id : SessionId}
    (hauth : authorize env.userByName cmd.peer cmd.connId cmd.request d.sessions d.elevation
      = .ok ())
    (hrequest : cmd.request = .terminateSession id) :
    Stands d env (.ipc (.command cmd)) (d.terminateSession id).daemon.standing := by
  rcases terminateSession_cases d id with ⟨e, -, heq⟩ | ⟨ctx, hctx, heq⟩
  · rw [heq]
    exact Stands.same _ (by simp)
  · have hstands : Stands d env (.ipc (.command cmd)) _ :=
      Stands.terminated cmd hauth hrequest hctx
    rw [heq]
    convert hstands using 1
    simp only [standing, Standing.mk.injEq, true_and]
    funext k
    simp only [SessionManager.roster, Table.lookup_erase_eq, Function.update_apply]
    split <;> rfl

theorem switchSession_stands {cmd : ManagerCommand} {seatId : String} {id : SessionId}
    (hauth : authorize env.userByName cmd.peer cmd.connId cmd.request d.sessions d.elevation
      = .ok ())
    (hrequest : cmd.request = .switchSession seatId id) :
    Stands d env (.ipc (.command cmd)) (d.switchSession seatId id).daemon.standing := by
  unfold switchSession
  split
  · exact Stands.same _ (by simp)
  · rename_i switched hswitch
    exact Stands.switched cmd hauth hrequest hswitch

theorem releaseInhibit_stands {cmd : ManagerCommand} {inhibitId : ℕ}
    (hrequest : cmd.request = .releaseInhibit inhibitId) :
    Stands d env (.ipc (.command cmd))
      (d.dispatch env cmd.connId (.releaseInhibit inhibitId)).daemon.standing := by
  simp only [dispatch, LockManager.releaseInhibitor, InhibitorRegistry.remove]
  cases hheld : d.locks.inhibitors.inhibitors.lookup inhibitId with
  | none => exact Stands.same _ (by simp)
  | some inhibitor => exact Stands.released cmd hrequest hheld

/-- Both ways to end the machine's run. -/
theorem ended_stands {cmd : ManagerCommand}
    (hrequest : cmd.request = .reboot ∨ cmd.request = .powerOff) :
    Stands d env (.ipc (.command cmd)) (d.dispatch env cmd.connId cmd.request).daemon.standing := by
  cases hblocks : d.locks.inhibitors.blocks .shutdown with
  | true =>
      rcases hrequest with hreboot | hpower
      · simp only [hreboot, dispatch, MitosSession.reboot, hblocks, if_true]
        exact Stands.same _ (by simp)
      · simp only [hpower, dispatch, MitosSession.poweroff, hblocks, if_true]
        exact Stands.same _ (by simp)
  | false =>
      have hended : Stands d env (.ipc (.command cmd)) _ := Stands.ended cmd hrequest hblocks
      rcases hrequest with hreboot | hpower
      · simp only [hreboot, dispatch, MitosSession.reboot, hblocks, Bool.false_eq_true, if_false]
        exact hended
      · simp only [hpower, dispatch, MitosSession.poweroff, hblocks, Bool.false_eq_true, if_false]
        exact hended

theorem handleCommand_stands (d : Daemon) (env : Env) (cmd : ManagerCommand) :
    Stands d env (.ipc (.command cmd)) (d.handleCommand env cmd).1.standing := by
  have hsame : ∀ d' : Daemon, Rests d [] d' → Stands d env (.ipc (.command cmd)) d'.standing := by
    intro d' hrests
    rw [hrests]
    exact Stands.same _ (by simp)
  unfold handleCommand
  split
  · exact hsame d rfl
  · rename_i hauth
    dsimp only
    cases hrequest : cmd.request with
    | createSession userName seat kind => exact createSession_stands hauth hrequest
    | terminateSession id => exact terminateSession_stands hauth hrequest
    | registerCompositor id => exact hsame _ (registerCompositor_rests cmd.connId id)
    | listSessions => exact hsame _ rfl
    | sessionStatus id => exact hsame _ rfl
    | lockSession id => exact hsame _ (lockSession_rests id .manual)
    | unlock id userName password => exact hsame _ (unlock_rests id userName password)
    | reportActivity seatId => exact Stands.reported cmd hrequest
    | switchSession seatId id => exact switchSession_stands hauth hrequest
    | inhibit what who why mode => exact Stands.inhibited cmd hrequest
    | releaseInhibit inhibitId => exact releaseInhibit_stands hrequest
    | listInhibitors => exact hsame _ rfl
    | suspend => exact hsame _ idleSuspend_rests
    | reboot =>
        rw [← hrequest]
        exact ended_stands (Or.inl hrequest)
    | powerOff =>
        rw [← hrequest]
        exact ended_stands (Or.inr hrequest)
    | requestElevation id action => exact hsame _ (startElevation_rests cmd.connId id action)
    | respondElevation requestId response =>
        exact hsame _ (respondElevation_rests requestId response)

/-- **Inversion of the event loop**, for the standing part. -/
theorem handle_stands (d : Daemon) (env : Env) (event : DaemonEvent) :
    Stands d env event (d.handle env event).1.standing := by
  match event with
  | .ipc (.connected connId peer outbox) => exact Stands.same _ (by simp)
  | .ipc (.disconnected connId) =>
      have hrests : Rests d [] (d.disconnected connId).1 := disconnected_rests connId
      exact Eq.mpr (congrArg _ hrests) (Stands.same _ (by simp))
  | .ipc (.command cmd) => exact handleCommand_stands d env cmd
  | .idleTick => exact Eq.mpr (congrArg _ onIdleTick_standing) Stands.ticked
  | .signal .terminate => exact Stands.shutDown
  | .signal .reloadConfig =>
      simp only [handle, onSignal, reloadConfig]
      split
      · exact Stands.same _ (by simp)
      · rename_i settings hload
        exact Stands.reloaded hload
  | .signal (.reapChildren children) =>
      exact Eq.mpr (congrArg _ (reapChildren_rests children)) (Stands.same _ (by simp))

end Daemon

end MitosSession
