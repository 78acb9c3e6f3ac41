import MitosSession.Daemon.Standing

set_option autoImplicit false

/-! # What does not depend on locks

Lock records, lock timers and session states are read by the lock screen, by session infos and by
one another. Everything else the daemon does goes by the rest of a session's record and by the
inhibitors: two daemons that differ in lock records and session states at most (`ExceptLocks`)
still do after any event but a `LockSession` or `Unlock` command, and such a command changes
nothing else. -/

namespace MitosSession

/-- `LockSession` and `Unlock`. -/
def Request.isLocking : Request → Bool
  | .lockSession _ | .unlock _ _ _ => true
  | _ => false

/-! ## Sessions without their states -/

/-- The record without its state. -/
def SessionContext.blank (self : SessionContext) : SessionContext :=
  { self with state := .starting }

/-- The registry without the states of its sessions. -/
def SessionManager.blank (self : SessionManager) : SessionManager :=
  { self with sessions := self.sessions.mapVal fun _ => SessionContext.blank }

/-- Records that differ at most in their state. -/
theorem SessionContext.exists_of_blank_eq {ctx ctx' : SessionContext} (h : ctx'.blank = ctx.blank) :
    ∃ state, ctx' = { ctx with state } := by
  cases ctx
  cases ctx'
  simp only [blank, SessionContext.mk.injEq] at h
  obtain ⟨rfl, rfl, -, rfl, rfl, rfl⟩ := h
  exact ⟨_, rfl⟩

theorem SessionContext.transition_blank (self : SessionContext) (next : SessionState) :
    (self.transition next).blank = self.blank := by
  rw [transition_eq]
  rfl

namespace SessionManager

variable {m m' : SessionManager}

/-- Updates whose result depends on the state in its state only. -/
theorem update_blank (h : m'.blank = m.blank) {f f' : SessionContext → SessionContext}
    {g : SessionContext → SessionContext} (hf : ∀ ctx, (f ctx).blank = g ctx.blank)
    (hf' : ∀ ctx, (f' ctx).blank = g ctx.blank) (k : SessionId) :
    (m'.update k f').blank = (m.update k f).blank := by
  have hupdate : ∀ (m : SessionManager) (f : SessionContext → SessionContext),
      (∀ ctx, (f ctx).blank = g ctx.blank) → (m.update k f).blank = m.blank.update k g := by
    intro m f hf
    simp only [blank, update, Table.mapVal_modify hf]
  rw [hupdate m' f' hf', hupdate m f hf, h]

/-- The same update, of anything but the state. -/
theorem update_blank_same (h : m'.blank = m.blank) {f : SessionContext → SessionContext}
    (k : SessionId) (hf : ∀ ctx, (f ctx).blank = f ctx.blank := by exact fun _ => rfl) :
    (m'.update k f).blank = (m.update k f).blank :=
  update_blank h hf hf k

/-- Updates of the state alone. -/
theorem update_blank_self {f : SessionContext → SessionContext}
    (hf : ∀ ctx, (f ctx).blank = ctx.blank) (k : SessionId) : (m.update k f).blank = m.blank := by
  simp only [blank, update, SessionManager.mk.injEq, and_true]
  refine (Table.mapVal_modify (u := id) hf k m.sessions).trans (AList.ext ?_)
  simp [Table.modify, Table.mapVal, Sigma.map]

theorem lookup_of_blank_eq (h : m'.blank = m.blank) (k : SessionId) :
    (m.sessions.lookup k = none ∧ m'.sessions.lookup k = none)
      ∨ ∃ ctx state, m.sessions.lookup k = some ctx
        ∧ m'.sessions.lookup k = some { ctx with state } := by
  have hlookup := congrArg (fun m : SessionManager => m.sessions.lookup k) h
  simp only [blank, Table.lookup_mapVal] at hlookup
  cases hctx : m.sessions.lookup k with
  | none =>
      rw [hctx, Option.map_none, Option.map_eq_none_iff] at hlookup
      exact Or.inl ⟨rfl, hlookup⟩
  | some ctx =>
      rw [hctx, Option.map_some] at hlookup
      obtain ⟨ctx', hctx', hblank⟩ := Option.map_eq_some_iff.1 hlookup
      obtain ⟨state, rfl⟩ := SessionContext.exists_of_blank_eq hblank
      exact Or.inr ⟨ctx, state, rfl, hctx'⟩

theorem get_of_blank_eq (h : m'.blank = m.blank) (k : SessionId) :
    (∃ e, m.get k = .error e ∧ m'.get k = .error e)
      ∨ ∃ ctx state, m.get k = .ok ctx ∧ m'.get k = .ok { ctx with state } := by
  unfold get
  rcases lookup_of_blank_eq h k with ⟨hnone, hnone'⟩ | ⟨ctx, state, hctx, hctx'⟩
  · rw [hnone, hnone']
    exact Or.inl ⟨_, rfl, rfl⟩
  · rw [hctx, hctx']
    exact Or.inr ⟨ctx, state, rfl, rfl⟩

theorem nextId_of_blank_eq (h : m'.blank = m.blank) : m'.nextId = m.nextId :=
  (SessionManager.mk.inj h).2

theorem list_of_blank_eq (h : m'.blank = m.blank) :
    m'.list.map SessionContext.blank = m.list.map SessionContext.blank := by
  have hvalues := congrArg (fun m : SessionManager => m.sessions.values) h
  simpa only [blank, list, Table.values_mapVal] using hvalues

theorem erase_blank (h : m'.blank = m.blank) (k : SessionId) :
    blank { m' with sessions := m'.sessions.erase k }
      = blank { m with sessions := m.sessions.erase k } := by
  have hsessions := congrArg SessionManager.sessions h
  simp only [blank] at hsessions ⊢
  rw [← Table.mapVal_erase, ← Table.mapVal_erase, hsessions, nextId_of_blank_eq h]

theorem terminateAll_blank (h : m'.blank = m.blank) :
    m'.terminateAll.blank = m.terminateAll.blank := by
  have hids : m'.list.map SessionContext.id = m.list.map SessionContext.id := by
    have hids := congrArg (List.map SessionContext.id) (list_of_blank_eq h)
    rwa [List.map_map, List.map_map] at hids
  unfold terminateAll
  rw [hids]
  generalize m.list.map SessionContext.id = ids
  clear hids
  -- over the ids of the records at the start, which are the same in both tables
  induction ids generalizing m m' with
  | nil => exact h
  | cons k rest ih =>
      simp only [List.foldl_cons, terminateSession]
      rcases lookup_of_blank_eq h k with ⟨hnone, hnone'⟩ | ⟨ctx, state, hctx, hctx'⟩
      · rw [hnone, hnone']
        exact ih h
      · rw [hctx, hctx']
        exact ih (erase_blank h k)

theorem createSession_blank (h : m'.blank = m.blank) (prepared : Result Unit) (createdAt : ℕ)
    (user : User) (seatId : String) (sessionType : SessionType) (settings : SessionSettings) :
    let created := m.createSession prepared createdAt user seatId sessionType settings
    let created' := m'.createSession prepared createdAt user seatId sessionType settings
    created'.2 = created.2 ∧ created'.1.blank = created.1.blank := by
  -- the limit on sessions per user counts owners, not states
  have hcount : (m'.sessions.countVal fun c => c.user.uid = user.uid)
      = m.sessions.countVal fun c => c.user.uid = user.uid := by
    have hcount := congrArg (List.countP fun c : SessionContext => c.user.uid = user.uid)
      (list_of_blank_eq h)
    rwa [List.countP_map, List.countP_map] at hcount
  have hnext := nextId_of_blank_eq h
  intro created created'
  unfold created created' createSession
  rw [hcount, hnext]
  dsimp only
  split
  · exact ⟨rfl, h⟩
  · have hsessions := congrArg SessionManager.sessions h
    simp only [blank] at hsessions
    cases MitosSession.begin prepared m.nextId user seatId sessionType createdAt with
    | error e =>
        refine ⟨rfl, ?_⟩
        simp only [blank]
        rw [hsessions]
    | ok ctx =>
        refine ⟨rfl, ?_⟩
        simp only [blank]
        rw [← Table.mapVal_insert, ← Table.mapVal_insert, hsessions]

theorem disconnect_blank (h : m'.blank = m.blank) (connId : ConnId) :
    blank { m' with
        sessions := m'.sessions.mapVal fun _ ctx =>
          if ctx.compositorConn = some connId then { ctx with compositorConn := none } else ctx }
      = blank { m with
        sessions := m.sessions.mapVal fun _ ctx =>
          if ctx.compositorConn = some connId then { ctx with compositorConn := none }
          else ctx } := by
  have hcomm : ∀ ctx : SessionContext,
      (if ctx.compositorConn = some connId then { ctx with compositorConn := none } else ctx).blank
        = if ctx.blank.compositorConn = some connId
          then { ctx.blank with compositorConn := none } else ctx.blank := by
    intro ctx
    exact apply_ite SessionContext.blank _ _ _
  have hsessions := congrArg SessionManager.sessions h
  simp only [blank] at hsessions ⊢
  rw [Table.mapVal_comm hcomm, Table.mapVal_comm hcomm, hsessions, nextId_of_blank_eq h]

/-- The session whose compositor is process `pid`. -/
theorem find_of_blank_eq (h : m'.blank = m.blank) (pid : Pid) :
    ((m.sessions.entries.find? fun e => e.2.compositorProcess = some pid) = none
        ∧ (m'.sessions.entries.find? fun e => e.2.compositorProcess = some pid) = none)
      ∨ ∃ k ctx state,
        (m.sessions.entries.find? fun e => e.2.compositorProcess = some pid) = some ⟨k, ctx⟩
          ∧ (m'.sessions.entries.find? fun e => e.2.compositorProcess = some pid)
            = some ⟨k, { ctx with state }⟩ := by
  have hblank : ∀ m : SessionManager,
      (m.blank.sessions.entries.find? fun e => e.2.compositorProcess = some pid)
        = (m.sessions.entries.find? fun e => e.2.compositorProcess = some pid).map
          (Sigma.map id fun _ => SessionContext.blank) := by
    intro m
    simp only [blank, Table.mapVal, List.find?_map]
    rfl
  have hfind := hblank m'
  rw [h, hblank m] at hfind
  cases hm : m.sessions.entries.find? fun e => e.2.compositorProcess = some pid with
  | none =>
      rw [hm, Option.map_none, eq_comm, Option.map_eq_none_iff] at hfind
      exact Or.inl ⟨rfl, hfind⟩
  | some e =>
      obtain ⟨k, ctx⟩ := e
      rw [hm, Option.map_some, eq_comm, Option.map_eq_some_iff] at hfind
      obtain ⟨⟨k', ctx'⟩, hfind', he⟩ := hfind
      have hk : k' = k := congrArg Sigma.fst he
      have hctx : ctx'.blank = ctx.blank := congrArg (fun e : Σ _ : SessionId, _ => e.2) he
      subst hk
      obtain ⟨state, rfl⟩ := SessionContext.exists_of_blank_eq hctx
      exact Or.inr ⟨k', ctx, state, rfl, hfind'⟩

end SessionManager

namespace Daemon

variable {d d' t : Daemon} {env : Env} {event : DaemonEvent}

/-- The two daemons differ at most in lock records and session states. -/
def ExceptLocks (d t : Daemon) : Prop :=
  ∃ sessions locks, t = { d with sessions, locks } ∧ sessions.blank = d.sessions.blank
    ∧ locks.inhibitors = d.locks.inhibitors

/-! ## Handlers -/

section

variable {sessions : SessionManager} {locks : LockManager}
  (hsessions : sessions.blank = d.sessions.blank)
  (hlocks : locks.inhibitors = d.locks.inhibitors)

include hsessions hlocks

theorem ExceptLocks.mk : ExceptLocks d { d with sessions, locks } :=
  ⟨sessions, locks, rfl, hsessions, hlocks⟩

theorem trySpawnCompositor_exceptLocks (spawned : Result Pid) (k : SessionId) :
    ExceptLocks (d.trySpawnCompositor spawned k).1
      (trySpawnCompositor { d with sessions, locks } spawned k).1 := by
  unfold trySpawnCompositor
  dsimp only
  rcases SessionManager.get_of_blank_eq hsessions k with ⟨e, he, he'⟩ | ⟨ctx, state, hctx, hctx'⟩
  · rw [he, he']
    exact ExceptLocks.mk hsessions hlocks
  · rw [hctx, hctx']
    cases spawned with
    | error _ => exact ExceptLocks.mk hsessions hlocks
    | ok pid =>
        refine ⟨_, locks, rfl, ?_, hlocks⟩
        exact SessionManager.update_blank_same hsessions k

theorem createSession_exceptLocks (env : Env) (userName : String)
    (seatId sessionType : Option String) :
    ExceptLocks (d.createSession env userName seatId sessionType).daemon
      (createSession { d with sessions, locks } env userName seatId sessionType).daemon := by
  unfold createSession
  cases env.userByName userName with
  | error _ => exact ExceptLocks.mk hsessions hlocks
  | ok user =>
      dsimp only
      generalize (if sessionType = some "x11" then SessionType.x11
        else if sessionType = some "tty" then SessionType.tty
        else (SessionPolicy.from d.settings.session).defaultSessionType) = kind
      obtain ⟨hsame, hblank⟩ := SessionManager.createSession_blank hsessions (env.prepared user)
        env.systemTime user (seatId.getD d.settings.seat.defaultSeat) kind d.settings.session
      generalize d.sessions.createSession (env.prepared user) env.systemTime user
        (seatId.getD d.settings.seat.defaultSeat) kind d.settings.session = created
        at hsame hblank ⊢
      generalize sessions.createSession (env.prepared user) env.systemTime user
        (seatId.getD d.settings.seat.defaultSeat) kind d.settings.session = created'
        at hsame hblank ⊢
      obtain ⟨after, result⟩ := created
      obtain ⟨after', result'⟩ := created'
      dsimp only at hsame hblank ⊢
      subst hsame
      cases result' with
      | error _ => exact ⟨after', locks, rfl, hblank, hlocks⟩
      | ok id =>
          dsimp only
          split
          · exact trySpawnCompositor_exceptLocks
              (d := { d with sessions := after, seats := d.seats.attachSession _ id }) hblank hlocks
              env.spawned id
          · exact ⟨after', locks, rfl, hblank, hlocks⟩

theorem registerCompositor_exceptLocks (connId : ConnId) (k : SessionId) :
    ExceptLocks (d.registerCompositor connId k).daemon
      (registerCompositor { d with sessions, locks } connId k).daemon := by
  have hregistered : ∀ next next', SessionManager.blank (sessions.update k fun ctx =>
        { ctx with compositorConn := some connId : SessionContext }.transition next')
      = (d.sessions.update k fun ctx =>
        { ctx with compositorConn := some connId : SessionContext }.transition next).blank :=
    fun next next' => SessionManager.update_blank hsessions
      (g := fun ctx => { ctx with compositorConn := some connId })
      (fun _ => SessionContext.transition_blank _ next)
      (fun _ => SessionContext.transition_blank _ next') k
  unfold registerCompositor
  dsimp only
  rcases SessionManager.get_of_blank_eq hsessions k with ⟨e, he, he'⟩ | ⟨ctx, state, hctx, hctx'⟩
  · rw [he, he']
    exact ExceptLocks.mk hsessions hlocks
  · rw [hctx, hctx']
    -- the two lock managers may disagree about the lock, which shows in the state alone
    cases d.locks.isLocked k <;> cases locks.isLocked k <;>
      exact ⟨_, locks, rfl, hregistered _ _, hlocks⟩

theorem terminateSession_exceptLocks (k : SessionId) :
    ExceptLocks (d.terminateSession k).daemon
      (terminateSession { d with sessions, locks } k).daemon := by
  simp only [terminateSession, SessionManager.terminateSession]
  rcases SessionManager.lookup_of_blank_eq hsessions k with
    ⟨hnone, hnone'⟩ | ⟨ctx, state, hctx, hctx'⟩
  · rw [hnone, hnone']
    exact ExceptLocks.mk hsessions hlocks
  · rw [hctx, hctx']
    exact ⟨_, locks, rfl, SessionManager.erase_blank hsessions k, hlocks⟩

theorem switchSession_exceptLocks (seatId : String) (k : SessionId) :
    ExceptLocks (d.switchSession seatId k).daemon
      (switchSession { d with sessions, locks } seatId k).daemon := by
  unfold switchSession
  dsimp only
  cases d.seats.switchActive seatId k with
  | error _ => exact ExceptLocks.mk hsessions hlocks
  | ok _ => exact ⟨sessions, locks, rfl, hsessions, hlocks⟩

theorem releaseInhibit_exceptLocks (env : Env) (connId : ConnId) (inhibitId : ℕ) :
    ExceptLocks (d.dispatch env connId (.releaseInhibit inhibitId)).daemon
      (dispatch { d with sessions, locks } env connId (.releaseInhibit inhibitId)).daemon := by
  simp only [dispatch, LockManager.releaseInhibitor, hlocks]
  cases d.locks.inhibitors.remove inhibitId with
  | error _ => exact ExceptLocks.mk hsessions hlocks
  | ok inhibitors => exact ⟨sessions, _, rfl, hsessions, rfl⟩

theorem startElevation_exceptLocks (env : Env) (connId : ConnId) (k : SessionId)
    (action : ElevationAction) :
    ExceptLocks (d.startElevation env connId k action).daemon
      (startElevation { d with sessions, locks } env connId k action).daemon := by
  have hsame : ExceptLocks d { d with sessions, locks } := ExceptLocks.mk hsessions hlocks
  unfold startElevation
  cases action.validate with
  | error _ => exact hsame
  | ok _ =>
      dsimp only
      cases (ElevationPolicy.from d.settings.elevation).enabled with
      | false => exact hsame
      | true =>
          rcases SessionManager.get_of_blank_eq hsessions k with
            ⟨e, he, he'⟩ | ⟨ctx, state, hctx, hctx'⟩
          · rw [he, he']
            exact hsame
          · rw [hctx, hctx']
            dsimp only
            cases userHasPassword env.shadow ctx.session.userName with
            | false => exact hsame
            | true =>
                cases ctx.compositorConn with
                | none => exact hsame
                | some compositorConn =>
                    dsimp only
                    cases d.elevation.begin k compositorConn connId
                      (ElevationPolicy.from d.settings.elevation)
                      (elevationAuthPolicy d.settings.elevation) env.now with
                    | error e => cases e <;> exact hsame
                    | ok begun => exact ⟨sessions, locks, rfl, hsessions, hlocks⟩

theorem respondElevation_exceptLocks (env : Env) (requestId : ElevationRequestId)
    (response : ElevationResponse) :
    ExceptLocks (d.respondElevation env requestId response).daemon
      (respondElevation { d with sessions, locks } env requestId response).daemon := by
  have hsame : ExceptLocks d { d with sessions, locks } := ExceptLocks.mk hsessions hlocks
  unfold respondElevation
  dsimp only
  cases d.elevation.peek requestId with
  | none => exact hsame
  | some info =>
      cases response with
      | cancelled =>
          dsimp only
          cases d.elevation.cancel requestId with
          | none => exact hsame
          | some cancelled => exact ⟨sessions, locks, rfl, hsessions, hlocks⟩
      | password password =>
          dsimp only
          rcases SessionManager.get_of_blank_eq hsessions info.sessionId with
            ⟨e, he, he'⟩ | ⟨ctx, state, hctx, hctx'⟩
          · rw [he, he']
            exact hsame
          · rw [hctx, hctx']
            dsimp only
            split
            · exact hsame
            · exact ⟨sessions, locks, rfl, hsessions, hlocks⟩

theorem handleCompositorExit_exceptLocks (child : ReapedChild) :
    ExceptLocks (d.handleCompositorExit child).1
      (handleCompositorExit { d with sessions, locks } child).1 := by
  unfold handleCompositorExit
  dsimp only
  rcases SessionManager.find_of_blank_eq hsessions child.pid with
    ⟨hnone, hnone'⟩ | ⟨k, ctx, state, hfind, hfind'⟩
  · rw [hnone, hnone']
    exact ExceptLocks.mk hsessions hlocks
  · rw [hfind, hfind']
    -- both find the same session, and go on from its counter, which no lock touches
    dsimp only [SessionContext.id]
    have hlost : SessionManager.blank ((sessions.update k fun ctx =>
        { ctx with compositorProcess := none, compositorConn := none }).update ctx.session.id
          (·.transition .starting))
        = ((d.sessions.update k fun ctx =>
          { ctx with compositorProcess := none, compositorConn := none }).update ctx.session.id
            (·.transition .starting)).blank := by
      rw [SessionManager.update_blank_self (SessionContext.transition_blank · .starting),
        SessionManager.update_blank_self (SessionContext.transition_blank · .starting)]
      exact SessionManager.update_blank_same hsessions k
    generalize (sessions.update k fun ctx =>
        { ctx with compositorProcess := none, compositorConn := none }).update ctx.session.id
          (·.transition .starting) = lost' at hlost ⊢
    generalize (d.sessions.update k fun ctx =>
        { ctx with compositorProcess := none, compositorConn := none }).update ctx.session.id
          (·.transition .starting) = lost at hlost ⊢
    cases decideRestart ctx.compositorRestarts d.settings.session.maxCompositorRestarts with
    | restart =>
        dsimp only
        refine trySpawnCompositor_exceptLocks (d := { d with registry := _, sessions := _ })
          ?_ ?_ child.respawned ctx.session.id
        · exact SessionManager.update_blank_same hlost ctx.session.id
        · exact hlocks
    | fallbackToTerminal =>
        dsimp only
        rcases SessionManager.get_of_blank_eq hlost ctx.session.id with
          ⟨e, he, he'⟩ | ⟨found, state, hfound, hfound'⟩
        · rw [he, he']
          exact ⟨lost', locks, rfl, hlost, hlocks⟩
        · rw [hfound, hfound']
          cases child.respawned with
          | error _ => exact ⟨lost', locks, rfl, hlost, hlocks⟩
          | ok pid =>
              refine ⟨_, locks, rfl, ?_, hlocks⟩
              exact SessionManager.update_blank_same hlost ctx.session.id

end

theorem ExceptLocks.refl (d : Daemon) : ExceptLocks d d :=
  ⟨d.sessions, d.locks, rfl, rfl, rfl⟩

theorem ExceptLocks.symm (h : ExceptLocks d t) : ExceptLocks t d := by
  obtain ⟨sessions, locks, rfl, hsessions, hlocks⟩ := h
  exact ⟨d.sessions, d.locks, rfl, hsessions.symm, hlocks.symm⟩

theorem ExceptLocks.trans (h : ExceptLocks d d') (h' : ExceptLocks d' t) : ExceptLocks d t := by
  obtain ⟨sessions, locks, rfl, hsessions, hlocks⟩ := h
  obtain ⟨sessions', locks', rfl, hsessions', hlocks'⟩ := h'
  exact ⟨sessions', locks', rfl, hsessions'.trans hsessions, hlocks'.trans hlocks⟩

/-! ## Steps that are about locks only -/

theorem lock_exceptLocks {k : SessionId} {locks : LockManager} (reason : LockReason)
    (hlock : d.locks.lock k (LockPolicy.from d.settings.lock) = .ok locks) :
    ExceptLocks d ({ d with locks }.showLock k reason).1 := by
  have hframe := (LockManager.lock_frame hlock).1
  unfold showLock
  split
  · exact ⟨d.sessions, locks, rfl, rfl, hframe⟩
  · refine ⟨_, locks, rfl, ?_, hframe⟩
    exact SessionManager.update_blank_self (SessionContext.transition_blank · .locked) k

theorem idleChange_exceptLocks (env : Env) (change : String × IdleStage) :
    ExceptLocks d (idleChange env d change).1 := by
  obtain ⟨seatId, stage⟩ := change
  cases stage with
  | active => exact ExceptLocks.refl d
  | dimmed => exact ExceptLocks.refl d
  | lockRequested =>
      simp only [idleChange]
      rcases idleLock_shows d env seatId with heq | ⟨k, locks, hlock, heq⟩
      · rw [heq]
        exact ExceptLocks.refl d
      · rw [heq]
        exact lock_exceptLocks .idle hlock
  | suspendRequested =>
      have hrests : Rests d [] (d.idleSuspend env).1 := idleSuspend_rests
      exact ⟨d.sessions, _, rfl, rfl, congrArg Standing.inhibitors hrests⟩

theorem lockSession_exceptLocks (env : Env) (k : SessionId) (reason : LockReason) :
    ExceptLocks d (d.lockSession env k reason).daemon := by
  rcases lockSession_cases d env k reason with ⟨text, heq⟩ | ⟨locks, hlock, heq⟩
  · rw [heq]
    exact ExceptLocks.refl d
  · rw [heq]
    exact lock_exceptLocks reason hlock

theorem unlock_exceptLocks (env : Env) (k : SessionId) (userName password : String) :
    ExceptLocks d (d.unlock env k userName password).daemon := by
  have hinhibitors : (d.unlockAttempt env k userName password).manager.inhibitors
      = d.locks.inhibitors := unlockAttempt_inhibitors k userName password
  by_cases hs : (d.unlockAttempt env k userName password).outcome = .success
  · rw [unlock_success hs]
    refine ⟨_, _, rfl, ?_, hinhibitors⟩
    exact SessionManager.update_blank_self (SessionContext.transition_blank · .active) k
  · rw [unlock_failure hs]
    exact ⟨d.sessions, _, rfl, rfl, hinhibitors⟩

/-- A lock or unlock command changes lock records and session states only. -/
theorem handle_locking_command (d : Daemon) (env : Env) {cmd : ManagerCommand}
    (h : cmd.request.isLocking = true) :
    ExceptLocks d (d.handle env (.ipc (.command cmd))).1 := by
  cases hauth : authorize env.userByName cmd.peer cmd.connId cmd.request d.sessions
    d.elevation with
  | error e =>
      rw [handle_rejected hauth]
      exact ExceptLocks.refl d
  | ok u =>
      rw [handle_authorized hauth]
      cases hrequest : cmd.request with
      | lockSession k => exact lockSession_exceptLocks env k .manual
      | unlock k userName password => exact unlock_exceptLocks env k userName password
      | _ =>
          rw [hrequest] at h
          cases h

/-! ## The other steps -/

theorem dispatch_exceptLocks (h : ExceptLocks d t) (env : Env) (connId : ConnId)
    {request : Request} (hrequest : request.isLocking = false) :
    ExceptLocks (d.dispatch env connId request).daemon
      (t.dispatch env connId request).daemon := by
  obtain ⟨sessions, locks, rfl, hsessions, hlocks⟩ := h
  have hsame : ExceptLocks d { d with sessions, locks } := ExceptLocks.mk hsessions hlocks
  cases request with
  | createSession userName seatId sessionType =>
      exact createSession_exceptLocks hsessions hlocks env userName seatId sessionType
  | terminateSession k => exact terminateSession_exceptLocks hsessions hlocks k
  | registerCompositor k => exact registerCompositor_exceptLocks hsessions hlocks connId k
  | listSessions => exact hsame
  | sessionStatus k => exact hsame
  | lockSession k => cases hrequest
  | unlock k userName password => cases hrequest
  | reportActivity seatId => exact ⟨sessions, locks, rfl, hsessions, hlocks⟩
  | switchSession seatId k => exact switchSession_exceptLocks hsessions hlocks seatId k
  | inhibit what who why mode =>
      refine ⟨sessions, _, rfl, hsessions, ?_⟩
      exact congrArg (fun r : InhibitorRegistry => (r.add what who why mode).1) hlocks
  | releaseInhibit inhibitId =>
      exact releaseInhibit_exceptLocks hsessions hlocks env connId inhibitId
  | listInhibitors => exact hsame
  | suspend =>
      -- `suspend` locks every session, in each daemon the ones it can: it changes locks only
      have hown := idleChange_exceptLocks (d := d) env ("", .suspendRequested)
      have hother := idleChange_exceptLocks (d := { d with sessions, locks }) env
        ("", .suspendRequested)
      exact hown.symm.trans (hsame.trans hother)
  | reboot =>
      simp only [dispatch, MitosSession.reboot, hlocks]
      cases d.locks.inhibitors.blocks .shutdown with
      | true => exact hsame
      | false =>
          exact ⟨_, locks, rfl, SessionManager.terminateAll_blank hsessions, hlocks⟩
  | powerOff =>
      simp only [dispatch, MitosSession.poweroff, hlocks]
      cases d.locks.inhibitors.blocks .shutdown with
      | true => exact hsame
      | false =>
          exact ⟨_, locks, rfl, SessionManager.terminateAll_blank hsessions, hlocks⟩
  | requestElevation k action =>
      exact startElevation_exceptLocks hsessions hlocks env connId k action
  | respondElevation requestId response =>
      exact respondElevation_exceptLocks hsessions hlocks env requestId response

/-- Nobody's rights depend on the state of a session. -/
theorem authorize_blank {sessions sessions' : SessionManager} (h : sessions'.blank = sessions.blank)
    (userByName : String → Result User) (peer : PeerCred) (connId : ConnId) (request : Request)
    (elevation : ElevationManager) :
    authorize userByName peer connId request sessions' elevation
      = authorize userByName peer connId request sessions elevation := by
  have howner : ∀ k, sessions'.ownerUid k = sessions.ownerUid k := by
    intro k
    unfold SessionManager.ownerUid
    rcases SessionManager.get_of_blank_eq h k with ⟨e, he, he'⟩ | ⟨ctx, state, hctx, hctx'⟩
    · rw [he, he']
    · rw [hctx, hctx']
      rfl
  cases request <;> simp only [authorize, owns, howner]

theorem onIdleTick_exceptLocks (h : ExceptLocks d t) (env : Env) :
    ExceptLocks (d.onIdleTick env).1 (t.onIdleTick env).1 := by
  -- the two loops over the stage changes need not be related: each changes locks only
  have hloop : ∀ (d : Daemon) (changes : List (String × IdleStage)),
      ExceptLocks d (forEach (idleChange env) d changes).1 := by
    intro d changes
    have hclosed : SeqClosed (fun (d : Daemon) (_ : List Effect) d' => ExceptLocks d d') :=
      ⟨ExceptLocks.refl, ExceptLocks.trans⟩
    exact hclosed.loop (idleChange env) changes
      (fun d change _ => idleChange_exceptLocks env change) d
  have hticked : ExceptLocks
      { d with idle := (d.idle.tick env.now (IdlePolicy.from d.settings.idle)).1 }
      { t with idle := (t.idle.tick env.now (IdlePolicy.from t.settings.idle)).1 } := by
    obtain ⟨sessions, locks, rfl, hsessions, hlocks⟩ := h
    exact ⟨sessions, locks, rfl, hsessions, hlocks⟩
  have hchanged := (hloop _ (d.idle.tick env.now (IdlePolicy.from d.settings.idle)).2).symm.trans
    (hticked.trans (hloop _ (t.idle.tick env.now (IdlePolicy.from t.settings.idle)).2))
  unfold onIdleTick
  dsimp only
  generalize (forEach (idleChange env) _ _).1 = changed at hchanged ⊢
  generalize (forEach (idleChange env) _ _).1 = changed' at hchanged ⊢
  obtain ⟨sessions, locks, rfl, hsessions, hlocks⟩ := hchanged
  refine ⟨sessions, locks.sweepLockouts env.now, rfl, hsessions, ?_⟩
  exact (sweepLockouts_inhibitors ..).trans (hlocks.trans (sweepLockouts_inhibitors ..).symm)

/-- Every event but a lock or unlock command leaves the daemons alike. -/
theorem handle_exceptLocks (h : ExceptLocks d t) (env : Env) {event : DaemonEvent}
    (hevent : ∀ cmd, event = .ipc (.command cmd) → cmd.request.isLocking = false) :
    ExceptLocks (d.handle env event).1 (t.handle env event).1 := by
  match event with
  | .ipc (.connected connId peer outbox) =>
      obtain ⟨sessions, locks, rfl, hsessions, hlocks⟩ := h
      exact ⟨sessions, locks, rfl, hsessions, hlocks⟩
  | .ipc (.disconnected connId) =>
      obtain ⟨sessions, locks, rfl, hsessions, hlocks⟩ := h
      refine ⟨_, locks, rfl, ?_, hlocks⟩
      exact SessionManager.disconnect_blank hsessions connId
  | .ipc (.command cmd) =>
      have hsame : authorize env.userByName cmd.peer cmd.connId cmd.request t.sessions t.elevation
          = authorize env.userByName cmd.peer cmd.connId cmd.request d.sessions d.elevation := by
        obtain ⟨sessions, locks, rfl, hsessions, hlocks⟩ := h
        exact authorize_blank hsessions env.userByName cmd.peer cmd.connId cmd.request d.elevation
      cases hauth : authorize env.userByName cmd.peer cmd.connId cmd.request d.sessions
        d.elevation with
      | error e =>
          rw [handle_rejected hauth, handle_rejected (hsame.trans hauth)]
          exact h
      | ok u =>
          rw [handle_authorized hauth, handle_authorized (hsame.trans hauth)]
          exact dispatch_exceptLocks h env cmd.connId (hevent cmd rfl)
  | .idleTick => exact onIdleTick_exceptLocks h env
  | .signal .terminate =>
      obtain ⟨sessions, locks, rfl, hsessions, hlocks⟩ := h
      exact ⟨_, locks, rfl, SessionManager.terminateAll_blank hsessions, hlocks⟩
  | .signal .reloadConfig =>
      obtain ⟨sessions, locks, rfl, hsessions, hlocks⟩ := h
      simp only [handle, onSignal, reloadConfig]
      cases load env.config none with
      | error _ => exact ExceptLocks.mk hsessions hlocks
      | ok _ => exact ⟨sessions, locks, rfl, hsessions, hlocks⟩
  | .signal (.reapChildren children) =>
      refine forEach_related handleCompositorExit (fun d t child h => ?_) children h
      obtain ⟨sessions, locks, rfl, hsessions, hlocks⟩ := h
      exact handleCompositorExit_exceptLocks hsessions hlocks child

/-- The records that look the same up to their states follow the same order. -/
theorem rehash_exceptLocks (h : ExceptLocks d t) (hr : Rehash d d') :
    ∃ t', Rehash t t' ∧ ExceptLocks d' t' := by
  obtain ⟨sessions, locks, rfl, hsessions, hlocks⟩ := h
  obtain ⟨records, hrecords, hsame⟩ :=
    -- lock tables keep their order, since nothing relates them to those of the other daemon
    hr.sessions.sessions.lift (SessionManager.mk.inj hsessions).1.symm
  have hblank : SessionManager.blank { sessions := records, nextId := d'.sessions.nextId }
      = d'.sessions.blank := by
    simp only [SessionManager.blank, hsame]
  have hnext : d'.sessions.nextId = sessions.nextId :=
    hr.sessions.nextId.trans (SessionManager.nextId_of_blank_eq hsessions).symm
  refine ⟨{ d' with
      sessions := { sessions := records, nextId := d'.sessions.nextId }
      locks := { locks with inhibitors := d'.locks.inhibitors } },
    { hr with
      sessions := ⟨hrecords, hnext⟩
      locks := ⟨List.Perm.refl _, ?_, List.Perm.refl _, List.Perm.refl _⟩ },
    _, _, rfl, hblank, rfl⟩
  rw [hlocks]
  exact hr.locks.inhibitors

end Daemon

end MitosSession
