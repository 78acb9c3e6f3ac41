import MitosSession.Library.Processes
import MitosSession.Daemon.Restarts

set_option autoImplicit false

/-! # The daemon's children

A session's record holds the process its display runs in: the compositor, or the terminal that
took its place. The daemon starts it in `try_spawn_compositor` and `handle_compositor_exit`, kills
and waits for it in `lifecycle::end`, and `reap_children` waits for whatever exits on its own,
which may also be a process that is no session's.

`Daemon.ops` lists what an event does to the children, and `Supervised` runs the daemon beside the
kernel's table of them. `children_accounted` says that the records and the table agree throughout,
so that the daemon kills no process but its sessions' own. -/

namespace MitosSession

open Processes

/-- What the daemon does to the processes of its sessions. -/
abbrev ChildOp := Op Pid SessionId

/-! ## What each event does -/

/-- `lifecycle::end`: kill the session's process and wait for it. -/
def SessionContext.endOps (self : SessionContext) : List ChildOp :=
  (self.compositorProcess.map Op.killed).toList

namespace SessionManager

/-- The operations of `SessionManager::terminate_session`. -/
def terminateOps (self : SessionManager) (id : SessionId) : List ChildOp :=
  match self.sessions.lookup id with
  | some ctx => ctx.endOps
  | none => []

/-- One round of `terminateAll`, with its operations. -/
def terminateNext (self : SessionManager) (id : SessionId) : SessionManager × List ChildOp :=
  match self.terminateSession id with
  | .ok self' => (self', self.terminateOps id)
  | .error _ => (self, [])

/-- The operations of `terminateAll`. -/
def terminateAllOps (self : SessionManager) : List ChildOp :=
  (forEach terminateNext self (self.list.map SessionContext.id)).2

/-- The process of a session. -/
def processOf (self : SessionManager) (s : SessionId) : Option Pid :=
  (self.sessions.lookup s).bind SessionContext.compositorProcess

end SessionManager

/-- The processes started: a spawn that worked yields the pid that `spawned` holds. -/
def startedOps (spawned : Result Pid) (effects : List Effect) : List ChildOp :=
  match spawned with
  | .ok pid => effects.filterMap fun
    | .spawn s _ true => some (.spawned pid s)
    | _ => none
  | .error _ => []

namespace Daemon

/-- The operations of a request that `authorize` let through. -/
def requestOps (self : Daemon) (env : Env) (connId : ConnId) (request : Request) : List ChildOp :=
  match request with
  | .createSession _ _ _ => startedOps env.spawned (self.dispatch env connId request).effects
  | .terminateSession sessionId => self.sessions.terminateOps sessionId
  | .reboot =>
    if self.locks.inhibitors.blocks .shutdown then [] else self.sessions.terminateAllOps
  | .powerOff =>
    if self.locks.inhibitors.blocks .shutdown then [] else self.sessions.terminateAllOps
  | _ => []

/-- The operations of one iteration of `reap_children`. -/
def exitOps (self : Daemon) (child : ReapedChild) : List ChildOp :=
  .reaped child.pid :: startedOps child.respawned (self.handleCompositorExit child).2

/-- One iteration of `reap_children`, with its operations. -/
def reapNext (self : Daemon) (child : ReapedChild) : Daemon × List ChildOp :=
  ((self.handleCompositorExit child).1, self.exitOps child)

/-- What handling an event does to the children. -/
def ops (self : Daemon) (env : Env) : DaemonEvent → List ChildOp
  | .ipc (.command cmd) =>
    match authorize env.userByName cmd.peer cmd.connId cmd.request self.sessions self.elevation with
    | .error _ => []
    | .ok () => self.requestOps env cmd.connId cmd.request
  | .ipc _ => []
  | .idleTick => []
  | .signal .terminate => self.sessions.terminateAllOps
  | .signal .reloadConfig => []
  | .signal (.reapChildren children) => (forEach reapNext self children).2

/-- The process of a session. -/
def processOf (self : Daemon) : SessionId → Option Pid :=
  self.sessions.processOf

end Daemon

/-- The daemon and the kernel's table of its children. -/
structure Supervised where
  daemon : Daemon
  children : Children Pid SessionId

inductive SupervisedLabel where
  | daemon (l : DaemonLabel)
  /-- A child that is no session's process is started. -/
  | forked (pid : Pid)

namespace Supervised

/-- The daemon takes a step that the kernel lets it take, or another child is started. -/
inductive Step : Supervised → SupervisedLabel → Supervised → Prop
  | handled (sys : Supervised) (env : Env) (event : DaemonEvent)
      (h : Possible sys.children (sys.daemon.ops env event)) :
      Step sys (.daemon (.handled env event (sys.daemon.handle env event).2))
        { daemon := (sys.daemon.handle env event).1
          children := after sys.children (sys.daemon.ops env event) }
  | rehash (sys : Supervised) {d' : Daemon} (h : Daemon.Rehash sys.daemon d') :
      Step sys (.daemon .rehash) { sys with daemon := d' }
  | forked (sys : Supervised) (pid : Pid) (h : sys.children pid = none) :
      Step sys (.forked pid)
        { sys with children := Function.update sys.children pid (some .other) }

/-- Startup, with whatever other children there are. -/
def Initial (sys : Supervised) : Prop :=
  Daemon.Initial sys.daemon ∧ ∀ p s, sys.children p ≠ some (.key s)

end Supervised

/-! ## Ending sessions -/

namespace SessionManager

variable {m : SessionManager}

theorem processOf_erase (k : SessionId) :
    processOf { m with sessions := m.sessions.erase k } = Function.update m.processOf k none := by
  funext s
  simp only [processOf, Table.lookup_erase_eq]
  by_cases hs : s = k
  · rw [if_pos hs, hs, Function.update_self]
    rfl
  · rw [if_neg hs, Function.update_of_ne hs]
    rfl

theorem processOf_update (k : SessionId) (f : SessionContext → SessionContext) :
    (m.update k f).processOf = Function.update m.processOf k
      ((m.sessions.lookup k).bind fun ctx => (f ctx).compositorProcess) := by
  funext s
  simp only [processOf, update_lookup]
  by_cases hs : s = k
  · rw [if_pos hs, hs, Function.update_self, Option.bind_map]
    rfl
  · rw [if_neg hs, Function.update_of_ne hs]
    rfl

/-- An update that leaves the process alone. -/
theorem processOf_update_same (k : SessionId) {f : SessionContext → SessionContext}
    (hf : ∀ ctx, (f ctx).compositorProcess = ctx.compositorProcess) :
    (m.update k f).processOf = m.processOf := by
  rw [processOf_update, Function.update_eq_self_iff]
  simp only [hf]
  rfl

theorem terminateSession_tracks (k : SessionId) :
    Tracks m.processOf (m.terminateNext k).2 (m.terminateNext k).1.processOf := by
  unfold terminateNext terminateSession terminateOps
  cases hctx : m.sessions.lookup k with
  | none => exact tracks_seqClosed.refl _
  | some ctx =>
      have hprocess : m.processOf k = ctx.compositorProcess := by
        rw [processOf, hctx]
        rfl
      simp only [processOf_erase, SessionContext.endOps]
      cases hpid : ctx.compositorProcess with
      | none =>
          rw [Function.update_eq_self_iff.2 (hprocess.trans hpid).symm]
          exact tracks_seqClosed.refl _
      | some pid => exact Tracks.kill (hprocess.trans hpid)

theorem terminateNext_fst (m : SessionManager) (ids : List SessionId) :
    (forEach terminateNext m ids).1
      = ids.foldl (fun m id =>
        match m.terminateSession id with
        | .ok m => m
        | .error _ => m) m := by
  induction ids generalizing m with
  | nil => rfl
  | cons k rest ih =>
      rw [forEach_cons, List.foldl_cons, ih]
      unfold terminateNext
      cases m.terminateSession k with
      | ok m' => rfl
      | error e => rfl

theorem terminateAll_tracks (m : SessionManager) :
    Tracks m.processOf m.terminateAllOps m.terminateAll.processOf := by
  have hloop := SeqClosed.loop (R := fun m ops m' => Tracks m.processOf ops m'.processOf)
    ⟨fun m => tracks_seqClosed.refl m.processOf, tracks_seqClosed.trans⟩ terminateNext
    (m.list.map SessionContext.id) (fun m k _ => terminateSession_tracks k) m
  rwa [terminateNext_fst] at hloop

/-- Ending every session leaves none, if each is stored under its own id. -/
theorem terminateAll_gone
    (hkeyed : ∀ s ctx, m.sessions.lookup s = some ctx → ctx.id = s) (s : SessionId) :
    m.terminateAll.sessions.lookup s = none := by
  have hloop : ∀ (ids : List SessionId) (m : SessionManager),
      (∀ ctx, m.sessions.lookup s = some ctx → s ∈ ids) →
      (ids.foldl (fun m id =>
        match m.terminateSession id with
        | .ok m => m
        | .error _ => m) m).sessions.lookup s = none := by
    intro ids
    induction ids with
    | nil =>
        intro m hlisted
        rw [List.foldl_nil, Option.eq_none_iff_forall_ne_some]
        exact fun ctx hctx => absurd (hlisted ctx hctx) (by simp)
    | cons k rest ih =>
        intro m hlisted
        rw [List.foldl_cons]
        refine ih _ fun ctx hctx => ?_
        unfold terminateSession at hctx
        cases hk : m.sessions.lookup k with
        | none =>
            simp only [hk] at hctx
            refine (List.mem_cons.1 (hlisted ctx hctx)).resolve_left ?_
            rintro rfl
            simp [hk] at hctx
        | some found =>
            simp only [hk, Table.lookup_erase_eq] at hctx
            split at hctx
            · cases hctx
            · rename_i hne
              exact (List.mem_cons.1 (hlisted ctx hctx)).resolve_left hne
  refine hloop _ m fun ctx hctx => ?_
  rw [List.mem_map]
  exact ⟨ctx, Table.mem_values.2 ⟨s, hctx⟩, hkeyed s ctx hctx⟩

end SessionManager

/-! ## One event -/

theorem SessionContext.transition_compositorProcess (self : SessionContext)
    (next : SessionState) :
    (self.transition next).compositorProcess = self.compositorProcess := by
  rw [SessionContext.transition_eq]

theorem begin_process {prepared : Result Unit} {id : SessionId} {user : User} {seatId : String}
    {sessionType : SessionType} {createdAt : ℕ} {ctx : SessionContext}
    (h : MitosSession.begin prepared id user seatId sessionType createdAt = .ok ctx) :
    ctx.compositorProcess = none := by
  unfold MitosSession.begin at h
  cases prepared with
  | error e => simp [bind, Except.bind] at h
  | ok u =>
      simp only [bind, Except.bind, pure, Except.pure, Except.ok.injEq] at h
      rw [← h]

theorem startedOps_failed (spawned : Result Pid) (k : SessionId) (program : Program) :
    startedOps spawned [.spawn k program false] = [] := by
  cases spawned <;> rfl

theorem startedOps_nil (spawned : Result Pid) : startedOps spawned [] = [] := by
  cases spawned <;> rfl

namespace Daemon

variable {d d' : Daemon} {env : Env} {k : SessionId}

/-- A session that is there remembers the process it is given. -/
theorem processOf_record {pid : Pid} (h : ∃ ctx, d.sessions.sessions.lookup k = some ctx) :
    { d with
        sessions := d.sessions.update k fun ctx =>
          { ctx with compositorProcess := some pid } }.processOf
      = Function.update d.processOf k (some pid) := by
  obtain ⟨ctx, hctx⟩ := h
  rw [processOf, SessionManager.processOf_update, hctx]
  rfl

theorem trySpawnCompositor_tracks (hfree : d.processOf k = none) (spawned : Result Pid) :
    Tracks d.processOf (startedOps spawned (d.trySpawnCompositor spawned k).2)
      (d.trySpawnCompositor spawned k).1.processOf := by
  unfold trySpawnCompositor SessionManager.get
  cases hctx : d.sessions.sessions.lookup k with
  | none =>
      rw [startedOps_nil]
      exact tracks_seqClosed.refl _
  | some ctx =>
      cases spawned with
      | error e => exact tracks_seqClosed.refl _
      | ok pid =>
          dsimp only
          rw [processOf_record ⟨ctx, hctx⟩]
          exact Tracks.spawn hfree pid

theorem createSession_tracks (hfree : d.processOf d.sessions.nextId = none) (userName : String)
    (seatId sessionType : Option String) :
    Tracks d.processOf
      (startedOps env.spawned (d.createSession env userName seatId sessionType).effects)
      (d.createSession env userName seatId sessionType).daemon.processOf := by
  rcases createSession_cases d env userName seatId sessionType with
    ⟨e, sessions, hspent, heq⟩
      | ⟨user, ctx, kind, launched, response, -, -, hbegin, hlaunched, -, heq⟩
  · rw [heq, startedOps_nil]
    rcases hspent with rfl | rfl
    · exact tracks_seqClosed.refl _
    · exact tracks_seqClosed.refl _
  · have hentered : (d.enter (seatId.getD d.settings.seat.defaultSeat) ctx).processOf
        = d.processOf := by
      funext s
      simp only [processOf, SessionManager.processOf, enter, Table.lookup_insert_eq]
      split
      · rename_i hs
        rw [Option.bind_some, begin_process hbegin, hs]
        exact hfree.symm
      · rfl
    rw [heq, ← hentered]
    rcases hlaunched with rfl | rfl
    · exact trySpawnCompositor_tracks (by rw [hentered, hfree]) env.spawned
    · rw [startedOps_nil]
      exact tracks_seqClosed.refl _

theorem exited_eq_some (hkept : Kept d) {child : ReapedChild} {key : SessionId}
    {found : SessionContext}
    (hfind : (d.sessions.sessions.entries.find? fun e =>
      e.2.compositorProcess = some child.pid) = some ⟨key, found⟩) :
    d.sessions.sessions.lookup key = some found ∧ found.id = key
      ∧ d.processOf key = some child.pid := by
  have hfound : d.sessions.sessions.lookup key = some found :=
    Table.lookup_eq_some_iff.2 (List.mem_of_find?_eq_some hfind)
  refine ⟨hfound, (hkept key found hfound).1, ?_⟩
  rw [processOf, SessionManager.processOf, hfound]
  simpa using List.find?_some hfind

theorem fellBack_processOf (key : SessionId) (found : SessionContext) :
    (d.fellBack key found).processOf = Function.update d.processOf key none := by
  unfold fellBack loseCompositor processOf
  rw [SessionManager.processOf_update_same key
    (SessionContext.transition_compositorProcess · .starting), SessionManager.processOf_update]
  congr 1
  cases d.sessions.sessions.lookup key <;> rfl

theorem replaceCompositor_tracks (hfree : d.processOf k = none)
    (hctx : ∃ ctx, d.sessions.sessions.lookup k = some ctx) (restarts : ℕ)
    (respawned : Result Pid) :
    Tracks d.processOf (startedOps respawned (d.replaceCompositor k restarts respawned).2)
      (d.replaceCompositor k restarts respawned).1.processOf := by
  unfold replaceCompositor
  cases decideRestart restarts d.maxRestarts with
  | restart =>
      dsimp only
      have hcounted : { d with
            sessions := d.sessions.update k fun ctx =>
              { ctx with compositorRestarts := wrapU32 (ctx.compositorRestarts + 1) } }.processOf
          = d.processOf :=
        SessionManager.processOf_update_same k fun _ => rfl
      rw [← hcounted]
      exact trySpawnCompositor_tracks (hcounted.symm ▸ hfree) respawned
  | fallbackToTerminal =>
      obtain ⟨ctx, hlookup⟩ := hctx
      simp only [SessionManager.get, hlookup]
      cases respawned with
      | error e => exact tracks_seqClosed.refl _
      | ok pid =>
          dsimp only
          rw [processOf_record ⟨ctx, hlookup⟩]
          exact Tracks.spawn hfree pid

/-- One iteration waits for a child, which its session forgets, and may start another. -/
theorem reapNext_tracks (hkept : Kept d) (child : ReapedChild) :
    Tracks d.processOf (d.reapNext child).2 (d.reapNext child).1.processOf := by
  unfold reapNext exitOps
  cases hfind : d.sessions.sessions.entries.find? fun e =>
      e.2.compositorProcess = some child.pid with
  | none =>
      have heq : d.handleCompositorExit child = (d, []) := by
        unfold handleCompositorExit
        rw [hfind]
      rw [heq, startedOps_nil]
      refine Tracks.reap_other fun s hs => ?_
      obtain ⟨ctx, hctx, hpid⟩ := Option.bind_eq_some_iff.1 hs
      have hnot := List.find?_eq_none.1 hfind _ (Table.lookup_eq_some_iff.1 hctx)
      exact hnot (by simpa using hpid)
  | some e =>
      obtain ⟨key, found⟩ := e
      obtain ⟨hfound, hid, hprocess⟩ := exited_eq_some hkept hfind
      have hfell := fellBack_processOf (d := d) key found
      rw [handleCompositorExit_eq hfind hid, ← List.singleton_append]
      refine tracks_seqClosed.trans (Tracks.reap hprocess) ?_
      rw [← hfell]
      refine replaceCompositor_tracks ?_ ?_ found.compositorRestarts child.respawned
      · rw [hfell, Function.update_self]
      · simp only [fellBack, loseCompositor, SessionManager.update_lookup, if_true, hfound]
        exact ⟨_, rfl⟩

theorem reapNext_fst (d : Daemon) (children : List ReapedChild) :
    (forEach reapNext d children).1 = (d.reapChildren children).1 := by
  unfold reapChildren
  induction children generalizing d with
  | nil => rfl
  | cons child rest ih => exact ih _

theorem reapLoop_tracks (hkept : Kept d) (children : List ReapedChild) :
    Tracks d.processOf (forEach reapNext d children).2
      (forEach reapNext d children).1.processOf := by
  have hloop := SeqClosed.loop_of_invariant
    (R := fun d ops d' => Tracks d.processOf ops d'.processOf) (I := Kept)
    ⟨fun d => tracks_seqClosed.refl d.processOf, tracks_seqClosed.trans⟩ reapNext children
    (fun d hkept child _ =>
      ⟨handleCompositorExit_kept hkept child, reapNext_tracks hkept child⟩) d hkept
  exact hloop.2

theorem terminateSession_tracks (k : SessionId) :
    Tracks d.processOf (d.sessions.terminateOps k) (d.terminateSession k).daemon.processOf := by
  have hnext := SessionManager.terminateSession_tracks (m := d.sessions) k
  unfold SessionManager.terminateNext at hnext
  unfold Daemon.terminateSession
  cases hdone : d.sessions.terminateSession k with
  | ok sessions =>
      rw [hdone] at hnext
      exact hnext
  | error e =>
      -- an unknown session has no process
      have hnone : d.sessions.sessions.lookup k = none := by
        unfold SessionManager.terminateSession at hdone
        split at hdone
        · cases hdone
        · assumption
      rw [SessionManager.terminateOps, hnone]
      exact tracks_seqClosed.refl _

theorem registerCompositor_processOf (connId : ConnId) (k : SessionId) :
    (d.registerCompositor connId k).daemon.processOf = d.processOf := by
  unfold registerCompositor
  split
  · rfl
  · dsimp only
    split
    · refine SessionManager.processOf_update_same k ?_
      exact fun _ => SessionContext.transition_compositorProcess _ .locked
    · refine SessionManager.processOf_update_same k ?_
      exact fun _ => SessionContext.transition_compositorProcess _ .active

theorem showLock_processOf (k : SessionId) (reason : LockReason) :
    (d.showLock k reason).1.processOf = d.processOf := by
  unfold showLock
  split
  · rfl
  · exact SessionManager.processOf_update_same k
      (SessionContext.transition_compositorProcess · .locked)

theorem unlock_processOf (k : SessionId) (userName password : String) :
    (d.unlock env k userName password).daemon.processOf = d.processOf := by
  by_cases hs : (d.unlockAttempt env k userName password).outcome = .success
  · rw [unlock_success hs]
    exact SessionManager.processOf_update_same k
      (SessionContext.transition_compositorProcess · .active)
  · rw [unlock_failure hs]
    rfl

theorem disconnected_processOf (connId : ConnId) :
    (d.disconnected connId).1.processOf = d.processOf := by
  funext s
  simp only [disconnected, processOf, SessionManager.processOf, Table.lookup_mapVal]
  cases d.sessions.sessions.lookup s with
  | none => rfl
  | some ctx =>
      simp only [Option.map_some, Option.bind_some]
      split <;> rfl

theorem idleChange_processOf (change : String × IdleStage) :
    (idleChange env d change).1.processOf = d.processOf := by
  obtain ⟨seatId, stage⟩ := change
  cases stage with
  | active => rfl
  | dimmed => rfl
  | lockRequested =>
      simp only [idleChange]
      rcases idleLock_shows d env seatId with heq | ⟨k, locks, -, heq⟩
      · rw [heq]
      · rw [heq]
        exact showLock_processOf (d := { d with locks }) k .idle
  | suspendRequested => rfl

theorem onIdleTick_processOf : (d.onIdleTick env).1.processOf = d.processOf := by
  have hloop := SeqClosed.loop
    (R := fun (d : Daemon) (_ : List Effect) d' => d'.processOf = d.processOf)
    ⟨fun _ => rfl, fun h h' => h'.trans h⟩ (idleChange env)
    (d.idle.tick env.now (IdlePolicy.from d.settings.idle)).2
    (fun d change _ => idleChange_processOf change)
    { d with idle := (d.idle.tick env.now (IdlePolicy.from d.settings.idle)).1 }
  exact hloop

theorem dispatch_tracks (connId : ConnId) (request : Request)
    (hfree : d.processOf d.sessions.nextId = none) :
    Tracks d.processOf (d.requestOps env connId request)
      (d.dispatch env connId request).daemon.processOf := by
  cases request with
  | createSession userName seatId sessionType =>
      exact createSession_tracks hfree userName seatId sessionType
  | terminateSession k => exact terminateSession_tracks k
  | registerCompositor k =>
      simp only [dispatch, registerCompositor_processOf]
      exact tracks_seqClosed.refl _
  | lockSession k =>
      have hsame : (d.lockSession env k .manual).daemon.processOf = d.processOf := by
        rcases lockSession_cases d env k .manual with ⟨text, heq⟩ | ⟨locks, -, heq⟩
        · rw [heq]
        · rw [heq]
          exact showLock_processOf (d := { d with locks }) k .manual
      simp only [dispatch, hsame]
      exact tracks_seqClosed.refl _
  | unlock k userName password =>
      simp only [dispatch, unlock_processOf]
      exact tracks_seqClosed.refl _
  | reboot =>
      simp only [requestOps, dispatch, MitosSession.reboot]
      split
      · exact tracks_seqClosed.refl _
      · exact d.sessions.terminateAll_tracks
  | powerOff =>
      simp only [requestOps, dispatch, MitosSession.poweroff]
      split
      · exact tracks_seqClosed.refl _
      · exact d.sessions.terminateAll_tracks
  | _ =>
      unfold processOf
      rw [dispatch_sessions connId rfl]
      exact tracks_seqClosed.refl _

/-- **One event.** Its operations go with what becomes of the records. -/
theorem handle_tracks (hkept : Kept d) (hfree : d.processOf d.sessions.nextId = none)
    (env : Env) (event : DaemonEvent) :
    Tracks d.processOf (d.ops env event) (d.handle env event).1.processOf := by
  match event with
  | .ipc (.connected connId peer outbox) => exact tracks_seqClosed.refl _
  | .ipc (.disconnected connId) =>
      simp only [handle, handleIpc, disconnected_processOf]
      exact tracks_seqClosed.refl _
  | .ipc (.command cmd) =>
      cases hauth : authorize env.userByName cmd.peer cmd.connId cmd.request d.sessions
        d.elevation with
      | error e =>
          simp only [ops, hauth, handle_rejected hauth]
          exact tracks_seqClosed.refl _
      | ok u =>
          simp only [ops, hauth, handle_authorized hauth]
          exact dispatch_tracks cmd.connId cmd.request hfree
  | .idleTick =>
      simp only [handle, onIdleTick_processOf]
      exact tracks_seqClosed.refl _
  | .signal .terminate => exact d.sessions.terminateAll_tracks
  | .signal .reloadConfig =>
      simp only [handle, onSignal, reloadConfig]
      split
      · exact tracks_seqClosed.refl _
      · exact tracks_seqClosed.refl _
  | .signal (.reapChildren children) =>
      have hloop := reapLoop_tracks hkept children
      rwa [reapNext_fst] at hloop

/-! ## Session ids -/

/-- After `n` ids were spent: the next one, and which may be in use. -/
structure Numbered (n : ℕ) (d : Daemon) : Prop where
  next : d.sessions.nextId = wrapU32 (n + 1)
  used : ∀ id ctx, d.sessions.sessions.lookup id = some ctx → ∃ i < n, id = wrapU32 (i + 1)

/-- The next id is unused while the counter has not gone around. -/
theorem Numbered.unused {n : ℕ} (h : Numbered n d) (hn : n < u32Size) :
    d.sessions.sessions.lookup d.sessions.nextId = none := by
  cases hctx : d.sessions.sessions.lookup d.sessions.nextId with
  | none => rfl
  | some ctx =>
      obtain ⟨i, hi, heq⟩ := h.used _ ctx hctx
      have hmod : (n + 1) % u32Size = (i + 1) % u32Size := h.next.symm.trans heq
      unfold u32Size at hn hmod
      omega

theorem Numbered.evolves {n : ℕ} {cause : Option ManagerCommand} {effects : List Effect}
    (h : Numbered n d) (hevolves : Evolves cause d effects d') : Numbered n d' where
  next := hevolves.1.trans h.next
  used id ctx' hctx' := by
    obtain ⟨ctx, hctx, -⟩ := hevolves.2 id ctx' hctx'
    exact h.used id ctx hctx

/-- An event spends no id, or the next one. -/
theorem Numbered.handle {n : ℕ} (h : Numbered n d) (env : Env) (event : DaemonEvent) :
    Numbered (n + if (d.handle env event).1.sessions.nextId ≠ d.sessions.nextId then 1 else 0)
      (d.handle env event).1 := by
  obtain ⟨d₁, henters, hevolves⟩ := handle_evolves d env event
  refine Numbered.evolves ?_ hevolves
  have hnext : wrapU32 (d.sessions.nextId + 1) = wrapU32 (n + 1 + 1) := by
    rw [h.next]
    exact Nat.mod_add_mod ..
  rw [hevolves.1]
  cases henters with
  | none => simpa using h
  | spent =>
      rw [if_pos (wrapU32_succ_ne _)]
      refine ⟨hnext, fun id ctx hctx => ?_⟩
      obtain ⟨i, hi, hid⟩ := h.used id ctx hctx
      exact ⟨i, hi.trans (Nat.lt_succ_self n), hid⟩
  | entered ctx₁ hid₁ hstate hconn =>
      rw [if_pos (wrapU32_succ_ne _)]
      refine ⟨hnext, fun id ctx hctx => ?_⟩
      simp only [Table.lookup_insert_eq] at hctx
      split at hctx
      · rename_i hid
        exact ⟨n, Nat.lt_succ_self n, hid.trans h.next⟩
      · obtain ⟨i, hi, hid⟩ := h.used id ctx hctx
        exact ⟨i, hi.trans (Nat.lt_succ_self n), hid⟩

end Daemon

/-! ## Runs -/

namespace Supervised

/-- How many session ids a run spends. -/
def idsSpent (tr : List (Transition Supervised SupervisedLabel)) : ℕ :=
  tr.countP fun x => x.post.daemon.sessions.nextId ≠ x.pre.daemon.sessions.nextId

variable {sys sys₀ : Supervised} {tr : List (Transition Supervised SupervisedLabel)}

theorem idsSpent_concat (tr : List (Transition Supervised SupervisedLabel))
    (x : Transition Supervised SupervisedLabel) :
    idsSpent (tr ++ [x]) = idsSpent tr
      + if x.post.daemon.sessions.nextId ≠ x.pre.daemon.sessions.nextId then 1 else 0 := by
  simp only [idsSpent, List.countP_append, List.countP_singleton, decide_eq_true_eq]

theorem numbered_of_run (hinit : Initial sys₀) (hrun : Run Step sys₀ tr sys) :
    sys.daemon.Reachable ∧ Daemon.Numbered (idsSpent tr) sys.daemon := by
  refine hrun.history (P := fun tr sys => sys.daemon.Reachable
    ∧ Daemon.Numbered (idsSpent tr) sys.daemon) ?_ ?_
  · refine ⟨⟨_, [], hinit.1, Run.nil⟩, ?_, ?_⟩
    · obtain ⟨_, _, _, _, _, _, heq⟩ := hinit.1.eq
      rw [heq]
      rfl
    · obtain ⟨_, _, _, _, _, _, heq⟩ := hinit.1.eq
      rw [heq]
      simp
  · rintro tr sys l sys' - ⟨hreach, hnumbered⟩ hstep
    rw [idsSpent_concat]
    cases hstep with
    | handled env event hpossible =>
        exact ⟨hreach.step (Daemon.Step.handled _ env event), hnumbered.handle env event⟩
    | rehash hrehash =>
        rw [if_neg (not_not_intro hrehash.sessions.nextId)]
        refine ⟨hreach.step (Daemon.Step.rehash hrehash), ?_, fun id ctx hctx => ?_⟩
        · exact hrehash.sessions.nextId.trans hnumbered.next
        · rw [hrehash.sessions.sessions.lookup_eq] at hctx
          exact hnumbered.used id ctx hctx
    | forked pid hfree =>
        rw [if_neg (not_not_intro rfl)]
        exact ⟨hreach, hnumbered⟩

/-- One step, from where the records and the table agree and the next id is unused. -/
theorem Step.accounted {l : SupervisedLabel} {sys' : Supervised} (hstep : Step sys l sys')
    (h : Accounted sys.children sys.daemon.processOf) (hkept : Daemon.Kept sys.daemon)
    (hunused : sys.daemon.sessions.sessions.lookup sys.daemon.sessions.nextId = none) :
    Accounted sys'.children sys'.daemon.processOf
      ∧ ∀ env event effects, l = .daemon (.handled env event effects) →
        Owned sys.children (sys.daemon.ops env event) := by
  have hfree : sys.daemon.processOf sys.daemon.sessions.nextId = none := by
    rw [Daemon.processOf, SessionManager.processOf, hunused]
    rfl
  cases hstep with
  | handled env event hpossible =>
      obtain ⟨haccounted, howned⟩ :=
        Daemon.handle_tracks hkept hfree env event sys.children h hpossible
      refine ⟨haccounted, ?_⟩
      rintro _ _ _ ⟨⟩
      exact howned
  | rehash hrehash =>
      refine ⟨fun p s => ?_, fun _ _ _ hlabel => by cases hlabel⟩
      have hsame := h p s
      rwa [Daemon.processOf, SessionManager.processOf,
        ← hrehash.sessions.sessions.lookup_eq] at hsame
  | forked pid hforked =>
      exact ⟨Accounted.other h hforked, fun _ _ _ hlabel => by cases hlabel⟩

/-! ## After a terminate signal -/

/-- A step enters no session but under the next id, which it spends. -/
theorem Step.enters {l : SupervisedLabel} {sys' : Supervised} (hstep : Step sys l sys')
    {s : SessionId} {ctx : SessionContext}
    (hctx : sys'.daemon.sessions.sessions.lookup s = some ctx) :
    (∃ ctx, sys.daemon.sessions.sessions.lookup s = some ctx)
      ∨ sys.daemon.sessions.nextId = s ∧ sys'.daemon.sessions.nextId ≠ s := by
  cases hstep with
  | handled env event hpossible =>
      obtain ⟨d₁, henters, hevolves⟩ := Daemon.handle_evolves sys.daemon env event
      obtain ⟨ctx₁, hctx₁, -⟩ := hevolves.2 s ctx hctx
      cases henters with
      | none => exact Or.inl ⟨ctx₁, hctx₁⟩
      | spent => exact Or.inl ⟨ctx₁, hctx₁⟩
      | entered ctx₂ hid hstate hconn =>
          simp only [Table.lookup_insert_eq] at hctx₁
          split at hctx₁
          · rename_i hs
            refine Or.inr ⟨hs.symm, ?_⟩
            rw [hevolves.1, hs]
            exact wrapU32_succ_ne _
          · exact Or.inl ⟨ctx₁, hctx₁⟩
  | rehash hrehash =>
      rw [hrehash.sessions.sessions.lookup_eq] at hctx
      exact Or.inl ⟨ctx, hctx⟩
  | forked pid hforked => exact Or.inl ⟨ctx, hctx⟩

theorem Step.terminated {l : SupervisedLabel} {sys' : Supervised} {env : Env}
    {effects : List Effect} (hstep : Step sys l sys')
    (hlabel : l = .daemon (.handled env (.signal .terminate) effects))
    (hkept : Daemon.Kept sys.daemon) (s : SessionId) :
    sys'.daemon.sessions.sessions.lookup s = none := by
  cases hstep with
  | handled env event hpossible =>
      cases hlabel
      exact sys.daemon.sessions.terminateAll_gone (fun s ctx hctx => (hkept s ctx hctx).1) s
  | rehash hrehash => cases hlabel
  | forked pid hforked => cases hlabel

/-- A session that was not there before a run was entered in it. -/
theorem entered_of_run (hrun : Run Step sys₀ tr sys) {s : SessionId} {ctx : SessionContext}
    (hnone : sys₀.daemon.sessions.sessions.lookup s = none)
    (hctx : sys.daemon.sessions.sessions.lookup s = some ctx) :
    ∃ y ∈ tr, y.pre.daemon.sessions.nextId = s ∧ y.post.daemon.sessions.nextId ≠ s := by
  induction hrun generalizing ctx with
  | nil =>
      rw [hnone] at hctx
      cases hctx
  | snoc _ hstep ih =>
      rcases hstep.enters hctx with ⟨ctx', hctx'⟩ | hentered
      · obtain ⟨y, hy, hspent⟩ := ih hctx'
        exact ⟨y, List.mem_append_left _ hy, hspent⟩
      · exact ⟨_, List.mem_append_right _ (List.mem_singleton_self _), hentered⟩

theorem kept_of_run (hinit : Initial sys₀) (hrun : Run Step sys₀ tr sys)
    (hfew : idsSpent tr < u32Size) (x : Transition Supervised SupervisedLabel) (hx : x ∈ tr) :
    Daemon.Kept x.pre.daemon
      ∧ x.pre.daemon.sessions.sessions.lookup x.pre.daemon.sessions.nextId = none := by
  obtain ⟨tr₁, tr₂, htr⟩ := List.append_of_mem hx
  obtain ⟨hreach, hnumbered⟩ := numbered_of_run hinit (hrun.split htr).1
  refine ⟨hreach.kept, hnumbered.unused (lt_of_le_of_lt ?_ hfew)⟩
  rw [htr, idsSpent, idsSpent, List.countP_append]
  exact Nat.le_add_right ..

theorem accounted_of_run (hinit : Initial sys₀) (hrun : Run Step sys₀ tr sys)
    (hfew : idsSpent tr < u32Size) :
    Accounted sys.children sys.daemon.processOf
      ∧ ∀ x ∈ tr, ∀ env event effects, x.label = .daemon (.handled env event effects) →
        Owned x.pre.children (x.pre.daemon.ops env event) := by
  refine hrun.forall_transitions (I := fun sys => Accounted sys.children sys.daemon.processOf)
    (Q := fun x => ∀ env event effects, x.label = .daemon (.handled env event effects) →
      Owned x.pre.children (x.pre.daemon.ops env event)) ?_ (kept_of_run hinit hrun hfew)
    fun sys l sys' h hstep hgood => hstep.accounted h hgood.1 hgood.2
  obtain ⟨_, _, _, _, _, _, heq⟩ := hinit.1.eq
  intro p s
  rw [heq]
  exact iff_of_false (hinit.2 p s) (by simp [Daemon.processOf, SessionManager.processOf])

/-- **The daemon's children.** As long as the session ids have not gone around, whatever order
    children are started, killed, reaped and their ids given out again in, the processes that the
    sessions' records hold are exactly the children that run for them: a child runs for one
    session, a session has one child at most, and one that is gone has none. Every process the
    daemon kills is such a child at that moment. A `terminate` signal leaves none, so what is left
    later on runs for sessions that were created after it. -/
theorem children_accounted (hinit : Initial sys₀) (hrun : Run Step sys₀ tr sys)
    (hfew : idsSpent tr < u32Size) :
    (∀ p s, sys.children p = some (.key s) ↔ sys.daemon.processOf s = some p)
      ∧ (∀ x ∈ tr, ∀ env event effects, x.label = .daemon (.handled env event effects) →
        Owned x.pre.children (x.pre.daemon.ops env event))
      ∧ ∀ tr₁ x tr₂ env effects, tr = tr₁ ++ x :: tr₂ →
        x.label = .daemon (.handled env (.signal .terminate) effects) →
        ∀ p s, sys.children p = some (.key s) →
          ∃ y ∈ tr₂, y.pre.daemon.sessions.nextId = s ∧ y.post.daemon.sessions.nextId ≠ s := by
  obtain ⟨haccounted, howned⟩ := accounted_of_run hinit hrun hfew
  refine ⟨haccounted, howned, fun tr₁ x tr₂ env effects htr hlabel p s hchild => ?_⟩
  obtain ⟨ctx, hctx, -⟩ := Option.bind_eq_some_iff.1 ((haccounted p s).1 hchild)
  have hkept := (kept_of_run hinit hrun hfew x (by simp [htr])).1
  exact entered_of_run (hrun.after htr) ((hrun.split htr).2.terminated hlabel hkept s) hctx

/-- The system after one event. -/
def next (sys : Supervised) (e : Env × DaemonEvent) : Supervised :=
  { daemon := (sys.daemon.handle e.1 e.2).1
    children := after sys.children (sys.daemon.ops e.1 e.2) }

/-- The demo daemon, without any children. -/
def demo : Supervised :=
  { daemon := Daemon.demo, children := fun _ => none }

/-- Alice's session is created, and its compositor crashes and is relaunched under the same
    process id. -/
def demoRelaunched : Supervised :=
  ((demo.next (demoEnv 0, demoConnect 7 1000)).next
    (demoEnv 0, .ipc (.command (demoCommand 7 1000 (.createSession "alice" none none))))).next
      (demoEnv 1, .signal (.reapChildren [{ pid := 4242, respawned := .ok 4242 }]))

theorem children_accounted_relaunched :
    demoRelaunched.daemon.processOf 1 = some 4242
      ∧ ∀ p s, demoRelaunched.children p = some (.key s)
        ↔ demoRelaunched.daemon.processOf s = some p := by
  have hinit : Initial demo := ⟨Daemon.demo_initial, by simp [demo]⟩
  refine ⟨rfl, (children_accounted hinit
    (((Run.nil.snoc (Step.handled demo _ _ ?_)).snoc (Step.handled _ _ _ ?_)).snoc
      (Step.handled _ _ _ ?_)) ?_).1⟩
  · trivial
  · exact ⟨rfl, trivial⟩
  · exact ⟨rfl, rfl, trivial⟩
  · decide

end Supervised

end MitosSession
