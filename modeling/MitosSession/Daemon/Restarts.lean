import MitosSession.Daemon.Reported
import MitosSession.Daemon.Unknown

set_option autoImplicit false

/-! # Restart counters

`compositor_restarts` starts at zero with a new session. `handle_compositor_exit` counts every
relaunch, until `decide_restart` says to give up on the compositor; nothing else in the daemon
touches the counter of a session that stays. -/

namespace MitosSession

theorem SessionContext.transition_compositorRestarts (self : SessionContext)
    (next : SessionState) :
    (self.transition next).compositorRestarts = self.compositorRestarts := by
  rw [SessionContext.transition_eq]

theorem begin_restarts {prepared : Result Unit} {id : SessionId} {user : User} {seatId : String}
    {sessionType : SessionType} {createdAt : ℕ} {ctx : SessionContext}
    (h : MitosSession.begin prepared id user seatId sessionType createdAt = .ok ctx) :
    ctx.compositorRestarts = 0 := by
  unfold MitosSession.begin at h
  cases prepared with
  | error e => simp [bind, Except.bind] at h
  | ok u =>
      simp only [bind, Except.bind, pure, Except.pure, Except.ok.injEq] at h
      rw [← h]

namespace Daemon

variable {d d' : Daemon} {env : Env} {event : DaemonEvent} {s : SessionId} {child : ReapedChild}

/-- `compositor_restarts` of a session there is. -/
def restartsOf (self : Daemon) (s : SessionId) : Option ℕ :=
  (self.sessions.sessions.lookup s).map SessionContext.compositorRestarts

/-- `max_compositor_restarts` in force. -/
def maxRestarts (self : Daemon) : ℕ :=
  self.settings.session.maxCompositorRestarts

/-! ## Children that exit -/

theorem update_restartsOf {k : SessionId} {f : SessionContext → SessionContext}
    (h : d'.sessions = d.sessions.update k f) (s : SessionId) :
    d'.restartsOf s
      = if s = k then (d.sessions.sessions.lookup s).map fun ctx => (f ctx).compositorRestarts
        else d.restartsOf s := by
  simp only [restartsOf, h, SessionManager.update_lookup]
  split
  · rw [Option.map_map]
    rfl
  · rfl

/-- An update that leaves the counter alone. -/
theorem update_restartsOf_same {k : SessionId} {f : SessionContext → SessionContext}
    (h : d'.sessions = d.sessions.update k f) (s : SessionId)
    (hf : ∀ ctx, (f ctx).compositorRestarts = ctx.compositorRestarts := by exact fun _ => rfl) :
    d'.restartsOf s = d.restartsOf s := by
  rw [update_restartsOf h]
  split
  · exact congrArg (fun g => (d.sessions.sessions.lookup s).map g) (funext hf)
  · rfl

theorem trySpawnCompositor_restartsOf (spawned : Result Pid) (k s : SessionId) :
    (d.trySpawnCompositor spawned k).1.restartsOf s = d.restartsOf s := by
  unfold trySpawnCompositor
  split
  · rfl
  · split
    · exact update_restartsOf_same rfl s
    · rfl

theorem get_of_restartsOf {k : SessionId} {n : ℕ} (h : d.restartsOf k = some n) :
    ∃ ctx, d.sessions.get k = .ok ctx := by
  obtain ⟨ctx, hctx, -⟩ := Option.map_eq_some_iff.1 h
  exact ⟨ctx, by simp only [SessionManager.get, hctx]⟩

theorem trySpawnCompositor_spawns {k : SessionId} {n : ℕ} (h : d.restartsOf k = some n)
    (spawned : Result Pid) :
    ∃ started, (d.trySpawnCompositor spawned k).2 = [.spawn k .compositor started] := by
  obtain ⟨ctx, hget⟩ := get_of_restartsOf h
  unfold trySpawnCompositor
  rw [hget]
  cases spawned with
  | error e => exact ⟨false, rfl⟩
  | ok pid => exact ⟨true, rfl⟩

/-- What `decide_restart` makes of a child's exit: the program started next, and the counter. -/
def afterExit (restarts max : ℕ) : Program × ℕ :=
  match decideRestart restarts max with
  | .restart => (.compositor, wrapU32 (restarts + 1))
  | .fallbackToTerminal => (.fallbackTerminal, restarts)

/-- The second half of `handle_compositor_exit`: relaunch the compositor or give up on it. -/
def replaceCompositor (self : Daemon) (sessionId : SessionId) (restarts : ℕ)
    (respawned : Result Pid) : Daemon × List Effect :=
  match decideRestart restarts self.maxRestarts with
  | .restart =>
    { self with
      sessions := self.sessions.update sessionId fun ctx =>
        { ctx with compositorRestarts := wrapU32 (ctx.compositorRestarts + 1) }
      : Daemon }.trySpawnCompositor respawned sessionId
  | .fallbackToTerminal =>
    match self.sessions.get sessionId, respawned with
    | .ok _, .ok pid =>
      ({ self with
          sessions := self.sessions.update sessionId fun ctx =>
            { ctx with compositorProcess := some pid } },
        [.spawn sessionId .fallbackTerminal true])
    | .ok _, .error _ => (self, [.spawn sessionId .fallbackTerminal false])
    | .error _, _ => (self, [])

/-- The session forgets its compositor and goes back to `Starting`. -/
def fellBack (self : Daemon) (key : SessionId) (found : SessionContext) : Daemon :=
  { self.loseCompositor key found with
    sessions := (self.loseCompositor key found).sessions.update key (·.transition .starting) }

theorem fellBack_restartsOf (key : SessionId) (found : SessionContext) (s : SessionId) :
    (d.fellBack key found).restartsOf s = d.restartsOf s := by
  have hforgets : (d.loseCompositor key found).restartsOf s = d.restartsOf s :=
    update_restartsOf_same rfl s
  refine Eq.trans ?_ hforgets
  exact update_restartsOf_same rfl s
    (SessionContext.transition_compositorRestarts · .starting)

theorem replaceCompositor_spawns {k : SessionId} {n : ℕ} (h : d.restartsOf k = some n)
    (respawned : Result Pid) :
    (∃ started, (d.replaceCompositor k n respawned).2
        = [.spawn k (afterExit n d.maxRestarts).1 started])
      ∧ ∀ s, (d.replaceCompositor k n respawned).1.restartsOf s
        = if s = k then some (afterExit n d.maxRestarts).2 else d.restartsOf s := by
  unfold replaceCompositor afterExit
  cases decideRestart n d.maxRestarts with
  | restart =>
      have hcounted : ∀ s, restartsOf { d with
            sessions := d.sessions.update k fun ctx =>
              { ctx with compositorRestarts := wrapU32 (ctx.compositorRestarts + 1) } } s
          = if s = k then some (wrapU32 (n + 1)) else d.restartsOf s := by
        intro s
        rw [update_restartsOf rfl]
        by_cases hs : s = k
        · subst hs
          obtain ⟨ctx, hctx, hn⟩ := Option.map_eq_some_iff.1 h
          rw [if_pos rfl, if_pos rfl, hctx, Option.map_some, hn]
        · rw [if_neg hs, if_neg hs]
      refine ⟨trySpawnCompositor_spawns ((hcounted k).trans (if_pos rfl)) respawned, fun s => ?_⟩
      exact (trySpawnCompositor_restartsOf respawned k s).trans (hcounted s)
  | fallbackToTerminal =>
      -- the terminal takes the place of the compositor, under the same counter
      have hsame : ∀ s, d.restartsOf s = if s = k then some n else d.restartsOf s := by
        intro s
        by_cases hs : s = k
        · rw [if_pos hs, hs, h]
        · rw [if_neg hs]
      obtain ⟨ctx, hget⟩ := get_of_restartsOf h
      rw [hget]
      cases respawned with
      | error e => exact ⟨⟨false, rfl⟩, hsame⟩
      | ok pid =>
          refine ⟨⟨true, rfl⟩, fun s => Eq.trans ?_ (hsame s)⟩
          exact update_restartsOf_same rfl s

theorem handleCompositorExit_eq {key : SessionId} {found : SessionContext}
    (hfind : (d.sessions.sessions.entries.find? fun e =>
      e.2.compositorProcess = some child.pid) = some ⟨key, found⟩) (hid : found.id = key) :
    d.handleCompositorExit child = (d.fellBack key found).replaceCompositor key
      found.compositorRestarts child.respawned := by
  unfold handleCompositorExit
  rw [hfind]
  dsimp only
  rw [hid]
  rfl

/-- What one iteration does. -/
theorem handleCompositorExit_spawns (hkept : Kept d) (child : ReapedChild) :
    (d.exited child = none ∧ d.handleCompositorExit child = (d, []))
      ∨ ∃ k n, d.exited child = some k ∧ d.restartsOf k = some n
        ∧ (∃ started, (d.handleCompositorExit child).2
          = [.spawn k (afterExit n d.maxRestarts).1 started])
        ∧ ∀ s, (d.handleCompositorExit child).1.restartsOf s
          = if s = k then some (afterExit n d.maxRestarts).2 else d.restartsOf s := by
  cases hfind : d.sessions.sessions.entries.find? fun e =>
      e.2.compositorProcess = some child.pid with
  | none =>
      refine Or.inl ⟨by rw [exited, hfind]; rfl, ?_⟩
      unfold handleCompositorExit
      rw [hfind]
  | some e =>
      obtain ⟨key, found⟩ := e
      have hfound : d.sessions.sessions.lookup key = some found :=
        Table.lookup_eq_some_iff.2 (List.mem_of_find?_eq_some hfind)
      -- the source goes on with the id in the record, which is the one it is filed under
      have hid : found.id = key := (hkept key found hfound).1
      have hrestarts : d.restartsOf key = some found.compositorRestarts := by
        simp [restartsOf, hfound]
      have heq := handleCompositorExit_eq hfind hid
      obtain ⟨hspawns, hafter⟩ := replaceCompositor_spawns
        ((fellBack_restartsOf key found key).trans hrestarts) child.respawned
      refine Or.inr ⟨key, found.compositorRestarts, by rw [exited, hfind]; rfl, hrestarts, ?_⟩
      rw [heq]
      refine ⟨hspawns, fun s => ?_⟩
      rw [hafter, fellBack_restartsOf]
      rfl

/-! ## Everything else leaves the counters alone -/

/-- Sessions may go, the others keep their counter. -/
def KeepsCounters (d : Daemon) (_ : List Effect) (d' : Daemon) : Prop :=
  ∀ s, d'.restartsOf s = none ∨ d'.restartsOf s = d.restartsOf s

theorem keepsCounters_seqClosed : SeqClosed KeepsCounters where
  refl _ _ := Or.inr rfl
  trans h h' s := by
    rcases h' s with hnone | hsame
    · exact Or.inl hnone
    · rw [hsame]
      exact h s

/-- Sessions may go, the others keep their record. -/
theorem keepsCounters_of_lookup
    (h : ∀ s, d'.sessions.sessions.lookup s = none
      ∨ d'.sessions.sessions.lookup s = d.sessions.sessions.lookup s) :
    KeepsCounters d [] d' := by
  intro s
  unfold restartsOf
  rcases h s with hnone | hsame
  · exact Or.inl (by rw [hnone]; rfl)
  · exact Or.inr (by rw [hsame])

theorem terminateSession_keepsCounters (k : SessionId) :
    KeepsCounters d [] (d.terminateSession k).daemon := by
  rcases terminateSession_cases d k with ⟨e, -, heq⟩ | ⟨ctx, -, heq⟩
  · rw [heq]
    exact keepsCounters_seqClosed.refl d
  · rw [heq]
    refine keepsCounters_of_lookup fun s => ?_
    simp only [Table.lookup_erase_eq]
    split
    · exact Or.inl rfl
    · exact Or.inr rfl

theorem registerCompositor_restartsOf (connId : ConnId) (k s : SessionId) :
    (d.registerCompositor connId k).daemon.restartsOf s = d.restartsOf s := by
  unfold registerCompositor
  split
  · rfl
  · dsimp only
    split
    · refine update_restartsOf_same rfl s ?_
      exact fun _ => SessionContext.transition_compositorRestarts _ .locked
    · refine update_restartsOf_same rfl s ?_
      exact fun _ => SessionContext.transition_compositorRestarts _ .active

theorem unlock_restartsOf (env : Env) (k : SessionId) (userName password : String)
    (s : SessionId) :
    (d.unlock env k userName password).daemon.restartsOf s = d.restartsOf s := by
  by_cases hs : (d.unlockAttempt env k userName password).outcome = .success
  · rw [unlock_success hs]
    exact update_restartsOf_same rfl s (SessionContext.transition_compositorRestarts · .active)
  · rw [unlock_failure hs]
    rfl

theorem showLock_keepsCounters (k : SessionId) (reason : LockReason) :
    KeepsCounters d (d.showLock k reason).2 (d.showLock k reason).1 := by
  intro s
  unfold showLock
  split
  · exact Or.inr rfl
  · exact Or.inr (update_restartsOf_same rfl s
      (SessionContext.transition_compositorRestarts · .locked))

theorem onIdleTick_keepsCounters (env : Env) :
    KeepsCounters d (d.onIdleTick env).2 (d.onIdleTick env).1 := by
  have hloop := keepsCounters_seqClosed.loop (idleChange env)
    (d.idle.tick env.now (IdlePolicy.from d.settings.idle)).2 (fun d change _ => ?_)
    { d with idle := (d.idle.tick env.now (IdlePolicy.from d.settings.idle)).1 }
  · exact hloop
  · obtain ⟨seatId, stage⟩ := change
    cases stage with
    | active => exact keepsCounters_seqClosed.refl d
    | dimmed => exact fun _ => Or.inr rfl
    | lockRequested =>
        rcases idleLock_shows d env seatId with heq | ⟨k, locks, -, heq⟩
        · simp only [idleChange, heq]
          exact keepsCounters_seqClosed.refl d
        · simp only [idleChange, heq]
          exact showLock_keepsCounters (d := { d with locks }) k .idle
    | suspendRequested => exact fun _ => Or.inr rfl

theorem trySpawnCompositor_nextId (spawned : Result Pid) (k : SessionId) :
    (d.trySpawnCompositor spawned k).1.sessions.nextId = d.sessions.nextId := by
  unfold trySpawnCompositor
  split
  · rfl
  · split
    · rfl
    · rfl

/-- A new session starts counting at zero; the others are left alone. -/
theorem createSession_restartsOf (env : Env) (userName : String)
    (seatId sessionType : Option String) :
    ((∀ info, (d.createSession env userName seatId sessionType).response
          ≠ some (.session info))
        ∧ ∀ s, (d.createSession env userName seatId sessionType).daemon.restartsOf s
          = d.restartsOf s)
      ∨ (d.createSession env userName seatId sessionType).daemon.sessions.nextId
          ≠ d.sessions.nextId
        ∧ ∀ s, (d.createSession env userName seatId sessionType).daemon.restartsOf s
          = if s = d.sessions.nextId then some 0 else d.restartsOf s := by
  rcases createSession_cases d env userName seatId sessionType with
    ⟨e, sessions, hspent, heq⟩
      | ⟨user, ctx, kind, launched, response, -, -, hbegin, hlaunched, -, heq⟩
  · rw [heq]
    rcases hspent with rfl | rfl
    · exact Or.inl ⟨fun _ => by simp, fun _ => rfl⟩
    · exact Or.inl ⟨fun _ => by simp, fun _ => rfl⟩
  · have hzero : ctx.compositorRestarts = 0 := begin_restarts hbegin
    have hentered : ∀ s, (d.enter (seatId.getD d.settings.seat.defaultSeat) ctx).restartsOf s
        = if s = d.sessions.nextId then some 0 else d.restartsOf s := by
      intro s
      simp only [restartsOf, enter, Table.lookup_insert_eq]
      split
      · rw [Option.map_some, hzero]
      · rfl
    rw [heq]
    right
    rcases hlaunched with rfl | rfl
    -- launching the compositor changes neither the counters nor the next id
    · refine ⟨?_, fun s => (trySpawnCompositor_restartsOf ..).trans (hentered s)⟩
      rw [trySpawnCompositor_nextId]
      exact wrapU32_succ_ne _
    · exact ⟨wrapU32_succ_ne _, hentered⟩

theorem dispatch_restartsOf (env : Env) (connId : ConnId) (request : Request)
    (h : d.sessions.nextId = s → (d.dispatch env connId request).daemon.sessions.nextId = s) :
    (d.dispatch env connId request).daemon.restartsOf s = none
      ∨ (d.dispatch env connId request).daemon.restartsOf s = d.restartsOf s := by
  cases request with
  | createSession userName seatId sessionType =>
      rcases createSession_restartsOf (d := d) env userName seatId sessionType with
        ⟨-, hsame⟩ | ⟨hnext, hafter⟩
      · exact Or.inr (hsame s)
      · refine Or.inr ((hafter s).trans (if_neg ?_))
        rintro rfl
        -- an id that is taken now is no longer the next one
        exact hnext (h rfl)
  | terminateSession k => exact terminateSession_keepsCounters k s
  | registerCompositor k => exact Or.inr (registerCompositor_restartsOf connId k s)
  | lockSession k =>
      simp only [dispatch]
      rcases lockSession_cases d env k .manual with ⟨text, heq⟩ | ⟨locks, -, heq⟩
      · rw [heq]
        exact Or.inr rfl
      · rw [heq]
        exact showLock_keepsCounters (d := { d with locks }) k .manual s
  | unlock k userName password => exact Or.inr (unlock_restartsOf env k userName password s)
  | reboot =>
      simp only [dispatch, MitosSession.reboot]
      split
      · exact Or.inr rfl
      · exact keepsCounters_of_lookup d.sessions.terminateAll_lookup s
  | powerOff =>
      simp only [dispatch, MitosSession.poweroff]
      split
      · exact Or.inr rfl
      · exact keepsCounters_of_lookup d.sessions.terminateAll_lookup s
  | _ =>
      refine Or.inr ?_
      unfold restartsOf
      rw [dispatch_sessions connId rfl]

/-- Only reaping counts restarts, and only a new session starts counting anew. -/
theorem handle_restartsOf (env : Env) (event : DaemonEvent)
    (hreap : ∀ children, event ≠ .signal (.reapChildren children))
    (htakes : ¬ Takes s ⟨d, .handled env event (d.handle env event).2, (d.handle env event).1⟩) :
    (d.handle env event).1.restartsOf s = none
      ∨ (d.handle env event).1.restartsOf s = d.restartsOf s := by
  match event with
  | .ipc (.connected connId peer outbox) => exact Or.inr rfl
  | .ipc (.disconnected connId) =>
      refine Or.inr ?_
      simp only [handle, handleIpc, disconnected, restartsOf, Table.lookup_mapVal, Option.map_map]
      congr 1
      funext ctx
      simp only [Function.comp_apply]
      split <;> rfl
  | .ipc (.command cmd) =>
      cases hauth : authorize env.userByName cmd.peer cmd.connId cmd.request d.sessions
        d.elevation with
      | error e =>
          rw [handle_rejected hauth]
          exact Or.inr rfl
      | ok u =>
          simp only [Takes, handle_authorized hauth, not_and_not_right] at htakes ⊢
          exact dispatch_restartsOf env cmd.connId cmd.request htakes
  | .idleTick => exact onIdleTick_keepsCounters env s
  | .signal .terminate =>
      exact keepsCounters_of_lookup d.sessions.terminateAll_lookup s
  | .signal .reloadConfig =>
      refine Or.inr ?_
      simp only [handle, onSignal, reloadConfig]
      split
      · rfl
      · rfl
  | .signal (.reapChildren children) => exact absurd rfl (hreap children)

end Daemon

end MitosSession
