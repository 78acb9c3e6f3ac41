import MitosSession.Daemon.Handled

set_option autoImplicit false

/-! # What the screen shows, and the lock

`screen s c tr` is the last lock-screen event for session `s` that was put into the outbox of
connection `c` since `c` registered as the session's compositor. A locked session whose compositor
was never told to show the lock screen is a session whose content stays visible.

Most ways of engaging a lock go through `Daemon::lock_session` or its twin in the idle tick, which
tell the compositor. Two do not: `power::suspend`, and an `Unlock` attempt that locks out a session
that was not locked. And two ways of losing the compositor's outbox make what is sent to it go
nowhere. `Heard` is the condition that a step does none of this; `screen_shows_lock` is the
agreement of screen and lock along every run of such steps. -/

namespace MitosSession

/-- What a compositor was last told to do with the lock screen. -/
inductive LockScreen where
  | shown
  | hidden
deriving DecidableEq

/-- The lock-screen event for `s` an effect puts into the outbox of `c`. -/
def Effect.lockScreen (s : SessionId) (c : ConnId) : Effect → Option LockScreen
  | .send conn (.event (.showLockScreen session _)) true =>
    if conn = c ∧ session = s then some .shown else none
  | .send conn (.event (.hideLockScreen session)) true =>
    if conn = c ∧ session = s then some .hidden else none
  | _ => none

/-- The last event after some effects, `screen` being the last before them. -/
def screenAfter (s : SessionId) (c : ConnId) (screen : Option LockScreen) (effects : List Effect) :
    Option LockScreen :=
  effects.foldl (fun screen e => (e.lockScreen s c).or screen) screen

section ScreenAfter

variable {s : SessionId} {c : ConnId} {screen : Option LockScreen}

theorem screenAfter_append (effects effects' : List Effect) :
    screenAfter s c screen (effects ++ effects')
      = screenAfter s c (screenAfter s c screen effects) effects' :=
  List.foldl_append

theorem screenAfter_of_none {effects : List Effect}
    (h : ∀ e ∈ effects, e.lockScreen s c = none) : screenAfter s c screen effects = screen := by
  induction effects with
  | nil => rfl
  | cons e rest ih =>
      have he := h e (List.mem_cons_self ..)
      have hrest := ih fun e he => h e (List.mem_cons_of_mem _ he)
      unfold screenAfter at hrest ⊢
      rw [List.foldl_cons, he, Option.none_or]
      exact hrest

theorem Effect.lockScreen_of_isNotice {e : Effect} (h : e.isNotice = true) :
    e.lockScreen s c = none := by
  unfold Effect.lockScreen
  split
  · simp [Effect.isNotice] at h
  · simp [Effect.isNotice] at h
  · rfl

theorem screenAfter_notice {effects : List Effect} (h : ∀ e ∈ effects, e.isNotice = true) :
    screenAfter s c screen effects = screen :=
  screenAfter_of_none fun e he => Effect.lockScreen_of_isNotice (h e he)

theorem screenAfter_response (registry : ConnRegistry) (conn : ConnId) (response : Response) :
    screenAfter s c screen [registry.sendResponse conn response] = screen := by
  refine screenAfter_of_none fun e he => ?_
  obtain rfl := List.mem_singleton.1 he
  rfl

/-- A lock screen shown on a known connection is shown. -/
theorem screenAfter_show {registry : ConnRegistry} (h : registry.knows c = true)
    (reason : LockReason) :
    screenAfter s c screen (registry.sendEventTo (some c) (.showLockScreen s reason))
      = some .shown := by
  simp [screenAfter, ConnRegistry.sendEventTo, ConnRegistry.sendEvent, h, Effect.lockScreen]

/-- Events for another session do not count. -/
theorem screenAfter_other {registry : ConnRegistry} {conn : Option ConnId} {event : Event}
    (h : ∀ c' queued, (Effect.send c' (.event event) queued).lockScreen s c = none) :
    screenAfter s c screen (registry.sendEventTo conn event) = screen := by
  refine screenAfter_of_none fun e he => ?_
  cases conn with
  | none => cases he
  | some c' =>
      obtain rfl := List.mem_singleton.1 he
      exact h c' _

theorem lockScreen_show_ne {k : SessionId} (h : s ≠ k) (reason : LockReason) (c' : ConnId)
    (queued : Bool) :
    (Effect.send c' (.event (.showLockScreen k reason)) queued).lockScreen s c = none := by
  cases queued <;> simp [Effect.lockScreen, h.symm]

theorem lockScreen_hide_ne {k : SessionId} (h : s ≠ k) (c' : ConnId) (queued : Bool) :
    (Effect.send c' (.event (.hideLockScreen k)) queued).lockScreen s c = none := by
  cases queued <;> simp [Effect.lockScreen, h.symm]

end ScreenAfter

namespace Daemon

/-- The step registered `c` as the compositor of `s`. -/
def registers (s : SessionId) (c : ConnId) (d : Daemon) : DaemonLabel → Bool
  | .handled env (.ipc (.command cmd)) _ =>
    decide (cmd.request = .registerCompositor s ∧ cmd.connId = c)
      && (authorize env.userByName cmd.peer cmd.connId cmd.request d.sessions d.elevation).isOk
      && (d.sessions.get s).isOk
  | _ => false

/-- The last lock-screen event for `s` sent to `c` since `c` registered for `s`. -/
def screen (s : SessionId) (c : ConnId) (tr : List (Transition Daemon DaemonLabel)) :
    Option LockScreen :=
  tr.foldl (fun screen x =>
    screenAfter s c (if registers s c x.pre x.label then none else screen) x.label.effects) none

theorem screen_snoc (s : SessionId) (c : ConnId) (tr : List (Transition Daemon DaemonLabel))
    (x : Transition Daemon DaemonLabel) :
    screen s c (tr ++ [x])
      = screenAfter s c (if registers s c x.pre x.label then none else screen s c tr)
        x.label.effects := by
  simp only [screen, List.foldl_append, List.foldl_cons, List.foldl_nil]

/-! ## When a step is heard -/

/-- The session has a compositor. -/
def hasCompositor (d : Daemon) (s : SessionId) : Bool :=
  (d.sessions.sessions.lookup s).any fun ctx => ctx.compositorConn.isSome

/-- `power::suspend` engages no lock that a compositor would have to show: it is blocked, locks
    nothing, or finds every session that has a compositor locked already. -/
def SuspendHeard (d : Daemon) : Prop :=
  d.locks.inhibitors.blocks .suspend = true
    ∨ locksOnSuspend (LockPolicy.from d.settings.lock) d.locks = false
    ∨ ∀ s, d.hasCompositor s = true → d.locks.isLocked s = true

/-- An unlock attempt does not lock out a session that has a compositor and is not locked. -/
def UnlockHeard (d : Daemon) (env : Env) (s : SessionId) (userName password : String) : Prop :=
  d.hasCompositor s = true → d.locks.isLocked s = false →
    (d.authenticator.authenticate env.pam).accepts { sessionId := s, userName, password } = true
      ∨ wrapU32 ((d.locks.entry s).attempts + 1)
        < (authPolicy d.settings.authentication d.settings.lock).maxAttempts

/-- The connection of a compositor that exited serves no other session. -/
def ExitHeard (d : Daemon) (child : ReapedChild) : Prop :=
  ∀ s ctx c, d.sessions.sessions.lookup s = some ctx → ctx.compositorProcess = some child.pid →
    ctx.compositorConn = some c →
    ∀ s' ctx', d.sessions.sessions.lookup s' = some ctx' → ctx'.compositorConn = some c → s' = s

/-- What a step must not do for the screen to follow the lock. -/
def Heard (d : Daemon) (env : Env) : DaemonEvent → Prop
  | .ipc (.command cmd) =>
    match cmd.request with
    | .registerCompositor _ => d.registry.knows cmd.connId = true
    | .unlock s userName password => UnlockHeard d env s userName password
    | .suspend => SuspendHeard d
    | _ => True
  | .idleTick =>
    Along (fun d change => change.2 = .suspendRequested → SuspendHeard d) (idleChange env)
      { d with idle := (d.idle.tick env.now (IdlePolicy.from d.settings.idle)).1 }
      (d.idle.tick env.now (IdlePolicy.from d.settings.idle)).2
  | .signal (.reapChildren children) => Along ExitHeard handleCompositorExit d children
  | _ => True

/-- The same for the steps of a run. -/
def HeardStep (x : Transition Daemon DaemonLabel) : Prop :=
  match x.label with
  | .handled env event _ => Heard x.pre env event
  | .rehash => True

/-! ## Screen and lock agree -/

/-- The registry knows every compositor, and has told those of locked sessions to show the lock
    screen; `screens` is what each was last told. -/
def Shows (screens : SessionId → ConnId → Option LockScreen) (d : Daemon) : Prop :=
  ∀ s ctx c, d.sessions.sessions.lookup s = some ctx → ctx.compositorConn = some c →
    d.registry.knows c = true ∧ (d.locks.isLocked s = true → screens s c = some .shown)

/-- What a chain of changes must keep. -/
def KeepsShown (d : Daemon) (effects : List Effect) (d' : Daemon) : Prop :=
  ∀ screens, Shows screens d → Shows (fun s c => screenAfter s c (screens s c) effects) d'

theorem keepsShown_seqClosed : SeqClosed KeepsShown where
  refl := fun _ _ h => h
  trans := by
    intro d d' d'' effects effects' h h' screens hshows
    simp only [screenAfter_append]
    exact h' _ (h screens hshows)

variable {cause : Option ManagerCommand} {d d' : Daemon} {env : Env} {effects : List Effect}

/-- Nothing is added to the sessions' compositors, the registry and the locks. -/
theorem KeepsShown.of_frame
    (hsessions : ∀ s ctx', d'.sessions.sessions.lookup s = some ctx' →
      ctx'.compositorConn = none ∨ ∃ ctx, d.sessions.sessions.lookup s = some ctx
        ∧ ctx'.compositorConn = ctx.compositorConn)
    (hregistry : ∀ c, d.registry.knows c = true → d'.registry.knows c = true)
    (hlocks : ∀ s, d'.locks.isLocked s = true → d.locks.isLocked s = true)
    (heffects : ∀ s c screen, screenAfter s c screen effects = screen) :
    KeepsShown d effects d' := by
  intro screens h s ctx' c hctx' hc
  rcases hsessions s ctx' hctx' with hnone | ⟨ctx, hctx, hsame⟩
  · rw [hnone] at hc
    cases hc
  · obtain ⟨hknows, hshown⟩ := h s ctx c hctx (hsame ▸ hc)
    exact ⟨hregistry c hknows, fun hlocked =>
      (heffects s c _).trans (hshown (hlocks s hlocked))⟩

/-- Sessions, registry and locks are left alone. -/
theorem KeepsShown.of_same (hsessions : d'.sessions = d.sessions)
    (hregistry : d'.registry = d.registry)
    (hlocks : ∀ s, d'.locks.isLocked s = true → d.locks.isLocked s = true)
    (heffects : ∀ s c screen, screenAfter s c screen effects = screen) :
    KeepsShown d effects d' := by
  refine KeepsShown.of_frame (fun s ctx hctx => ?_) (fun c hc => ?_) hlocks heffects
  · rw [hsessions] at hctx
    exact Or.inr ⟨ctx, hctx, rfl⟩
  · rw [hregistry]
    exact hc

/-- One record is updated, but not its compositor. -/
theorem KeepsShown.of_update (id : SessionId) {f : SessionContext → SessionContext}
    (hf : ∀ ctx, (f ctx).compositorConn = ctx.compositorConn) :
    KeepsShown d [] { d with sessions := d.sessions.update id f } := by
  refine KeepsShown.of_frame (fun s ctx' hctx' => ?_) (fun _ h => h) (fun _ h => h)
    fun _ _ _ => rfl
  simp only [SessionManager.update_lookup] at hctx'
  split at hctx'
  · obtain ⟨ctx, hctx, rfl⟩ := Option.map_eq_some_iff.1 hctx'
    exact Or.inr ⟨ctx, hctx, hf ctx⟩
  · exact Or.inr ⟨ctx', hctx', rfl⟩

/-- A disconnect takes the connection from the registry and from the sessions alike. -/
theorem disconnect_keepsShown (conn : ConnId) :
    KeepsShown d []
      { d with
        registry := d.registry.unregister conn
        sessions := { d.sessions with
          sessions := d.sessions.sessions.mapVal fun _ ctx =>
            if ctx.compositorConn = some conn then { ctx with compositorConn := none }
            else ctx } } := by
  intro screens h s ctx' c hctx' hc
  simp only [Table.lookup_mapVal, Option.map_eq_some_iff] at hctx'
  obtain ⟨ctx, hctx, rfl⟩ := hctx'
  split at hc
  · cases hc
  · rename_i hne
    obtain ⟨hknows, hshown⟩ := h s ctx c hctx hc
    have hcne : c ≠ conn := by
      rintro rfl
      exact hne hc
    refine ⟨?_, hshown⟩
    rw [ConnRegistry.knows_unregister, if_neg hcne]
    exact hknows

/-- A lock engaged through `lock_session` is shown. -/
theorem lock_keepsShown {id : SessionId} {locks : LockManager} (reason : LockReason)
    (hlock : d.locks.lock id (LockPolicy.from d.settings.lock) = .ok locks) :
    KeepsShown d ({ d with locks }.showLock id reason).2
      ({ d with locks }.showLock id reason).1 := by
  intro screens h s ctx' c hctx' hc
  unfold showLock SessionManager.get at hctx' ⊢
  cases hid : d.sessions.sessions.lookup id with
  | none =>
      simp only [hid] at hctx' ⊢
      obtain ⟨hknows, hshown⟩ := h s ctx' c hctx' hc
      refine ⟨hknows, fun hlocked => hshown ?_⟩
      -- `lock` does not ask whether the session exists
      rcases (LockManager.lock_isLocked hlock).1 hlocked with rfl | hbefore
      · rw [hid] at hctx'
        cases hctx'
      · exact hbefore
  | some ctx₀ =>
      simp only [hid, SessionManager.update_lookup] at hctx' ⊢
      by_cases hs : s = id
      · subst hs
        rw [if_pos rfl, hid] at hctx'
        obtain rfl := Option.some.inj hctx'
        rw [SessionContext.transition_compositorConn] at hc
        obtain ⟨hknows, -⟩ := h s ctx₀ c hid hc
        refine ⟨hknows, fun _ => ?_⟩
        rw [hc]
        exact screenAfter_show hknows reason
      · rw [if_neg hs] at hctx'
        obtain ⟨hknows, hshown⟩ := h s ctx' c hctx' hc
        refine ⟨hknows, fun hlocked => ?_⟩
        rw [screenAfter_other (lockScreen_show_ne hs reason)]
        exact hshown (((LockManager.lock_isLocked hlock).1 hlocked).resolve_left hs)

/-- A registration from a known connection: whatever the session's screen showed before. -/
theorem registerCompositor_shows {screens screens' : SessionId → ConnId → Option LockScreen}
    {connId : ConnId} {id : SessionId} {ctx : SessionContext} (h : Shows screens d)
    (hsame : ∀ s c, s ≠ id → screens' s c = screens s c)
    (hctx : d.sessions.sessions.lookup id = some ctx) (hknown : d.registry.knows connId = true) :
    Shows (fun s c => screenAfter s c (screens' s c) (d.registerCompositor connId id).effects)
      (d.registerCompositor connId id).daemon := by
  have hframe : ∀ next s ctx' c,
      (d.sessions.update id fun ctx => { ctx with
          compositorConn := some connId : SessionContext }.transition next).sessions.lookup s
        = some ctx' → ctx'.compositorConn = some c →
      (s = id ∧ c = connId) ∨ (s ≠ id ∧ d.sessions.sessions.lookup s = some ctx') := by
    intro next s ctx' c hctx' hc
    rw [SessionManager.update_lookup] at hctx'
    split at hctx'
    · rename_i hs
      obtain ⟨ctx₀, -, rfl⟩ := Option.map_eq_some_iff.1 hctx'
      rw [SessionContext.transition_compositorConn] at hc
      exact Or.inl ⟨hs, (Option.some.inj hc).symm⟩
    · rename_i hs
      exact Or.inr ⟨hs, hctx'⟩
  unfold registerCompositor SessionManager.get
  simp only [hctx]
  split
  · intro s ctx' c hctx' hc
    -- the event goes to the connection that has just registered
    rcases hframe .locked s ctx' c hctx' hc with ⟨rfl, rfl⟩ | ⟨hs, hold⟩
    · exact ⟨hknown, fun _ => screenAfter_show hknown .manual⟩
    · obtain ⟨hknows, hshown⟩ := h s ctx' c hold hc
      refine ⟨hknows, fun hlocked => ?_⟩
      have hother : screenAfter s c (screens' s c)
          (d.registry.sendEventTo (some connId) (.showLockScreen id .manual)) = screens' s c :=
        screenAfter_other (lockScreen_show_ne hs .manual)
      refine hother.trans ?_
      rw [hsame s c hs]
      exact hshown hlocked
  · rename_i hunlocked
    intro s ctx' c hctx' hc
    rcases hframe .active s ctx' c hctx' hc with ⟨rfl, rfl⟩ | ⟨hs, hold⟩
    · exact ⟨hknown, fun hlocked => absurd hlocked hunlocked⟩
    · obtain ⟨hknows, hshown⟩ := h s ctx' c hold hc
      exact ⟨hknows, fun hlocked => (hsame s c hs).trans (hshown hlocked)⟩

/-- Every change but a registration keeps the agreement. -/
theorem Change.keepsShown (h : Change cause d effects d')
    (hcause : ∀ cmd id, cause = some cmd → cmd.request ≠ .registerCompositor id) :
    KeepsShown d effects d' := by
  cases h with
  | notice h => exact KeepsShown.of_same rfl rfl (fun _ h => h) fun _ _ _ => screenAfter_notice h
  | desk seats idle shouldExit =>
      exact KeepsShown.of_same rfl rfl (fun _ h => h) fun _ _ _ => rfl
  | configure settings authenticator uid =>
      exact KeepsShown.of_same rfl rfl (fun _ h => h) fun _ _ _ => rfl
  | disconnect conn => exact disconnect_keepsShown conn
  | restarting id =>
      exact KeepsShown.of_update id fun ctx => ctx.transition_compositorConn .starting
  | process id f hf =>
      refine KeepsShown.of_update id fun ctx => ?_
      rw [hf ctx]
  | erase id =>
      refine KeepsShown.of_frame (fun s ctx hctx => ?_) (fun _ h => h) (fun _ h => h)
        fun _ _ _ => rfl
      simp only [Table.lookup_erase_eq] at hctx
      split at hctx
      · cases hctx
      · exact Or.inr ⟨ctx, hctx, rfl⟩
  | registerCompositor hcmd hrequest hctx hpeer => exact absurd hrequest (hcause _ _ hcmd)
  | lock reason hlock => exact lock_keepsShown reason hlock
  | inhibit inhibitors => exact KeepsShown.of_same rfl rfl (fun _ h => h) fun _ _ _ => rfl
  | sweepLocks now =>
      refine KeepsShown.of_same rfl rfl (fun s hlocked => ?_) fun _ _ _ => rfl
      rwa [LockManager.sweepLockouts_isLocked] at hlocked
  | record sessionAuth lockoutExpiry =>
      exact KeepsShown.of_same rfl rfl (fun _ h => h) fun _ _ _ => rfl
  | promptTimers promptExpiry =>
      exact KeepsShown.of_same rfl rfl (fun _ h => h) fun _ _ _ => rfl
  | resolve outcome hp hsuccess =>
      exact KeepsShown.of_same rfl rfl (fun _ h => h) fun _ _ _ => screenAfter_response _ _ _

theorem Changes.keepsShown (h : Changes cause d effects d')
    (hcause : ∀ cmd id, cause = some cmd → cmd.request ≠ .registerCompositor id) :
    KeepsShown d effects d' :=
  keepsShown_seqClosed.chain h fun _ _ _ hchange => hchange.keepsShown hcause

/-! ## Suspending, exits and attempts that are heard -/

theorem hasCompositor_of_lookup {s : SessionId} {ctx : SessionContext} {c : ConnId}
    (hctx : d.sessions.sessions.lookup s = some ctx) (hc : ctx.compositorConn = some c) :
    d.hasCompositor s = true := by
  simp [hasCompositor, hctx, hc]

theorem SuspendHeard.keepsShown (h : SuspendHeard d) (env : Env) :
    KeepsShown d (d.idleSuspend env).2 (d.idleSuspend env).1 := by
  intro screens hshows s ctx c hctx hc
  obtain ⟨hknows, hshown⟩ := hshows s ctx c hctx hc
  refine ⟨hknows, fun hlocked => ?_⟩
  refine (screenAfter_notice (idleSuspend_isNotice d env)).trans (hshown ?_)
  rcases (suspend_isLocked _ _ _ _ _ _ s).1 hlocked with hbefore | ⟨hblocks, hlocks, -⟩
  · exact hbefore
  · rcases h with hblocked | hoff | hall
    · rw [hblocks] at hblocked
      cases hblocked
    · rw [hlocks] at hoff
      cases hoff
    · exact hall s (hasCompositor_of_lookup hctx hc)

theorem lose_keepsShown {key : SessionId} {found : SessionContext}
    (hshared : ∀ s ctx c, found.compositorConn = some c →
      d.sessions.sessions.lookup s = some ctx → ctx.compositorConn = some c → s = key) :
    KeepsShown d [] (d.loseCompositor key found) := by
  intro screens h s ctx' c hctx' hc
  simp only [loseCompositor, SessionManager.update_lookup] at hctx'
  split at hctx'
  · obtain ⟨ctx, -, rfl⟩ := Option.map_eq_some_iff.1 hctx'
    cases hc
  · rename_i hs
    obtain ⟨hknows, hshown⟩ := h s ctx' c hctx' hc
    refine ⟨?_, hshown⟩
    unfold loseCompositor
    cases hconn : found.compositorConn with
    | none => exact hknows
    | some conn =>
        have hne : c ≠ conn := by
          rintro rfl
          exact hs (hshared s ctx' c hconn hctx' hc)
        simp only [ConnRegistry.knows_unregister, if_neg hne]
        exact hknows

theorem ExitHeard.keepsShown {child : ReapedChild} (h : ExitHeard d child) :
    KeepsShown d (d.handleCompositorExit child).2 (d.handleCompositorExit child).1 := by
  obtain hnone | ⟨key, found, hfound, hpid, hchanges⟩ := handleCompositorExit_cases (d := d) child
  · rw [hnone]
    exact keepsShown_seqClosed.refl d
  · have hlose := lose_keepsShown fun s ctx c hconn hctx hc =>
      h key found c hfound hpid hconn s ctx hctx hc
    exact keepsShown_seqClosed.silent hlose (hchanges.keepsShown (by simp))

/-- What an unlock attempt sends beside its outcome to the session's compositor. -/
theorem screenAfter_tells {s : SessionId} {c : ConnId} {screen : Option LockScreen}
    (calls : List AuthRequest) {k : SessionId} {event : Event}
    (h : ∀ c' queued, (Effect.send c' (.event event) queued).lockScreen s c = none) :
    screenAfter s c screen (d.authEffects env calls ++ d.tells k event) = screen := by
  rw [screenAfter_append, screenAfter_notice (isNotice_authEffects d env calls)]
  unfold tells
  split
  · exact screenAfter_other h
  · rfl

theorem UnlockHeard.keepsShown {k : SessionId} {userName password : String}
    (h : UnlockHeard d env k userName password) :
    KeepsShown d (d.unlock env k userName password).effects
      (d.unlock env k userName password).daemon := by
  intro screens hshows
  by_cases hsuccess : (d.unlockAttempt env k userName password).outcome = .success
  · rw [unlock_success hsuccess]
    intro s ctx' c hctx' hc
    have hold : ∃ ctx, d.sessions.sessions.lookup s = some ctx
        ∧ ctx.compositorConn = some c := by
      simp only [SessionManager.update_lookup] at hctx'
      split at hctx'
      · obtain ⟨ctx, hctx, rfl⟩ := Option.map_eq_some_iff.1 hctx'
        rw [SessionContext.transition_compositorConn] at hc
        exact ⟨ctx, hctx, hc⟩
      · exact ⟨ctx', hctx', hc⟩
    obtain ⟨ctx, hctx, hconn⟩ := hold
    obtain ⟨hknows, hshown⟩ := hshows s ctx c hctx hconn
    refine ⟨hknows, fun hlocked => ?_⟩
    have hlocked : (d.unlockAttempt env k userName password).manager.isLocked s = true := hlocked
    -- the session whose screen is hidden is not locked any more
    have hs : s ≠ k := by
      rintro rfl
      rw [unlockAttempt_unlocks hsuccess] at hlocked
      cases hlocked
    rw [unlockAttempt_isLocked_ne hs] at hlocked
    exact (screenAfter_tells _ (lockScreen_hide_ne hs)).trans (hshown hlocked)
  · rw [unlock_failure hsuccess]
    intro s ctx c hctx hc
    obtain ⟨hknows, hshown⟩ := hshows s ctx c hctx hc
    refine ⟨hknows, fun hlocked => ?_⟩
    have hlocked : (d.unlockAttempt env k userName password).manager.isLocked s = true := hlocked
    refine (screenAfter_tells _ fun c' queued => by cases queued <;> rfl).trans (hshown ?_)
    by_cases hs : s = k
    · -- a session newly locked out would have to be told
      subst hs
      by_contra hbefore
      have hbefore : d.locks.isLocked s = false := by simpa using hbefore
      obtain ⟨hrejected, hlimit⟩ := unlockAttempt_locks hbefore hlocked
      rcases h (hasCompositor_of_lookup hctx hc) hbefore with haccepted | hroom
      · rw [hrejected] at haccepted
        cases haccepted
      · exact absurd hroom (Nat.not_lt.2 hlimit)
    · rwa [unlockAttempt_isLocked_ne hs] at hlocked

/-! ## One step -/

theorem Enters.keepsShown (h : Enters d d') : KeepsShown d [] d' := by
  cases h with
  | none => exact keepsShown_seqClosed.refl d
  | spent =>
      exact KeepsShown.of_frame (fun s ctx hctx => Or.inr ⟨ctx, hctx, rfl⟩) (fun _ h => h)
        (fun _ h => h) fun _ _ _ => rfl
  | entered ctx hid hstate hconn =>
      refine KeepsShown.of_frame (fun s ctx' hctx' => ?_) (fun _ h => h) (fun _ h => h)
        fun _ _ _ => rfl
      simp only [Table.lookup_insert_eq] at hctx'
      split at hctx'
      · obtain rfl := Option.some.inj hctx'
        exact Or.inl hconn
      · exact Or.inr ⟨ctx', hctx', rfl⟩

theorem onIdleTick_keepsShown (h : Heard d env .idleTick) :
    KeepsShown d (d.onIdleTick env).2 (d.onIdleTick env).1 := by
  have hbody : ∀ (d : Daemon) (change : String × IdleStage),
      (change.2 = .suspendRequested → SuspendHeard d) →
      KeepsShown d (idleChange env d change).2 (idleChange env d change).1 := by
    intro d change hsuspend
    by_cases hstage : change.2 = .suspendRequested
    · have hchange : idleChange env d change = d.idleSuspend env := by
        simp only [idleChange, hstage]
      rw [hchange]
      exact (hsuspend hstage).keepsShown env
    · exact (idleChange_changes hstage).keepsShown (by simp)
  have hdesk : Change none d [] _ := Change.desk d.seats
    (d.idle.tick env.now (IdlePolicy.from d.settings.idle)).1 d.shouldExit
  have hloop := keepsShown_seqClosed.loop_along (idleChange env) hbody _ _ h
  exact keepsShown_seqClosed.trans (keepsShown_seqClosed.silent (hdesk.keepsShown (by simp)) hloop)
    ((sweep_changes env.now).keepsShown (by simp))

/-- Every heard step but a registration keeps the agreement. -/
theorem Heard.keepsShown {event : DaemonEvent} (h : Heard d env event)
    (hne : ∀ cmd id, event = .ipc (.command cmd) → cmd.request ≠ .registerCompositor id) :
    KeepsShown d (d.handle env event).2 (d.handle env event).1 := by
  have hreply : ∀ {d d' : Daemon} {effects : List Effect} (conn : ConnId) (response : Response),
      KeepsShown d effects d' →
      KeepsShown d (effects ++ [d'.registry.sendResponse conn response]) d' := by
    intro d d' effects conn response hkeeps
    exact keepsShown_seqClosed.trans hkeeps
      (KeepsShown.of_same rfl rfl (fun _ h => h) fun _ _ _ => screenAfter_response _ _ _)
  have hd := handled d env event
  generalize (d.handle env event).2 = effects at hd ⊢
  generalize (d.handle env event).1 = d' at hd ⊢
  cases hd with
  | connected connId peer outbox =>
      refine KeepsShown.of_frame (fun s ctx hctx => Or.inr ⟨ctx, hctx, rfl⟩) (fun c hc => ?_)
        (fun _ h => h) fun _ _ _ => rfl
      simp [ConnRegistry.knows_register, hc]
  | disconnected connId => exact (disconnected_changes connId).keepsShown (by simp)
  | rejected cmd e hauth =>
      have hrejected := hreply cmd.connId (.error e.display) (keepsShown_seqClosed.refl d)
      exact hrejected
  | replied cmd response hauth henters hchanges hsuccess =>
      refine hreply _ _ (keepsShown_seqClosed.silent henters.keepsShown ?_)
      refine hchanges.keepsShown fun cmd' id hcmd => ?_
      obtain rfl := Option.some.inj hcmd
      exact hne cmd id rfl
  | unlock cmd k userName password hauth hrequest =>
      have hheard : UnlockHeard d env k userName password := by
        simpa only [Heard, hrequest] using h
      have hkeeps := hreply cmd.connId
        (.authResult (d.unlockAttempt env k userName password).outcome) hheard.keepsShown
      rwa [unlock_registry] at hkeeps
  | begun cmd hauth hrequest hctx hconn hbegin =>
      refine KeepsShown.of_same rfl rfl (fun _ h => h) fun _ _ _ => screenAfter_notice ?_
      intro e he
      obtain rfl := List.mem_singleton.1 he
      rfl
  | suspended cmd response hrequest hresponse =>
      have hheard : SuspendHeard d := by
        simpa only [Heard, hrequest] using h
      exact hreply _ _ (hheard.keepsShown env)
  | ticked => exact onIdleTick_keepsShown h
  | reaped children =>
      exact keepsShown_seqClosed.loop_along handleCompositorExit
        (fun _ _ hexit => hexit.keepsShown) children d h
  | signalled event hchanges => exact hchanges.keepsShown (by simp)

/-- A registration restarts the record of what the session's screen shows. -/
theorem registers_iff {s : SessionId} {c : ConnId} {event : DaemonEvent} :
    registers s c d (.handled env event effects) = true ↔
      ∃ cmd ctx, event = .ipc (.command cmd) ∧ cmd.request = .registerCompositor s
        ∧ cmd.connId = c
        ∧ authorize env.userByName cmd.peer cmd.connId cmd.request d.sessions d.elevation = .ok ()
        ∧ d.sessions.sessions.lookup s = some ctx := by
  constructor
  · intro h
    unfold registers at h
    split at h
    · rename_i cmd _ heq
      cases heq
      simp only [Bool.and_eq_true, decide_eq_true_eq] at h
      obtain ⟨⟨⟨hrequest, hconn⟩, hauth⟩, hknown⟩ := h
      cases hctx : d.sessions.sessions.lookup s with
      | none => simp [SessionManager.get, hctx, Except.isOk, Except.toBool] at hknown
      | some ctx =>
          refine ⟨cmd, ctx, rfl, hrequest, hconn, ?_, rfl⟩
          cases ha : authorize env.userByName cmd.peer cmd.connId cmd.request d.sessions
            d.elevation with
          | error e => simp [ha, Except.isOk, Except.toBool] at hauth
          | ok u => rfl
    · cases h
  · rintro ⟨cmd, ctx, rfl, hrequest, hconn, hauth, hctx⟩
    simp only [registers, hauth, SessionManager.get, hctx]
    simp [hrequest, hconn, Except.isOk, Except.toBool]

/-- A registration that is not authorized, or for an unknown session, changes nothing. -/
theorem registration_refused {cmd : ManagerCommand} {id : SessionId}
    (hrequest : cmd.request = .registerCompositor id)
    (h : ∀ ctx,
      authorize env.userByName cmd.peer cmd.connId cmd.request d.sessions d.elevation = .ok () →
      d.sessions.sessions.lookup id ≠ some ctx) :
    ∃ response, d.handle env (.ipc (.command cmd))
      = (d, [d.registry.sendResponse cmd.connId response]) := by
  cases hauth : authorize env.userByName cmd.peer cmd.connId cmd.request d.sessions
    d.elevation with
  | error e => exact ⟨.error e.display, handle_rejected hauth⟩
  | ok u =>
      have hunknown : d.sessions.sessions.lookup id = none := by
        by_contra hsome
        obtain ⟨ctx, hctx⟩ := Option.ne_none_iff_exists'.1 hsome
        exact h ctx hauth hctx
      refine ⟨.error (SessionError.unknownSession id).display, ?_⟩
      refine (handle_authorized hauth).trans ?_
      simp only [hrequest, dispatch, registerCompositor, SessionManager.get, hunknown]
      rfl

theorem handle_shows {screens : SessionId → ConnId → Option LockScreen} {event : DaemonEvent}
    (hshows : Shows screens d) (h : Heard d env event) :
    Shows (fun s c => screenAfter s c
      (if registers s c d (.handled env event effects) then none else screens s c)
      (d.handle env event).2) (d.handle env event).1 := by
  by_cases hregisters : ∃ s c, registers s c d (.handled env event effects) = true
  · obtain ⟨s₀, c₀, hregistered⟩ := hregisters
    obtain ⟨cmd, ctx, rfl, hrequest, rfl, hauth, hctx⟩ := registers_iff.1 hregistered
    have hhandle : d.handle env (.ipc (.command cmd)) = _ := handle_authorized hauth
    rw [hrequest] at hhandle
    have hknows : d.registry.knows cmd.connId = true := by
      simpa only [Heard, hrequest] using h
    have hother : ∀ s c, s ≠ s₀ →
        (if registers s c d (.handled env (.ipc (.command cmd)) effects) then none
          else screens s c) = screens s c := by
      intro s c hs
      refine if_neg fun hagain => hs ?_
      obtain ⟨cmd', _, heq, hrequest', -⟩ := registers_iff.1 hagain
      cases heq
      exact Request.registerCompositor.inj (hrequest'.symm.trans hrequest)
    have hregister := registerCompositor_shows hshows hother hctx hknows
    rw [hhandle]
    intro s ctx' c hctx' hc
    obtain ⟨hknown, hshown⟩ := hregister s ctx' c hctx' hc
    refine ⟨hknown, fun hlocked => ?_⟩
    simp only [screenAfter_append]
    refine Eq.trans (screenAfter_of_none fun e he => ?_) (hshown hlocked)
    simp only [Option.mem_toList, Option.map_eq_some_iff] at he
    obtain ⟨response, -, rfl⟩ := he
    rfl
  · have hnone : ∀ s c, registers s c d (.handled env event effects) = false := by
      intro s c
      by_contra hyes
      exact hregisters ⟨s, c, by simpa using hyes⟩
    simp only [hnone, Bool.false_eq_true, if_false]
    by_cases hrequested : ∃ cmd id, event = .ipc (.command cmd)
        ∧ cmd.request = .registerCompositor id
    · obtain ⟨cmd, id, rfl, hrequest⟩ := hrequested
      have hrefused : ∀ ctx,
          authorize env.userByName cmd.peer cmd.connId cmd.request d.sessions d.elevation
            = .ok () → d.sessions.sessions.lookup id ≠ some ctx := by
        intro ctx hauth hctx
        exact hregisters ⟨id, cmd.connId,
          registers_iff.2 ⟨cmd, ctx, rfl, hrequest, rfl, hauth, hctx⟩⟩
      obtain ⟨response, heq⟩ := registration_refused hrequest hrefused
      rw [heq]
      exact KeepsShown.of_same rfl rfl (fun _ h => h)
        (fun _ _ _ => screenAfter_response _ _ _) screens hshows
    · refine h.keepsShown (fun cmd id hevent hrequest => ?_) screens hshows
      exact hrequested ⟨cmd, id, hevent, hrequest⟩

/-! ## Whole runs -/

theorem shows_of_heard {d₀ : Daemon} {tr : List (Transition Daemon DaemonLabel)}
    (hinit : Initial d₀) (hrun : Run Step d₀ tr d) (hheard : ∀ x ∈ tr, HeardStep x) :
    Shows (fun s c => screen s c tr) d := by
  refine hrun.history (P := fun tr d => (∀ x ∈ tr, HeardStep x) →
    Shows (fun s c => screen s c tr) d) ?_ ?_ hheard
  · intro _ s ctx c hctx hc
    obtain ⟨_, _, _, _, _, _, rfl⟩ := hinit.eq
    simp at hctx
  · intro tr d l d' _ hI hstep hheard
    have hshows := hI fun x hx => hheard x (List.mem_append_left _ hx)
    have hlast := hheard _ (List.mem_append_right _ (List.mem_singleton.2 rfl))
    simp only [screen_snoc]
    cases hstep with
    | handled env event => exact handle_shows hshows hlast
    | rehash hr =>
        intro s ctx c hctx hc
        rw [hr.sessions.sessions.lookup_eq] at hctx
        obtain ⟨hknows, hshown⟩ := hshows s ctx c hctx hc
        refine ⟨?_, fun hlocked => hshown ?_⟩
        · rw [hr.registry.knows_eq]
          exact hknows
        · rwa [hr.locks.isLocked_eq] at hlocked

/-- **What the screen shows agrees with the lock**, along every run of heard steps: whenever a
    session with a compositor is locked, the last lock-screen event its compositor was sent since
    it registered is `ShowLockScreen`. -/
theorem screen_shows_lock {d₀ : Daemon} {tr : List (Transition Daemon DaemonLabel)}
    (hinit : Initial d₀) (hrun : Run Step d₀ tr d) (hheard : ∀ x ∈ tr, HeardStep x)
    {s : SessionId} {ctx : SessionContext} {c : ConnId}
    (hctx : d.sessions.sessions.lookup s = some ctx) (hc : ctx.compositorConn = some c)
    (hlocked : d.locks.isLocked s = true) : screen s c tr = some .shown :=
  (shows_of_heard hinit hrun hheard s ctx c hctx hc).2 hlocked

section Example

/-- Alice's session has a compositor on connection 7, and then comes one more request. -/
private def registeredThen (request : Request) : List (Env × DaemonEvent) :=
  [demoConnect 7 1000,
    .ipc (.command (demoCommand 7 1000 (.createSession "alice" none none))),
    .ipc (.command (demoCommand 7 1000 (.registerCompositor 1))),
    .ipc (.command (demoCommand 7 1000 request))].map fun event => (demoEnv 0, event)

private def trace (events : List (Env × DaemonEvent)) : List (Transition Daemon DaemonLabel) :=
  (System.transitions System.demo events).map System.toDaemon

private theorem trace_run (events : List (Env × DaemonEvent))
    (h : System.Admitted System.demo.conns events) :
    Run Step demo (trace events) (System.demo.replay events).daemon :=
  System.run_daemon (System.run_replay h)

/-- A lock she asks for is shown. -/
theorem manual_lock_shown :
    screen 1 7 (trace (registeredThen (.lockSession 1))) = some .shown := by
  have hrun := trace_run (registeredThen (.lockSession 1)) (by decide)
  refine screen_shows_lock demo_initial hrun ?_ (s := 1) rfl rfl (by decide)
  exact List.forall_mem_cons.2 ⟨trivial, List.forall_mem_cons.2 ⟨trivial,
    List.forall_mem_cons.2 ⟨rfl, List.forall_mem_cons.2 ⟨trivial, List.forall_mem_nil _⟩⟩⟩⟩

/-- A suspend locks her session, and its compositor is not told. -/
theorem suspend_lock_not_shown :
    ¬ ∀ (d₀ d : Daemon) (tr : List (Transition Daemon DaemonLabel)), Initial d₀ →
      Run Step d₀ tr d → ∀ s ctx c, d.sessions.sessions.lookup s = some ctx →
      ctx.compositorConn = some c → d.locks.isLocked s = true → screen s c tr = some .shown := by
  intro hclaim
  have hrun := trace_run (registeredThen .suspend) (by decide)
  have hnone : screen 1 7 (trace (registeredThen .suspend)) = none := by decide
  have hshown := hclaim _ _ _ demo_initial hrun 1 _ 7 rfl rfl (by decide)
  rw [hnone] at hshown
  cases hshown

end Example

end Daemon

end MitosSession
