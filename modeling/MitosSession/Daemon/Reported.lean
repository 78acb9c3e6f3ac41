import MitosSession.Daemon.Tick

set_option autoImplicit false

/-! # What is reported as locked, and what is

`session_info` takes the `locked` flag it reports from the `SessionState`, while the lock manager
decides. `lock_session`, the idle lock, an unlock and a registration write both; `power::suspend`,
a lockout and a crash of the compositor write one of them. `Reporting` is the condition that a step
leaves the two in step, and it is exact: along every run the flag is the truth in every state,
if and only if every step meets it (`reported_truthful_iff`). -/

namespace MitosSession

/-- From every state a kept session can be in, these three are reached. -/
theorem SessionContext.transition_of_kept {ctx : SessionContext} {next : SessionState}
    (hclosing : ctx.state ≠ .closing) (hclosed : ctx.state ≠ .closed)
    (hnext : next = .starting ∨ next = .active ∨ next = .locked) :
    (ctx.transition next).state = next := by
  unfold SessionContext.transition SessionState.transition
  rcases hnext with rfl | rfl | rfl <;>
    cases hstate : ctx.state <;> simp_all [SessionState.canTransitionTo]

namespace Daemon

variable {d d' : Daemon} {env : Env} {effects : List Effect} {s : SessionId}

/-! ## What the clients are told -/

/-- Every session info sent in answer to `ListSessions` or `SessionStatus` tells whether the
    session is locked. -/
structure Truthful (d : Daemon) : Prop where
  listed : ∀ env connId infos,
    (d.dispatch env connId .listSessions).response = some (.sessions infos) →
      ∀ info ∈ infos, info.locked = d.locks.isLocked info.id
  status : ∀ env connId s info,
    (d.dispatch env connId (.sessionStatus s)).response = some (.session info) →
      info.locked = d.locks.isLocked s

/-- The state of every session there is goes with its lock. -/
def InStep (d : Daemon) : Prop :=
  ∀ s state, d.stateOf s = some state → (state = .locked ↔ d.locks.isLocked s = true)

theorem sessionInfo_locked (ctx : SessionContext) (b : Bool) :
    (sessionInfo ctx).locked = b ↔ (ctx.state = .locked ↔ b = true) := by
  cases hstate : ctx.state <;> cases b <;> simp [sessionInfo, hstate, SessionState.isLocked]

theorem truthful_iff_inStep (hid : ∀ s ctx, d.sessions.sessions.lookup s = some ctx → ctx.id = s) :
    Truthful d ↔ InStep d := by
  constructor
  · intro h s state hstate
    obtain ⟨ctx, hctx, rfl⟩ := Option.map_eq_some_iff.1 hstate
    refine (sessionInfo_locked ctx _).1 (h.status (demoEnv 0) 0 s (sessionInfo ctx) ?_)
    simp only [dispatch, SessionManager.get, hctx]
  · intro h
    have htold : ∀ s ctx, d.sessions.sessions.lookup s = some ctx →
        (sessionInfo ctx).locked = d.locks.isLocked s := by
      intro s ctx hctx
      exact (sessionInfo_locked ctx _).2 (h s ctx.state (by simp [stateOf, hctx]))
    refine ⟨fun env connId infos hresponse info hmem => ?_, fun env connId s info hresponse => ?_⟩
    · simp only [dispatch, Option.some.injEq, Response.sessions.injEq] at hresponse
      subst hresponse
      obtain ⟨ctx, hlisted, rfl⟩ := List.mem_map.1 hmem
      obtain ⟨s, hctx⟩ := Table.mem_values.1 hlisted
      have hs : (sessionInfo ctx).id = s := hid s ctx hctx
      rw [hs]
      exact htold s ctx hctx
    · simp only [dispatch, SessionManager.get] at hresponse
      cases hctx : d.sessions.sessions.lookup s with
      | none => simp [hctx] at hresponse
      | some ctx =>
          simp only [hctx, Option.some.injEq, Response.session.injEq] at hresponse
          subst hresponse
          exact htold s ctx hctx

/-! ## Records that are kept -/

/-- Every record is stored under its id, and none is of a session that is closing. -/
def Kept (d : Daemon) : Prop :=
  ∀ s ctx, d.sessions.sessions.lookup s = some ctx →
    ctx.id = s ∧ ctx.state ≠ .closing ∧ ctx.state ≠ .closed

theorem Reachable.kept (h : Reachable d) : Kept d :=
  fun _ _ hctx => ⟨h.ctx_id hctx, h.displayed hctx⟩

theorem Evolves.kept {cause : Option ManagerCommand} (h : Evolves cause d effects d')
    (hkept : Kept d) : Kept d' := by
  intro s ctx' hctx'
  obtain ⟨ctx, hctx, hevolved⟩ := h.2 s ctx' hctx'
  obtain ⟨hid, hopen⟩ := hkept s ctx hctx
  refine ⟨(congrArg Session.id hevolved.session).trans hid, ?_⟩
  rcases hevolved.state with hs | hs | hs | hs
  · rw [hs]
    exact hopen
  all_goals simp [hs]

/-! ## States after an update -/

theorem update_stateOf {k : SessionId} {f : SessionContext → SessionContext}
    (h : d'.sessions = d.sessions.update k f) (s : SessionId) :
    d'.stateOf s
      = if s = k then (d.sessions.sessions.lookup s).map fun ctx => (f ctx).state
        else d.stateOf s := by
  simp only [stateOf, h, SessionManager.update_lookup]
  split
  · rw [Option.map_map]
    rfl
  · rfl

theorem update_stateOf_same {k : SessionId} {f : SessionContext → SessionContext}
    (h : d'.sessions = d.sessions.update k f) (s : SessionId)
    (hf : ∀ ctx, (f ctx).state = ctx.state := by exact fun _ => rfl) :
    d'.stateOf s = d.stateOf s := by
  rw [update_stateOf h]
  split
  · exact congrArg (fun g => (d.sessions.sessions.lookup s).map g) (funext hf)
  · rfl

/-- A transition of a session that is kept. -/
theorem update_stateOf_transition (hkept : Kept d) {k : SessionId} {next : SessionState}
    {f : SessionContext → SessionContext}
    (h : d'.sessions = d.sessions.update k fun ctx => (f ctx).transition next)
    (hf : ∀ ctx, (f ctx).state = ctx.state)
    (hnext : next = .starting ∨ next = .active ∨ next = .locked) (s : SessionId) :
    d'.stateOf s = if s = k ∧ d.stateOf s ≠ none then some next else d.stateOf s := by
  rw [update_stateOf h]
  by_cases hs : s = k
  · subst hs
    simp only [true_and, if_true]
    unfold stateOf
    cases hctx : d.sessions.sessions.lookup s with
    | none => rfl
    | some ctx =>
        obtain ⟨-, hclosing, hclosed⟩ := hkept s ctx hctx
        simp only [Option.map_some, ne_eq, reduceCtorEq, not_false_eq_true, if_true,
          Option.some.injEq]
        refine SessionContext.transition_of_kept ?_ ?_ hnext
        · rw [hf ctx]
          exact hclosing
        · rw [hf ctx]
          exact hclosed
  · simp [hs]

/-- Sessions may go, the others keep their state and their lock. -/
theorem InStep.of_fewer (h : InStep d)
    (hstate : ∀ s, d'.stateOf s = none ∨ d'.stateOf s = d.stateOf s)
    (hlocks : ∀ s, d'.locks.isLocked s = d.locks.isLocked s) : InStep d' := by
  intro s state hs
  rw [hlocks]
  rcases hstate s with hnone | hsame
  · rw [hnone] at hs
    cases hs
  · exact h s state (hsame ▸ hs)

/-! ## Handlers that write both -/

/-- A lock engaged through `lock_session` moves the session to `Locked`. -/
theorem showLock_stateOf (hkept : Kept d) (k : SessionId) (reason : LockReason) (s : SessionId) :
    (d.showLock k reason).1.stateOf s
      = if s = k ∧ d.stateOf s ≠ none then some .locked else d.stateOf s := by
  unfold showLock SessionManager.get
  cases hctx : d.sessions.sessions.lookup k with
  | none =>
      have hnone : ¬ (s = k ∧ d.stateOf s ≠ none) := by
        rintro ⟨rfl, hs⟩
        exact hs (by simp [stateOf, hctx])
      rw [if_neg hnone]
  | some ctx =>
      exact update_stateOf_transition hkept (f := fun ctx => ctx) rfl (fun _ => rfl) (by simp) s

theorem lock_inStep (hkept : Kept d) (h : InStep d) {k : SessionId} {locks : LockManager}
    (reason : LockReason) (hlock : d.locks.lock k (LockPolicy.from d.settings.lock) = .ok locks) :
    InStep ({ d with locks }.showLock k reason).1 := by
  intro s state hs
  rw [showLock_stateOf (d := { d with locks }) hkept k reason s] at hs
  rw [showLock_locks, LockManager.lock_isLocked hlock]
  split at hs
  · rename_i hk
    obtain rfl := Option.some.inj hs
    simp [hk.1]
  · rename_i hk
    have hne : s ≠ k := by
      rintro rfl
      exact hk ⟨rfl, by rw [hs]; simp⟩
    simp only [hne, false_or]
    exact h s state hs

theorem lockSession_inStep (hkept : Kept d) (h : InStep d) (k : SessionId) (reason : LockReason) :
    InStep (d.lockSession env k reason).daemon := by
  rcases lockSession_cases d env k reason with ⟨text, heq⟩ | ⟨locks, hlock, heq⟩
  · rw [heq]
    exact h
  · rw [heq]
    exact lock_inStep hkept h reason hlock

/-- A registration brings the session up as the lock manager has it. -/
theorem registerCompositor_inStep (hkept : Kept d) (h : InStep d) (connId : ConnId)
    (k : SessionId) : InStep (d.registerCompositor connId k).daemon := by
  have hregister : ∀ next, next = .starting ∨ next = .active ∨ next = .locked →
      (next = .locked ↔ d.locks.isLocked k = true) →
      InStep { d with sessions := d.sessions.update k fun ctx =>
        { ctx with compositorConn := some connId : SessionContext }.transition next } := by
    intro next hnext hlocked s state hs
    rw [update_stateOf_transition hkept (f := fun ctx =>
      { ctx with compositorConn := some connId }) rfl (fun _ => rfl) hnext s] at hs
    split at hs
    · rename_i hk
      obtain rfl := Option.some.inj hs
      rw [hk.1]
      exact hlocked
    · exact h s state hs
  unfold registerCompositor
  split
  · exact h
  · dsimp only
    split
    · rename_i hlocked
      exact hregister .locked (by simp) (by simp [hlocked])
    · rename_i hopen
      exact hregister .active (by simp) (by simp [hopen])

/-! ## Unlock attempts -/

/-- A successful attempt unlocks the session in both places. -/
theorem unlock_success_inStep (hkept : Kept d) (h : InStep d) {k : SessionId}
    {userName password : String}
    (hsuccess : (d.unlockAttempt env k userName password).outcome = .success) :
    InStep (d.unlock env k userName password).daemon := by
  have hunlocked : (d.unlockAttempt env k userName password).manager.isLocked k = false :=
    unlockAttempt_unlocks hsuccess
  rw [unlock_success hsuccess]
  intro s state hs
  rw [update_stateOf_transition hkept (f := fun ctx => ctx) rfl (fun _ => rfl) (by simp) s] at hs
  by_cases hk : s = k
  · subst hk
    split at hs
    · obtain rfl := Option.some.inj hs
      simp [hunlocked]
    · rename_i hnone
      simp only [true_and, ne_eq, not_not] at hnone
      rw [hnone] at hs
      cases hs
  · rw [if_neg (fun hboth => hk hboth.1)] at hs
    simp only [unlockAttempt_isLocked_ne hk]
    exact h s state hs

/-- A failed one leaves the states alone, so it must not lock a session that was not locked. -/
theorem unlock_failure_inStep_iff (h : InStep d) {k : SessionId} {userName password : String}
    (hfailure : (d.unlockAttempt env k userName password).outcome ≠ .success) :
    InStep (d.unlock env k userName password).daemon ↔
      (d.stateOf k ≠ none → d.locks.isLocked k = false →
        ¬ LastAttempt d env k userName password) := by
  rw [unlock_failure hfailure]
  constructor
  · intro hstep hpresent hopen hlast
    obtain ⟨state, hstate⟩ := Option.ne_none_iff_exists'.1 hpresent
    have hnow := (hstep k state hstate).2 ((unlockAttempt_isLocked_iff hopen ..).2 hlast)
    rw [(h k state hstate).1 hnow] at hopen
    cases hopen
  · intro hlast s state hstate
    have hsame : (d.unlockAttempt env k userName password).manager.isLocked s
        = d.locks.isLocked s := by
      by_cases hk : s = k
      · subst hk
        cases hopen : d.locks.isLocked s with
        | true => exact unlockAttempt_keeps hopen fun _ => hfailure
        | false =>
            have hpresent : d.stateOf s ≠ none := by
              rw [show d.stateOf s = some state from hstate]
              simp
            have hno := hlast hpresent hopen
            rw [← unlockAttempt_isLocked_iff hopen userName password] at hno
            simpa using hno
      · exact unlockAttempt_isLocked_ne hk userName password
    have hgoal := h s state hstate
    rwa [← hsame] at hgoal

theorem unlock_inStep_iff (hkept : Kept d) (h : InStep d) (k : SessionId)
    (userName password : String) :
    InStep (d.unlock env k userName password).daemon ↔
      (d.stateOf k ≠ none → d.locks.isLocked k = false →
        ¬ LastAttempt d env k userName password) := by
  by_cases hsuccess : (d.unlockAttempt env k userName password).outcome = .success
  · refine iff_of_true (unlock_success_inStep hkept h hsuccess) fun _ _ hlast => ?_
    -- a last attempt is a rejected one
    have haccepted := ((d.unlockAttempt_success_iff env k userName password).1 hsuccess).2
    rw [hlast.1] at haccepted
    cases haccepted
  · exact unlock_failure_inStep_iff h hsuccess

/-! ## Suspending and the idle tick -/

/-- The sessions there are go with the roster. -/
theorem stateOf_ne_none_iff : d.stateOf s ≠ none ↔ d.standing.roster s ≠ none := by
  simp [stateOf, standing, SessionManager.roster]

/-- A locked session stays reported, an unlocked one is locked by `locks`, and shown as locked by
    `shows`: state and lock are in step exactly if the first never happens without the second. -/
theorem inStep_iff_of_engaged (h : InStep d) {locks shows : SessionId → Prop}
    (hlocks : ∀ s, d'.locks.isLocked s = true ↔ d.locks.isLocked s = true ∨ locks s)
    (hpresent : ∀ s, d'.stateOf s ≠ none ↔ d.stateOf s ≠ none)
    (hshows : ∀ s, d.stateOf s ≠ none →
      (d'.stateOf s = some .locked ↔ d.stateOf s = some .locked ∨ shows s))
    (hsub : ∀ s, shows s → locks s) :
    InStep d' ↔ ∀ s, d.stateOf s ≠ none → locks s → d.locks.isLocked s = true ∨ shows s := by
  have hbefore : ∀ s, d.stateOf s ≠ none →
      (d.stateOf s = some .locked ↔ d.locks.isLocked s = true) := by
    intro s hs
    obtain ⟨state, hstate⟩ := Option.ne_none_iff_exists'.1 hs
    rw [hstate, Option.some.injEq]
    exact h s state hstate
  constructor
  · intro hstep s hs hl
    obtain ⟨state, hstate⟩ := Option.ne_none_iff_exists'.1 ((hpresent s).2 hs)
    have hlocked := (hstep s state hstate).2 ((hlocks s).2 (Or.inr hl))
    rw [hlocked] at hstate
    exact ((hshows s hs).1 hstate).imp_left (hbefore s hs).1
  · intro hall s state hstate
    have hs : d.stateOf s ≠ none := (hpresent s).1 (by rw [hstate]; simp)
    have hnow : state = .locked ↔ d'.stateOf s = some .locked := by
      rw [hstate, Option.some.injEq]
    rw [hnow, hshows s hs, hbefore s hs, hlocks]
    constructor
    · exact Or.imp_right (hsub s)
    · rintro (hbefore | hl)
      · exact Or.inl hbefore
      · exact hall s hs hl

theorem idleSuspend_inStep_iff (h : InStep d) :
    InStep (d.idleSuspend env).1 ↔
      ∀ s, d.stateOf s ≠ none → d.standing.SuspendLocks s → d.locks.isLocked s = true := by
  have hlocks : ∀ s, (d.idleSuspend env).1.locks.isLocked s = true ↔
      d.locks.isLocked s = true ∨ d.standing.SuspendLocks s := fun s => idleSuspend_isLocked
  have hiff := inStep_iff_of_engaged h hlocks (fun _ => Iff.rfl)
    (fun s _ => (or_iff_left id).symm) (fun _ => False.elim)
  simpa using hiff

/-- A round of the tick shows a session as locked exactly if it is its idle lock. -/
theorem idleChange_stateOf (hkept : Kept d) (change : String × IdleStage) (s : SessionId) :
    (idleChange env d change).1.stateOf s = some .locked ↔
      d.stateOf s = some .locked ∨ (d.stateOf s ≠ none ∧ change.2 = .lockRequested
        ∧ d.standing.IdleLocks env.shadow change.1 s) := by
  obtain ⟨seatId, stage⟩ := change
  cases stage with
  | active => simp [idleChange]
  | dimmed => simp [idleChange]
  | suspendRequested =>
      simp only [idleChange, reduceCtorEq, false_and, and_false, or_false]
      rfl
  | lockRequested =>
      simp only [idleChange, true_and]
      rcases idleLock_cases d env seatId with ⟨hsame, hno⟩ | ⟨k, locks, hk, hlock, heq⟩
      · simp [hsame, hno]
      · rw [heq, showLock_stateOf (d := { d with locks }) hkept k .idle s, hk]
        have hstate : { d with locks }.stateOf s = d.stateOf s := rfl
        rw [hstate]
        by_cases hs : s = k ∧ d.stateOf s ≠ none
        · simp [hs.1, hs.1 ▸ hs.2]
        · rw [if_neg hs, and_comm]
          simp [hs]

theorem idleChange_kept (hkept : Kept d) (change : String × IdleStage) :
    Kept (idleChange env d change).1 := by
  by_cases hstage : change.2 = .suspendRequested
  · have hsuspend : idleChange env d change = d.idleSuspend env := by
      simp only [idleChange, hstage]
    rw [hsuspend]
    exact hkept
  · exact (idleChange_changes hstage).evolves.kept hkept

theorem idleChanges_stateOf (changes : List (String × IdleStage)) (hkept : Kept d) (s : SessionId) :
    (forEach (idleChange env) d changes).1.stateOf s = some .locked ↔
      d.stateOf s = some .locked ∨ (d.stateOf s ≠ none ∧ ∃ seatId,
        (seatId, .lockRequested) ∈ changes ∧ d.standing.IdleLocks env.shadow seatId s) := by
  induction changes generalizing d with
  | nil => simp
  | cons change rest ih =>
      have hrests : Rests d [] (idleChange env d change).1 := idleChange_rests change
      have hpresent : (idleChange env d change).1.stateOf s ≠ none ↔ d.stateOf s ≠ none := by
        rw [stateOf_ne_none_iff, stateOf_ne_none_iff, hrests]
      rw [forEach_cons, ih (idleChange_kept hkept change), hpresent, hrests,
        idleChange_stateOf hkept, or_assoc, ← and_or_left]
      refine or_congr_right (and_congr_right fun _ => ?_)
      obtain ⟨seatId, stage⟩ := change
      simp only [List.mem_cons, or_and_right, exists_or, Prod.mk.injEq]
      refine or_congr_left ⟨?_, ?_⟩
      · rintro ⟨rfl, hlocks⟩
        exact ⟨seatId, ⟨rfl, rfl⟩, hlocks⟩
      · rintro ⟨_, ⟨rfl, rfl⟩, hlocks⟩
        exact ⟨rfl, hlocks⟩

theorem onIdleTick_inStep_iff (hkept : Kept d) (h : InStep d) :
    InStep (d.onIdleTick env).1 ↔ ∀ s, d.stateOf s ≠ none →
      TickSuspends d env.now → d.standing.SuspendLocks s →
        d.locks.isLocked s = true ∨ IdleLocked d env s := by
  have hpresent : ∀ s, (d.onIdleTick env).1.stateOf s ≠ none ↔ d.stateOf s ≠ none := by
    intro s
    rw [stateOf_ne_none_iff, stateOf_ne_none_iff, onIdleTick_standing]
  have hshows : ∀ s, d.stateOf s ≠ none →
      ((d.onIdleTick env).1.stateOf s = some .locked ↔
        d.stateOf s = some .locked ∨ IdleLocked d env s) := by
    intro s hs
    refine (idleChanges_stateOf (d := { d with
      idle := (d.idle.tick env.now (IdlePolicy.from d.settings.idle)).1 }) _ hkept s).trans ?_
    exact or_congr_right (and_iff_right hs)
  refine (inStep_iff_of_engaged h (fun s => onIdleTick_isLocked) hpresent hshows ?_).trans ?_
  · rintro s ⟨seatId, hmem, hlocks⟩
    exact ⟨_, hmem, Or.inl ⟨rfl, hlocks⟩⟩
  · refine forall₂_congr fun s _ => ?_
    constructor
    · rintro hall ⟨seatId, hmem⟩ hlocks
      exact hall ⟨_, hmem, Or.inr ⟨rfl, hlocks⟩⟩
    · rintro hall ⟨⟨seatId, stage⟩, hmem, ⟨rfl, hlocks⟩ | ⟨rfl, hlocks⟩⟩
      · exact Or.inr ⟨seatId, hmem, hlocks⟩
      · exact hall ⟨seatId, hmem⟩ hlocks

/-! ## Compositors that exit -/

/-- The session whose compositor the child was. -/
def exited (self : Daemon) (child : ReapedChild) : Option SessionId :=
  (self.sessions.sessions.entries.find? fun e => e.2.compositorProcess = some child.pid).map
    Sigma.fst

theorem trySpawnCompositor_stateOf (spawned : Result Pid) (k s : SessionId) :
    (d.trySpawnCompositor spawned k).1.stateOf s = d.stateOf s := by
  unfold trySpawnCompositor
  split
  · rfl
  · split
    · exact update_stateOf_same rfl s
    · rfl

/-- A compositor that exits leaves its session `Starting`. -/
theorem handleCompositorExit_stateOf (hkept : Kept d) (child : ReapedChild) (s : SessionId) :
    (d.handleCompositorExit child).1.stateOf s
      = if d.exited child = some s then some .starting else d.stateOf s := by
  unfold handleCompositorExit exited
  split
  · rename_i hnone
    simp [hnone]
  · rename_i key found hfind
    have hfound : d.sessions.sessions.lookup key = some found :=
      Table.lookup_eq_some_iff.2 (List.mem_of_find?_eq_some hfind)
    have hid : found.id = key := (hkept key found hfound).1
    have hlost : Kept (d.loseCompositor key found) := by
      intro s ctx hctx
      simp only [loseCompositor, SessionManager.update_lookup] at hctx
      split at hctx
      · obtain ⟨ctx₀, hctx₀, rfl⟩ := Option.map_eq_some_iff.1 hctx
        exact hkept s ctx₀ hctx₀
      · exact hkept s ctx hctx
    have hsame : (d.loseCompositor key found).stateOf s = d.stateOf s :=
      update_stateOf_same rfl s
    have hstarting : stateOf { d.loseCompositor key found with
          sessions := (d.loseCompositor key found).sessions.update found.id
            (·.transition .starting) } s = _ :=
      update_stateOf_transition hlost (f := fun ctx => ctx) rfl (fun _ => rfl) (by simp) s
    have hgoal : (if s = found.id ∧ (d.loseCompositor key found).stateOf s ≠ none
        then some SessionState.starting else (d.loseCompositor key found).stateOf s)
        = if some key = some s then some .starting else d.stateOf s := by
      rw [hsame, hid]
      by_cases hs : s = key
      · subst hs
        simp [stateOf, hfound]
      · simp [hs, Ne.symm hs]
    rw [hfind]
    refine Eq.trans ?_ (hstarting.trans hgoal)
    dsimp only
    split
    · exact (trySpawnCompositor_stateOf ..).trans (update_stateOf_same rfl s)
    · split
      · exact update_stateOf_same rfl s
      · rfl
      · rfl

theorem handleCompositorExit_kept (hkept : Kept d) (child : ReapedChild) :
    Kept (d.handleCompositorExit child).1 := by
  have hacts : Acts d (d.reapChildren [child]).2 (d.reapChildren [child]).1 :=
    reapChildren_acts [child]
  have hevolves : Evolves none d _ _ := hacts.evolves
  exact hevolves.kept hkept

/-- A session brought down to `Starting` stays there while children are reaped. -/
theorem reapChildren_starting (children : List ReapedChild) (hkept : Kept d)
    (h : d.stateOf s = some .starting) :
    (d.reapChildren children).1.stateOf s = some .starting := by
  unfold reapChildren
  induction children generalizing d with
  | nil => exact h
  | cons child rest ih =>
      rw [forEach_cons]
      refine ih (handleCompositorExit_kept hkept child) ?_
      rw [handleCompositorExit_stateOf hkept, h, ite_self]

/-- No compositor of a locked session exits. -/
def ExitReported (d : Daemon) (child : ReapedChild) : Prop :=
  ∀ s, d.exited child = some s → d.locks.isLocked s = false

theorem reapChildren_inStep_iff (children : List ReapedChild) (hkept : Kept d) (h : InStep d) :
    InStep (d.reapChildren children).1 ↔ Along ExitReported handleCompositorExit d children := by
  unfold reapChildren
  induction children generalizing d with
  | nil => simp [Along, h]
  | cons child rest ih =>
      have hkept' := handleCompositorExit_kept hkept child
      rw [forEach_cons, Along]
      by_cases hexit : ExitReported d child
      · have hstep : InStep (d.handleCompositorExit child).1 := by
          intro s state hs
          rw [handleCompositorExit_stateOf hkept] at hs
          rw [handleCompositorExit_locks]
          split at hs
          · rename_i hexited
            obtain rfl := Option.some.inj hs
            simp [hexit s hexited]
          · exact h s state hs
        rw [ih hkept' hstep]
        exact (and_iff_right hexit).symm
      · refine iff_of_false (fun hstep => hexit fun s hexited => ?_) fun hboth => hexit hboth.1
        -- once `Starting`, the session stays so until the end of the loop
        have hstarting : (d.handleCompositorExit child).1.stateOf s = some .starting := by
          rw [handleCompositorExit_stateOf hkept, if_pos hexited]
        have hlast := hstep s _ (reapChildren_starting rest hkept' hstarting)
        have hlocks : (forEach handleCompositorExit (d.handleCompositorExit child).1 rest).1.locks
            = d.locks :=
          (reapChildren_locks rest _).trans (handleCompositorExit_locks child)
        rw [hlocks] at hlast
        simpa using hlast

/-! ## New sessions -/

/-- `create_session` gets past every check. -/
def Admits (d : Daemon) (env : Env) (userName : String) : Prop :=
  ∃ user, env.userByName userName = .ok user
    ∧ wrapU32 (d.sessions.sessions.countVal fun c => c.user.uid = user.uid)
      < d.settings.session.maxSessionsPerUser
    ∧ env.prepared user = .ok ()

/-- A new session is `Starting`; the others are left alone. -/
theorem createSession_stateOf (userName : String) (seatId sessionType : Option String)
    (h : Admits d env userName) (s : SessionId) :
    (d.createSession env userName seatId sessionType).daemon.stateOf s
      = if s = d.sessions.nextId then some .starting else d.stateOf s := by
  obtain ⟨user, huser, hroom, hprepared⟩ := h
  unfold createSession
  simp only [huser]
  generalize (if sessionType = some "x11" then SessionType.x11
    else if sessionType = some "tty" then SessionType.tty
    else (SessionPolicy.from d.settings.session).defaultSessionType) = kind
  simp only [SessionManager.createSession, MitosSession.begin, hprepared, ge_iff_le,
    Nat.not_le.2 hroom, if_false, bind, Except.bind, pure, Except.pure]
  split
  · rw [trySpawnCompositor_stateOf]
    simp only [stateOf, Table.lookup_insert_eq]
    split <;> rfl
  · simp only [stateOf, Table.lookup_insert_eq]
    split <;> rfl

theorem createSession_refused (userName : String) (seatId sessionType : Option String)
    (h : ¬ Admits d env userName) (s : SessionId) :
    (d.createSession env userName seatId sessionType).daemon.stateOf s = d.stateOf s := by
  rcases createSession_cases d env userName seatId sessionType with
    ⟨e, sessions, hspent, heq⟩ | ⟨user, ctx, kind, launched, response, huser, hroom, hbegin, -⟩
  · rw [heq]
    rcases hspent with rfl | rfl
    · rfl
    · rfl
  · refine absurd ⟨user, huser, hroom, ?_⟩ h
    unfold MitosSession.begin at hbegin
    cases hprepared : env.prepared user with
    | error e => simp [hprepared, bind, Except.bind] at hbegin
    | ok u => rfl

theorem createSession_inStep_iff (h : InStep d) (userName : String)
    (seatId sessionType : Option String) :
    InStep (d.createSession env userName seatId sessionType).daemon ↔
      (Admits d env userName → d.locks.isLocked d.sessions.nextId = false) := by
  by_cases hadmits : Admits d env userName
  · simp only [hadmits, forall_const]
    constructor
    · intro hstep
      have hnew := hstep d.sessions.nextId .starting (by
        rw [createSession_stateOf userName seatId sessionType hadmits, if_pos rfl])
      simpa [createSession_locks] using hnew
    · intro hopen s state hs
      rw [createSession_stateOf userName seatId sessionType hadmits] at hs
      rw [createSession_locks]
      split at hs
      · rename_i hnew
        obtain rfl := Option.some.inj hs
        simp [hnew, hopen]
      · exact h s state hs
  · refine iff_of_true (h.of_fewer (fun s => Or.inr ?_) fun s => ?_) fun hyes => absurd hyes hadmits
    · exact createSession_refused userName seatId sessionType hadmits s
    · rw [createSession_locks]

/-! ## One step -/

/-- What a step must not do for the flag to be the truth. -/
def Reporting (d : Daemon) (env : Env) : DaemonEvent → Prop
  | .ipc (.command cmd) =>
    authorize env.userByName cmd.peer cmd.connId cmd.request d.sessions d.elevation = .ok () →
      match cmd.request with
      | .createSession userName _ _ =>
        Admits d env userName → d.locks.isLocked d.sessions.nextId = false
      | .unlock s userName password =>
        d.stateOf s ≠ none → d.locks.isLocked s = false →
          ¬ LastAttempt d env s userName password
      | .suspend => SuspendFinds d fun s => d.locks.isLocked s = true
      | _ => True
  | .idleTick =>
    TickSuspends d env.now →
      SuspendFinds d fun s => d.locks.isLocked s = true ∨ IdleLocked d env s
  | .signal (.reapChildren children) => Along ExitReported handleCompositorExit d children
  | _ => True

/-- The same for the steps of a run. -/
def ReportingStep (x : Transition Daemon DaemonLabel) : Prop :=
  match x.label with
  | .handled env event _ => Reporting x.pre env event
  | .rehash => True

theorem Kept.suspendFinds_iff (hkept : Kept d) {P : SessionId → Prop} :
    SuspendFinds d P ↔ ∀ s, d.stateOf s ≠ none → d.standing.SuspendLocks s → P s := by
  rw [Daemon.suspendFinds_iff fun s ctx hctx => (hkept s ctx hctx).1]
  refine forall_congr' fun s => ?_
  rw [stateOf_ne_none_iff, Option.ne_none_iff_exists']
  exact ⟨fun h ⟨session, hs⟩ => h session hs, fun h session hs => h ⟨session, hs⟩⟩

theorem dispatch_inStep_iff (hkept : Kept d) (h : InStep d) {cmd : ManagerCommand}
    (hauth : authorize env.userByName cmd.peer cmd.connId cmd.request d.sessions d.elevation
      = .ok ()) :
    InStep (d.dispatch env cmd.connId cmd.request).daemon ↔
      Reporting d env (.ipc (.command cmd)) := by
  have hfewer : ∀ {d' : Daemon},
      (∀ s, d'.sessions.sessions.lookup s = none
        ∨ d'.sessions.sessions.lookup s = d.sessions.sessions.lookup s) →
      (∀ s, d'.locks.isLocked s = d.locks.isLocked s) → (InStep d' ↔ True) := by
    intro d' hsessions hlocks
    refine iff_true_intro (h.of_fewer (fun s => ?_) hlocks)
    unfold stateOf
    rcases hsessions s with hnone | hsame
    · simp [hnone]
    · simp [hsame]
  simp only [Reporting, hauth, forall_const]
  cases hrequest : cmd.request with
  | createSession userName seatId sessionType =>
      exact createSession_inStep_iff h userName seatId sessionType
  | terminateSession k =>
      simp only [dispatch]
      rcases terminateSession_cases d k with ⟨e, -, heq⟩ | ⟨ctx, -, heq⟩
      · rw [heq]
        exact hfewer (fun _ => Or.inr rfl) fun _ => rfl
      · rw [heq]
        refine hfewer (fun s => ?_) fun _ => rfl
        simp only [Table.lookup_erase_eq]
        split
        · exact Or.inl rfl
        · exact Or.inr rfl
  | registerCompositor k => exact iff_true_intro (registerCompositor_inStep hkept h cmd.connId k)
  | lockSession k => exact iff_true_intro (lockSession_inStep hkept h k .manual)
  | unlock k userName password => exact unlock_inStep_iff hkept h k userName password
  | inhibit what who why mode => exact hfewer (fun _ => Or.inr rfl) fun _ => rfl
  | releaseInhibit inhibitId =>
      refine hfewer (fun s => Or.inr ?_) fun s => releaseInhibit_isLocked cmd.connId inhibitId
      simp only [dispatch]
      split <;> rfl
  | suspend => exact (idleSuspend_inStep_iff h).trans hkept.suspendFinds_iff.symm
  | reboot =>
      refine hfewer (fun s => ?_) fun _ => rfl
      simp only [dispatch, MitosSession.reboot]
      split
      · exact Or.inr rfl
      · exact d.sessions.terminateAll_lookup s
  | powerOff =>
      refine hfewer (fun s => ?_) fun _ => rfl
      simp only [dispatch, MitosSession.poweroff]
      split
      · exact Or.inr rfl
      · exact d.sessions.terminateAll_lookup s
  | _ =>
      refine hfewer (fun s => Or.inr ?_) fun s => ?_
      · rw [dispatch_sessions cmd.connId rfl]
      · rw [dispatch_locks cmd.connId rfl]

/-- A step from a daemon that reports the truth ends in one exactly if it is a reporting step. -/
theorem handle_inStep_iff (hkept : Kept d) (h : InStep d) (event : DaemonEvent) :
    InStep (d.handle env event).1 ↔ Reporting d env event := by
  match event with
  | .ipc (.connected connId peer outbox) => exact iff_true_intro h
  | .ipc (.disconnected connId) =>
      refine iff_true_intro (h.of_fewer (fun s => Or.inr ?_) fun _ => rfl)
      simp only [handle, handleIpc, disconnected, stateOf, Table.lookup_mapVal, Option.map_map]
      congr 1
      funext ctx
      simp only [Function.comp_apply]
      split <;> rfl
  | .ipc (.command cmd) =>
      cases hauth : authorize env.userByName cmd.peer cmd.connId cmd.request d.sessions
        d.elevation with
      | error e =>
          rw [handle_rejected hauth]
          simp only [hauth, Reporting, reduceCtorEq, false_implies, iff_true]
          exact h
      | ok u =>
          rw [handle_authorized hauth]
          exact dispatch_inStep_iff hkept h hauth
  | .idleTick =>
      refine (onIdleTick_inStep_iff hkept h).trans ?_
      simp only [Reporting, hkept.suspendFinds_iff]
      exact ⟨fun hall htick s hs => hall s hs htick, fun hall s hs htick => hall htick s hs⟩
  | .signal .terminate =>
      refine iff_true_intro (h.of_fewer (fun s => ?_) fun _ => rfl)
      simp only [handle, onSignal, stateOf]
      rcases d.sessions.terminateAll_lookup s with hnone | hsame
      · simp [hnone]
      · simp [hsame]
  | .signal .reloadConfig =>
      refine iff_true_intro (h.of_fewer (fun s => Or.inr ?_) fun s => ?_) <;>
      · simp only [handle, onSignal, reloadConfig]
        split <;> rfl
  | .signal (.reapChildren children) => exact reapChildren_inStep_iff children hkept h

/-! ## Whole runs -/

/-- **When the reported lock status is the truth.** Along every run, every state reached reports
    the truth to `ListSessions` and `SessionStatus`, exactly if every step is a reporting one: no
    suspend that goes through locks a session that was not locked (unless the same tick also locks
    it as idle), no `Unlock` attempt locks out a session that was not locked, no compositor of a
    locked session exits, and no session is created under an id that is locked. -/
theorem reported_truthful_iff {d₀ : Daemon} {tr : List (Transition Daemon DaemonLabel)}
    (hinit : Initial d₀) (hrun : Run Step d₀ tr d) :
    (∀ x ∈ tr, Truthful x.post) ↔ ∀ x ∈ tr, ReportingStep x := by
  have htruthful : ∀ {d : Daemon}, Reachable d → (Truthful d ↔ InStep d) :=
    fun hreach => truthful_iff_inStep fun s ctx hctx => hreach.ctx_id hctx
  have hpost : ∀ x ∈ tr, Reachable x.post := by
    intro x hx
    obtain ⟨⟨tr', hpre⟩, hstep⟩ := hrun.of_mem hx
    exact ⟨d₀, _, hinit, hpre.snoc hstep⟩
  rw [forall₂_congr fun x hx => htruthful (hpost x hx)]
  refine hrun.forall_post_iff (I := InStep) ?_ ?_
  · intro s state hs
    obtain ⟨_, _, _, _, _, _, rfl⟩ := hinit.eq
    simp [stateOf] at hs
  · intro tr' d l d' hrun' hI hstep
    have hreach : Reachable d := ⟨d₀, tr', hinit, hrun'⟩
    cases hstep with
    | handled env event => exact handle_inStep_iff hreach.kept hI event
    | rehash hr =>
        refine iff_true_intro (hI.of_fewer (fun s => Or.inr (hr.stateOf_eq s)) fun s => ?_)
        exact hr.locks.isLocked_eq s

section Example

/-- A lock she asks for is reported. -/
theorem manual_lock_reported :
    (System.demo.replay (demoThen [(demoEnv 0, .ipc (.command (demoCommand 7 1000
        (.lockSession 1))))])).daemon.locks.isLocked 1 = true
      ∧ ∀ x ∈ demoTrace (demoThen [(demoEnv 0, .ipc (.command (demoCommand 7 1000
        (.lockSession 1))))]), Truthful x.post := by
  refine ⟨by decide, (reported_truthful_iff demo_initial (demoTrace_run (by decide))).2 ?_⟩
  exact List.forall_mem_cons.2 ⟨trivial, List.forall_mem_cons.2 ⟨fun _ _ => rfl,
    List.forall_mem_cons.2 ⟨fun _ => trivial, List.forall_mem_cons.2 ⟨fun _ => trivial,
      List.forall_mem_nil _⟩⟩⟩⟩

/-- A suspend locks Alice's session, and its status says that it is not locked. -/
theorem suspend_lock_not_reported : ¬ ∀ d, Reachable d → Truthful d := by
  intro hclaim
  have htruthful := hclaim _ (demoActive_reachable.replay
    [(demoEnv 0, .ipc (.command (demoCommand 7 1000 .suspend)))])
  have hflag := htruthful.status (demoEnv 0) 7 1 _ rfl
  revert hflag
  decide

end Example

end Daemon

end MitosSession
