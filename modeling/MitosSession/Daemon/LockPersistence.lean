import MitosSession.Daemon.Sessions

set_option autoImplicit false

/-! # A locked session stays locked

Whether a session is locked is recorded twice: in the lock manager, which decides, and in the
`SessionState` of its context, which is shown. Neither ever moves towards unlocked but through an
`Unlock` request answered with a success: not by a crash, a restart, a new compositor, a reload or
the end of a lockout.

`KeepsLocked` is what each change does to a session that is locked; being closed under sequence it
carries over to every handler, and `Run.forall_transitions` to every run. -/

namespace MitosSession

namespace Daemon

/-- The `SessionState` of a session the daemon knows. -/
def stateOf (self : Daemon) (id : SessionId) : Option SessionState :=
  (self.sessions.sessions.lookup id).map SessionContext.state

/-- If the session is locked before, it is locked after, nobody is told to hide its lock screen,
    and its state does not become `Active`. -/
def KeepsLocked (id : SessionId) (d : Daemon) (effects : List Effect) (d' : Daemon) : Prop :=
  d.locks.isLocked id = true →
    d'.locks.isLocked id = true
      ∧ (∀ conn queued, Effect.send conn (.event (.hideLockScreen id)) queued ∉ effects)
      ∧ (d'.stateOf id = some .active → d.stateOf id = some .active)

theorem keepsLocked_seqClosed (id : SessionId) : SeqClosed (KeepsLocked id) where
  refl := fun _ h => ⟨h, by simp, fun ha => ha⟩
  trans := by
    intro d d' d'' effects effects' h h' hlocked
    obtain ⟨hlocked', hhide, hactive⟩ := h hlocked
    obtain ⟨hlocked'', hhide', hactive'⟩ := h' hlocked'
    refine ⟨hlocked'', fun conn queued hmem => ?_, fun ha => hactive (hactive' ha)⟩
    rcases List.mem_append.1 hmem with hmem | hmem
    · exact hhide conn queued hmem
    · exact hhide' conn queued hmem

variable {id : SessionId} {d d' : Daemon} {effects : List Effect} {env : Env}

/-! ## One change -/

theorem hideLockScreen_notMem (h : ∀ e ∈ effects, e.isNotice = true) (conn : ConnId)
    (queued : Bool) : Effect.send conn (.event (.hideLockScreen id)) queued ∉ effects :=
  fun hmem => Bool.noConfusion (h _ hmem)

theorem KeepsLocked.of_notice (h : ∀ e ∈ effects, e.isNotice = true)
    (hlocks : d.locks.isLocked id = true → d'.locks.isLocked id = true)
    (hactive : d'.stateOf id = some .active → d.stateOf id = some .active) :
    KeepsLocked id d effects d' :=
  fun hlocked => ⟨hlocks hlocked, hideLockScreen_notMem h, hactive⟩

/-- Changes that leave the locks and the sessions' states alone. -/
theorem KeepsLocked.of_same (h : ∀ e ∈ effects, e.isNotice = true) (hlocks : d'.locks = d.locks)
    (hactive : d'.stateOf id = some .active → d.stateOf id = some .active) :
    KeepsLocked id d effects d' :=
  KeepsLocked.of_notice h (by rw [hlocks]; exact fun hl => hl) hactive

/-- Writing to one session without making it active makes none active. -/
theorem stateOf_update {k : SessionId} {f : SessionContext → SessionContext}
    (hf : ∀ ctx, (f ctx).state = .active → ctx.state = .active) (hd' :
      d'.sessions.sessions = (d.sessions.update k f).sessions)
    (hactive : d'.stateOf id = some .active) : d.stateOf id = some .active := by
  unfold stateOf at hactive ⊢
  rw [hd', SessionManager.update_lookup] at hactive
  split at hactive
  · cases hctx : d.sessions.sessions.lookup id with
    | none => simp [hctx] at hactive
    | some ctx =>
        simp only [hctx, Option.map_some, Option.some.injEq] at hactive ⊢
        exact hf ctx hactive
  · exact hactive

theorem showLock_keepsLocked (k : SessionId) (reason : LockReason) :
    KeepsLocked id d (d.showLock k reason).2 (d.showLock k reason).1 := by
  unfold showLock
  split
  · exact (keepsLocked_seqClosed id).refl d
  · rename_i ctx _
    refine fun hlocked => ⟨hlocked, ?_, ?_⟩
    · cases hconn : ctx.compositorConn with
      | none => simp [ConnRegistry.sendEventTo]
      | some conn => simp [ConnRegistry.sendEventTo, ConnRegistry.sendEvent]
    · exact stateOf_update (fun ctx => SessionContext.transition_active (by simp)) rfl

/-- A compositor that registers for a locked session finds it locked. -/
theorem registerCompositor_keepsLocked (connId : ConnId) (k : SessionId) :
    KeepsLocked id d (d.registerCompositor connId k).effects
      (d.registerCompositor connId k).daemon := by
  unfold registerCompositor
  split
  · exact (keepsLocked_seqClosed id).refl d
  · dsimp only
    split
    · refine fun hlocked => ⟨hlocked, ?_, ?_⟩
      · simp [ConnRegistry.sendEvent]
      · have hstays : ∀ ctx : SessionContext,
            ({ ctx with compositorConn := some connId : SessionContext }.transition .locked).state
              = .active → ctx.state = .active := by
          intro ctx hactive
          have hbefore := SessionContext.transition_active (by simp) hactive
          exact hbefore
        exact stateOf_update hstays rfl
    · -- only a session that is not locked becomes active
      rename_i hunlocked
      refine fun hlocked => ⟨hlocked, by simp, fun hactive => ?_⟩
      have hne : id ≠ k := by
        rintro rfl
        exact hunlocked hlocked
      simpa only [stateOf, SessionManager.update_lookup, if_neg hne] using hactive

theorem Change.keepsLocked {cause : Option ManagerCommand} (h : Change cause d effects d') :
    KeepsLocked id d effects d' := by
  cases h with
  | notice h => exact KeepsLocked.of_same h rfl fun ha => ha
  | desk seats idle shouldExit => exact KeepsLocked.of_same (by simp) rfl fun ha => ha
  | configure settings authenticator uid => exact KeepsLocked.of_same (by simp) rfl fun ha => ha
  | disconnect conn =>
      refine KeepsLocked.of_same (by simp) rfl fun ha => ?_
      simp only [stateOf, Table.lookup_mapVal, Option.map_map] at ha ⊢
      rw [← ha]
      congr 1
      funext ctx
      simp only [Function.comp_apply]
      split <;> rfl
  | restarting k =>
      exact KeepsLocked.of_same (by simp) rfl
        (stateOf_update (fun ctx => SessionContext.transition_active (by simp)) rfl)
  | process k f hf =>
      refine KeepsLocked.of_same (by simp) rfl (stateOf_update (fun ctx ha => ?_) rfl)
      rw [hf ctx] at ha
      exact ha
  | erase k =>
      refine KeepsLocked.of_same (by simp) rfl fun ha => ?_
      simp only [stateOf, Table.lookup_erase_eq] at ha ⊢
      split at ha
      · simp at ha
      · exact ha
  | registerCompositor _ _ _ _ => exact registerCompositor_keepsLocked _ _
  | lock reason hlock =>
      have hengaged : KeepsLocked id d [] { d with locks := _ } :=
        KeepsLocked.of_notice (by simp)
          (fun hl => (LockManager.lock_isLocked hlock).2 (Or.inr hl)) fun ha => ha
      exact (keepsLocked_seqClosed id).trans hengaged (showLock_keepsLocked _ reason)
  | inhibit inhibitors =>
      exact KeepsLocked.of_notice (by simp) (fun hl => hl) fun ha => ha
  | sweepLocks now =>
      refine KeepsLocked.of_notice (by simp) (fun hl => ?_) fun ha => ha
      exact (LockManager.sweepLockouts_isLocked ..).trans hl
  | record sessionAuth lockoutExpiry => exact KeepsLocked.of_same (by simp) rfl fun ha => ha
  | promptTimers promptExpiry => exact KeepsLocked.of_same (by simp) rfl fun ha => ha
  | resolve outcome hp hsuccess =>
      refine fun hlocked => ⟨hlocked, ?_, fun ha => ha⟩
      simp [ConnRegistry.sendResponse]

theorem Enters.keepsLocked (h : Enters d d') : KeepsLocked id d [] d' := by
  cases h with
  | none => exact (keepsLocked_seqClosed id).refl d
  | spent => exact KeepsLocked.of_same (by simp) rfl fun ha => ha
  | entered ctx hid hstate hconn =>
      refine KeepsLocked.of_same (by simp) rfl fun ha => ?_
      simp only [stateOf, Table.lookup_insert_eq] at ha ⊢
      -- a new session is `Starting`, even under an id that was locked before
      split at ha
      · simp [hstate] at ha
      · exact ha

theorem Changes.keepsLocked {cause : Option ManagerCommand} (h : Changes cause d effects d') :
    KeepsLocked id d effects d' :=
  (keepsLocked_seqClosed id).chain h fun _ _ _ hchange => hchange.keepsLocked

theorem idleSuspend_keepsLocked : KeepsLocked id d (d.idleSuspend env).2 (d.idleSuspend env).1 :=
  KeepsLocked.of_notice (idleSuspend_isNotice d env)
    (fun hl => (suspend_isLocked ..).2 (Or.inl hl)) fun ha => ha

theorem Acts.keepsLocked (h : Acts d effects d') : KeepsLocked id d effects d' := by
  refine (keepsLocked_seqClosed id).chain h fun d effects d' hact => ?_
  cases hact with
  | change hchange => exact hchange.keepsLocked
  | suspend env => exact idleSuspend_keepsLocked
  | lose hfound =>
      refine KeepsLocked.of_same (by simp) rfl ?_
      exact stateOf_update (f := fun ctx =>
        { ctx with compositorProcess := none, compositorConn := none }) (fun _ ha => ha) rfl

/-! ## Unlock attempts -/

/-- An attempt on another session, or one that fails, leaves the session locked. -/
theorem unlock_keepsLocked {k : SessionId} {userName password : String}
    (hfail : id = k → (d.unlockAttempt env k userName password).outcome ≠ .success) :
    KeepsLocked id d (d.unlock env k userName password).effects
      (d.unlock env k userName password).daemon := by
  intro hlocked
  have hmanager : (d.unlockAttempt env k userName password).manager.isLocked id = true :=
    unlockAttempt_keeps hlocked hfail
  by_cases hs : (d.unlockAttempt env k userName password).outcome = .success
  · have hne : id ≠ k := fun heq => hfail heq hs
    rw [unlock_success hs]
    refine ⟨hmanager, fun conn queued hmem => ?_, fun hactive => ?_⟩
    · rcases List.mem_append.1 hmem with hmem | hmem
      · exact hideLockScreen_notMem (isNotice_authEffects d env _) conn queued hmem
      · obtain ⟨conn', queued', heq⟩ := mem_tells hmem
        simp only [Effect.send.injEq, Message.event.injEq, Event.hideLockScreen.injEq] at heq
        exact hne heq.2.1
    · simpa only [stateOf, SessionManager.update_lookup, if_neg hne] using hactive
  · rw [unlock_failure hs]
    refine ⟨hmanager, fun conn queued hmem => ?_, fun hactive => hactive⟩
    rcases List.mem_append.1 hmem with hmem | hmem
    · exact hideLockScreen_notMem (isNotice_authEffects d env _) conn queued hmem
    · obtain ⟨conn', queued', heq⟩ := mem_tells hmem
      simp at heq

/-! ## Whole runs -/

/-- The step answers an `Unlock` request that names the session with a success. -/
def AnswersUnlock (id : SessionId) (l : DaemonLabel) : Prop :=
  ∃ cmd userName password queued, l.command = some cmd
    ∧ cmd.request = .unlock id userName password
    ∧ Effect.send cmd.connId (.response (.authResult .success)) queued ∈ l.effects

theorem handle_keepsLocked (event : DaemonEvent)
    (hno : ¬ AnswersUnlock id (.handled env event (d.handle env event).2)) :
    KeepsLocked id d (d.handle env event).2 (d.handle env event).1 := by
  have hreply : ∀ {d d' : Daemon} {effects : List Effect} (conn : ConnId) (response : Response),
      KeepsLocked id d effects d' →
      KeepsLocked id d (effects ++ [d'.registry.sendResponse conn response]) d' := by
    intro d d' effects conn response h
    refine (keepsLocked_seqClosed id).trans h fun hlocked => ⟨hlocked, ?_, fun ha => ha⟩
    simp [ConnRegistry.sendResponse]
  have hd := handled d env event
  revert hno
  generalize (d.handle env event).2 = effects at hd
  generalize (d.handle env event).1 = d' at hd
  intro hno
  cases hd with
  | connected connId peer outbox => exact KeepsLocked.of_same (by simp) rfl fun ha => ha
  | disconnected connId => exact (disconnected_changes connId).keepsLocked
  | rejected cmd e hauth => exact hreply _ _ ((keepsLocked_seqClosed id).refl d)
  | replied cmd response hauth henters hchanges hsuccess =>
      exact hreply _ _ ((keepsLocked_seqClosed id).trans henters.keepsLocked hchanges.keepsLocked)
  | unlock cmd k userName password hauth hrequest =>
      have hfail : id = k → (d.unlockAttempt env k userName password).outcome ≠ .success := by
        rintro rfl hs
        refine hno ⟨cmd, userName, password, d.registry.knows cmd.connId, rfl, hrequest,
          List.mem_append_right _ ?_⟩
        rw [hs]
        exact List.mem_singleton_self _
      have hkeeps : KeepsLocked id d (d.unlock env k userName password).effects _ :=
        unlock_keepsLocked hfail
      have hreplied := hreply cmd.connId
        (.authResult (d.unlockAttempt env k userName password).outcome) hkeeps
      rwa [unlock_registry] at hreplied
  | begun cmd hauth hrequest hctx hconn hbegin =>
      refine KeepsLocked.of_same ?_ rfl fun ha => ha
      simp [ConnRegistry.sendEvent, Effect.isNotice]
  | suspended cmd response hrequest hresponse => exact hreply _ _ idleSuspend_keepsLocked
  | ticked => exact onIdleTick_acts.keepsLocked
  | reaped children => exact (reapChildren_acts children).keepsLocked
  | signalled event hchanges => exact hchanges.keepsLocked

/-- A compositor whose registration for a locked session is acknowledged brings it up as
    `Locked`, whatever a crash left behind. -/
theorem registerCompositor_stateOf (hreach : Reachable d) {cmd : ManagerCommand} {queued : Bool}
    (hrequest : cmd.request = .registerCompositor id) (hlocked : d.locks.isLocked id = true)
    (hok : Effect.send cmd.connId (.response .ok) queued ∈ (d.handleCommand env cmd).2) :
    (d.handleCommand env cmd).1.stateOf id = some .locked := by
  unfold handleCommand at hok ⊢
  split at hok
  · simp [ConnRegistry.sendResponse] at hok
  · simp only [dispatch, hrequest, registerCompositor] at hok ⊢
    cases hctx : d.sessions.sessions.lookup id with
    | none => simp [SessionManager.get, hctx, ConnRegistry.sendResponse] at hok
    | some ctx =>
        obtain ⟨hclosing, hclosed⟩ := hreach.displayed hctx
        simp only [SessionManager.get, hctx, hlocked, if_true, stateOf,
          SessionManager.update_lookup, Option.map_some, Option.some.injEq]
        unfold SessionContext.transition SessionState.transition
        cases hstate : ctx.state <;> simp_all [SessionState.canTransitionTo]

theorem Rehash.stateOf_eq (h : Rehash d d') (id : SessionId) : d'.stateOf id = d.stateOf id := by
  simp only [stateOf, h.sessions.sessions.lookup_eq]

theorem Step.keepsLocked {l : DaemonLabel} (h : Step d l d') (hno : ¬ AnswersUnlock id l) :
    KeepsLocked id d l.effects d' := by
  cases h with
  | handled env event => exact handle_keepsLocked event hno
  | rehash hr =>
      refine fun hlocked => ⟨?_, by simp [DaemonLabel.effects], fun ha => ?_⟩
      · rw [hr.locks.isLocked_eq]
        exact hlocked
      · rw [hr.stateOf_eq] at ha
        exact ha

/-- **Lock persistence.** Along every run from a reachable state in which a session is locked, as
    long as no `Unlock` request that names it is answered with a success: it is locked in every
    state reached, no step sends a `HideLockScreen` for it, no step makes its state `Active`, and
    a compositor that registers for it brings it up `Locked`. -/
theorem locked_until_unlock {tr : List (Transition Daemon DaemonLabel)} (hreach : Reachable d)
    (hlocked : d.locks.isLocked id = true) (hrun : Run Step d tr d')
    (hno : ∀ x ∈ tr, ¬ AnswersUnlock id x.label) :
    d'.locks.isLocked id = true ∧ ∀ x ∈ tr,
      x.post.locks.isLocked id = true
        ∧ (∀ conn queued,
          Effect.send conn (.event (.hideLockScreen id)) queued ∉ x.label.effects)
        ∧ (x.post.stateOf id = some .active → x.pre.stateOf id = some .active)
        ∧ (∀ cmd queued, x.label.command = some cmd →
          cmd.request = .registerCompositor id →
          Effect.send cmd.connId (.response .ok) queued ∈ x.label.effects →
          x.post.stateOf id = some .locked) := by
  have hall := hrun.forall_transitions
    (I := fun d => Reachable d ∧ d.locks.isLocked id = true)
    (G := fun x => ¬ AnswersUnlock id x.label)
    (Q := fun x => x.post.locks.isLocked id = true
      ∧ (∀ conn queued, Effect.send conn (.event (.hideLockScreen id)) queued ∉ x.label.effects)
      ∧ (x.post.stateOf id = some .active → x.pre.stateOf id = some .active)
      ∧ (∀ cmd queued, x.label.command = some cmd → cmd.request = .registerCompositor id →
        Effect.send cmd.connId (.response .ok) queued ∈ x.label.effects →
        x.post.stateOf id = some .locked))
    ⟨hreach, hlocked⟩ hno ?_
  · exact ⟨hall.1.2, hall.2⟩
  · rintro d l d' ⟨hreach, hlocked⟩ hstep hno
    obtain ⟨hlocked', hhide, hactive⟩ := hstep.keepsLocked hno hlocked
    refine ⟨⟨hreach.step hstep, hlocked'⟩, hlocked', hhide, hactive, ?_⟩
    intro cmd queued hcmd hrequest hok
    cases hstep with
    | rehash => cases hcmd
    | handled env event =>
        obtain rfl : event = .ipc (.command cmd) := DaemonLabel.event_of_command hcmd
        exact registerCompositor_stateOf hreach hrequest hlocked hok

section Example

/-- The compositor crashes and is restarted, and the new one registers on connection 8. -/
private def crashAndReturn : List (Env × DaemonEvent) :=
  [(demoEnv 1, .signal (.reapChildren [⟨4242, .ok 4243⟩])),
    (demoEnv 2, demoConnect 8 1000),
    (demoEnv 3, .ipc (.command (demoCommand 8 1000 (.registerCompositor 1))))]

/-- After a crash and a new registration the session is still locked, and shown as such. -/
theorem locked_after_crash :
    (demoLocked.replay crashAndReturn).locks.isLocked 1 = true
      ∧ (demoLocked.replay crashAndReturn).stateOf 1 = some .locked := by
  have hlocked : demoLocked.locks.isLocked 1 = true := by decide
  have hstart : Run Step demoLocked [] demoLocked := Run.nil
  have hrun := Run.snoc (Run.snoc (Run.snoc hstart
    (Step.handled _ (demoEnv 1) (.signal (.reapChildren [⟨4242, .ok 4243⟩]))))
    (Step.handled _ (demoEnv 2) (demoConnect 8 1000)))
    (Step.handled _ (demoEnv 3) (.ipc (.command (demoCommand 8 1000 (.registerCompositor 1)))))
  have hlast := locked_until_unlock demoLocked_reachable hlocked hrun
    (by simp [AnswersUnlock, DaemonLabel.command, demoConnect, demoCommand])
  refine ⟨hlast.1, ?_⟩
  refine (hlast.2 _ (List.mem_append_right _ (List.mem_singleton_self _))).2.2.2 _ true rfl rfl ?_
  exact Effect.mem_sent.1 (by decide)

end Example

end Daemon

end MitosSession
