import MitosSession.Daemon.Handled

set_option autoImplicit false

/-! # Whose password unlocks a session

`Daemon::unlock` checks the account the client names, not the account the session belongs to (the
elevation path looks the name up itself). So the password that unlocks a session is the owner's
own only where nothing else can pass: `unlocks_with_own_password_iff` lists these cases. -/

namespace MitosSession

namespace Daemon

variable {d : Daemon} {env : Env} {cmd : ManagerCommand} {s : SessionId}
  {userName password : String}

/-- An authorized `Unlock` request is handled by `unlock` and answered. -/
theorem handleCommand_unlock (hrequest : cmd.request = .unlock s userName password)
    (hauth : authorize env.userByName cmd.peer cmd.connId cmd.request d.sessions d.elevation
      = .ok ()) :
    (d.handleCommand env cmd).1 = (d.unlock env s userName password).daemon
      ∧ (d.handleCommand env cmd).2 = (d.unlock env s userName password).effects ++
        [d.registry.sendResponse cmd.connId
          (.authResult (d.unlockAttempt env s userName password).outcome)] := by
  have hhandle : d.handleCommand env cmd = _ := handle_authorized hauth
  rw [hhandle]
  simp only [dispatch, hrequest, unlock_response, unlock_registry, Option.map_some,
    Option.toList_some, and_self]

/-- The attempt an unlock request makes unlocks a locked session exactly if the session is not
    locked out and the credential the client gives is accepted. -/
theorem unlock_unlocks_iff (hlocked : d.locks.isLocked s = true) :
    (d.unlock env s userName password).daemon.locks.isLocked s = false ↔
      (d.locks.entry s).state = .locked
        ∧ (d.authenticator.authenticate env.pam).accepts { sessionId := s, userName, password }
          = true := by
  have hiff := d.unlockAttempt_success_iff env s userName password
  have hstate : (d.locks.entry s).state = .locked ↔ (d.locks.entry s).state ≠ .lockedOut := by
    rw [LockManager.isLocked_iff] at hlocked
    cases hs : (d.locks.entry s).state <;> simp_all
  rw [hstate]
  by_cases hs : (d.unlockAttempt env s userName password).outcome = .success
  · obtain ⟨hout, ha⟩ := hiff.1 hs
    rw [unlock_success hs]
    exact ⟨fun _ => ⟨hout, ha⟩, fun _ => unlockAttempt_unlocks hs⟩
  · have hstays := unlockAttempt_keeps hlocked fun _ => hs
    rw [unlock_failure hs]
    constructor
    · intro hunlocked
      exact absurd (hstays.symm.trans hunlocked) (by simp)
    · intro h
      exact absurd (hiff.2 h) hs

/-- The credentials an unlock request has accepted are the ones the client sent. -/
theorem mem_unlock_effects {service : String} {request : AuthRequest}
    (h : Effect.authenticate service request true ∈ (d.unlock env s userName password).effects) :
    request = { sessionId := s, userName, password } := by
  have hcalls : ∀ r ∈ (d.unlockAttempt env s userName password).calls,
      r = { sessionId := s, userName, password } := by
    intro r hr
    unfold unlockAttempt LockManager.attemptUnlock at hr
    dsimp only at hr
    split at hr
    · cases hr
    · split at hr <;> exact List.mem_singleton.1 hr
  have hmem : ∀ event, Effect.authenticate service request true
      ∈ d.authEffects env (d.unlockAttempt env s userName password).calls ++ d.tells s event →
      request = { sessionId := s, userName, password } := by
    intro event hmem
    rcases List.mem_append.1 hmem with hmem | hmem
    · obtain ⟨r, hr, heq⟩ := List.mem_map.1 hmem
      obtain ⟨-, rfl, -⟩ := Effect.authenticate.inj heq
      exact hcalls r hr
    · obtain ⟨_, _, heq⟩ := mem_tells hmem
      cases heq
  by_cases hs : (d.unlockAttempt env s userName password).outcome = .success
  · rw [unlock_success hs] at h
    exact hmem _ h
  · rw [unlock_failure hs] at h
    exact hmem _ h

/-- **Unlock identity.** In any daemon, for an authorized `Unlock` of a session: every credential
    accepted in a step that unlocks it names the session's own account, exactly if the client named
    that account, or the session was not in state `Locked`, or the authenticator rejects what the
    client sent. -/
theorem unlocks_with_own_password_iff {ctx : SessionContext}
    (_hctx : d.sessions.sessions.lookup s = some ctx)
    (hrequest : cmd.request = .unlock s userName password)
    (hauth : authorize env.userByName cmd.peer cmd.connId cmd.request d.sessions d.elevation
      = .ok ()) :
    (d.locks.isLocked s = true → (d.handleCommand env cmd).1.locks.isLocked s = false →
      ∀ service request, Effect.authenticate service request true ∈ (d.handleCommand env cmd).2 →
        request.userName = ctx.session.userName) ↔
    (userName = ctx.session.userName ∨ (d.locks.entry s).state ≠ .locked
      ∨ (d.authenticator.authenticate env.pam).accepts { sessionId := s, userName, password }
        = false) := by
  obtain ⟨hdaemon, heffects⟩ := handleCommand_unlock hrequest hauth
  rw [hdaemon, heffects]
  constructor
  · intro h
    by_contra hcond
    simp only [not_or, not_not, Bool.not_eq_false] at hcond
    obtain ⟨hname, hstate, ha⟩ := hcond
    have hlocked : d.locks.isLocked s = true := by
      rw [LockManager.isLocked_iff, hstate]
      exact LockState.noConfusion
    refine hname (h hlocked ((unlock_unlocks_iff hlocked).2 ⟨hstate, ha⟩)
      d.authenticator.service { sessionId := s, userName, password } ?_)
    -- the accepted call is the first effect of the step
    have hs : (d.unlockAttempt env s userName password).outcome = .success :=
      (LockManager.attemptUnlock_success_iff ..).2 ⟨by rw [hstate]; exact LockState.noConfusion, ha⟩
    have hcalls : (d.unlockAttempt env s userName password).calls
        = [{ sessionId := s, userName, password }] := by
      rw [unlockAttempt, LockManager.attemptUnlock_accepted _ _ _ _ _
        (by rw [hstate]; exact LockState.noConfusion) ha]
    rw [unlock_success hs, hcalls]
    simp [authEffects, ha]
  · intro hcond hlocked hunlocked service request hmem
    obtain ⟨hstate, ha⟩ := (unlock_unlocks_iff hlocked).1 hunlocked
    have hname : userName = ctx.session.userName := by
      rcases hcond with hname | hne | hrejects
      · exact hname
      · exact absurd hstate hne
      · exact absurd (hrejects.symm.trans ha) (by simp)
    rcases List.mem_append.1 hmem with hmem | hmem
    · rw [mem_unlock_effects hmem]
      exact hname
    · simp [ConnRegistry.sendResponse] at hmem

section Example

/-- Alice's own password passes, as the client names her. -/
theorem own_password_unlocks :
    (demoLocked.handleCommand (demoEnv 1)
        (demoCommand 7 1000 (.unlock 1 "alice" "hunter2"))).1.locks.isLocked 1 = false
      ∧ ∀ service request, Effect.authenticate service request true
        ∈ (demoLocked.handleCommand (demoEnv 1)
          (demoCommand 7 1000 (.unlock 1 "alice" "hunter2"))).2 → request.userName = "alice" := by
  have hctx : demoLocked.sessions.sessions.lookup 1
      = some ((demoLocked.sessions.sessions.lookup 1).get (by decide)) := (Option.some_get _).symm
  refine ⟨by decide, (unlocks_with_own_password_iff hctx rfl (by decide)).2 (Or.inl ?_)
    (by decide) (by decide)⟩
  decide

/-- The client that owns Alice's session unlocks it with Bob's account. -/
theorem other_account_unlocks :
    Reachable demoLocked
      ∧ (demoLocked.sessions.sessions.lookup 1).map (·.session.userName) = some "alice"
      ∧ authorize (demoEnv 1).userByName ⟨1000, 1000, 1⟩ 7 (.unlock 1 "bob" "swordfish")
          demoLocked.sessions demoLocked.elevation = .ok ()
      ∧ demoLocked.locks.isLocked 1 = true
      ∧ (demoLocked.handleCommand (demoEnv 1)
          (demoCommand 7 1000 (.unlock 1 "bob" "swordfish"))).1.locks.isLocked 1 = false
      ∧ Effect.authenticate "mitos-session" ⟨1, "bob", "swordfish"⟩ true
        ∈ (demoLocked.handleCommand (demoEnv 1)
          (demoCommand 7 1000 (.unlock 1 "bob" "swordfish"))).2 :=
  ⟨demoLocked_reachable, by decide, by decide, by decide, by decide, List.mem_cons_self ..⟩

end Example

end Daemon

end MitosSession
