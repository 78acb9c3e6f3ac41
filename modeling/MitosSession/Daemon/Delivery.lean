import MitosSession.Daemon.Topics
import MitosSession.Daemon.Handles

set_option autoImplicit false

/-! # Where a message can go

`handle_reaches` says of every handler: a message only goes into the outbox of a connection that
the registry knew when the event came; `handle_reaches_after` that it still knows it afterwards.
The handlers that drop a connection send it nothing: `Disconnected` drops it first, and the exit of
a compositor sends no messages at all. -/

namespace MitosSession

/-- Whatever the effects put into an outbox goes to a connection the registry knows. -/
def Reaches (registry : ConnRegistry) (effects : List Effect) : Prop :=
  ∀ c message, Effect.send c message true ∈ effects → registry.knows c = true

section Reaches

variable {registry registry' : ConnRegistry} {effects effects' : List Effect}

@[simp]
theorem reaches_nil : Reaches registry [] := by
  simp [Reaches]

theorem reaches_append :
    Reaches registry (effects ++ effects') ↔
      Reaches registry effects ∧ Reaches registry effects' := by
  simp [Reaches, or_imp, forall_and]

theorem reaches_cons {e : Effect} :
    Reaches registry (e :: effects) ↔ Reaches registry [e] ∧ Reaches registry effects := by
  rw [← List.singleton_append, reaches_append]

/-- Effects that are no messages. -/
theorem reaches_of_forall (h : ∀ c message queued, Effect.send c message queued ∉ effects) :
    Reaches registry effects :=
  fun c message hmem => absurd hmem (h c message true)

theorem Reaches.mono (h : Reaches registry effects)
    (hsub : ∀ c, registry.knows c = true → registry'.knows c = true) :
    Reaches registry' effects :=
  fun c message hmem => hsub c (h c message hmem)

theorem reaches_sendEvent (registry : ConnRegistry) (conn : ConnId) (event : Event) :
    Reaches registry [registry.sendEvent conn event] := by
  intro c message hmem
  simp only [ConnRegistry.sendEvent, List.mem_singleton, Effect.send.injEq] at hmem
  obtain ⟨rfl, -, hknows⟩ := hmem
  exact hknows.symm

theorem reaches_sendResponse (registry : ConnRegistry) (conn : ConnId) (response : Response) :
    Reaches registry [registry.sendResponse conn response] := by
  intro c message hmem
  simp only [ConnRegistry.sendResponse, List.mem_singleton, Effect.send.injEq] at hmem
  obtain ⟨rfl, -, hknows⟩ := hmem
  exact hknows.symm

theorem reaches_sendEventTo (registry : ConnRegistry) (conn : Option ConnId) (event : Event) :
    Reaches registry (registry.sendEventTo conn event) := by
  cases conn with
  | none => exact reaches_nil
  | some c => exact reaches_sendEvent registry c event

theorem reaches_seqClosed (registry : ConnRegistry) (σ : Type) :
    SeqClosed fun (_ : σ) (effects : List Effect) (_ : σ) => Reaches registry effects :=
  ⟨fun _ => reaches_nil, fun h h' => reaches_append.2 ⟨h, h'⟩⟩

theorem reaches_waitForDelayers (inhibitors : InhibitorRegistry) (what : InhibitWhat)
    (grace : Duration) : Reaches registry (waitForDelayers inhibitors what grace) := by
  unfold waitForDelayers
  split <;> exact reaches_of_forall (by simp)

end Reaches

namespace Daemon

variable {d : Daemon} {env : Env}

/-! ## One handler each -/

theorem trySpawnCompositor_reaches (registry : ConnRegistry) (spawned : Result Pid)
    (id : SessionId) : Reaches registry (d.trySpawnCompositor spawned id).2 := by
  unfold trySpawnCompositor
  split
  · exact reaches_nil
  · split <;> exact reaches_of_forall (by simp)

theorem createSession_reaches (userName : String) (seatId sessionType : Option String) :
    Reaches d.registry (d.createSession env userName seatId sessionType).effects := by
  rcases createSession_cases d env userName seatId sessionType with
    ⟨e, sessions, -, heq⟩ | ⟨user, ctx, kind, launched, response, -, -, -, rfl | rfl, -, heq⟩
  · rw [heq]
    exact reaches_nil
  · rw [heq]
    exact trySpawnCompositor_reaches _ _ _
  · rw [heq]
    exact reaches_nil

theorem abandoned_reaches (registry : ConnRegistry) (reason : String)
    (abandoned : List AbandonedElevation) :
    Reaches registry (abandoned.flatMap (notifyElevationAbandoned registry reason)) := by
  intro c message hmem
  obtain ⟨a, -, hmem⟩ := List.mem_flatMap.1 hmem
  exact reaches_cons.2 ⟨reaches_sendEvent _ _ _, reaches_sendResponse _ _ _⟩ c message hmem

theorem terminateSession_reaches (id : SessionId) :
    Reaches d.registry (d.terminateSession id).effects := by
  unfold terminateSession
  split
  · exact reaches_nil
  · exact abandoned_reaches _ _ _

theorem registerCompositor_reaches (connId : ConnId) (id : SessionId) :
    Reaches d.registry (d.registerCompositor connId id).effects := by
  unfold registerCompositor
  split
  · exact reaches_nil
  · dsimp only
    split
    · exact reaches_sendEvent _ _ _
    · exact reaches_nil

theorem showLock_reaches (id : SessionId) (reason : LockReason) :
    Reaches d.registry (d.showLock id reason).2 := by
  unfold showLock
  split
  · exact reaches_nil
  · exact reaches_sendEventTo _ _ _

theorem lockSession_reaches (id : SessionId) (reason : LockReason) :
    Reaches d.registry (d.lockSession env id reason).effects := by
  rcases lockSession_cases d env id reason with ⟨text, heq⟩ | ⟨locks, -, heq⟩
  · rw [heq]
    exact reaches_nil
  · rw [heq]
    exact showLock_reaches id reason

theorem authEffects_reaches (registry : ConnRegistry) (calls : List AuthRequest) :
    Reaches registry (d.authEffects env calls) :=
  reaches_of_forall (by simp [authEffects])

theorem tells_reaches (id : SessionId) (event : Event) :
    Reaches d.registry (d.tells id event) := by
  unfold tells
  split
  · exact reaches_sendEventTo _ _ _
  · exact reaches_nil

theorem unlock_reaches (id : SessionId) (userName password : String) :
    Reaches d.registry (d.unlock env id userName password).effects := by
  by_cases hs : (d.unlockAttempt env id userName password).outcome = .success
  · rw [unlock_success hs]
    exact reaches_append.2 ⟨authEffects_reaches _ _, tells_reaches _ _⟩
  · rw [unlock_failure hs]
    exact reaches_append.2 ⟨authEffects_reaches _ _, tells_reaches _ _⟩

theorem switchSession_reaches (seatId : String) (id : SessionId) :
    Reaches d.registry (d.switchSession seatId id).effects := by
  unfold switchSession
  split
  · exact reaches_nil
  · dsimp only
    split
    · exact reaches_sendEventTo _ _ _
    · exact reaches_nil

theorem idleSuspend_reaches : Reaches d.registry (d.idleSuspend env).2 := by
  simp only [idleSuspend, MitosSession.suspend]
  split
  · exact reaches_nil
  · refine reaches_append.2 ⟨reaches_append.2 ⟨reaches_waitForDelayers _ _ _, ?_⟩,
      reaches_of_forall (by simp)⟩
    exact (reaches_seqClosed d.registry _).loop _ _
      (fun locks ctx _ => reaches_sendEventTo _ _ _) _

theorem startElevation_reaches (connId : ConnId) (id : SessionId) (action : ElevationAction) :
    Reaches d.registry (d.startElevation env connId id action).effects := by
  rcases startElevation_cases d env connId id action with
    ⟨response, -, heq⟩ | ⟨ctx, compositorConn, begun, -, -, -, heq⟩
  · rw [heq]
    exact reaches_nil
  · rw [heq]
    exact reaches_sendEvent _ _ _

theorem reportElevation_reaches (requestId : ElevationRequestId) (resolved : ElevationOutcome) :
    Reaches d.registry (d.reportElevation requestId resolved) := by
  unfold reportElevation
  refine reaches_cons.2 ⟨reaches_sendEvent _ _ _, ?_⟩
  split
  · exact reaches_cons.2 ⟨reaches_sendEvent _ _ _, reaches_sendResponse _ _ _⟩
  · exact reaches_nil

theorem respondElevation_reaches (requestId : ElevationRequestId) (response : ElevationResponse) :
    Reaches d.registry (d.respondElevation env requestId response).effects := by
  rcases respondElevation_cases d env requestId response with
    ⟨e, heq⟩ | ⟨p, -, ⟨-, heq⟩ | ⟨password, ctx, attempt, -, -, -, heq⟩⟩
  · rw [heq]
    exact reaches_nil
  · rw [heq]
    exact reportElevation_reaches _ _
  · rw [heq]
    exact reaches_append.2 ⟨authEffects_reaches _ _, reportElevation_reaches _ _⟩

theorem notifyActiveCompositor_reaches (seatId : String) (event : Event) :
    Reaches d.registry (d.notifyActiveCompositor seatId event) := by
  unfold notifyActiveCompositor
  split
  · split
    · exact reaches_sendEventTo _ _ _
    · exact reaches_nil
  · exact reaches_nil

theorem idleLock_reaches (seatId : String) : Reaches d.registry (d.idleLock env seatId).2 := by
  rcases idleLock_shows d env seatId with heq | ⟨sessionId, locks, -, heq⟩
  · rw [heq]
    exact reaches_nil
  · rw [heq]
    exact showLock_reaches sessionId .idle

theorem idleChange_reaches (change : String × IdleStage) :
    Reaches d.registry (idleChange env d change).2 := by
  obtain ⟨seatId, stage⟩ := change
  cases stage with
  | active => exact reaches_nil
  | dimmed => exact notifyActiveCompositor_reaches seatId _
  | lockRequested => exact idleLock_reaches seatId
  | suspendRequested => exact idleSuspend_reaches

theorem handleCompositorExit_reaches (registry : ConnRegistry) (child : ReapedChild) :
    Reaches registry (d.handleCompositorExit child).2 := by
  unfold handleCompositorExit
  split
  · exact reaches_nil
  · dsimp only
    split
    · exact trySpawnCompositor_reaches _ _ _
    · split <;> first | exact reaches_nil | exact reaches_of_forall (by simp)

theorem dispatch_reaches (connId : ConnId) (request : Request) :
    Reaches d.registry (d.dispatch env connId request).effects := by
  cases request with
  | createSession userName seatId sessionType => exact createSession_reaches _ _ _
  | terminateSession id => exact terminateSession_reaches id
  | registerCompositor id => exact registerCompositor_reaches connId id
  | listSessions => exact reaches_nil
  | sessionStatus id => exact reaches_nil
  | lockSession id => exact lockSession_reaches id .manual
  | unlock id userName password => exact unlock_reaches id userName password
  | reportActivity seatId => exact reaches_nil
  | switchSession seatId id => exact switchSession_reaches seatId id
  | inhibit what who why mode => exact reaches_nil
  | releaseInhibit inhibitId =>
      simp only [dispatch]
      split <;> exact reaches_nil
  | listInhibitors => exact reaches_nil
  | suspend => exact idleSuspend_reaches
  | reboot =>
      simp only [dispatch, MitosSession.reboot]
      split
      · exact reaches_nil
      · exact reaches_append.2 ⟨reaches_waitForDelayers _ _ _, reaches_of_forall (by simp)⟩
  | powerOff =>
      simp only [dispatch, MitosSession.poweroff]
      split
      · exact reaches_nil
      · exact reaches_append.2 ⟨reaches_waitForDelayers _ _ _, reaches_of_forall (by simp)⟩
  | requestElevation id action => exact startElevation_reaches connId id action
  | respondElevation requestId response => exact respondElevation_reaches requestId response

/-! ## Every event -/

/-- The stage changes of a tick leave the registry alone. -/
theorem idleChanges_reaches (changes : List (String × IdleStage)) :
    (forEach (idleChange env) d changes).1.registry = d.registry
      ∧ Reaches d.registry (forEach (idleChange env) d changes).2 :=
  (reaches_seqClosed d.registry Daemon).loop_of_invariant
    (I := fun d' => d'.registry = d.registry) (idleChange env) changes
    (fun _ hsame change _ =>
      ⟨(idleChange_registry change).trans hsame, hsame ▸ idleChange_reaches change⟩) d rfl

theorem onIdleTick_reaches : Reaches d.registry (d.onIdleTick env).2 := by
  refine reaches_append.2 ⟨(idleChanges_reaches _).2, (abandoned_reaches _ _ _).mono fun c hc => ?_⟩
  have hsame : (d.onIdleTick env).1.registry = d.registry := onIdleTick_registry
  rw [← hsame]
  exact hc

/-- **A message only goes to a connection the registry knew when the event came.** -/
theorem handle_reaches (d : Daemon) (env : Env) (event : DaemonEvent) :
    Reaches d.registry (d.handle env event).2 := by
  match event with
  | .ipc (.connected connId peer outbox) => exact reaches_nil
  | .ipc (.disconnected connId) =>
      refine (abandoned_reaches (d.registry.unregister connId) _ _).mono fun c hc => ?_
      rw [ConnRegistry.knows_unregister] at hc
      split at hc
      · cases hc
      · exact hc
  | .ipc (.command cmd) =>
      simp only [handle, handleIpc, handleCommand]
      split
      · exact reaches_sendResponse _ _ _
      · refine reaches_append.2 ⟨dispatch_reaches _ _, ?_⟩
        rw [dispatch_registry]
        cases (d.dispatch env cmd.connId cmd.request).response with
        | none => exact reaches_nil
        | some response => exact reaches_sendResponse _ _ _
  | .idleTick => exact onIdleTick_reaches
  | .signal .terminate => exact reaches_nil
  | .signal .reloadConfig => exact reaches_nil
  | .signal (.reapChildren children) =>
      exact (reaches_seqClosed d.registry Daemon).loop _ _
        (fun d' child _ => handleCompositorExit_reaches d.registry child) _

/-- It is one the registry still knows afterwards. -/
theorem handle_reaches_after (d : Daemon) (env : Env) (event : DaemonEvent) :
    Reaches (d.handle env event).1.registry (d.handle env event).2 := by
  match event with
  | .ipc (.connected connId peer outbox) => exact reaches_nil
  | .ipc (.disconnected connId) => exact abandoned_reaches _ _ _
  | .ipc (.command cmd) =>
      have hsame : (d.handle env (.ipc (.command cmd))).1.registry = d.registry := by
        simp only [handle, handleIpc, handleCommand]
        split
        · rfl
        · exact dispatch_registry ..
      rw [hsame]
      exact handle_reaches d env _
  | .idleTick =>
      have hsame : (d.handle env .idleTick).1.registry = d.registry := onIdleTick_registry
      rw [hsame]
      exact onIdleTick_reaches
  | .signal .terminate => exact reaches_nil
  | .signal .reloadConfig => exact reaches_nil
  | .signal (.reapChildren children) =>
      exact (reaches_seqClosed _ Daemon).loop _ _
        (fun d' child _ => handleCompositorExit_reaches _ child) _

end Daemon

end MitosSession
