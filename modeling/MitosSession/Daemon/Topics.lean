import MitosSession.Daemon.Suspend

set_option autoImplicit false

/-! # What an event can be about

`DaemonEvent.topics` is the table of what the daemon may do to the outside while it handles an
event, by topic: which kind of message it sends, which power transition it starts. `handle_topics`
says that no handler does anything that is not in the table. So what is true of one kind of effect
(who is told to prepare for sleep, say) has to be shown for the few events that can have it. -/

namespace MitosSession

/-- What an effect is about. -/
inductive Topic where
  | reply
  | lockScreen
  | activation
  | dim
  | sleep
  | resume
  | prompt
  | credential
  | wait
  | suspend
  | reboot
  | poweroff
  | process
deriving DecidableEq

/-- What an event sent to a compositor is about. -/
def Event.topic : Event → Topic
  | .showLockScreen _ _ => .lockScreen
  | .hideLockScreen _ => .lockScreen
  | .authFeedback _ _ => .lockScreen
  | .dim _ => .dim
  | .undim _ => .dim
  | .prepareForSleep => .sleep
  | .resumedFromSleep => .resume
  | .sessionActivated _ _ => .activation
  | .showElevationPrompt _ _ _ => .prompt
  | .elevationFeedback _ _ => .prompt
  | .hideElevationPrompt _ => .prompt

def Effect.topic : Effect → Topic
  | .send _ (.response _) _ => .reply
  | .send _ (.event event) _ => event.topic
  | .authenticate _ _ _ => .credential
  | .sleep _ => .wait
  | .backendSuspend _ _ => .suspend
  | .backendReboot => .reboot
  | .backendPoweroff => .poweroff
  | .spawn _ _ _ => .process

/-- What a request may cause beside its reply. -/
def Request.topics : Request → List Topic
  | .createSession _ _ _ => [.process]
  | .terminateSession _ => [.prompt, .reply]
  | .registerCompositor _ => [.lockScreen]
  | .lockSession _ => [.lockScreen]
  | .unlock _ _ _ => [.credential, .lockScreen]
  | .switchSession _ _ => [.activation]
  | .suspend => [.wait, .sleep, .suspend]
  | .reboot => [.wait, .reboot]
  | .powerOff => [.wait, .poweroff]
  | .requestElevation _ _ => [.prompt]
  | .respondElevation _ _ => [.credential, .prompt, .reply]
  | _ => []

/-- What a stage change may cause. -/
def IdleStage.topics : IdleStage → List Topic
  | .active => []
  | .dimmed => [.dim]
  | .lockRequested => [.lockScreen]
  | .suspendRequested => [.wait, .sleep, .suspend]

/-- What an event may cause. -/
def DaemonEvent.topics : DaemonEvent → List Topic
  | .ipc (.connected _ _ _) => []
  | .ipc (.disconnected _) => [.prompt, .reply]
  | .ipc (.command cmd) => .reply :: cmd.request.topics
  | .idleTick => [.dim, .lockScreen, .wait, .sleep, .suspend, .prompt, .reply]
  | .signal (.reapChildren _) => [.process]
  | .signal _ => []

/-- All effects are about the given topics. -/
def About (topics : List Topic) (effects : List Effect) : Prop :=
  ∀ e ∈ effects, e.topic ∈ topics

section About

variable {topics topics' : List Topic} {effects effects' : List Effect}

@[simp]
theorem about_nil : About topics [] := by
  simp [About]

@[simp]
theorem about_cons {e : Effect} :
    About topics (e :: effects) ↔ e.topic ∈ topics ∧ About topics effects := by
  simp [About]

@[simp]
theorem about_append :
    About topics (effects ++ effects') ↔ About topics effects ∧ About topics effects' := by
  simp [About, or_imp, forall_and]

theorem About.mono (h : About topics effects) (hsub : topics ⊆ topics') :
    About topics' effects :=
  fun e he => hsub (h e he)

theorem about_sendEventTo {registry : ConnRegistry} {conn : Option ConnId} {event : Event}
    (h : event.topic ∈ topics) : About topics (registry.sendEventTo conn event) := by
  intro e he
  obtain ⟨c, -, rfl⟩ := Daemon.mem_sendEventTo he
  exact h

theorem about_waitForDelayers (inhibitors : InhibitorRegistry) (what : InhibitWhat)
    (grace : Duration) : About [.wait] (waitForDelayers inhibitors what grace) := by
  unfold waitForDelayers
  split <;> simp [Effect.topic]

theorem about_seqClosed (σ : Type) (topics : List Topic) :
    SeqClosed fun (_ : σ) (effects : List Effect) (_ : σ) => About topics effects :=
  ⟨fun _ => about_nil, fun h h' => about_append.2 ⟨h, h'⟩⟩

theorem about_forEach {σ α : Type} (f : σ → α → σ × List Effect) (as : List α)
    (h : ∀ s, ∀ a ∈ as, About topics (f s a).2) (s : σ) : About topics (forEach f s as).2 :=
  (about_seqClosed σ topics).loop f as h s

end About

namespace Daemon

variable {d : Daemon} {env : Env}

/-! ## One handler each -/

theorem trySpawnCompositor_about (spawned : Result Pid) (id : SessionId) :
    About [.process] (d.trySpawnCompositor spawned id).2 := by
  unfold trySpawnCompositor
  split
  · simp
  · split <;> simp [Effect.topic]

theorem createSession_about (userName : String) (seatId sessionType : Option String) :
    About [.process] (d.createSession env userName seatId sessionType).effects := by
  rcases createSession_cases d env userName seatId sessionType with
    ⟨e, sessions, -, heq⟩ | ⟨user, ctx, kind, launched, response, -, -, -, rfl | rfl, -, heq⟩
  · rw [heq]
    exact about_nil
  · rw [heq]
    exact trySpawnCompositor_about _ _
  · rw [heq]
    exact about_nil

theorem abandoned_about (registry : ConnRegistry) (reason : String)
    (abandoned : List AbandonedElevation) :
    About [.prompt, .reply] (abandoned.flatMap (notifyElevationAbandoned registry reason)) := by
  intro e he
  obtain ⟨_, -, hmem⟩ := List.mem_flatMap.1 he
  simp only [notifyElevationAbandoned, List.mem_cons, List.not_mem_nil, or_false] at hmem
  rcases hmem with rfl | rfl <;>
    simp [ConnRegistry.sendEvent, ConnRegistry.sendResponse, Effect.topic, Event.topic]

theorem terminateSession_about (id : SessionId) :
    About [.prompt, .reply] (d.terminateSession id).effects := by
  unfold terminateSession
  split
  · simp
  · exact abandoned_about _ _ _

theorem registerCompositor_about (connId : ConnId) (id : SessionId) :
    About [.lockScreen] (d.registerCompositor connId id).effects := by
  unfold registerCompositor
  split
  · simp
  · dsimp only
    split <;> simp [ConnRegistry.sendEvent, Effect.topic, Event.topic]

theorem showLock_about (id : SessionId) (reason : LockReason) :
    About [.lockScreen] (d.showLock id reason).2 := by
  unfold showLock
  split
  · simp
  · exact about_sendEventTo (List.mem_singleton_self _)

theorem lockSession_about (id : SessionId) (reason : LockReason) :
    About [.lockScreen] (d.lockSession env id reason).effects := by
  rcases lockSession_cases d env id reason with ⟨text, heq⟩ | ⟨locks, -, heq⟩
  · rw [heq]
    exact about_nil
  · rw [heq]
    exact showLock_about id reason

theorem authEffects_about (calls : List AuthRequest) :
    About [.credential] (d.authEffects env calls) := by
  intro e he
  obtain ⟨_, -, rfl⟩ := List.mem_map.1 he
  exact List.mem_singleton_self _

theorem tells_about {id : SessionId} {event : Event} {topics : List Topic}
    (h : event.topic ∈ topics) : About topics (d.tells id event) := by
  unfold tells
  split
  · exact about_sendEventTo h
  · simp

theorem unlock_about (id : SessionId) (userName password : String) :
    About [.credential, .lockScreen] (d.unlock env id userName password).effects := by
  have hcalls : About [.credential, .lockScreen]
      (d.authEffects env (d.unlockAttempt env id userName password).calls) :=
    (authEffects_about _).mono (by simp)
  by_cases hs : (d.unlockAttempt env id userName password).outcome = .success
  · rw [unlock_success hs]
    exact about_append.2 ⟨hcalls, tells_about (by simp [Event.topic])⟩
  · rw [unlock_failure hs]
    exact about_append.2 ⟨hcalls, tells_about (by simp [Event.topic])⟩

theorem switchSession_about (seatId : String) (id : SessionId) :
    About [.activation] (d.switchSession seatId id).effects := by
  unfold switchSession
  split
  · simp
  · dsimp only
    split
    · exact about_sendEventTo (List.mem_singleton_self _)
    · simp

theorem idleSuspend_about : About [.wait, .sleep, .suspend] (d.idleSuspend env).2 := by
  simp only [idleSuspend, MitosSession.suspend]
  split
  · simp
  · refine about_append.2 ⟨about_append.2 ⟨?_, ?_⟩, by simp [Effect.topic]⟩
    · exact (about_waitForDelayers _ _ _).mono (by simp)
    · refine about_forEach _ _ (fun locks ctx _ => ?_) _
      exact about_sendEventTo (by simp [Event.topic])

theorem startElevation_about (connId : ConnId) (id : SessionId) (action : ElevationAction) :
    About [.prompt] (d.startElevation env connId id action).effects := by
  rcases startElevation_cases d env connId id action with
    ⟨response, -, heq⟩ | ⟨ctx, compositorConn, begun, -, -, -, heq⟩
  · rw [heq]
    exact about_nil
  · rw [heq]
    simp [ConnRegistry.sendEvent, Effect.topic, Event.topic]

theorem reportElevation_about (requestId : ElevationRequestId) (resolved : ElevationOutcome) :
    About [.prompt, .reply] (d.reportElevation requestId resolved) := by
  unfold reportElevation
  split <;>
    simp [ConnRegistry.sendEvent, ConnRegistry.sendResponse, Effect.topic, Event.topic]

theorem respondElevation_about (requestId : ElevationRequestId) (response : ElevationResponse) :
    About [.credential, .prompt, .reply] (d.respondElevation env requestId response).effects := by
  rcases respondElevation_cases d env requestId response with
    ⟨e, heq⟩ | ⟨p, -, ⟨-, heq⟩ | ⟨password, ctx, attempt, -, -, -, heq⟩⟩
  · rw [heq]
    exact about_nil
  · rw [heq]
    exact (reportElevation_about _ _).mono (by simp)
  · rw [heq]
    exact about_append.2 ⟨(authEffects_about _).mono (by simp),
      (reportElevation_about _ _).mono (by simp)⟩

theorem notifyActiveCompositor_about {seatId : String} {event : Event} {topics : List Topic}
    (h : event.topic ∈ topics) : About topics (d.notifyActiveCompositor seatId event) := by
  unfold notifyActiveCompositor
  split
  · split
    · exact about_sendEventTo h
    · simp
  · simp

theorem idleLock_about (seatId : String) : About [.lockScreen] (d.idleLock env seatId).2 := by
  rcases idleLock_shows d env seatId with heq | ⟨sessionId, locks, -, heq⟩
  · rw [heq]
    exact about_nil
  · rw [heq]
    exact showLock_about sessionId .idle

theorem idleChange_about (change : String × IdleStage) :
    About change.2.topics (idleChange env d change).2 := by
  obtain ⟨seatId, stage⟩ := change
  cases stage with
  | active => exact about_nil
  | dimmed => exact notifyActiveCompositor_about (List.mem_singleton_self _)
  | lockRequested => exact idleLock_about seatId
  | suspendRequested => exact idleSuspend_about

theorem sweep_about (now : Instant) : About [.prompt, .reply] (d.sweep now).2 :=
  abandoned_about _ _ _

theorem handleCompositorExit_about (child : ReapedChild) :
    About [.process] (d.handleCompositorExit child).2 := by
  unfold handleCompositorExit
  split
  · simp
  · dsimp only
    split
    · exact trySpawnCompositor_about _ _
    · split <;> simp [Effect.topic]

/-! ## The table -/

theorem dispatch_about (connId : ConnId) (request : Request) :
    About request.topics (d.dispatch env connId request).effects := by
  cases request with
  | createSession userName seatId sessionType => exact createSession_about _ _ _
  | terminateSession id => exact terminateSession_about id
  | registerCompositor id => exact registerCompositor_about connId id
  | listSessions => exact about_nil
  | sessionStatus id => exact about_nil
  | lockSession id => exact lockSession_about id .manual
  | unlock id userName password => exact unlock_about id userName password
  | reportActivity seatId => exact about_nil
  | switchSession seatId id => exact switchSession_about seatId id
  | inhibit what who why mode => exact about_nil
  | releaseInhibit inhibitId =>
      simp only [dispatch]
      split <;> exact about_nil
  | listInhibitors => exact about_nil
  | suspend => exact idleSuspend_about
  | reboot =>
      simp only [dispatch, MitosSession.reboot]
      split
      · exact about_nil
      · exact about_append.2 ⟨(about_waitForDelayers _ _ _).mono (by simp [Request.topics]),
          by simp [Effect.topic, Request.topics]⟩
  | powerOff =>
      simp only [dispatch, MitosSession.poweroff]
      split
      · exact about_nil
      · exact about_append.2 ⟨(about_waitForDelayers _ _ _).mono (by simp [Request.topics]),
          by simp [Effect.topic, Request.topics]⟩
  | requestElevation id action => exact startElevation_about connId id action
  | respondElevation requestId response => exact respondElevation_about requestId response

theorem onIdleTick_about : About DaemonEvent.idleTick.topics (d.onIdleTick env).2 := by
  refine about_append.2 ⟨?_, (sweep_about env.now).mono (by simp [DaemonEvent.topics])⟩
  refine about_forEach (idleChange env) _ (fun d change _ => (idleChange_about change).mono ?_) _
  cases change.2 <;> simp [IdleStage.topics, DaemonEvent.topics]

/-- **No handler does what is not in the table.** -/
theorem handle_topics (d : Daemon) (env : Env) (event : DaemonEvent) :
    About event.topics (d.handle env event).2 := by
  match event with
  | .ipc (.connected connId peer outbox) => exact about_nil
  | .ipc (.disconnected connId) => exact abandoned_about _ _ _
  | .ipc (.command cmd) =>
      simp only [handle, handleIpc, handleCommand, DaemonEvent.topics]
      split
      · simp [ConnRegistry.sendResponse, Effect.topic]
      · refine about_append.2 ⟨(dispatch_about _ _).mono (List.subset_cons_self ..), ?_⟩
        intro e he
        simp only [Option.mem_toList, Option.map_eq_some_iff] at he
        obtain ⟨response, -, rfl⟩ := he
        exact List.mem_cons_self ..
  | .idleTick => exact onIdleTick_about
  | .signal .terminate => exact about_nil
  | .signal .reloadConfig => exact about_nil
  | .signal (.reapChildren children) =>
      exact about_forEach _ _ (fun d child _ => handleCompositorExit_about child) _

end Daemon

/-! ## Reading the table backwards -/

/-- Apart from prompts, replies and processes, everything comes from a request or an idle tick. -/
theorem DaemonEvent.of_mem_topics {event : DaemonEvent} {topic : Topic} (h : topic ∈ event.topics)
    (hother : topic ∉ [Topic.prompt, .reply, .process]) :
    (∃ cmd, event = .ipc (.command cmd) ∧ topic ∈ cmd.request.topics)
      ∨ event = .idleTick ∧ topic ∈ [Topic.dim, .lockScreen, .wait, .sleep, .suspend] := by
  simp only [List.mem_cons, List.not_mem_nil, or_false, not_or] at hother
  match event with
  | .ipc (.connected connId peer outbox) => simp [topics] at h
  | .ipc (.disconnected connId) => simp [topics, hother] at h
  | .ipc (.command cmd) =>
      rcases List.mem_cons.1 h with hreply | hrequest
      · exact absurd hreply hother.2.1
      · exact Or.inl ⟨cmd, rfl, hrequest⟩
  | .idleTick =>
      simp only [topics, List.mem_cons, List.not_mem_nil, or_false, hother] at h
      exact Or.inr ⟨rfl, by simpa using h⟩
  | .signal .terminate => simp [topics] at h
  | .signal .reloadConfig => simp [topics] at h
  | .signal (.reapChildren children) => simp [topics, hother] at h

namespace Request

theorem eq_suspend_of_topics {request : Request} {topic : Topic} (h : topic ∈ request.topics)
    (htopic : topic = .suspend ∨ topic = .sleep) : request = .suspend := by
  cases request with
  | suspend => rfl
  | _ => rcases htopic with rfl | rfl <;> simp [topics] at h

theorem eq_reboot_of_topics {request : Request} (h : Topic.reboot ∈ request.topics) :
    request = .reboot := by
  cases request with
  | reboot => rfl
  | _ => simp [topics] at h

theorem eq_powerOff_of_topics {request : Request} (h : Topic.poweroff ∈ request.topics) :
    request = .powerOff := by
  cases request with
  | powerOff => rfl
  | _ => simp [topics] at h

end Request

end MitosSession
