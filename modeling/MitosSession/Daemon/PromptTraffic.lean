import MitosSession.Daemon.Prompts
import MitosSession.Daemon.Topics

set_option autoImplicit false

/-! # What a prompt says

A prompt is opened by one handler and closed by any of five: an answer, a cancellation, its
timeout, the end of its session, the loss of a connection. Whatever the order, its compositor hears
one `ShowElevationPrompt`, then the failed attempts, then possibly the outcome that ended it, then
one `HideElevationPrompt`, and its requester is answered once, together with the latter.

`Talk` is what a handler may say about the prompts that are open, relative to how it leaves the
prompt table. It is closed under sequence, so it carries over from closing one prompt to the loops
that close many; `Follows` is the history invariant that ties the table to what was said so far. -/

namespace MitosSession

/-- The prompt an event is about. -/
def Event.requestId : Event → Option ElevationRequestId
  | .showElevationPrompt id _ _ => some id
  | .elevationFeedback id _ => some id
  | .hideElevationPrompt id => some id
  | _ => none

/-- An event about the prompt, and the connection it is addressed to. -/
def Effect.promptEvent (id : ElevationRequestId) : Effect → Option (ConnId × Event)
  | .send c (.event event) _ => if event.requestId = some id then some (c, event) else none
  | _ => none

/-- The prompt an effect hides. -/
def Effect.hides : Effect → Option ElevationRequestId
  | .send _ (.event (.hideElevationPrompt id)) _ => some id
  | _ => none

/-- A response, and the connection it is addressed to. -/
def Effect.responds : Effect → Option (ConnId × Response)
  | .send c (.response response) _ => some (c, response)
  | _ => none

/-- The effects of a step but for the immediate reply to the command it handled, which comes last.
    (A command that is not replied to at once has the prompt it opens shown instead.) -/
def DaemonLabel.deferring : DaemonLabel → List Effect
  | .handled _ (.ipc (.command _)) effects => effects.dropLast
  | .handled _ _ effects => effects
  | .rehash => []

/-- The deferred responses that resolve a prompt: the `n`-th one goes with the `n`-th prompt
    hidden. -/
def answersIn (id : ElevationRequestId) (effects : List Effect) : List (ConnId × Response) :=
  ((effects.filterMap Effect.hides).zip (effects.filterMap Effect.responds)).filterMap
    fun answer => if answer.1 = id then some answer.2 else none

/-! ## The grammar -/

/-- Any number of failed attempts. -/
def Failures (id : ElevationRequestId) (c : ConnId) (events : List (ConnId × Event)) : Prop :=
  ∃ remaining : List ℕ,
    events = remaining.map fun n => (c, .elevationFeedback id (.failure n))

/-- The end of a prompt: failed attempts, possibly another outcome, and the prompt is hidden. -/
def Ending (id : ElevationRequestId) (c : ConnId) (events : List (ConnId × Event)) : Prop :=
  ∃ failures, Failures id c failures ∧ ∃ last : Option AuthOutcome,
    (∀ outcome ∈ last, ∀ n, outcome ≠ .failure n)
      ∧ events = failures ++ (last.map fun outcome => (c, .elevationFeedback id outcome)).toList
        ++ [(c, .hideElevationPrompt id)]

/-- Everything a compositor hears of a prompt. -/
def Sentence (id : ElevationRequestId) (c : ConnId) (events : List (ConnId × Event)) : Prop :=
  ∃ sessionId action ending, Ending id c ending
    ∧ events = (c, .showElevationPrompt id sessionId action) :: ending

/-- The prompt was shown. -/
def Shown (id : ElevationRequestId) (events : List (ConnId × Event)) : Prop :=
  ∃ c sessionId action, (c, .showElevationPrompt id sessionId action) ∈ events

/-- The prompt was hidden. -/
def Hidden (id : ElevationRequestId) (events : List (ConnId × Event)) : Prop :=
  ∃ c, (c, .hideElevationPrompt id) ∈ events

section Grammar

variable {id : ElevationRequestId} {c : ConnId} {events events' : List (ConnId × Event)}

theorem Failures.nil : Failures id c [] :=
  ⟨[], rfl⟩

theorem Failures.append (h : Failures id c events) (h' : Failures id c events') :
    Failures id c (events ++ events') := by
  obtain ⟨remaining, rfl⟩ := h
  obtain ⟨remaining', rfl⟩ := h'
  exact ⟨remaining ++ remaining', (List.map_append ..).symm⟩

theorem Failures.ending (h : Failures id c events) (h' : Ending id c events') :
    Ending id c (events ++ events') := by
  obtain ⟨failures, hfailures, last, hlast, rfl⟩ := h'
  exact ⟨events ++ failures, h.append hfailures, last, hlast, by simp only [List.append_assoc]⟩

theorem Failures.not_hidden (h : Failures id c events) : ¬ Hidden id events := by
  obtain ⟨remaining, rfl⟩ := h
  simp [Hidden]

theorem Ending.hidden (h : Ending id c events) : Hidden id events := by
  obtain ⟨failures, -, last, -, rfl⟩ := h
  exact ⟨c, List.mem_append_right _ (List.mem_singleton_self _)⟩

/-- A prompt that is open could be hidden next. -/
theorem Failures.ending_hide (h : Failures id c events) :
    Ending id c (events ++ [(c, .hideElevationPrompt id)]) :=
  h.ending ⟨[], Failures.nil, none, by simp, rfl⟩

theorem not_hidden_cons {sessionId : SessionId} {action : ElevationAction}
    (h : ¬ Hidden id events) :
    ¬ Hidden id ((c, .showElevationPrompt id sessionId action) :: events) := by
  rintro ⟨c', hmem⟩
  rcases List.mem_cons.1 hmem with heq | hmem
  · cases heq
  · exact h ⟨c', hmem⟩

theorem Sentence.hidden (h : Sentence id c events) : Hidden id events := by
  obtain ⟨sessionId, action, ending, hending, rfl⟩ := h
  obtain ⟨c', hmem⟩ := hending.hidden
  exact ⟨c', List.mem_cons_of_mem _ hmem⟩

end Grammar

/-! ## What a handler says -/

/-- What is said about prompts while the prompt table goes from `m` to `m'`: nothing about those
    that are not open; of the others, those that stay open fail, and those that do not come to
    their end and are answered. No deferred response is about anything else. -/
structure Talk (m : ElevationManager) (effects : List Effect) (m' : ElevationManager) : Prop where
  nextId : m'.nextId = m.nextId
  paired : (effects.filterMap Effect.hides).length = (effects.filterMap Effect.responds).length
  silent : ∀ id, m.pending.lookup id = none → m'.pending.lookup id = none
    ∧ effects.filterMap (Effect.promptEvent id) = [] ∧ answersIn id effects = []
  spoken : ∀ id p, m.pending.lookup id = some p →
    (m'.pending.lookup id = some p
        ∧ Failures id p.compositorConn (effects.filterMap (Effect.promptEvent id))
        ∧ answersIn id effects = [])
      ∨ (m'.pending.lookup id = none
        ∧ Ending id p.compositorConn (effects.filterMap (Effect.promptEvent id))
        ∧ ∃ outcome, answersIn id effects = [(p.requesterConn, .authResult outcome)])

theorem answersIn_append (id : ElevationRequestId) {effects : List Effect}
    (h : (effects.filterMap Effect.hides).length = (effects.filterMap Effect.responds).length)
    (effects' : List Effect) :
    answersIn id (effects ++ effects') = answersIn id effects ++ answersIn id effects' := by
  simp only [answersIn, List.filterMap_append, List.zip_append h]

theorem talk_seqClosed : SeqClosed Talk where
  refl := by
    intro m
    exact ⟨rfl, rfl, fun id h => ⟨h, rfl, rfl⟩, fun id p h => Or.inl ⟨h, Failures.nil, rfl⟩⟩
  trans := by
    intro m m' m'' effects effects' h h'
    refine ⟨h'.nextId.trans h.nextId, ?_, fun id hnone => ?_, fun id p hp => ?_⟩
    · simp only [List.filterMap_append, List.length_append, h.paired, h'.paired]
    · obtain ⟨hnone', hevents, hanswers⟩ := h.silent id hnone
      obtain ⟨hnone'', hevents', hanswers'⟩ := h'.silent id hnone'
      rw [answersIn_append id h.paired, List.filterMap_append, hevents, hevents', hanswers,
        hanswers']
      exact ⟨hnone'', rfl, rfl⟩
    · rw [answersIn_append id h.paired, List.filterMap_append]
      rcases h.spoken id p hp with ⟨hp', hfailures, hanswers⟩ | ⟨hnone, hending, hanswers⟩
      · rw [hanswers, List.nil_append]
        rcases h'.spoken id p hp' with ⟨hp'', hfailures', hanswers'⟩ | ⟨hnone, hending, hanswers'⟩
        · exact Or.inl ⟨hp'', hfailures.append hfailures', hanswers'⟩
        · exact Or.inr ⟨hnone, hfailures.ending hending, hanswers'⟩
      · -- once it is over there is nothing more to say
        obtain ⟨hnone', hevents', hanswers'⟩ := h'.silent id hnone
        rw [hevents', hanswers', List.append_nil, List.append_nil]
        exact Or.inr ⟨hnone', hending, hanswers⟩

section Talk

variable {m m' : ElevationManager} {effects : List Effect}

/-- A step answers for a prompt exactly if it hides it. -/
theorem Talk.hidden_iff (h : Talk m effects m') (id : ElevationRequestId) :
    Hidden id (effects.filterMap (Effect.promptEvent id)) ↔ answersIn id effects ≠ [] := by
  cases hp : m.pending.lookup id with
  | none =>
      obtain ⟨-, hsilent, hanswers⟩ := h.silent id hp
      simp [Hidden, hsilent, hanswers]
  | some p =>
      rcases h.spoken id p hp with ⟨-, hfailures, hanswers⟩ | ⟨-, hending, outcome, hanswers⟩
      · simp only [hanswers, ne_eq, not_true_eq_false, iff_false]
        exact hfailures.not_hidden
      · simp only [hanswers, ne_eq, reduceCtorEq, not_false_eq_true, iff_true]
        exact hending.hidden

/-- Neither a prompt event nor a response. -/
def Effect.isQuiet (e : Effect) : Prop :=
  e.topic ≠ .prompt ∧ e.topic ≠ .reply

theorem promptEvent_of_topic {e : Effect} (h : e.topic ≠ .prompt) (id : ElevationRequestId) :
    e.promptEvent id = none := by
  cases e with
  | send c message queued =>
      cases message with
      | response response => rfl
      | event event => cases event <;> first | rfl | exact absurd rfl h
  | _ => rfl

theorem hides_of_topic {e : Effect} (h : e.topic ≠ .prompt) : e.hides = none := by
  cases e with
  | send c message queued =>
      cases message with
      | response response => rfl
      | event event => cases event <;> first | rfl | exact absurd rfl h
  | _ => rfl

theorem responds_of_topic {e : Effect} (h : e.topic ≠ .reply) : e.responds = none := by
  cases e with
  | send c message queued =>
      cases message with
      | response response => exact absurd rfl h
      | event event => rfl
  | _ => rfl

/-- Saying nothing about prompts, and leaving them as they are. -/
theorem Talk.quiet (hpending : ∀ id, m'.pending.lookup id = m.pending.lookup id)
    (hnext : m'.nextId = m.nextId)
    (heffects : ∀ e ∈ effects, e.isQuiet) : Talk m effects m' := by
  have hevents : ∀ id, effects.filterMap (Effect.promptEvent id) = [] := fun id =>
    List.filterMap_eq_nil_iff.2 fun e he => promptEvent_of_topic (heffects e he).1 id
  have hhides : effects.filterMap Effect.hides = [] :=
    List.filterMap_eq_nil_iff.2 fun e he => hides_of_topic (heffects e he).1
  have hresponds : effects.filterMap Effect.responds = [] :=
    List.filterMap_eq_nil_iff.2 fun e he => responds_of_topic (heffects e he).2
  have hanswers : ∀ id, answersIn id effects = [] := by
    intro id
    simp only [answersIn, hhides, List.zip_nil_left, List.filterMap_nil]
  refine ⟨hnext, by simp only [hhides, hresponds, List.length_nil], fun id hnone => ?_,
    fun id p hp => ?_⟩
  · rw [hpending]
    exact ⟨hnone, hevents id, hanswers id⟩
  · rw [hpending, hevents, hanswers]
    exact Or.inl ⟨hp, Failures.nil, rfl⟩

/-- How a prompt comes to its end: possibly an outcome, then the prompt is hidden and its requester
    answered. -/
def farewell (registry : ConnRegistry) (id : ElevationRequestId) (p : PendingElevation)
    (last : Option AuthOutcome) (outcome : AuthOutcome) : List Effect :=
  (last.map fun outcome =>
      registry.sendEvent p.compositorConn (.elevationFeedback id outcome)).toList
    ++ [registry.sendEvent p.compositorConn (.hideElevationPrompt id),
      registry.sendResponse p.requesterConn (.authResult outcome)]

section Farewell

variable (registry : ConnRegistry) (id : ElevationRequestId) (p : PendingElevation)
  (last : Option AuthOutcome) (outcome : AuthOutcome)

theorem farewell_promptEvent (k : ElevationRequestId) :
    (farewell registry id p last outcome).filterMap (Effect.promptEvent k)
      = if id = k then
          (last.map fun outcome => (p.compositorConn, .elevationFeedback id outcome)).toList
            ++ [(p.compositorConn, .hideElevationPrompt id)]
        else [] := by
  unfold farewell
  by_cases hk : id = k <;> cases last <;>
    simp [ConnRegistry.sendEvent, ConnRegistry.sendResponse, Effect.promptEvent,
      Event.requestId, hk]

theorem farewell_hides : (farewell registry id p last outcome).filterMap Effect.hides = [id] := by
  cases last <;> rfl

theorem farewell_responds :
    (farewell registry id p last outcome).filterMap Effect.responds
      = [(p.requesterConn, .authResult outcome)] := by
  cases last <;> rfl

theorem farewell_answersIn (k : ElevationRequestId) :
    answersIn k (farewell registry id p last outcome)
      = if id = k then [(p.requesterConn, .authResult outcome)] else [] := by
  unfold answersIn
  rw [farewell_hides, farewell_responds]
  by_cases hk : id = k <;> simp [hk]

end Farewell

theorem Talk.close {registry : ConnRegistry} {id : ElevationRequestId} {p : PendingElevation}
    {last : Option AuthOutcome} {outcome : AuthOutcome} (hp : m.pending.lookup id = some p)
    (hpending : ∀ k, m'.pending.lookup k = if k = id then none else m.pending.lookup k)
    (hnext : m'.nextId = m.nextId) (hlast : ∀ outcome ∈ last, ∀ n, outcome ≠ .failure n) :
    Talk m (farewell registry id p last outcome) m' := by
  refine ⟨hnext, ?_, fun k hnone => ?_, fun k q hq => ?_⟩
  · rw [farewell_hides, farewell_responds]
    rfl
  · have hk : id ≠ k := by
      rintro rfl
      rw [hp] at hnone
      cases hnone
    rw [hpending, farewell_promptEvent, farewell_answersIn, if_neg hk.symm, if_neg hk, if_neg hk]
    exact ⟨hnone, rfl, rfl⟩
  · rw [hpending, farewell_promptEvent, farewell_answersIn]
    by_cases hk : id = k
    · subst hk
      obtain rfl := Option.some.inj (hp.symm.trans hq)
      rw [if_pos rfl, if_pos rfl, if_pos rfl]
      exact Or.inr ⟨rfl, ⟨[], Failures.nil, last, hlast, rfl⟩, outcome, rfl⟩
    · rw [if_neg (Ne.symm hk), if_neg hk, if_neg hk]
      exact Or.inl ⟨hq, Failures.nil, rfl⟩

/-- A failed attempt is reported, and the prompt stays open. -/
theorem Talk.failed {registry : ConnRegistry} {id : ElevationRequestId} {p : PendingElevation}
    {n : ℕ} (hp : m.pending.lookup id = some p)
    (hpending : ∀ k, m'.pending.lookup k = m.pending.lookup k) (hnext : m'.nextId = m.nextId) :
    Talk m [registry.sendEvent p.compositorConn (.elevationFeedback id (.failure n))] m' := by
  have hevents : ∀ k, [registry.sendEvent p.compositorConn
      (.elevationFeedback id (.failure n))].filterMap (Effect.promptEvent k)
      = if id = k then [(p.compositorConn, .elevationFeedback id (.failure n))] else [] := by
    intro k
    by_cases hk : id = k <;>
      simp [ConnRegistry.sendEvent, Effect.promptEvent, Event.requestId, hk]
  refine ⟨hnext, rfl, fun k hnone => ?_, fun k q hq => ?_⟩
  · have hk : id ≠ k := by
      rintro rfl
      rw [hp] at hnone
      cases hnone
    rw [hpending, hevents, if_neg hk]
    exact ⟨hnone, rfl, rfl⟩
  · rw [hpending, hevents]
    by_cases hk : id = k
    · subst hk
      obtain rfl := Option.some.inj (hp.symm.trans hq)
      rw [if_pos rfl]
      exact Or.inl ⟨hq, ⟨[n], rfl⟩, rfl⟩
    · rw [if_neg hk]
      exact Or.inl ⟨hq, Failures.nil, rfl⟩

end Talk

namespace Daemon

variable {m m' : ElevationManager} {d : Daemon} {env : Env}

/-- Prompts torn down unanswered come to their end one after the other. -/
theorem takeAll_talk (registry : ConnRegistry) (reason : String) (ids : List ElevationRequestId)
    (m : ElevationManager) :
    Talk m ((m.takeAll ids).2.flatMap (notifyElevationAbandoned registry reason))
      (m.takeAll ids).1 := by
  induction ids generalizing m with
  | nil => exact talk_seqClosed.refl m
  | cons id rest ih =>
      have hrest := ih (m.close id)
      simp only [ElevationManager.takeAll, forEach_cons, List.flatMap_append] at hrest ⊢
      refine talk_seqClosed.trans ?_ hrest
      cases hp : m.pending.lookup id with
      | none =>
          simp only [ElevationManager.takeAbandoned, hp, Option.map_none, Option.toList_none,
            List.flatMap_nil]
          refine Talk.quiet (fun k => ?_) rfl (by simp)
          rw [ElevationManager.close_pending]
          split
          · rename_i hk
            rw [hk, hp]
          · rfl
      | some p =>
          simp only [ElevationManager.takeAbandoned, hp, Option.map_some, Option.toList_some,
            List.flatMap_cons, List.flatMap_nil, List.append_nil, notifyElevationAbandoned]
          have hclose : Talk m (farewell registry id p none (.error reason)) (m.close id) :=
            Talk.close hp (m.close_pending id) rfl (by simp)
          exact hclose

/-- An answer that ends the prompt is reported to both parties. -/
theorem reportElevation_talk {id : ElevationRequestId} {p : PendingElevation}
    {outcome : AuthOutcome} (hp : m.pending.lookup id = some p)
    (hpending : ∀ k, m'.pending.lookup k = if k = id then none else m.pending.lookup k)
    (hnext : m'.nextId = m.nextId) (houtcome : ∀ n, outcome ≠ .failure n) :
    Talk m
      (d.reportElevation id
        { sessionId := p.sessionId
          compositorConn := p.compositorConn
          requesterConn := p.requesterConn
          outcome
          terminal := true }) m' := by
  have hclose : Talk m (farewell d.registry id p (some outcome) outcome) m' :=
    Talk.close hp hpending hnext (by simpa using houtcome)
  exact hclose

theorem attempt_talk {id : ElevationRequestId} {p : PendingElevation}
    {authenticator : Authenticator} {request : AuthRequest} {policy : AuthPolicy} {now : Instant}
    {attempt : ElevationAttempt} (hp : d.elevation.pending.lookup id = some p)
    (h : d.elevation.attempt id authenticator request policy now = some attempt) :
    Talk d.elevation (d.authEffects env attempt.calls ++ d.reportElevation id attempt.resolved)
      attempt.manager := by
  have hcalls : Talk d.elevation (d.authEffects env attempt.calls) d.elevation := by
    refine Talk.quiet (fun _ => rfl) rfl fun e he => ?_
    have hcredential := List.mem_singleton.1 (authEffects_about attempt.calls e he)
    simp [Effect.isQuiet, hcredential]
  refine talk_seqClosed.trans hcalls ?_
  cases ha : authenticator.accepts request with
  | true =>
      rw [ElevationManager.attempt_accepted policy now hp ha] at h
      obtain rfl := Option.some.inj h
      have hpending := ElevationManager.close_pending { d.elevation with
        sessionAuth := d.elevation.sessionAuth.insert p.sessionId
          { d.elevation.auth p.sessionId with attempts := 0 } } id
      exact reportElevation_talk hp hpending rfl (by simp)
  | false =>
      rw [ElevationManager.attempt_rejected policy now hp ha] at h
      split at h
      · obtain rfl := Option.some.inj h
        have hpending := ElevationManager.close_pending { d.elevation with
          sessionAuth := d.elevation.sessionAuth.insert p.sessionId
            { lockedOut := true
              attempts := wrapU32 ((d.elevation.auth p.sessionId).attempts + 1) }
          timeouts := d.elevation.timeouts.startLockout p.sessionId now policy.lockout } id
        exact reportElevation_talk hp hpending rfl (by simp)
      · obtain rfl := Option.some.inj h
        refine Talk.failed hp ?_ ?_
        · exact fun _ => rfl
        · rfl

theorem respondElevation_talk (d : Daemon) (env : Env) (requestId : ElevationRequestId)
    (response : ElevationResponse) :
    (∃ reply, (d.respondElevation env requestId response).response = some reply)
      ∧ Talk d.elevation (d.respondElevation env requestId response).effects
        (d.respondElevation env requestId response).daemon.elevation := by
  rcases respondElevation_cases d env requestId response with
    ⟨e, heq⟩ | ⟨p, hp, ⟨-, heq⟩ | ⟨password, ctx, attempt, -, -, hattempt, heq⟩⟩
  · rw [heq]
    exact ⟨⟨_, rfl⟩, talk_seqClosed.refl _⟩
  · rw [heq]
    exact ⟨⟨_, rfl⟩, reportElevation_talk hp (d.elevation.close_pending requestId) rfl (by simp)⟩
  · rw [heq]
    exact ⟨⟨_, rfl⟩, attempt_talk hp hattempt⟩

theorem terminateSession_talk (d : Daemon) (s : SessionId) :
    (∃ reply, (d.terminateSession s).response = some reply)
      ∧ Talk d.elevation (d.terminateSession s).effects
        (d.terminateSession s).daemon.elevation := by
  rcases terminateSession_cases d s with ⟨e, -, heq⟩ | ⟨ctx, -, heq⟩
  · rw [heq]
    exact ⟨⟨_, rfl⟩, talk_seqClosed.refl _⟩
  · rw [heq]
    exact ⟨⟨_, rfl⟩, takeAll_talk d.registry "session ended" _ d.elevation⟩

/-! ## Whole events -/

theorem dispatch_isQuiet (connId : ConnId) {request : Request}
    (h : Topic.prompt ∉ request.topics) :
    ∀ e ∈ (d.dispatch env connId request).effects, e.isQuiet := by
  have hreply : Topic.reply ∉ request.topics := by
    cases request <;> simp_all [Request.topics]
  intro e he
  have hlisted := dispatch_about connId request e he
  refine ⟨fun heq => h ?_, fun heq => hreply ?_⟩
  · rwa [heq] at hlisted
  · rwa [heq] at hlisted

theorem idleChange_talk (change : String × IdleStage) :
    Talk d.elevation (idleChange env d change).2 (idleChange env d change).1.elevation := by
  rw [idleChange_elevation]
  refine Talk.quiet (fun _ => rfl) rfl fun e he => ?_
  have hlisted := idleChange_about change e he
  constructor <;> rintro heq <;> rw [heq] at hlisted <;>
    cases hstage : change.2 <;> simp [hstage, IdleStage.topics] at hlisted

theorem sweep_talk (now : Instant) :
    Talk d.elevation (d.sweep now).2 (d.sweep now).1.elevation := by
  -- ending lockouts and dropping due timers closes no prompt yet
  have htimers : Talk d.elevation []
      { d.elevation.clearExpiredLockouts now with
        timeouts := ((d.elevation.clearExpiredLockouts now).timeouts.expiredPrompts now).2 } := by
    refine Talk.quiet (fun _ => ?_) ?_ (by simp)
    · rfl
    · rfl
  exact talk_seqClosed.silent htimers
    (takeAll_talk d.registry "timed out waiting for a response" _ _)

theorem daemonTalk_seqClosed : SeqClosed fun (d : Daemon) (effects : List Effect) (d' : Daemon) =>
    Talk d.elevation effects d'.elevation :=
  ⟨fun d => talk_seqClosed.refl d.elevation, talk_seqClosed.trans⟩

theorem onIdleTick_talk : Talk d.elevation (d.onIdleTick env).2 (d.onIdleTick env).1.elevation := by
  have hloop := daemonTalk_seqClosed.loop (idleChange env)
    (d.idle.tick env.now (IdlePolicy.from d.settings.idle)).2
    (fun d change _ => idleChange_talk change)
    { d with idle := (d.idle.tick env.now (IdlePolicy.from d.settings.idle)).1 }
  exact talk_seqClosed.trans hloop (sweep_talk env.now)

theorem handleCompositorExit_talk (child : ReapedChild) :
    Talk d.elevation (d.handleCompositorExit child).2
      (d.handleCompositorExit child).1.elevation := by
  rw [handleCompositorExit_elevation]
  refine Talk.quiet (fun _ => rfl) rfl fun e he => ?_
  have hlisted := List.mem_singleton.1 (handleCompositorExit_about child e he)
  simp [Effect.isQuiet, hlisted]

theorem reapChildren_talk (children : List ReapedChild) :
    Talk d.elevation (d.reapChildren children).2 (d.reapChildren children).1.elevation :=
  daemonTalk_seqClosed.loop handleCompositorExit children
    (fun _ child _ => handleCompositorExit_talk child) d

/-- What a step says about prompts: it talks about the open ones, or opens one and shows it. -/
def Speaks (d : Daemon) (env : Env) (event : DaemonEvent) (effects : List Effect) (d' : Daemon) :
    Prop :=
  (Talk d.elevation (DaemonLabel.handled env event effects).deferring d'.elevation
      ∧ ∀ id, effects.filterMap (Effect.promptEvent id)
        = (DaemonLabel.handled env event effects).deferring.filterMap (Effect.promptEvent id))
    ∨ ∃ cmd id s action ctx conn, event = .ipc (.command cmd) ∧ Opens env d cmd id s ctx conn d'
      ∧ effects = [d.registry.sendEvent conn (.showElevationPrompt id s action)]

/-- A command that is replied to at once. -/
theorem Speaks.replied {cmd : ManagerCommand} {effects : List Effect} {d' : Daemon}
    (h : Talk d.elevation effects d'.elevation) (registry : ConnRegistry) (conn : ConnId)
    (response : Response) :
    Speaks d env (.ipc (.command cmd)) (effects ++ [registry.sendResponse conn response]) d' := by
  left
  simp only [DaemonLabel.deferring, List.dropLast_concat]
  refine ⟨h, fun id => ?_⟩
  simp [ConnRegistry.sendResponse, Effect.promptEvent]

/-- A reply with a response in it. -/
theorem Speaks.reply {cmd : ManagerCommand} {reply : Reply} {response : Response}
    (hresponse : reply.response = some response)
    (htalk : Talk d.elevation reply.effects reply.daemon.elevation) :
    Speaks d env (.ipc (.command cmd))
      (reply.effects ++ (reply.response.map (reply.daemon.registry.sendResponse cmd.connId)).toList)
      reply.daemon := by
  rw [hresponse]
  exact Speaks.replied htalk reply.daemon.registry cmd.connId response

theorem dispatch_speaks {cmd : ManagerCommand}
    (hauth : authorize env.userByName cmd.peer cmd.connId cmd.request d.sessions d.elevation
      = .ok ()) :
    let reply := d.dispatch env cmd.connId cmd.request
    Speaks d env (.ipc (.command cmd))
      (reply.effects ++ (reply.response.map (reply.daemon.registry.sendResponse cmd.connId)).toList)
      reply.daemon := by
  intro reply
  by_cases hprompt : Topic.prompt ∈ cmd.request.topics
  · cases hrequest : cmd.request with
    | terminateSession s =>
        have hreply : reply = d.terminateSession s := by simp only [reply, hrequest, dispatch]
        obtain ⟨⟨response, hresponse⟩, htalk⟩ := terminateSession_talk d s
        rw [hreply]
        exact Speaks.reply hresponse htalk
    | respondElevation requestId answer =>
        have hreply : reply = d.respondElevation env requestId answer := by
          simp only [reply, hrequest, dispatch]
        obtain ⟨⟨response, hresponse⟩, htalk⟩ := respondElevation_talk d env requestId answer
        rw [hreply]
        exact Speaks.reply hresponse htalk
    | requestElevation s action =>
        have hreply : reply = d.startElevation env cmd.connId s action := by
          simp only [reply, hrequest, dispatch]
        rcases startElevation_cases d env cmd.connId s action with
          ⟨response, -, heq⟩ | ⟨ctx, conn, begun, hctx, hconn, hbegin, heq⟩
        · rw [hreply, heq]
          exact Speaks.reply rfl (talk_seqClosed.refl _)
        · right
          obtain ⟨-, hid, hmanager⟩ := ElevationManager.begin_eq_ok_iff.1 hbegin
          rw [hreply, heq, hmanager]
          exact ⟨cmd, begun.2, s, action, ctx, conn, rfl,
            ⟨hauth, ⟨action, hrequest⟩, hctx, hconn, hid, hid.symm, by rw [hid], rfl, rfl⟩, rfl⟩
    | _ => simp [hrequest, Request.topics] at hprompt
  · have hquiet : ∀ e ∈ reply.effects, e.isQuiet := dispatch_isQuiet cmd.connId hprompt
    have helevation : reply.daemon.elevation = d.elevation := by
      refine dispatch_elevation cmd.connId ?_
      cases hrequest : cmd.request <;> simp_all [Request.topics, Request.writesElevation]
    have htalk : ∀ effects : List Effect, (∀ e ∈ effects, e.isQuiet) →
        Talk d.elevation effects reply.daemon.elevation := by
      intro effects heffects
      rw [helevation]
      exact Talk.quiet (fun _ => rfl) rfl heffects
    cases hresponse : reply.response with
    | some response => exact hresponse ▸ Speaks.reply hresponse (htalk _ hquiet)
    | none =>
        left
        simp only [Option.map_none, Option.toList_none, List.append_nil, DaemonLabel.deferring]
        have hinit : ∀ e ∈ reply.effects.dropLast, e.isQuiet := fun e he =>
          hquiet e ((List.dropLast_subset _) he)
        refine ⟨htalk _ hinit, fun id => ?_⟩
        rw [List.filterMap_eq_nil_iff.2 fun e he => promptEvent_of_topic (hquiet e he).1 id,
          List.filterMap_eq_nil_iff.2 fun e he => promptEvent_of_topic (hinit e he).1 id]

theorem handle_speaks (d : Daemon) (env : Env) (event : DaemonEvent) :
    Speaks d env event (d.handle env event).2 (d.handle env event).1 := by
  match event with
  | .ipc (.connected connId peer outbox) =>
      exact Or.inl ⟨talk_seqClosed.refl _, fun _ => rfl⟩
  | .ipc (.disconnected connId) =>
      exact Or.inl ⟨takeAll_talk _ "a required connection disconnected" _ _, fun _ => rfl⟩
  | .ipc (.command cmd) =>
      cases hauth : authorize env.userByName cmd.peer cmd.connId cmd.request d.sessions
        d.elevation with
      | error e =>
          rw [handle_rejected hauth]
          exact Speaks.replied (talk_seqClosed.refl _) d.registry cmd.connId _
      | ok u =>
          rw [handle_authorized hauth]
          exact dispatch_speaks hauth
  | .idleTick => exact Or.inl ⟨onIdleTick_talk, fun _ => rfl⟩
  | .signal .terminate => exact Or.inl ⟨talk_seqClosed.refl _, fun _ => rfl⟩
  | .signal .reloadConfig =>
      refine Or.inl ⟨?_, fun _ => rfl⟩
      simp only [handle, onSignal, reloadConfig]
      split
      · exact talk_seqClosed.refl _
      · refine Talk.quiet ?_ ?_ (by simp [DaemonLabel.deferring])
        · exact fun _ => rfl
        · rfl
  | .signal (.reapChildren children) => exact Or.inl ⟨reapChildren_talk children, fun _ => rfl⟩

/-! ## Whole runs -/

/-- Everything that is said about a prompt, and to whom. -/
def traffic (id : ElevationRequestId) (tr : List (Transition Daemon DaemonLabel)) :
    List (ConnId × Event) :=
  tr.flatMap fun x => x.label.effects.filterMap (Effect.promptEvent id)

/-- The deferred responses that resolve it. -/
def answers (id : ElevationRequestId) (tr : List (Transition Daemon DaemonLabel)) :
    List (ConnId × Response) :=
  tr.flatMap fun x => answersIn id x.label.deferring

/-- The prompt as it was opened, with the connections it captured. -/
def captured (id : ElevationRequestId) (tr : List (Transition Daemon DaemonLabel)) :
    Option PendingElevation :=
  tr.findSome? fun x => x.post.elevation.pending.lookup id

/-- How far a prompt has come: never opened, open, or over. -/
def Follows (id : ElevationRequestId) (tr : List (Transition Daemon DaemonLabel)) (d : Daemon) :
    Prop :=
  (captured id tr = none ∧ d.elevation.pending.lookup id = none ∧ traffic id tr = []
      ∧ answers id tr = [])
    ∨ ∃ p, captured id tr = some p ∧ id ≤ d.elevation.nextId
      ∧ ((d.elevation.pending.lookup id = some p
          ∧ (∃ sessionId action failures, Failures id p.compositorConn failures
            ∧ traffic id tr
              = (p.compositorConn, .showElevationPrompt id sessionId action) :: failures)
          ∧ answers id tr = [])
        ∨ (d.elevation.pending.lookup id = none ∧ Sentence id p.compositorConn (traffic id tr)
          ∧ ∃ outcome, answers id tr = [(p.requesterConn, .authResult outcome)]))

section Runs

variable {d' : Daemon} {id : ElevationRequestId} {tr : List (Transition Daemon DaemonLabel)}
  {l : DaemonLabel}

theorem traffic_snoc (x : Transition Daemon DaemonLabel) :
    traffic id (tr ++ [x])
      = traffic id tr ++ x.label.effects.filterMap (Effect.promptEvent id) := by
  simp only [traffic, List.flatMap_append, List.flatMap_singleton]

theorem answers_snoc (x : Transition Daemon DaemonLabel) :
    answers id (tr ++ [x]) = answers id tr ++ answersIn id x.label.deferring := by
  simp only [answers, List.flatMap_append, List.flatMap_singleton]

theorem captured_snoc (x : Transition Daemon DaemonLabel) :
    captured id (tr ++ [x])
      = (captured id tr).or (x.post.elevation.pending.lookup id) := by
  simp only [captured, List.findSome?_append, List.findSome?_singleton]

/-- A step that talks about the open prompts moves each along. -/
theorem Follows.talk (h : Follows id tr d) (htalk : Talk d.elevation l.deferring d'.elevation)
    (hevents : l.effects.filterMap (Effect.promptEvent id)
      = l.deferring.filterMap (Effect.promptEvent id)) :
    Follows id (tr ++ [⟨d, l, d'⟩]) d' := by
  unfold Follows
  rw [captured_snoc, traffic_snoc, answers_snoc, hevents, htalk.nextId]
  rcases h with ⟨hnever, hnone, hsaid, hgiven⟩ | ⟨p, hcaptured, hid, hopen | hover⟩
  · obtain ⟨hnone', hsilent, hanswers⟩ := htalk.silent id hnone
    rw [hnever, hsaid, hgiven, hsilent, hanswers]
    exact Or.inl ⟨hnone', hnone', rfl, rfl⟩
  · obtain ⟨hp, ⟨sessionId, action, failures, hfailures, hsaid⟩, hgiven⟩ := hopen
    rw [hcaptured, hsaid, hgiven]
    refine Or.inr ⟨p, rfl, hid, ?_⟩
    rcases htalk.spoken id p hp with ⟨hp', hmore, hanswers⟩ | ⟨hnone, hending, outcome, hanswers⟩
    · rw [hanswers]
      exact Or.inl ⟨hp', ⟨sessionId, action, _, hfailures.append hmore, rfl⟩, rfl⟩
    · rw [hanswers]
      exact Or.inr ⟨hnone, ⟨sessionId, action, _, hfailures.ending hending, rfl⟩, outcome, rfl⟩
  · obtain ⟨hnone, hsentence, hgiven⟩ := hover
    obtain ⟨hnone', hsilent, hanswers⟩ := htalk.silent id hnone
    rw [hcaptured, hsilent, hanswers, List.append_nil, List.append_nil]
    exact Or.inr ⟨p, rfl, hid, Or.inr ⟨hnone', hsentence, hgiven⟩⟩

/-- A step that opens a prompt shows it, and says nothing about the others. -/
theorem Follows.opens {cmd : ManagerCommand} {new : ElevationRequestId} {s : SessionId}
    {action : ElevationAction} {ctx : SessionContext} {conn : ConnId} (h : Follows id tr d)
    (hopens : Opens env d cmd new s ctx conn d') :
    Follows id (tr ++ [⟨d, .handled env (.ipc (.command cmd))
      [d.registry.sendEvent conn (.showElevationPrompt new s action)], d'⟩]) d' := by
  unfold Follows
  rw [captured_snoc, traffic_snoc, answers_snoc]
  have hanswers : answersIn id (DaemonLabel.handled env (.ipc (.command cmd))
      [d.registry.sendEvent conn (.showElevationPrompt new s action)]).deferring = [] := rfl
  have hpending : d'.elevation.pending.lookup id
      = if id = new then some ⟨s, conn, cmd.connId⟩ else d.elevation.pending.lookup id := by
    rw [hopens.pending, Table.lookup_insert_eq]
  have hnext : d'.elevation.nextId = d.elevation.nextId + 1 := hopens.nextId.trans hopens.fresh
  rw [hanswers, hpending, hnext, List.append_nil]
  by_cases hid : id = new
  · subst hid
    rcases h with ⟨hnever, -, hsaid, hgiven⟩ | ⟨p, -, hle, -⟩
    · rw [hnever, hsaid, hgiven, if_pos rfl]
      refine Or.inr ⟨_, rfl, Nat.le_of_eq hopens.fresh, Or.inl ⟨rfl, ?_, rfl⟩⟩
      refine ⟨s, action, [], Failures.nil, ?_⟩
      simp [DaemonLabel.effects, ConnRegistry.sendEvent, Effect.promptEvent, Event.requestId]
    · -- the id is one that was never handed out
      rw [hopens.fresh] at hle
      exact absurd hle (Nat.not_succ_le_self _)
  · have hsilent : (DaemonLabel.handled env (.ipc (.command cmd))
        [d.registry.sendEvent conn (.showElevationPrompt new s action)]).effects.filterMap
          (Effect.promptEvent id) = [] := by
      simp [DaemonLabel.effects, ConnRegistry.sendEvent, Effect.promptEvent, Event.requestId,
        Ne.symm hid]
    rw [hsilent, if_neg hid, List.append_nil]
    rcases h with ⟨hnever, hnone, hrest⟩ | ⟨p, hcaptured, hle, hrest⟩
    · rw [hnever]
      exact Or.inl ⟨hnone, hnone, hrest⟩
    · rw [hcaptured]
      exact Or.inr ⟨p, rfl, Nat.le_succ_of_le hle, hrest⟩

theorem follows {d₀ : Daemon} (hinit : Initial d₀) (hrun : Run Step d₀ tr d)
    (id : ElevationRequestId) : Follows id tr d := by
  refine hrun.history (P := fun tr d => Follows id tr d) ?_ ?_
  · obtain ⟨_, _, _, _, _, _, rfl⟩ := hinit.eq
    exact Or.inl ⟨rfl, rfl, rfl, rfl⟩
  · intro tr d l d' _ h hstep
    cases hstep with
    | handled env event =>
        rcases handle_speaks d env event with
          ⟨htalk, hevents⟩ | ⟨cmd, new, s, action, ctx, conn, rfl, hopens, heffects⟩
        · exact h.talk htalk (hevents id)
        · rw [heffects]
          exact h.opens hopens
    | rehash hr =>
        refine h.talk (Talk.quiet (fun id => hr.elevation.pending.lookup_eq id) hr.elevation.nextId
          ?_) rfl
        simp [DaemonLabel.deferring]

/-- Within one step, every deferred response is the answer for a prompt it hides. -/
theorem Step.answers (hstep : Step d l d') (id : ElevationRequestId) :
    (l.deferring.filterMap Effect.hides).length = (l.deferring.filterMap Effect.responds).length
      ∧ (Hidden id (l.effects.filterMap (Effect.promptEvent id)) ↔
        answersIn id l.deferring ≠ []) := by
  cases hstep with
  | handled env event =>
      rcases handle_speaks d env event with
        ⟨htalk, hevents⟩ | ⟨cmd, new, s, action, ctx, conn, rfl, hopens, heffects⟩
      · refine ⟨htalk.paired, ?_⟩
        rw [← htalk.hidden_iff, ← hevents id]
        rfl
      · rw [heffects]
        refine ⟨rfl, iff_of_false ?_ fun hne => hne rfl⟩
        rintro ⟨c, hmem⟩
        obtain ⟨e, he, hhide⟩ := List.mem_filterMap.1 hmem
        obtain rfl := List.mem_singleton.1 he
        simp only [ConnRegistry.sendEvent, Effect.promptEvent] at hhide
        split at hhide
        · cases hhide
        · cases hhide
  | rehash hr =>
      exact ⟨rfl, by simp [DaemonLabel.effects, DaemonLabel.deferring, answersIn, Hidden]⟩

/-- **The protocol of a prompt.** Along every run, and for every request id: what is said about it
    is the beginning of one sentence (shown; failed attempts; possibly another outcome; hidden),
    all of it addressed to the compositor it captured; it is pending exactly between being shown
    and being hidden; once hidden, and not before, it has one deferred answer, an `AuthResult` for
    the requester it captured, given in the step that hides it; and there is no other deferred
    response. -/
theorem prompt_protocol {d₀ : Daemon} (hinit : Initial d₀) (hrun : Run Step d₀ tr d)
    (id : ElevationRequestId) :
    (captured id tr = none → traffic id tr = [])
      ∧ (∀ p, captured id tr = some p →
        (∃ sentence, Sentence id p.compositorConn sentence ∧ traffic id tr <+: sentence)
          ∧ (Hidden id (traffic id tr) →
            ∃ outcome, answers id tr = [(p.requesterConn, .authResult outcome)])
          ∧ (¬ Hidden id (traffic id tr) → answers id tr = []))
      ∧ ((∃ p, d.elevation.pending.lookup id = some p) ↔
        Shown id (traffic id tr) ∧ ¬ Hidden id (traffic id tr))
      ∧ ∀ x ∈ tr,
        (x.label.deferring.filterMap Effect.hides).length
            = (x.label.deferring.filterMap Effect.responds).length
          ∧ (Hidden id (x.label.effects.filterMap (Effect.promptEvent id)) ↔
            answersIn id x.label.deferring ≠ []) := by
  have hsteps : ∀ x ∈ tr, _ := fun x hx => (hrun.of_mem hx).2.answers id
  rcases follows hinit hrun id with
    ⟨hnever, hnone, hsaid, -⟩ | ⟨p, hcaptured, -, ⟨hp, ⟨sessionId, action, failures, hfailures,
      hsaid⟩, hgiven⟩ | ⟨hnone, hsentence, hgiven⟩⟩
  · have hclosed : ¬ ∃ p, d.elevation.pending.lookup id = some p := by simp [hnone]
    have hunshown : ¬ Shown id (traffic id tr) := by simp [hsaid, Shown]
    exact ⟨fun _ => hsaid, by simp [hnever], iff_of_false hclosed fun h => hunshown h.1, hsteps⟩
  · have hopen : ¬ Hidden id (traffic id tr) := by
      rw [hsaid]
      exact not_hidden_cons hfailures.not_hidden
    refine ⟨by simp [hcaptured], fun q hq => ?_, ?_, hsteps⟩
    · obtain rfl := Option.some.inj (hcaptured.symm.trans hq)
      refine ⟨⟨_, ⟨sessionId, action, _, hfailures.ending_hide, rfl⟩, ?_⟩,
        fun hhidden => absurd hhidden hopen, fun _ => hgiven⟩
      rw [hsaid, ← List.cons_append]
      exact List.prefix_append _ _
    · refine iff_of_true ⟨p, hp⟩ ⟨⟨p.compositorConn, sessionId, action, ?_⟩, hopen⟩
      rw [hsaid]
      exact List.mem_cons_self ..
  · refine ⟨by simp [hcaptured], fun q hq => ?_, ?_, hsteps⟩
    · obtain rfl := Option.some.inj (hcaptured.symm.trans hq)
      exact ⟨⟨_, hsentence, List.prefix_refl _⟩, fun _ => hgiven,
        fun hopen => absurd hsentence.hidden hopen⟩
    · refine iff_of_false ?_ fun hopen => hopen.2 hsentence.hidden
      simp [hnone]

end Runs

section Example

/-- The requester has a prompt opened on Alice's compositor, which answers it twice. -/
private def secondTry : List (Env × DaemonEvent) :=
  demoThen ([demoConnect 9 900,
    .ipc (.command (demoCommand 9 900
      (.requestElevation 1 ⟨"editor", "save a file", .elevated, ""⟩))),
    .ipc (.command (demoCommand 7 1000 (.respondElevation 1 (.password "hunter1")))),
    .ipc (.command (demoCommand 7 1000 (.respondElevation 1 (.password "hunter2"))))].map
      fun event => (demoEnv 0, event))

/-- The requester hears of the second answer only. -/
theorem second_try_answered :
    ∃ outcome, answers 1 (demoTrace secondTry) = [(9, .authResult outcome)] := by
  have hrun : Run Step demo (demoTrace secondTry) _ := demoTrace_run (by decide)
  have hprotocol := prompt_protocol demo_initial hrun 1
  refine (hprotocol.2.1 ⟨1, 7, 9⟩ (by decide)).2.1 ⟨7, ?_⟩
  decide

end Example

end Daemon

end MitosSession
