import MitosSession.Daemon.Managers
import MitosSession.Daemon.Provenance
import MitosSession.Elevation.Bookkeeping

set_option autoImplicit false

/-! # Answers after the deadline

A prompt is to be abandoned once `prompt_timeout` has passed. The deadline is kept in a timer, and
only the sweep of the idle tick reads it: `respond_elevation` tries a password for any prompt that
is still in the table. So whether a late password is accepted depends on which event the loop serves
first. What holds along every run is `Dated`: a prompt that is still open carries the deadline of
the step that opened it, and no tick at or after the deadline has come since. -/

namespace MitosSession

/-- What `begin` does to the prompts and their timers. -/
theorem ElevationManager.begin_prompts {m m' : ElevationManager} {s : SessionId}
    {compositorConn requesterConn : ConnId} {policy : ElevationPolicy} {authPolicy : AuthPolicy}
    {now : Instant} {id : ElevationRequestId}
    (h : m.begin s compositorConn requesterConn policy authPolicy now = .ok (m', id)) :
    m'.nextId = m.nextId + 1
      ∧ (∀ k, m'.pending.lookup k
        = if k = m.nextId + 1 then some ⟨s, compositorConn, requesterConn⟩
          else m.pending.lookup k)
      ∧ ∀ k, m'.timeouts.promptExpiry.lookup k
        = if k = m.nextId + 1 then some (now + policy.promptTimeout)
          else m.timeouts.promptExpiry.lookup k := by
  obtain ⟨-, -, rfl⟩ := begin_eq_ok_iff.1 h
  exact ⟨rfl, fun k => Table.lookup_insert_eq .., fun k => Table.lookup_insert_eq ..⟩

namespace Daemon

/-! ## Openings and ticks -/

/-- The step opens prompt `id`, recorded as `p`; `t` is when it does so plus the prompt timeout in
    force then. -/
structure OpensAt (id : ElevationRequestId) (p : PendingElevation) (t : Instant)
    (y : Transition Daemon DaemonLabel) : Prop where
  absent : y.pre.elevation.pending.lookup id = none
  present : y.post.elevation.pending.lookup id = some p
  begun : ∃ env cmd effects action, y.label = .handled env (.ipc (.command cmd)) effects
    ∧ cmd.connId = p.requesterConn ∧ cmd.request = .requestElevation p.sessionId action
    ∧ t = env.now + Duration.fromSecs y.pre.settings.elevation.promptTimeoutSecs

/-- The step is an idle tick at `t` or later. -/
def TicksAt (t : Instant) (y : Transition Daemon DaemonLabel) : Prop :=
  ∃ env effects, y.label = .handled env .idleTick effects ∧ t ≤ env.now

section

variable {id : ElevationRequestId} {p p' : PendingElevation} {t t' : Instant}
  {y : Transition Daemon DaemonLabel}

theorem OpensAt.unique (h : OpensAt id p t y) (h' : OpensAt id p' t' y) : p = p' ∧ t = t' := by
  refine ⟨Option.some.inj (h.present.symm.trans h'.present), ?_⟩
  obtain ⟨env, cmd, effects, -, hlabel, -, -, rfl⟩ := h.begun
  obtain ⟨env', cmd', effects', -, hlabel', -, -, rfl⟩ := h'.begun
  rw [hlabel] at hlabel'
  cases hlabel'
  rfl

/-- A step that opens no prompt. -/
theorem not_opensAt (h : ElevationManager.Narrows y.pre.elevation y.post.elevation) :
    ¬ OpensAt id p t y := by
  intro hopens
  have hpresent := hopens.present
  rcases h.lookup id with ⟨hsame, -⟩ | ⟨hnone, -⟩
  · rw [hsame, hopens.absent] at hpresent
    cases hpresent
  · rw [hnone] at hpresent
    cases hpresent

end

/-- What an event does to the prompts and their timers: it opens one, or it closes some, and a tick
    closes those that are due. -/
theorem handle_prompt_timers (d : Daemon) (env : Env) (event : DaemonEvent) :
    (ElevationManager.Narrows d.elevation (d.handle env event).1.elevation
        ∧ (event = .idleTick → ∀ id p,
          (d.handle env event).1.elevation.pending.lookup id = some p →
            ¬ d.elevation.DueAt env.now id))
      ∨ ∃ cmd s action conn, event = .ipc (.command cmd)
        ∧ cmd.request = .requestElevation s action
        ∧ d.elevation.begin s conn cmd.connId (ElevationPolicy.from d.settings.elevation)
            (elevationAuthPolicy d.settings.elevation) env.now
          = .ok ((d.handle env event).1.elevation, d.elevation.nextId + 1) := by
  have helevates := handle_elevates d env event
  generalize (d.handle env event).1.elevation = elevation at helevates ⊢
  cases helevates with
  | same _ hevent =>
      exact Or.inl ⟨ElevationManager.Narrows.refl _, fun htick => absurd htick hevent⟩
  | begun cmd hrequest hctx hbegin =>
      obtain ⟨-, rfl, -⟩ := ElevationManager.begin_eq_ok_iff.1 hbegin
      exact Or.inr ⟨cmd, _, _, _, rfl, hrequest, hbegin⟩
  | cancelled cmd hrequest =>
      exact Or.inl ⟨(ElevationManager.Narrows.refl _).close _, fun htick => by cases htick⟩
  | attempted cmd hauth hrequest hp hctx hattempt hresponse =>
      exact Or.inl ⟨ElevationManager.attempt_narrows hattempt, fun htick => by cases htick⟩
  | abandoned _ hevent predicate =>
      exact Or.inl ⟨ElevationManager.takeAll_narrows _ _, fun htick => absurd htick hevent⟩
  | ticked =>
      -- the sweep over the lockouts, which comes first, touches neither prompts nor their timers
      have hnarrows := ElevationManager.expirePending_narrows env.now
        (d.elevation.clearExpiredLockouts env.now)
      have htorn := ElevationManager.expirePending_tornDown
        (d.elevation.clearExpiredLockouts env.now) env.now
      refine Or.inl ⟨⟨hnarrows.nextId, hnarrows.lookup⟩, fun _ id p hp hdue => ?_⟩
      rcases hnarrows.lookup id with ⟨hsame, -⟩ | ⟨hnone, -⟩
      · rw [(htorn.removed id p (hsame.symm.trans hp) hdue).1] at hp
        cases hp
      · rw [hnone] at hp
        cases hp
  | reloaded uid =>
      exact Or.inl ⟨⟨rfl, fun _ => Or.inl ⟨rfl, rfl⟩⟩, fun htick => by cases htick⟩

/-! ## Along a run -/

/-- Prompts get one id each, and an open prompt carries the deadline it was opened with, which no
    tick has reached since. -/
structure Dated (tr : List (Transition Daemon DaemonLabel)) (d : Daemon) : Prop where
  issued : ∀ id p t, ∀ y ∈ tr, OpensAt id p t y → id ≤ d.elevation.nextId
  once : ∀ id p t p' t', ∀ y ∈ tr, ∀ y' ∈ tr, OpensAt id p t y → OpensAt id p' t' y' →
    p = p' ∧ t = t'
  deadline : ∀ id p, d.elevation.pending.lookup id = some p →
    id ≤ d.elevation.nextId ∧ ∃ t, d.elevation.timeouts.promptExpiry.lookup id = some t
      ∧ Since (OpensAt id p t) (fun y => ¬ TicksAt t y) tr

section

variable {d d' : Daemon} {tr : List (Transition Daemon DaemonLabel)} {l : DaemonLabel}

theorem Initial.dated (h : Initial d) : Dated [] d := by
  obtain ⟨settings, seats, authenticator, uid, powerBackend, socketPath, rfl⟩ := h.eq
  constructor <;> simp

/-- The ids stay unique when those of a new step are larger than all before. -/
theorem Dated.ids {x : Transition Daemon DaemonLabel} {n : ℕ} (h : Dated tr d)
    (hle : d.elevation.nextId ≤ n)
    (hx : ∀ id p t, OpensAt id p t x → d.elevation.nextId < id ∧ id ≤ n) :
    (∀ id p t, ∀ y ∈ tr ++ [x], OpensAt id p t y → id ≤ n)
      ∧ ∀ id p t p' t', ∀ y ∈ tr ++ [x], ∀ y' ∈ tr ++ [x], OpensAt id p t y →
        OpensAt id p' t' y' → p = p' ∧ t = t' := by
  simp only [List.forall_mem_append, List.forall_mem_singleton]
  constructor
  · intro id p t
    exact ⟨fun y hy hopens => (h.issued id p t y hy hopens).trans hle,
      fun hopens => (hx id p t hopens).2⟩
  · intro id p t p' t'
    refine ⟨fun y hy => ⟨fun y' hy' => h.once id p t p' t' y hy y' hy', fun hopens hopens' => ?_⟩,
      fun y' hy' hopens hopens' => ?_, fun hopens hopens' => hopens.unique hopens'⟩
    · exact absurd (h.issued id p t y hy hopens) (Nat.not_le.2 (hx id p' t' hopens').1)
    · exact absurd (h.issued id p' t' y' hy' hopens') (Nat.not_le.2 (hx id p t hopens).1)

/-- A step that opens no prompt, and after which no prompt is open that a tick found due. -/
theorem Dated.narrows (h : Dated tr d)
    (hnarrows : ElevationManager.Narrows d.elevation d'.elevation)
    (hticks : ∀ id p t, d'.elevation.pending.lookup id = some p →
      d.elevation.timeouts.promptExpiry.lookup id = some t → ¬ TicksAt t ⟨d, l, d'⟩) :
    Dated (tr ++ [⟨d, l, d'⟩]) d' := by
  obtain ⟨hissued, honce⟩ := h.ids hnarrows.nextId.ge
    fun id p t hopens => absurd hopens (not_opensAt (y := ⟨d, l, d'⟩) hnarrows)
  refine ⟨hissued, honce, fun id p hp => ?_⟩
  rcases hnarrows.lookup id with ⟨hsame, htimer⟩ | ⟨hnone, -⟩
  · obtain ⟨hle, t, ht, hsince⟩ := h.deadline id p (hsame ▸ hp)
    rw [hnarrows.nextId, htimer]
    exact ⟨hle, t, ht, since_concat_iff.2 ⟨hticks id p t hp ht, Or.inr hsince⟩⟩
  · rw [hnone] at hp
    cases hp

/-- A step that opens a prompt. -/
theorem Dated.begun {env : Env} {cmd : ManagerCommand} {effects : List Effect} {s : SessionId}
    {action : ElevationAction} {conn : ConnId} (h : Dated tr d)
    (hrequest : cmd.request = .requestElevation s action)
    (hbegin : d.elevation.begin s conn cmd.connId (ElevationPolicy.from d.settings.elevation)
        (elevationAuthPolicy d.settings.elevation) env.now
      = .ok (d'.elevation, d.elevation.nextId + 1)) :
    Dated (tr ++ [⟨d, .handled env (.ipc (.command cmd)) effects, d'⟩]) d' := by
  obtain ⟨hnext, hpending, htimer⟩ := ElevationManager.begin_prompts hbegin
  -- the step opens the prompt with the next id and no other
  have hid : ∀ id p t,
      OpensAt id p t ⟨d, .handled env (.ipc (.command cmd)) effects, d'⟩ →
        d.elevation.nextId < id ∧ id ≤ d'.elevation.nextId := by
    intro id p t hopens
    have hpresent := hopens.present
    rw [hpending] at hpresent
    split at hpresent
    · rename_i hnew
      rw [hnext, hnew]
      exact ⟨Nat.lt_succ_self _, Nat.le_refl _⟩
    · rw [hopens.absent] at hpresent
      cases hpresent
  have hquiet : ∀ t, ¬ TicksAt t ⟨d, .handled env (.ipc (.command cmd)) effects, d'⟩ := by
    rintro t ⟨env', effects', hlabel, -⟩
    cases hlabel
  obtain ⟨hissued, honce⟩ := h.ids (hnext ▸ Nat.le_succ _) hid
  refine ⟨hissued, honce, fun id p hp => ?_⟩
  rw [hnext, htimer]
  have hlookup := hp
  rw [hpending] at hlookup
  by_cases hnew : id = d.elevation.nextId + 1
  · rw [if_pos hnew] at hlookup
    obtain rfl := Option.some.inj hlookup
    rw [if_pos hnew]
    refine ⟨hnew.le, _, rfl, since_concat_iff.2 ⟨hquiet _, Or.inl ⟨?_, hp, ?_⟩⟩⟩
    · -- all ids in use are smaller
      rw [Option.eq_none_iff_forall_ne_some]
      intro q hq
      have hle := (h.deadline id q hq).1
      rw [hnew] at hle
      exact absurd hle (Nat.not_succ_le_self _)
    · exact ⟨env, cmd, effects, action, rfl, rfl, hrequest, rfl⟩
  · rw [if_neg hnew] at hlookup
    obtain ⟨hle, t, ht, hsince⟩ := h.deadline id p hlookup
    rw [if_neg hnew]
    exact ⟨hle.trans (Nat.le_succ _), t, ht, since_concat_iff.2 ⟨hquiet t, Or.inr hsince⟩⟩

theorem Dated.step (h : Dated tr d) (hstep : Step d l d') : Dated (tr ++ [⟨d, l, d'⟩]) d' := by
  cases hstep with
  | rehash hr =>
      refine h.narrows hr.elevation.narrows ?_
      rintro id p t - - ⟨env, effects, hlabel, -⟩
      cases hlabel
  | handled env event =>
      rcases handle_prompt_timers d env event with
        ⟨hnarrows, hdue⟩ | ⟨cmd, s, action, conn, rfl, hrequest, hbegin⟩
      · refine h.narrows hnarrows ?_
        rintro id p t hp ht ⟨env', effects', hlabel, hle⟩
        cases hlabel
        exact hdue rfl id p hp ⟨t, ht, hle⟩
      · exact h.begun hrequest hbegin

theorem dated {d₀ : Daemon} (hinit : Initial d₀) (hrun : Run Step d₀ tr d) : Dated tr d :=
  hrun.history (P := Dated) hinit.dated fun _ _ _ _ _ h hstep => h.step hstep

end

/-! ## Late answers -/

/-- A password given to a prompt at or after the deadline it was opened with does not get its
    requester a `Success`. -/
def RefusesLate (tr : List (Transition Daemon DaemonLabel)) (x : Transition Daemon DaemonLabel) :
    Prop :=
  ∀ env cmd effects id password p t, x.label = .handled env (.ipc (.command cmd)) effects →
    cmd.request = .respondElevation id (.password password) →
    (∃ y ∈ tr, OpensAt id p t y) → t ≤ env.now →
    ∀ queued, Effect.send p.requesterConn (.response (.authResult .success)) queued ∉ effects

/-- The step is an authorized answer to a prompt that is still open at its deadline or later,
    because no tick has come since the deadline, with a password the authenticator accepts. -/
def AcceptsLate (tr : List (Transition Daemon DaemonLabel)) (x : Transition Daemon DaemonLabel) :
    Prop :=
  ∃ env cmd effects id password p t ctx, x.label = .handled env (.ipc (.command cmd)) effects
    ∧ cmd.request = .respondElevation id (.password password)
    ∧ authorize env.userByName cmd.peer cmd.connId cmd.request x.pre.sessions x.pre.elevation
      = .ok ()
    ∧ x.pre.elevation.pending.lookup id = some p
    ∧ Since (OpensAt id p t) (fun y => ¬ TicksAt t y) tr ∧ t ≤ env.now
    ∧ x.pre.sessions.sessions.lookup p.sessionId = some ctx
    ∧ (x.pre.authenticator.authenticate env.pam).accepts
      { sessionId := p.sessionId, userName := ctx.session.userName, password } = true

section

variable {d d' : Daemon} {tr : List (Transition Daemon DaemonLabel)} {l : DaemonLabel}

theorem AcceptsLate.tells (hstep : Step d l d') (h : AcceptsLate tr ⟨d, l, d'⟩) :
    ¬ RefusesLate tr ⟨d, l, d'⟩ := by
  obtain ⟨env, cmd, effects, id, password, p, t, ctx, hlabel, hrequest, hauth, hp, hsince, hlate,
    hctx, ha⟩ := h
  intro hrefuses
  cases hstep with
  | rehash hr => cases hlabel
  | handled env event =>
      cases hlabel
      refine hrefuses env cmd _ id password p t rfl hrequest hsince.exists_mem hlate
        (d.registry.knows p.requesterConn) ?_
      rw [handle_authorized hauth, hrequest]
      exact List.mem_append_left _ (respondElevation_accepted hp hctx ha).2.2

theorem Dated.refusesLate (h : Dated tr d) (hstep : Step d l d')
    (hlate : ¬ AcceptsLate tr ⟨d, l, d'⟩) : RefusesLate tr ⟨d, l, d'⟩ := by
  intro env cmd effects id password p t hlabel hrequest hopened hle queued htold
  cases hstep with
  | rehash hr => cases hlabel
  | handled env event =>
      cases hlabel
      cases hauth : authorize env.userByName cmd.peer cmd.connId cmd.request d.sessions
          d.elevation with
      | error e =>
          rw [handle_rejected hauth] at htold
          have hs : (d.registry.sendResponse cmd.connId (.error e.display)).isSuccess = true := by
            rw [← List.mem_singleton.1 htold]
            rfl
          cases Effect.isSuccess_sendResponse hs
      | ok _ =>
          rw [handle_authorized hauth, hrequest] at htold
          obtain ⟨q, ctx, hq, hctx, ha⟩ := respondElevation_accepts htold rfl
          obtain ⟨-, t', -, hsince⟩ := h.deadline id q hq
          obtain ⟨y, hy, hopens⟩ := hopened
          obtain ⟨y', hy', hopens'⟩ := hsince.exists_mem
          -- the id was issued once, so this is the deadline of the open prompt
          obtain ⟨rfl, rfl⟩ := h.once id p t q t' y hy y' hy' hopens hopens'
          exact hlate ⟨env, cmd, _, id, password, p, t, ctx, rfl, hrequest, hauth, hq, hsince, hle,
            hctx, ha⟩

end

/-- **When no late answer is accepted.** In every run: no password for a prompt that is handled at
    or after the prompt's deadline gets the requester a `Success`, if and only if no step of the run
    answers a prompt that is still open at or after its deadline, no idle tick having come in
    between, with a password that is accepted. -/
theorem late_answers_refused_iff {d₀ d : Daemon} {tr : List (Transition Daemon DaemonLabel)}
    (hinit : Initial d₀) (hrun : Run Step d₀ tr d) :
    (∀ tr₁ x tr₂, tr = tr₁ ++ x :: tr₂ → RefusesLate tr₁ x) ↔
      ∀ tr₁ x tr₂, tr = tr₁ ++ x :: tr₂ → ¬ AcceptsLate tr₁ x := by
  constructor
  · intro h tr₁ x tr₂ htr hlate
    exact hlate.tells (hrun.split htr).2 (h tr₁ x tr₂ htr)
  · intro h tr₁ x tr₂ htr
    obtain ⟨hpre, hstep⟩ := hrun.split htr
    exact (dated hinit hpre).refusesLate hstep (h tr₁ x tr₂ htr)

section Example

/-- The requester has a prompt opened on Alice's compositor at second 0, and then comes something
    else. -/
private def openedAtZero (later : List (Env × DaemonEvent)) : List (Env × DaemonEvent) :=
  demoThen ([(demoEnv 0, demoConnect 9 900),
    (demoEnv 0, .ipc (.command (demoCommand 9 900
      (.requestElevation 1 ⟨"editor", "save a file", .elevated, ""⟩))))] ++ later)

/-- Alice's password, 120 seconds later. -/
private def answeredLate : Env × DaemonEvent :=
  (demoEnv (Duration.fromSecs 120),
    .ipc (.command (demoCommand 7 1000 (.respondElevation 1 (.password "hunter2")))))

/-- The tick of second 120 comes first: the prompt is gone when Alice's password comes in. -/
theorem late_answers_refused_after_tick :
    (System.demo.replay (openedAtZero [])).daemon.elevation.pending.lookup 1 = some ⟨1, 7, 9⟩
      ∧ ∀ tr₁ x tr₂, demoTrace (openedAtZero [(demoEnv (Duration.fromSecs 120), .idleTick),
        answeredLate]) = tr₁ ++ x :: tr₂ → RefusesLate tr₁ x := by
  refine ⟨by decide, (late_answers_refused_iff demo_initial (demoTrace_run (by decide))).2 ?_⟩
  rintro tr₁ x tr₂ htr ⟨env, cmd, effects, id, password, p, t, ctx, hlabel, hrequest, -, hp, -⟩
  have hx : x ∈ demoTrace (openedAtZero [(demoEnv (Duration.fromSecs 120), .idleTick),
      answeredLate]) := by
    rw [htr]
    simp
  simp only [demoTrace, openedAtZero, demoThen, List.cons_append, List.nil_append,
    System.transitions, List.map_cons, List.map_nil, List.mem_cons, List.not_mem_nil,
    or_false] at hx
  rcases hx with rfl | rfl | rfl | rfl | rfl | rfl | rfl <;> cases hlabel <;> cases hrequest
  -- only the answer is left, and its prompt is not in the table any more
  cases hp

/-- Alice's password comes in at the deadline, before the tick, and the requester on connection 9
    is told `Success`. -/
theorem late_answer_succeeds :
    ¬ ∀ (d₀ d : Daemon) (tr : List (Transition Daemon DaemonLabel)), Initial d₀ →
      Run Step d₀ tr d → ∀ tr₁ x tr₂, tr = tr₁ ++ x :: tr₂ → RefusesLate tr₁ x := by
  intro hclaim
  have hopened : Run Step demo (demoTrace (openedAtZero [])) _ := demoTrace_run (by decide)
  have hopens : ∃ y ∈ demoTrace (openedAtZero []), OpensAt 1 ⟨1, 7, 9⟩ (Duration.fromSecs 120) y :=
    ⟨_, List.getLast_mem (by decide), by decide, by decide, _, _, _, _, rfl, rfl, rfl, by decide⟩
  have hrefuses := hclaim _ _ _ demo_initial
    (hopened.snoc (Step.handled _ answeredLate.1 answeredLate.2)) _ _ [] rfl
  exact hrefuses _ _ _ 1 "hunter2" ⟨1, 7, 9⟩ _ rfl rfl hopens (Nat.le_refl _) true
    (Effect.mem_sent.1 (by decide))

end Example

end Daemon

end MitosSession
