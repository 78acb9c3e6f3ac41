import MitosSession.Daemon.Engage
import MitosSession.Daemon.Tick

set_option autoImplicit false

/-! # When no idle lock is lost

The detector reports that a seat has crossed a threshold once, at the first tick that finds it
there. What the daemon can do about it depends on that tick alone: an inhibitor held then, a
suspend that takes the place of the lock, or a session that becomes active on the seat only later
leave a session unlocked for as long as nobody touches the seat.

`Catches` is the condition that none of this happens: at the tick a seat crosses the threshold its
session is locked, and no session that should have been comes to the front while the seat is idle.
Under it every idle seat is guarded (`Guarded`) in every state of a run, and so no idle lock is
lost (`idle_lock_kept`). -/

namespace MitosSession

/-- The stages from which on the active session of a seat should be locked. -/
def IdleStage.past : IdleStage → Bool
  | .lockRequested => true
  | .suspendRequested => true
  | _ => false

theorem IdlePolicy.stageFor_past {policy : IdlePolicy} {idleFor : Duration}
    (hpos : 0 < policy.lockAfter) (h : policy.lockAfter ≤ idleFor) :
    (policy.stageFor idleFor).past = true := by
  unfold IdlePolicy.stageFor
  dsimp only
  split
  · rfl
  · rw [if_pos (by simpa using ⟨hpos, h⟩)]
    rfl

namespace SeatManager

theorem attachSession_active {self : SeatManager} {seatId k : String} {session a : SessionId}
    (h : (self.attachSession seatId session).activeSession k = .ok (some a)) :
    self.activeSession k = .ok (some a)
      ∨ (k = seatId ∧ a = session ∧ ∀ b, self.activeSession k ≠ .ok (some b)) := by
  simp only [activeSession_eq_ok, ne_eq, not_exists, not_and] at h ⊢
  obtain ⟨seat, hseat, hactive⟩ := h
  rw [attachSession_lookup] at hseat
  split at hseat
  · rename_i hk
    obtain rfl := Option.some.inj hseat
    subst hk
    unfold Seat.attached at hactive
    split at hactive
    · rename_i hnone
      refine Or.inr ⟨rfl, (Option.some.inj hactive).symm, fun b seat hlookup hb => ?_⟩
      simp [hlookup, hb] at hnone
    · rename_i hsome
      left
      cases hlookup : self.seats.lookup k with
      | none => simp [hlookup] at hsome
      | some seat => exact ⟨seat, rfl, by simpa [hlookup] using hactive⟩
  · exact Or.inl ⟨seat, hseat, hactive⟩

theorem detachSession_active {self : SeatManager} {k : String} {session a : SessionId}
    (h : (self.detachSession session).activeSession k = .ok (some a)) :
    self.activeSession k = .ok (some a)
      ∨ ∃ seat, self.seats.lookup k = some seat ∧ seat.activeSession = some session
        ∧ seat.queuedSessions.head? = some a := by
  rw [activeSession_eq_ok] at h ⊢
  obtain ⟨seat', hseat', hactive⟩ := h
  rw [detachSession_lookup] at hseat'
  obtain ⟨seat, hseat, rfl⟩ := Option.map_eq_some_iff.1 hseat'
  unfold Seat.detached at hactive
  split at hactive
  · rename_i hsession
    exact Or.inr ⟨seat, hseat, hsession, hactive⟩
  · exact Or.inl ⟨seat, hseat, hactive⟩

theorem switchActive_active {self : SeatManager} {seatId k : String} {session a : SessionId}
    {out : SeatManager × Option SessionId} (hswitch : self.switchActive seatId session = .ok out)
    (h : out.1.activeSession k = .ok (some a)) :
    self.activeSession k = .ok (some a)
      ∨ (k = seatId ∧ a = session
        ∧ ∃ seat, self.seats.lookup k = some seat ∧ seat.hasSession a = true) := by
  obtain ⟨seat, hseat, hheld, -⟩ := switchActive_lookup hswitch
  rw [switchActive_activeSession hswitch] at h
  split at h
  · rename_i hk
    subst hk
    cases h
    exact Or.inr ⟨rfl, rfl, seat, hseat, (seat.hasSession_iff session).2 hheld⟩
  · exact Or.inl h

end SeatManager

/-- When the step reports activity on the seat. -/
def DaemonLabel.reportedAt (seatId : String) : DaemonLabel → Option Instant
  | .handled env (.ipc (.command cmd)) _ =>
    if cmd.request = .reportActivity seatId then some env.now else none
  | _ => none

namespace Daemon

variable {d d' : Daemon} {env : Env} {event : DaemonEvent} {effects : List Effect}
  {tr : List (Transition Daemon DaemonLabel)} {x : Transition Daemon DaemonLabel}
  {seatId k : String} {a : SessionId}

/-! ## The last activity on a seat -/

/-- The last activity on a seat that a run reports. -/
def lastReport (seatId : String) (tr : List (Transition Daemon DaemonLabel)) : Option Instant :=
  tr.reverse.findSome? fun x => x.label.reportedAt seatId

/-- Since then an `Unlock` request that names the session was answered with a success. -/
def UnlockedSince (seatId : String) (a : SessionId) (tr : List (Transition Daemon DaemonLabel)) :
    Prop :=
  ∃ x ∈ tr.reverse.takeWhile fun x => (x.label.reportedAt seatId).isNone,
    AnswersUnlock a x.label

theorem lastReport_snoc :
    lastReport seatId (tr ++ [x]) = (x.label.reportedAt seatId).or (lastReport seatId tr) := by
  simp only [lastReport, List.reverse_append, List.reverse_singleton, List.singleton_append,
    List.findSome?_cons]
  cases x.label.reportedAt seatId <;> rfl

theorem unlockedSince_snoc (h : x.label.reportedAt seatId = none) :
    UnlockedSince seatId a (tr ++ [x]) ↔
      AnswersUnlock a x.label ∨ UnlockedSince seatId a tr := by
  simp [UnlockedSince, h]

/-- What an event does to the idle detector. -/
theorem handle_idle_cases (d : Daemon) (env : Env) (event : DaemonEvent) (effects : List Effect) :
    (event = .idleTick ∧ (d.handle env event).1.idle
        = (d.idle.tick env.now (IdlePolicy.from d.settings.idle)).1)
      ∨ (∃ cmd seatId, event = .ipc (.command cmd) ∧ cmd.request = .reportActivity seatId
        ∧ (d.handle env event).1.idle = d.idle.recordActivity seatId env.now)
      ∨ (event ≠ .idleTick
        ∧ (∀ k, (DaemonLabel.handled env event effects).reportedAt k = none)
        ∧ (d.handle env event).1.idle = d.idle) := by
  by_cases hreport : ∃ cmd seatId, event = .ipc (.command cmd)
      ∧ cmd.request = .reportActivity seatId
  · obtain ⟨cmd, seatId, rfl, hrequest⟩ := hreport
    refine Or.inr (Or.inl ⟨cmd, seatId, rfl, hrequest, ?_⟩)
    rw [handle_authorized (authorize_open (by rw [hrequest]; rfl)), hrequest]
    rfl
  · have hnone : ∀ k, (DaemonLabel.handled env event effects).reportedAt k = none := by
      intro k
      unfold DaemonLabel.reportedAt
      split
      · rename_i cmd _ heq
        obtain ⟨-, rfl, -⟩ := DaemonLabel.handled.inj heq
        exact if_neg fun hrequest => hreport ⟨cmd, k, rfl, hrequest⟩
      · rfl
    have hidle : (d.handle env event).1.idle = (d.handle env event).1.standing.idle := rfl
    have hstands := handle_stands d env event
    rw [hidle]
    generalize (d.handle env event).1.standing = after at hstands
    cases hstands with
    | ticked => exact Or.inl ⟨rfl, rfl⟩
    | reported cmd hrequest => exact absurd ⟨cmd, _, rfl, hrequest⟩ hreport
    | same _ hne => exact Or.inr (Or.inr ⟨hne, hnone, rfl⟩)
    | _ => exact Or.inr (Or.inr ⟨by simp, hnone, rfl⟩)

theorem Rehash.stageOf_eq (h : Rehash d d') (k : String) :
    d'.idle.stageOf k = d.idle.stageOf k := by
  simp only [IdleDetector.stageOf, h.idle.stage.lookup_eq]

/-- The detector's record of a seat is the last activity the run reports on it. -/
theorem lastActivity_eq_lastReport {d₀ : Daemon} (hinit : Initial d₀) (hrun : Run Step d₀ tr d)
    (k : String) : d.idle.tracker.lastActivity.lookup k = lastReport k tr := by
  refine hrun.history (P := fun tr d => d.idle.tracker.lastActivity.lookup k = lastReport k tr)
    ?_ ?_
  · obtain ⟨settings, seats, authenticator, uid, powerBackend, socketPath, rfl⟩ := hinit.eq
    rfl
  · intro tr d l d' _ hsame hstep
    rw [lastReport_snoc, ← hsame]
    cases hstep with
    | handled env event =>
        rcases handle_idle_cases d env event (d.handle env event).2 with
          ⟨rfl, hidle⟩ | ⟨cmd, seatId, rfl, hrequest, hidle⟩ | ⟨-, hnone, hidle⟩
        · rw [hidle, IdleDetector.tick_tracker]
          rfl
        · simp only [hidle, IdleDetector.recordActivity, IdleTracker.recordActivity,
            Table.lookup_insert_eq, DaemonLabel.reportedAt, hrequest, Request.reportActivity.injEq]
          by_cases hk : k = seatId
          · simp [hk]
          · simp [hk, Ne.symm hk]
        · rw [hidle, hnone]
          rfl
    | rehash hr =>
        rw [hr.idle.lastActivity.lookup_eq]
        rfl

/-! ## Guarded seats -/

/-- A seat past the lock stage, its active session, and what is known of that session. -/
structure Idles (st : Standing) (seatId : String) (a : SessionId) (session : Session) : Prop where
  past : (st.idle.stageOf seatId).past = true
  active : st.seats.activeSession seatId = .ok (some a)
  known : st.roster a = some session

/-- The session is locked, or was unlocked since the last activity on the seat. -/
def Settled (tr : List (Transition Daemon DaemonLabel)) (d : Daemon) (seatId : String)
    (a : SessionId) : Prop :=
  d.locks.isLocked a = true ∨ UnlockedSince seatId a tr

/-- Every seat past the lock stage has been dealt with, as far as the accounts `holders` are
    concerned. -/
def Guarded (holders : String → Prop) (tr : List (Transition Daemon DaemonLabel)) (d : Daemon) :
    Prop :=
  ∀ seatId a session, Idles d.standing seatId a session → holders session.userName →
    Settled tr d seatId a

/-- What an event must not do for no idle lock to be lost, after the history `tr`. -/
def Catches (holders : String → Prop) (tr : List (Transition Daemon DaemonLabel)) (d : Daemon)
    (env : Env) : DaemonEvent → Prop
  -- the tick at which a seat gets past the lock stage is the one that locks
  | .idleTick =>
    ∀ seatId stage a session, (seatId, stage) ∈ d.stageChanges env.now → stage.past = true →
      (d.idle.stageOf seatId).past = false → d.seats.activeSession seatId = .ok (some a) →
      d.sessions.roster a = some session → holders session.userName →
      Settled tr d seatId a
        ∨ (d.locks.inhibitors.blocks .lock = false
          ∧ ((stage = .lockRequested ∧ userHasPassword env.shadow session.userName = true)
            ∨ (TickSuspends d env.now ∧ d.locks.inhibitors.blocks .suspend = false
              ∧ d.settings.lock.lockOnSuspend = true)))
  | .ipc (.command cmd) =>
    authorize env.userByName cmd.peer cmd.connId cmd.request d.sessions d.elevation = .ok () →
      match cmd.request with
      -- no session comes to the front of a seat past that stage unlocked
      | .switchSession seatId a =>
        ∀ seat session, (d.idle.stageOf seatId).past = true →
          d.seats.seats.lookup seatId = some seat → seat.hasSession a = true →
          d.sessions.roster a = some session →
          holders session.userName → Settled tr d seatId a
      | .terminateSession s =>
        ∀ seatId seat a session, (d.idle.stageOf seatId).past = true →
          d.seats.seats.lookup seatId = some seat → seat.activeSession = some s →
          seat.queuedSessions.head? = some a → d.sessions.roster a = some session →
          holders session.userName → Settled tr d seatId a
      | .createSession userName seat _ =>
        ∀ user seatId, env.userByName userName = .ok user → holders user.name →
          (d.idle.stageOf seatId).past = true →
          (d.seats.activeSession seatId = .ok (some d.sessions.nextId)
            ∨ (seatId = seat.getD d.settings.seat.defaultSeat
              ∧ ∀ b, d.seats.activeSession seatId ≠ .ok (some b))) →
          Settled tr d seatId d.sessions.nextId
      | _ => True
  | _ => True

/-- The same for the steps of a run. -/
def CatchesStep (holders : String → Prop) (tr : List (Transition Daemon DaemonLabel))
    (x : Transition Daemon DaemonLabel) : Prop :=
  match x.label with
  | .handled env event _ => Catches holders tr x.pre env event
  | .rehash => True

variable {holders : String → Prop} {session : Session}

/-- What is settled stays so until somebody touches the seat. -/
theorem Settled.step {l : DaemonLabel} (h : Settled tr d k a) (hstep : Step d l d')
    (hreport : l.reportedAt k = none) : Settled (tr ++ [⟨d, l, d'⟩]) d' k a := by
  have hsnoc : UnlockedSince k a (tr ++ [⟨d, l, d'⟩]) ↔ AnswersUnlock a l ∨ UnlockedSince k a tr :=
    unlockedSince_snoc hreport
  by_cases hunlock : AnswersUnlock a l
  · exact Or.inr (hsnoc.2 (Or.inl hunlock))
  · rcases h with hlocked | hsince
    · exact Or.inl (hstep.keepsLocked hunlock hlocked).1
    · exact Or.inr (hsnoc.2 (Or.inr hsince))

/-- Apart from ticks and reports, an idle seat after an event is one before it, or the event
    brought the session to its front. -/
theorem handle_idles (hcatches : Catches holders tr d env event) (hguarded : Guarded holders tr d)
    (htick : event ≠ .idleTick)
    (hreport : (DaemonLabel.handled env event effects).reportedAt k = none)
    (hidles : Idles (d.handle env event).1.standing k a session)
    (hholder : holders session.userName) : Settled tr d k a := by
  have hbefore : ∀ {st : Standing}, Idles st k a session → st.idle = d.idle →
      d.seats.activeSession k = .ok (some a) → d.sessions.roster a = some session →
      Settled tr d k a := by
    intro st h hidle hactive hknown
    have hpast := h.past
    rw [hidle] at hpast
    exact hguarded k a session ⟨hpast, hactive, hknown⟩ hholder
  have hstands := handle_stands d env event
  generalize (d.handle env event).1.standing = after at hidles hstands
  cases hstands with
  | same _ _ => exact hbefore hidles rfl hidles.active hidles.known
  | created cmd new hauth hrequest hid hseat huser =>
      obtain ⟨user, huser, hname⟩ := huser
      have hknown := hidles.known
      simp only [Function.update_apply, hid] at hknown
      rw [hid] at hidles
      by_cases ha : a = d.sessions.nextId
      · subst ha
        rw [if_pos rfl] at hknown
        obtain rfl := Option.some.inj hknown
        have hcreate := hcatches hauth
        simp only [hrequest] at hcreate
        refine hcreate user k huser (hname ▸ hholder) hidles.past ?_
        rcases SeatManager.attachSession_active hidles.active with hactive | ⟨rfl, -, hfree⟩
        · exact Or.inl hactive
        · exact Or.inr ⟨hseat, hfree⟩
      · rw [if_neg ha] at hknown
        rcases SeatManager.attachSession_active hidles.active with hactive | ⟨-, hnew, -⟩
        · exact hbefore hidles rfl hactive hknown
        · exact absurd hnew ha
  | terminated cmd hauth hrequest hctx =>
      have hknown := hidles.known
      simp only [Function.update_apply] at hknown
      split at hknown
      · cases hknown
      · rcases SeatManager.detachSession_active hidles.active with hactive | ⟨seat, hseat, hs, ha⟩
        · exact hbefore hidles rfl hactive hknown
        · have hterminate := hcatches hauth
          simp only [hrequest] at hterminate
          exact hterminate k seat a session hidles.past hseat hs ha hknown hholder
  | switched cmd hauth hrequest hswitch =>
      rcases SeatManager.switchActive_active hswitch hidles.active with
        hactive | ⟨rfl, rfl, seat, hseat, hhas⟩
      · exact hbefore hidles rfl hactive hidles.known
      · have hturn := hcatches hauth
        simp only [hrequest] at hturn
        exact hturn seat session hidles.past hseat hhas hidles.known hholder
  | @reported cmd seatId hrequest =>
      have hne : seatId ≠ k := by
        rintro rfl
        simp [DaemonLabel.reportedAt, hrequest] at hreport
      have hstage : (d.idle.recordActivity seatId env.now).stageOf k = d.idle.stageOf k := by
        simp [IdleDetector.recordActivity, IdleDetector.stageOf, hne.symm]
      have hpast := hidles.past
      rw [hstage] at hpast
      exact hguarded k a session ⟨hpast, hidles.active, hidles.known⟩ hholder
  | inhibited cmd hrequest => exact hbefore hidles rfl hidles.active hidles.known
  | released cmd hrequest hheld => exact hbefore hidles rfl hidles.active hidles.known
  | ended cmd hrequest hblocks =>
      exact hbefore hidles rfl hidles.active (d.sessions.terminateAll_roster hidles.known)
  | shutDown => exact hbefore hidles rfl hidles.active (d.sessions.terminateAll_roster hidles.known)
  | ticked => exact absurd rfl htick
  | reloaded hload => exact hbefore hidles rfl hidles.active hidles.known

/-- A tick that a seat crosses the lock stage at locks its session, if it is so caught. -/
theorem onIdleTick_idles (hreach : Reachable d) (hcatches : Catches holders tr d env .idleTick)
    (hguarded : Guarded holders tr d) (henabled : d.settings.lock.enabled = true)
    (honIdle : d.settings.lock.lockOnIdle = true)
    (hidles : Idles (d.onIdleTick env).1.standing k a session)
    (hholder : holders session.userName) :
    Settled tr d k a ∨ (d.onIdleTick env).1.locks.isLocked a = true := by
  rw [onIdleTick_standing] at hidles
  obtain ⟨hpast', hactive, hknown⟩ := hidles
  cases hpast : (d.idle.stageOf k).past with
  | true => exact Or.inl (hguarded k a session ⟨hpast, hactive, hknown⟩ hholder)
  | false =>
      simp only [IdleDetector.tick_stageOf] at hpast'
      split at hpast'
      · rename_i hseat
        have hchange : (k, _) ∈ d.stageChanges env.now :=
          (d.idle.mem_tick env.now (IdlePolicy.from d.settings.idle)).2 ⟨hseat, rfl, by
            intro heq
            rw [heq, hpast'] at hpast
            cases hpast⟩
        rw [onIdleTick_isLocked]
        rcases hcatches k _ a session hchange hpast' hpast hactive hknown hholder with
          hsettled | ⟨hlock, hhow⟩
        · exact Or.inl hsettled
        · have hcan : d.standing.canLock = true := by
            simp only [Standing.canLock, standing, henabled, hlock, Bool.not_false, Bool.and_self]
          rcases hhow with ⟨hstage, hpassword⟩ | ⟨⟨seatId, hsuspend⟩, hblocks, honSuspend⟩
          · refine Or.inr (Or.inr ⟨_, hchange, Or.inl ⟨hstage, honIdle, hactive, ?_, hcan⟩⟩)
            have hroster : d.standing.roster a = some session := hknown
            simp [Standing.passwordless, hroster, hpassword]
          · obtain ⟨ctx, hctx, rfl⟩ := SessionManager.roster_eq_some_iff.1 hknown
            exact Or.inr (Or.inr ⟨_, hsuspend, Or.inr ⟨rfl, hblocks, honSuspend, hcan, a,
              ctx.session, hknown, hreach.ctx_id hctx⟩⟩)
      · rw [hpast] at hpast'
        cases hpast'

theorem Idles.rehash (hr : Rehash d d') (h : Idles d'.standing k a session) :
    Idles d.standing k a session := by
  obtain ⟨hpast, hactive, hknown⟩ := h
  refine ⟨?_, ?_, ?_⟩
  · simpa only [standing, hr.stageOf_eq] using hpast
  · simpa only [standing, SeatManager.activeSession_eq_ok, hr.seats.lookup_eq] using hactive
  · simpa only [standing, hr.sessions.roster_eq] using hknown

theorem Guarded.step {l : DaemonLabel} (h : Guarded holders tr d) (hreach : Reachable d)
    (henabled : d.settings.lock.enabled = true) (honIdle : d.settings.lock.lockOnIdle = true)
    (hstep : Step d l d') (hcatches : CatchesStep holders tr ⟨d, l, d'⟩) :
    Guarded holders (tr ++ [⟨d, l, d'⟩]) d' := by
  intro k a session hidles hholder
  have hstep' := hstep
  cases hstep with
  | handled env event =>
      have hcatches : Catches holders tr d env event := hcatches
      rcases handle_idle_cases d env event (d.handle env event).2 with
        ⟨rfl, -⟩ | ⟨cmd, seatId, rfl, hrequest, hidle⟩ | ⟨hne, hnone, -⟩
      · rcases onIdleTick_idles hreach hcatches h henabled honIdle hidles hholder with
          hsettled | hlocked
        · exact hsettled.step hstep' rfl
        · exact Or.inl hlocked
      · by_cases hk : k = seatId
        · subst hk
          -- whoever touches a seat brings it back from idling
          have hpast : ((d.handle env (.ipc (.command cmd))).1.idle.stageOf k).past = true :=
            hidles.past
          rw [hidle] at hpast
          simp [IdleDetector.recordActivity, IdleDetector.stageOf, IdleStage.past] at hpast
        · have hother : DaemonLabel.reportedAt k (.handled env (.ipc (.command cmd))
              (d.handle env (.ipc (.command cmd))).2) = none := by
            simp [DaemonLabel.reportedAt, hrequest, Ne.symm hk]
          exact (handle_idles hcatches h (by simp) hother hidles hholder).step hstep' hother
      · exact (handle_idles hcatches h hne (hnone k) hidles hholder).step hstep' (hnone k)
  | rehash hr => exact (h k a session (hidles.rehash hr) hholder).step hstep' rfl

/-- A tick finds the seat past the lock stage once it has been idle for `lock_after`. -/
theorem onIdleTick_past {last : Instant} (hpos : 0 < (IdlePolicy.from d.settings.idle).lockAfter)
    (hlast : d.idle.tracker.lastActivity.lookup k = some last)
    (hlong : last + (IdlePolicy.from d.settings.idle).lockAfter ≤ env.now) :
    ((d.onIdleTick env).1.standing.idle.stageOf k).past = true := by
  have hseat : k ∈ d.idle.tracker.seats := AList.mem_keys.2 (Table.mem_iff_lookup.2 ⟨last, hlast⟩)
  have hidleFor : d.idle.tracker.idleFor k env.now = env.now - last := by
    simp only [IdleTracker.idleFor, hlast]
  rw [onIdleTick_standing]
  simp only [IdleDetector.tick_stageOf, hseat, if_true, hidleFor]
  exact IdlePolicy.stageFor_past hpos (Nat.le_sub_of_add_le' hlong)

/-! ## Whole runs -/

/-- The account has a usable password at some tick of the run. -/
def HoldsPassword (tr : List (Transition Daemon DaemonLabel)) (userName : String) : Prop :=
  ∃ x ∈ tr, ∃ env effects, x.label = .handled env .idleTick effects
    ∧ userHasPassword env.shadow userName = true

/-- After every tick, the active session of every seat without activity for `lock_after` is locked
    if its user has a usable password and locking is not blocked, unless it was unlocked since
    the last activity. -/
def IdleLocksKept (settings : Settings) (tr : List (Transition Daemon DaemonLabel)) : Prop :=
  ∀ tr₁ x tr₂ env effects, tr = tr₁ ++ x :: tr₂ → x.label = .handled env .idleTick effects →
    ∀ seatId last a session, lastReport seatId tr₁ = some last →
      last + (IdlePolicy.from settings.idle).lockAfter ≤ env.now →
      x.post.seats.activeSession seatId = .ok (some a) →
      x.post.sessions.roster a = some session →
      userHasPassword env.shadow session.userName = true →
      x.pre.locks.inhibitors.blocks .lock = false →
      x.post.locks.isLocked a = true ∨ UnlockedSince seatId a tr₁

/-- **When no idle lock is lost.** Along every run with settings that ask for idle locks: if at
    every tick at which a seat gets past the lock stage its session can be locked then, and no
    session that is not locked comes to the front of a seat past it, then no idle lock is lost. -/
theorem idle_lock_kept {settings : Settings} {d₀ : Daemon} (hinit : Initial d₀)
    (hrun : Run Step d₀ tr d) (hfixed : ∀ x ∈ tr, x.pre.settings = settings)
    (henabled : settings.lock.enabled = true) (honIdle : settings.lock.lockOnIdle = true)
    (hpos : 0 < (IdlePolicy.from settings.idle).lockAfter)
    (hcatches : ∀ tr₁ x tr₂, tr = tr₁ ++ x :: tr₂ → CatchesStep (HoldsPassword tr) tr₁ x) :
    IdleLocksKept settings tr := by
  have hstart : Guarded (HoldsPassword tr) [] d₀ := by
    obtain ⟨settings, seats, authenticator, uid, powerBackend, socketPath, rfl⟩ := hinit.eq
    intro k a session hidles _
    cases hidles.past
  intro tr₁ x tr₂ env effects htr hlabel k last a session hlast hlong hactive hknown hpassword _
  obtain ⟨hbefore, hstep⟩ := hrun.split htr
  have hguarded : Reachable x.pre ∧ Guarded (HoldsPassword tr) tr₁ x.pre := by
    refine hbefore.history_along (P := fun tr' d => Reachable d ∧ Guarded (HoldsPassword tr) tr' d)
      (G := fun tr' y => y.pre.settings = settings ∧ CatchesStep (HoldsPassword tr) tr' y)
      ⟨⟨d₀, [], hinit, Run.nil⟩, hstart⟩ ?_ ?_
    · rintro tr₁' y tr₂' rfl
      have hy : tr = tr₁' ++ y :: (tr₂' ++ x :: tr₂) := by
        rw [htr, List.append_assoc, List.cons_append]
      exact ⟨hfixed y (by simp [hy]), hcatches _ _ _ hy⟩
    · rintro tr' d l d' ⟨hreach, hguarded⟩ hstep ⟨rfl, hgood⟩
      exact ⟨hreach.step hstep, hguarded.step hreach henabled honIdle hstep hgood⟩
  obtain ⟨hreach, hguarded⟩ := hguarded
  have hgood := hcatches _ _ _ htr
  have hholder : HoldsPassword tr session.userName :=
    ⟨x, by simp [htr], env, effects, hlabel, hpassword⟩
  obtain rfl : x.pre.settings = settings := hfixed x (by simp [htr])
  obtain ⟨pre, label, post⟩ := x
  change Step pre label post at hstep
  cases hstep with
  | rehash => cases hlabel
  | handled env event =>
      obtain ⟨rfl, rfl, rfl⟩ := DaemonLabel.handled.inj hlabel
      rw [← lastActivity_eq_lastReport hinit hbefore] at hlast
      have hidles : Idles (pre.onIdleTick env).1.standing k a session :=
        ⟨onIdleTick_past hpos hlast hlong, hactive, hknown⟩
      rcases onIdleTick_idles hreach hgood hguarded henabled honIdle hidles hholder with
        (hlocked | hsince) | hlocked
      · exact Or.inl (onIdleTick_isLocked.2 (Or.inl hlocked))
      · exact Or.inr hsince
      · exact Or.inl hlocked

section Example

/-- Alice touches her seat, and then comes something else. -/
private def touchedThen (later : List (Env × DaemonEvent)) : List (Env × DaemonEvent) :=
  demoThen ((demoEnv 0, .ipc (.command (demoCommand 7 1000 (.reportActivity "seat0")))) :: later)

/-- Five minutes later the tick locks her session. -/
theorem idle_session_locked :
    IdleLocksKept default
      (demoTrace (touchedThen [(demoEnv (Duration.fromSecs 301), .idleTick)])) := by
  refine idle_lock_kept demo_initial (demoTrace_run (by decide)) ?_ rfl rfl (by decide) ?_
  · exact List.forall_mem_cons.2 ⟨rfl, List.forall_mem_cons.2 ⟨rfl, List.forall_mem_cons.2 ⟨rfl,
      List.forall_mem_cons.2 ⟨rfl, List.forall_mem_cons.2 ⟨rfl, List.forall_mem_nil _⟩⟩⟩⟩⟩
  · have hall : ∀ x ∈ demoTrace (touchedThen [(demoEnv (Duration.fromSecs 301), .idleTick)]),
        ∀ holders tr₁, CatchesStep holders tr₁ x := by
      refine List.forall_mem_cons.2 ⟨fun _ _ => trivial, List.forall_mem_cons.2 ⟨?_,
        List.forall_mem_cons.2 ⟨fun _ _ _ => trivial, List.forall_mem_cons.2 ⟨fun _ _ _ => trivial,
          List.forall_mem_cons.2 ⟨?_, List.forall_mem_nil _⟩⟩⟩⟩⟩
      · intro holders tr₁ _ user seatId _ _ hpast
        cases hpast
      · intro holders tr₁ seatId stage a session hchange
        obtain ⟨rfl, rfl⟩ := Prod.mk.inj (List.mem_singleton.1 hchange)
        exact fun _ _ _ _ _ => Or.inr ⟨by decide, Or.inl ⟨rfl, rfl⟩⟩
    intro tr₁ x tr₂ htr
    exact hall x (by simp [htr]) _ tr₁

/-- An inhibitor on the lock is held at that tick, and released a second later. -/
private def lateRelease : List (Env × DaemonEvent) :=
  touchedThen
    [(demoEnv 0, .ipc (.command (demoCommand 7 1000
        (.inhibit .lock "mpv" "playing a film" .block)))),
      (demoEnv (Duration.fromSecs 301), .idleTick),
      (demoEnv (Duration.fromSecs 302), .ipc (.command (demoCommand 7 1000 (.releaseInhibit 1)))),
      (demoEnv (Duration.fromSecs 303), .idleTick)]

/-- Her session stays unlocked after the release. -/
theorem released_too_late :
    ¬ ∀ (settings : Settings) (d₀ d : Daemon) (tr : List (Transition Daemon DaemonLabel)),
      Initial d₀ → Run Step d₀ tr d → (∀ x ∈ tr, x.pre.settings = settings) →
      settings.lock.enabled = true → settings.lock.lockOnIdle = true →
      0 < (IdlePolicy.from settings.idle).lockAfter → IdleLocksKept settings tr := by
  intro hclaim
  have hrun : Run Step demo (demoTrace lateRelease) _ := demoTrace_run (by decide)
  have hkept := hclaim default _ _ _ demo_initial hrun
    (List.forall_mem_cons.2 ⟨rfl, List.forall_mem_cons.2 ⟨rfl, List.forall_mem_cons.2 ⟨rfl,
      List.forall_mem_cons.2 ⟨rfl, List.forall_mem_cons.2 ⟨rfl, List.forall_mem_cons.2 ⟨rfl,
        List.forall_mem_cons.2 ⟨rfl, List.forall_mem_cons.2 ⟨rfl, List.forall_mem_nil _⟩⟩⟩⟩⟩⟩⟩⟩)
    rfl rfl (by decide)
  have hneverUnlocked : ∀ x ∈ demoTrace lateRelease, ¬ AnswersUnlock 1 x.label := by
    simp [AnswersUnlock, DaemonLabel.command, demoTrace, lateRelease, touchedThen, demoThen,
      System.transitions, System.toDaemon, demoConnect, demoCommand]
  rcases hkept _ _ [] _ _ (List.take_append_drop 7 _).symm rfl "seat0" 0 1 _ (by decide)
    (by decide) (by decide) rfl rfl (by decide) with hlocked | ⟨x, hx, hunlock⟩
  · revert hlocked
    decide
  · have hmem := (List.takeWhile_sublist _).subset hx
    exact hneverUnlocked x (List.mem_of_mem_take (List.mem_reverse.1 hmem)) hunlock

end Example

end Daemon

end MitosSession
