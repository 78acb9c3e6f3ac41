import MitosSession.Daemon.Managers
import MitosSession.Daemon.Ownership
import MitosSession.Daemon.Registries

set_option autoImplicit false

/-! # Requests that name a session there is none of

Seven requests name a session. `authorize` turns a stranger away when there is no such session,
but it lets root through unseen, and then it is up to each handler. Four of them look the session
up and fail. `lock_session` and `unlock` go straight to the lock manager, which makes an entry for
any id it is given, and `SwitchSession` asks the seat, which may still hold a session that a reboot
or a power-off has ended. `unknown_session_iff` says exactly when such a request is turned away,
and that a session whose id nobody touched before starts with clean records. -/

namespace MitosSession

/-- The session a request names, for the requests that must name one there is. -/
def Request.namedSession : Request → Option SessionId
  | .requestElevation sessionId _ => some sessionId
  | request => request.ownedSession

namespace Daemon

variable {d d' d₀ : Daemon} {env : Env} {event : DaemonEvent} {s : SessionId}

/-- The command is answered with an error and leaves sessions, seats, locks and prompts as they
    were. -/
structure TurnedAway (d : Daemon) (env : Env) (cmd : ManagerCommand) : Prop where
  answer : ∃ text, (d.handle env (.ipc (.command cmd))).2
    = [d.registry.sendResponse cmd.connId (.error text)]
  sessions : (d.handle env (.ipc (.command cmd))).1.sessions = d.sessions
  seats : (d.handle env (.ipc (.command cmd))).1.seats = d.seats
  locks : (d.handle env (.ipc (.command cmd))).1.locks = d.locks
  elevation : (d.handle env (.ipc (.command cmd))).1.elevation = d.elevation

/-- Something other than the missing session stops the command: its peer is not root, or its
    handler looks the session up, or the lock manager refuses to lock, or the seat does not hold
    the session. -/
def Stopped (d : Daemon) (cmd : ManagerCommand) : Prop :=
  cmd.peer.uid ≠ 0
    ∨ match cmd.request with
      | .lockSession _ =>
        (LockPolicy.from d.settings.lock).enabled = false
          ∨ d.locks.inhibitors.blocks .lock = true
      | .unlock _ _ _ => False
      | .switchSession seatId id =>
        ∀ seat, d.seats.seats.lookup seatId = some seat → id ∉ seat.held
      | _ => True

/-! ## One handler each -/

theorem turnedAway_of_eq {cmd : ManagerCommand} (text : String)
    (h : d.handle env (.ipc (.command cmd))
      = (d, [d.registry.sendResponse cmd.connId (.error text)])) : TurnedAway d env cmd := by
  constructor
  · exact ⟨text, by rw [h]⟩
  all_goals rw [h]

/-- An authorized command whose handler rejects it. -/
theorem turnedAway_of_reply {cmd : ManagerCommand} (text : String)
    (hauth : authorize env.userByName cmd.peer cmd.connId cmd.request d.sessions d.elevation
      = .ok ())
    (h : d.dispatch env cmd.connId cmd.request
      = { daemon := d, effects := [], response := some (.error text) }) : TurnedAway d env cmd := by
  refine turnedAway_of_eq text ?_
  rw [handle_authorized hauth, h]
  rfl

/-- An authorized command that is answered, and not with an error. -/
theorem not_turnedAway {cmd : ManagerCommand} (response : Response)
    (hauth : authorize env.userByName cmd.peer cmd.connId cmd.request d.sessions d.elevation
      = .ok ())
    (h : (d.dispatch env cmd.connId cmd.request).response = some response)
    (hresponse : ∀ text, response ≠ .error text) : ¬ TurnedAway d env cmd := by
  rintro ⟨⟨text, hanswer⟩, -⟩
  rw [handle_authorized hauth, h] at hanswer
  have hlast := congrArg List.getLast? hanswer
  simp only [Option.map_some, Option.toList_some, List.getLast?_append, List.getLast?_singleton,
    Option.some_or, Option.some.injEq, ConnRegistry.sendResponse, Effect.send.injEq,
    Message.response.injEq, true_and] at hlast
  exact hresponse text hlast.1

theorem lockSession_unknown (env : Env) (h : d.sessions.sessions.lookup s = none)
    (reason : LockReason) :
    d.lockSession env s reason
      = match d.locks.lock s (LockPolicy.from d.settings.lock) with
        | .error e => { daemon := d, effects := [], response := some (.error e.display) }
        | .ok locks => { daemon := { d with locks }, effects := [], response := some .ok } := by
  have hcan : d.cannotUnlock env s = false := by
    simp only [cannotUnlock, SessionManager.get, h]
  simp only [lockSession, hcan, Bool.false_eq_true, if_false]
  cases d.locks.lock s (LockPolicy.from d.settings.lock) with
  | error e => rfl
  | ok locks => simp only [showLock, SessionManager.get, h]

theorem startElevation_unknown (env : Env) (h : d.sessions.sessions.lookup s = none)
    (connId : ConnId) (action : ElevationAction) :
    ∃ text, d.startElevation env connId s action
      = { daemon := d, effects := [], response := some (.error text) } := by
  unfold startElevation
  dsimp only
  split
  · exact ⟨_, rfl⟩
  · split
    · exact ⟨_, rfl⟩
    · simp only [SessionManager.get, h]
      exact ⟨_, rfl⟩

/-- An authorized `LockSession` for a session there is none of. -/
theorem lockSession_turnedAway_iff {cmd : ManagerCommand} (hrequest : cmd.request = .lockSession s)
    (hauth : authorize env.userByName cmd.peer cmd.connId cmd.request d.sessions d.elevation
      = .ok ())
    (hunknown : d.sessions.sessions.lookup s = none) :
    TurnedAway d env cmd ↔ (LockPolicy.from d.settings.lock).enabled = false
      ∨ d.locks.inhibitors.blocks .lock = true := by
  have hreply := lockSession_unknown env hunknown .manual
  cases hlock : d.locks.lock s (LockPolicy.from d.settings.lock) with
  | ok locks =>
      obtain ⟨⟨henabled, hblocks⟩, -⟩ := LockManager.lock_eq_ok_iff.1 hlock
      rw [hlock] at hreply
      refine iff_of_false (not_turnedAway .ok hauth ?_ (by simp)) ?_
      · rw [hrequest]
        exact congrArg Reply.response hreply
      · simp [henabled, hblocks]
  | error e =>
      rw [hlock] at hreply
      refine iff_of_true (turnedAway_of_reply _ hauth (by rw [hrequest]; exact hreply)) ?_
      by_contra hfree
      simp only [not_or, Bool.not_eq_false, Bool.not_eq_true] at hfree
      rw [LockManager.lock_eq_ok_iff.2 ⟨hfree, rfl⟩] at hlock
      cases hlock

/-- An authorized `Unlock` is always answered with the outcome of the attempt. -/
theorem unlock_not_turnedAway {cmd : ManagerCommand} {userName password : String}
    (hrequest : cmd.request = .unlock s userName password)
    (hauth : authorize env.userByName cmd.peer cmd.connId cmd.request d.sessions d.elevation
      = .ok ()) : ¬ TurnedAway d env cmd := by
  refine not_turnedAway (.authResult (d.unlockAttempt env s userName password).outcome) hauth ?_
    (by simp)
  rw [hrequest]
  simp only [dispatch, unlock]
  split
  · rfl
  · rfl

theorem switchSession_turnedAway_iff {cmd : ManagerCommand} {seatId : String}
    (hrequest : cmd.request = .switchSession seatId s)
    (hauth : authorize env.userByName cmd.peer cmd.connId cmd.request d.sessions d.elevation
      = .ok ()) :
    TurnedAway d env cmd ↔ ∀ seat, d.seats.seats.lookup seatId = some seat → s ∉ seat.held := by
  rw [← SeatManager.switchActive_error_iff]
  cases hswitch : d.seats.switchActive seatId s with
  | error e =>
      refine iff_of_true (turnedAway_of_reply e.display hauth ?_) ⟨e, rfl⟩
      simp only [hrequest, dispatch, switchSession, hswitch]
  | ok switched =>
      refine iff_of_false (not_turnedAway .ok hauth ?_ (by simp)) (by simp)
      simp only [hrequest, dispatch, switchSession, hswitch]

/-- Four of the seven handlers look the session up. -/
theorem dispatch_unknown {cmd : ManagerCommand} (env : Env)
    (hnamed : cmd.request.namedSession = some s) (hunknown : d.sessions.sessions.lookup s = none) :
    (Stopped d cmd ∧ ∃ text, d.dispatch env cmd.connId cmd.request
        = { daemon := d, effects := [], response := some (.error text) })
      ∨ cmd.request = .lockSession s
      ∨ (∃ userName password, cmd.request = .unlock s userName password)
      ∨ ∃ seatId, cmd.request = .switchSession seatId s := by
  unfold Stopped
  cases hrequest : cmd.request with
  | terminateSession id =>
      rw [hrequest] at hnamed
      obtain rfl : id = s := Option.some.inj hnamed
      rcases terminateSession_cases d id with ⟨e, -, heq⟩ | ⟨ctx, hctx, -⟩
      · exact Or.inl ⟨Or.inr trivial, e.display, heq⟩
      · rw [hunknown] at hctx
        cases hctx
  | registerCompositor id =>
      rw [hrequest] at hnamed
      obtain rfl : id = s := Option.some.inj hnamed
      refine Or.inl ⟨Or.inr trivial, (SessionError.unknownSession id).display, ?_⟩
      simp only [dispatch, registerCompositor, SessionManager.get, hunknown]
  | sessionStatus id =>
      rw [hrequest] at hnamed
      obtain rfl : id = s := Option.some.inj hnamed
      refine Or.inl ⟨Or.inr trivial, (SessionError.unknownSession id).display, ?_⟩
      simp only [dispatch, SessionManager.get, hunknown]
  | requestElevation id action =>
      rw [hrequest] at hnamed
      obtain rfl : id = s := Option.some.inj hnamed
      exact Or.inl ⟨Or.inr trivial, startElevation_unknown env hunknown cmd.connId action⟩
  | lockSession id =>
      rw [hrequest] at hnamed
      obtain rfl : id = s := Option.some.inj hnamed
      exact Or.inr (Or.inl rfl)
  | unlock id userName password =>
      rw [hrequest] at hnamed
      obtain rfl : id = s := Option.some.inj hnamed
      exact Or.inr (Or.inr (Or.inl ⟨userName, password, rfl⟩))
  | switchSession seatId id =>
      rw [hrequest] at hnamed
      obtain rfl : id = s := Option.some.inj hnamed
      exact Or.inr (Or.inr (Or.inr ⟨seatId, rfl⟩))
  | _ => simp [hrequest, Request.namedSession, Request.ownedSession] at hnamed

theorem turnedAway_iff (d : Daemon) (env : Env) {cmd : ManagerCommand}
    (hnamed : cmd.request.namedSession = some s) (hunknown : d.sessions.sessions.lookup s = none) :
    TurnedAway d env cmd ↔ Stopped d cmd := by
  cases hauth : authorize env.userByName cmd.peer cmd.connId cmd.request d.sessions d.elevation with
  | error e =>
      -- `authorize` refuses nothing to root
      have hroot : cmd.peer.uid ≠ 0 := by
        intro huid
        simp [authorize, huid] at hauth
      exact iff_of_true (turnedAway_of_eq _ (handle_rejected hauth)) (Or.inl hroot)
  | ok _ =>
      -- it lets nobody else through where the session has to be the peer's own
      have hroot : cmd.request.ownedSession = some s → ¬ cmd.peer.uid ≠ 0 := by
        intro howned huid
        rcases authorize_owned howned hauth with h0 | ⟨ctx, hctx, -⟩
        · exact huid h0
        · rw [hunknown] at hctx
          cases hctx
      rcases dispatch_unknown env hnamed hunknown with
        ⟨hstopped, text, heq⟩ | hrequest | ⟨userName, password, hrequest⟩ | ⟨seatId, hrequest⟩
      · exact iff_of_true (turnedAway_of_reply text hauth heq) hstopped
      · rw [lockSession_turnedAway_iff hrequest hauth hunknown, Stopped, hrequest]
        exact (or_iff_right (hroot (by rw [hrequest]; rfl))).symm
      · rw [iff_false_left (unlock_not_turnedAway hrequest hauth), Stopped, hrequest]
        simpa using hroot (by rw [hrequest]; rfl)
      · rw [switchSession_turnedAway_iff hrequest hauth, Stopped, hrequest]
        exact (or_iff_right (hroot (by rw [hrequest]; rfl))).symm

/-! ## Clean records -/

/-- The session is unlocked with no attempt counted, and so it is for elevation; no lockout timer
    runs for it. -/
structure Clean (s : SessionId) (d : Daemon) : Prop where
  entry : d.locks.entry s = {}
  timer : d.locks.timeouts.lockoutExpiry.lookup s = none
  auth : d.elevation.auth s = {}
  elevationTimer : d.elevation.timeouts.lockoutExpiry.lookup s = none

/-- Nothing in the daemon knows the id. -/
structure Fresh (s : SessionId) (d : Daemon) : Prop extends Clean s d where
  unknown : d.sessions.sessions.lookup s = none
  nowhere : ∀ seatId seat, d.seats.seats.lookup seatId = some seat → s ∉ seat.held

/-- A command that names a session there is none of is stopped. -/
def StopsUnknown (x : Transition Daemon DaemonLabel) : Prop :=
  ∀ env cmd effects s, x.label = .handled env (.ipc (.command cmd)) effects →
    cmd.request.namedSession = some s → x.pre.sessions.sessions.lookup s = none →
    Stopped x.pre cmd

/-- The step takes the session id `s`, for a session it creates or tries to create. -/
def Takes (s : SessionId) (x : Transition Daemon DaemonLabel) : Prop :=
  x.pre.sessions.nextId = s ∧ x.post.sessions.nextId ≠ s

instance (s : SessionId) (x : Transition Daemon DaemonLabel) : Decidable (Takes s x) :=
  inferInstanceAs (Decidable (_ ∧ _))

theorem Initial.fresh (h : Initial d) (s : SessionId) : Fresh s d := by
  have hnowhere : ∀ seatId seat, d.seats.seats.lookup seatId = some seat → s ∉ seat.held := by
    intro seatId seat hseat
    rw [h.seats_empty hseat]
    exact List.not_mem_nil
  obtain ⟨settings, seats, authenticator, uid, powerBackend, socketPath, rfl⟩ := h.eq
  exact ⟨⟨rfl, rfl, rfl, rfl⟩, rfl, hnowhere⟩

/-- No automatic lock reaches the id. -/
theorem Fresh.not_reaches (h : Fresh s d) (hreach : Reachable d) : ¬ d.standing.Reaches s := by
  rintro (⟨k, session, hroster, hid⟩ | ⟨seatId, hactive⟩)
  · obtain ⟨ctx, hctx, rfl⟩ := SessionManager.roster_eq_some_iff.1 hroster
    have hkey : ctx.id = k := hreach.ctx_id hctx
    obtain rfl : k = s := hkey.symm.trans hid
    rw [h.unknown] at hctx
    cases hctx
  · obtain ⟨seat, hseat, hs⟩ := SeatManager.activeSession_eq_ok.1 hactive
    refine h.nowhere seatId seat hseat ?_
    simp [Seat.held, hs]

section Stopped

variable {cmd : ManagerCommand} {effects : List Effect} {id : SessionId} (h : Fresh s d)
  (hstops : StopsUnknown ⟨d, .handled env (.ipc (.command cmd)) effects, d'⟩)
  (hauth : authorize env.userByName cmd.peer cmd.connId cmd.request d.sessions d.elevation = .ok ())
include h hstops

/-- A command that names the id is stopped, and with that turned away. -/
theorem Fresh.turnedAway (hnamed : cmd.request.namedSession = some s) : TurnedAway d env cmd :=
  (turnedAway_iff d env hnamed h.unknown).2 (hstops env cmd effects s rfl hnamed h.unknown)

include hauth

/-- What is locked on request is another session. -/
theorem Fresh.ne_of_lock {locks : LockManager} (hrequest : cmd.request = .lockSession id)
    (hlock : d.locks.lock id (LockPolicy.from d.settings.lock) = .ok locks) : s ≠ id := by
  rintro rfl
  have haway := h.turnedAway hstops (by rw [hrequest]; rfl)
  obtain ⟨⟨henabled, hblocks⟩, -⟩ := LockManager.lock_eq_ok_iff.1 hlock
  rcases (lockSession_turnedAway_iff hrequest hauth h.unknown).1 haway with hoff | hon
  · rw [henabled] at hoff
    cases hoff
  · rw [hblocks] at hon
    cases hon

/-- What is unlocked, or tried to be, is another session. -/
theorem Fresh.ne_of_unlock {userName password : String}
    (hrequest : cmd.request = .unlock id userName password) : s ≠ id := by
  rintro rfl
  exact unlock_not_turnedAway hrequest hauth (h.turnedAway hstops (by rw [hrequest]; rfl))

end Stopped

section Step

variable (h : Fresh s d) (hreach : Reachable d)
  (hstops : StopsUnknown ⟨d, .handled env event (d.handle env event).2, (d.handle env event).1⟩)
include h

/-- Where the locks engaged are those of sessions the daemon knows. -/
theorem Fresh.engaged {m : LockManager} (hreach : Reachable d)
    (hengaged : LockManager.Engaged d.standing.Reaches d.locks m) :
    m.entry s = {} ∧ m.timeouts.lockoutExpiry.lookup s = none := by
  rw [hengaged.timeouts]
  refine ⟨?_, h.timer⟩
  rcases hengaged.entry s with hsame | ⟨hreaches, -⟩
  · exact hsame.trans h.entry
  · exact absurd hreaches (h.not_reaches hreach)

include hreach hstops

theorem Fresh.locks :
    (d.handle env event).1.locks.entry s = {}
      ∧ (d.handle env event).1.locks.timeouts.lockoutExpiry.lookup s = none := by
  have hto := handle_locksTo d env event
  generalize (d.handle env event).1.locks = locks at hto
  cases hto with
  | same _ _ hlocks htimeouts =>
      rw [htimeouts]
      refine ⟨?_, h.timer⟩
      simp only [LockManager.entry, hlocks]
      exact h.entry
  | @locked cmd id _ hauth hrequest hlock =>
      have hne : s ≠ id := h.ne_of_lock hstops hauth hrequest hlock
      rw [LockManager.lock_entry hlock, if_neg hne, (LockManager.lock_frame hlock).2]
      exact ⟨h.entry, h.timer⟩
  | @attempted cmd id userName password hauth hrequest =>
      have hne : s ≠ id := h.ne_of_unlock hstops hauth hrequest
      obtain ⟨hlookup, htimer⟩ := d.unlockAttempt_frame env hne userName password
      exact ⟨(LockManager.entry_eq_of_lookup hlookup).trans h.entry, htimer.trans h.timer⟩
  | suspended cmd _ => exact h.engaged hreach (idleSuspend_engaged d env)
  | ticked =>
      obtain ⟨hentry, htimer⟩ := h.engaged hreach (staged_engaged d env)
      constructor
      -- no timer runs for `s`, so the sweep passes it over
      · rw [LockManager.sweepLockouts_entry, if_neg, hentry]
        rintro ⟨expiry, hexpiry, -⟩
        rw [htimer] at hexpiry
        cases hexpiry
      · rw [Option.eq_none_iff_forall_ne_some]
        intro expiry hexpiry
        rw [(LockManager.sweepLockouts_lockoutExpiry.1 hexpiry).1] at htimer
        cases htimer

omit hreach hstops in
theorem Fresh.elevation :
    (d.handle env event).1.elevation.auth s = {}
      ∧ (d.handle env event).1.elevation.timeouts.lockoutExpiry.lookup s = none := by
  have hsame : ∀ {m : ElevationManager}, ElevationManager.SameRecords d.elevation m →
      m.auth s = {} ∧ m.timeouts.lockoutExpiry.lookup s = none := by
    intro m hsame
    rw [hsame.lockoutExpiry]
    refine ⟨?_, h.elevationTimer⟩
    simp only [ElevationManager.auth, hsame.sessionAuth]
    exact h.auth
  have hto := handle_elevates d env event
  generalize (d.handle env event).1.elevation = elevation at hto
  cases hto with
  | same _ _ => exact ⟨h.auth, h.elevationTimer⟩
  | begun cmd hrequest hctx hbegin =>
      obtain ⟨-, -, rfl⟩ := ElevationManager.begin_eq_ok_iff.1 hbegin
      exact ⟨h.auth, h.elevationTimer⟩
  | cancelled cmd hrequest => exact ⟨h.auth, h.elevationTimer⟩
  | @attempted cmd requestId password p ctx attempt hauth hrequest hp hctx hattempt hresponse =>
      have hne : s ≠ p.sessionId := by
        rintro rfl
        -- an answer is checked only for a session that is there
        rw [h.unknown] at hctx
        cases hctx
      obtain ⟨hrecord, htimer⟩ := ElevationManager.attempt_frame _ _ hp hattempt hne
      exact ⟨hrecord.trans h.auth, htimer.trans h.elevationTimer⟩
  | abandoned _ _ predicate => exact hsame (ElevationManager.takeAll_spec _ _).2.2
  | ticked =>
      have hexpired := (ElevationManager.expirePending_spec
        (d.elevation.clearExpiredLockouts env.now) env.now).2
      have htimer : ∀ expiry, d.elevation.timeouts.lockoutExpiry.lookup s ≠ some expiry := by
        rw [h.elevationTimer]
        simp
      rw [hexpired.lockoutExpiry]
      constructor
      · have hauth : (d.elevation.clearExpiredLockouts env.now).auth s = d.elevation.auth s :=
          ElevationManager.clearExpiredLockouts_auth fun expiry hexpiry =>
            absurd hexpiry (htimer expiry)
        simp only [ElevationManager.auth, hexpired.sessionAuth] at hauth ⊢
        exact hauth.trans h.auth
      · rw [Option.eq_none_iff_forall_ne_some]
        intro expiry hexpiry
        exact htimer expiry (ElevationManager.clearExpiredLockouts_lockoutExpiry.1 hexpiry).1
  | reloaded uid => exact ⟨h.auth, h.elevationTimer⟩

omit hreach hstops in
/-- Only the step that takes the id enters a session under it. -/
theorem Fresh.lookup
    (htakes : ¬ Takes s ⟨d, .handled env event (d.handle env event).2, (d.handle env event).1⟩) :
    (d.handle env event).1.sessions.sessions.lookup s = none := by
  rw [Option.eq_none_iff_forall_ne_some]
  intro ctx' hctx'
  rcases System.handle_record d env event hctx' with ⟨ctx, hctx, -⟩ | ⟨hid, hnext, -⟩
  · rw [h.unknown] at hctx
    cases hctx
  · refine htakes ⟨hid.symm, ?_⟩
    dsimp only
    rw [hnext, hid]
    exact wrapU32_succ_ne _

omit hreach hstops in
theorem Fresh.held
    (htakes : ¬ Takes s ⟨d, .handled env event (d.handle env event).2, (d.handle env event).1⟩)
    (seatId : String) (seat : Seat)
    (hseat : (d.handle env event).1.seats.seats.lookup seatId = some seat) : s ∉ seat.held := by
  have hlookup := h.lookup htakes
  have hroster : (d.handle env event).1.standing.roster s = none := by
    simp only [standing, SessionManager.roster, hlookup, Option.map_none]
  have hseats : (d.handle env event).1.standing.seats.seats.lookup seatId = some seat := hseat
  have hstands := handle_stands d env event
  generalize (d.handle env event).1.standing = after at hstands hroster hseats
  cases hstands with
  | created cmd session hauth hrequest hid hon huser =>
      have hne : s ≠ session.id := by
        rintro rfl
        simp only [Function.update_self, reduceCtorEq] at hroster
      simp only [SeatManager.attachSession_lookup] at hseats
      split at hseats
      · obtain rfl := Option.some.inj hseats
        rw [(Seat.attached_held _ _).mem_iff, List.mem_cons, not_or]
        refine ⟨hne, ?_⟩
        cases hold : d.seats.seats.lookup session.seatId with
        | none => simp [Seat.held]
        | some old => exact h.nowhere _ old hold
      · exact h.nowhere seatId seat hseats
  | terminated cmd hauth hrequest hctx =>
      simp only [SeatManager.detachSession_lookup, Option.map_eq_some_iff] at hseats
      obtain ⟨old, hold, rfl⟩ := hseats
      exact fun hmem => h.nowhere seatId old hold (Seat.mem_of_mem_detached old _ hmem)
  | switched cmd hauth hrequest hswitch =>
      obtain ⟨old, hold, hmem, hafter⟩ := SeatManager.switchActive_lookup hswitch
      simp only [hafter] at hseats
      split at hseats
      · obtain rfl := Option.some.inj hseats
        exact fun hs => h.nowhere _ old hold (Seat.mem_of_mem_switched old _ hmem hs)
      · exact h.nowhere seatId seat hseats
  | _ => exact h.nowhere seatId seat hseats

theorem Fresh.clean : Clean s (d.handle env event).1 := by
  obtain ⟨hentry, htimer⟩ := h.locks hreach hstops
  exact ⟨hentry, htimer, h.elevation.1, h.elevation.2⟩

end Step

/-- A change of iteration order changes no record. -/
theorem Fresh.rehash (h : Fresh s d) (hr : Rehash d d') : Fresh s d' := by
  refine ⟨⟨?_, ?_, ?_, ?_⟩, ?_, fun seatId seat hseat => ?_⟩
  · exact (hr.locks.entry_eq s).trans h.entry
  · rw [hr.locks.lockoutExpiry.lookup_eq]
    exact h.timer
  · exact (hr.elevation.auth_eq s).trans h.auth
  · rw [hr.elevation.lockoutExpiry.lookup_eq]
    exact h.elevationTimer
  · rw [hr.sessions.sessions.lookup_eq]
    exact h.unknown
  · rw [Table.Rehash.lookup_eq hr.seats] at hseat
    exact h.nowhere seatId seat hseat

/-! ## Whole runs -/

/-- An id that no step took so far, in a run that stops every command naming an unknown
    session. -/
theorem fresh_of_run {tr : List (Transition Daemon DaemonLabel)} (hinit : Initial d₀)
    (hrun : Run Step d₀ tr d) (hstops : ∀ x ∈ tr, StopsUnknown x)
    (htakes : ∀ x ∈ tr, ¬ Takes s x) : Fresh s d := by
  refine (hrun.forall_transitions (I := fun d => Reachable d ∧ Fresh s d)
    (G := fun x => StopsUnknown x ∧ ¬ Takes s x) (Q := fun _ => True)
    ⟨⟨d₀, [], hinit, Run.nil⟩, hinit.fresh s⟩ (fun x hx => ⟨hstops x hx, htakes x hx⟩) ?_).1.2
  rintro d l d' ⟨hreach, hfresh⟩ hstep ⟨hstops, htakes⟩
  refine ⟨⟨hreach.step hstep, ?_⟩, trivial⟩
  cases hstep with
  | handled env event =>
      exact ⟨hfresh.clean hreach hstops, hfresh.lookup htakes, hfresh.held htakes⟩
  | rehash hr => exact hfresh.rehash hr

/-- **Unknown sessions.** In every state a run reaches, a command that names a session there is
    none of is turned away exactly if it does not come from root, or is none of `LockSession`,
    `Unlock` and `SwitchSession`, or is a `LockSession` while locking is disabled or blocked, or a
    `SwitchSession` for a seat that does not hold the session. In a run where every such command is
    stopped that way, a session starts with clean records if its id was not taken before. -/
theorem unknown_session_iff {tr : List (Transition Daemon DaemonLabel)} (hinit : Initial d₀)
    (hrun : Run Step d₀ tr d) :
    (∀ env cmd s, cmd.request.namedSession = some s → d.sessions.sessions.lookup s = none →
        (TurnedAway d env cmd ↔ Stopped d cmd))
      ∧ ((∀ x ∈ tr, StopsUnknown x) → ∀ tr₁ x tr₂ s, tr = tr₁ ++ x :: tr₂ → Takes s x →
        (∀ y ∈ tr₁, ¬ Takes s y) → Clean s x.post) := by
  refine ⟨fun env cmd s hnamed hunknown => turnedAway_iff d env hnamed hunknown, ?_⟩
  rintro hstops tr₁ ⟨pre, label, post⟩ tr₂ s rfl htakes hearlier
  obtain ⟨hbefore, hstep⟩ := hrun.split rfl
  have hfresh : Fresh s pre :=
    fresh_of_run hinit hbefore (fun y hy => hstops y (List.mem_append_left _ hy)) hearlier
  have hhere := hstops _ (List.mem_append_right _ (List.mem_cons_self ..))
  dsimp only at hstep
  cases hstep with
  | handled env event => exact hfresh.clean ⟨d₀, tr₁, hinit, hbefore⟩ hhere
  | rehash hr => exact (hfresh.rehash hr).toClean

/-- Somebody says something about session 1, and then Alice creates it. -/
private def saidThenCreated (uid : ℕ) (request : Request) : List (Env × DaemonEvent) :=
  [(demoEnv 0, demoConnect 9 uid),
    (demoEnv 0, .ipc (.command (demoCommand 9 uid request))),
    (demoEnv 0, demoConnect 7 1000),
    (demoEnv 0, .ipc (.command (demoCommand 7 1000 (.createSession "alice" none none))))]

/-- Bob guesses the password of a session that is not there yet. -/
private def bobGuessed : List (Env × DaemonEvent) :=
  saidThenCreated 1001 (.unlock 1 "alice" "guess")

/-- He cannot spoil it: the session starts with clean records. -/
theorem unknown_session_guessed :
    ∃ x ∈ demoTrace bobGuessed, Takes 1 x ∧ Clean 1 x.post := by
  have hstrangers : ∀ x ∈ demoTrace bobGuessed,
      (x.label.command.all fun cmd => cmd.peer.uid ≠ 0) = true := by
    decide
  have hstops : ∀ x ∈ demoTrace bobGuessed, StopsUnknown x := by
    intro x hx env cmd effects s hlabel _ _
    have hpeer := hstrangers x hx
    rw [hlabel] at hpeer
    exact Or.inl (of_decide_eq_true hpeer)
  have hsplit := (List.dropLast_append_getLast (l := demoTrace bobGuessed) (by decide)).symm
  have htakes : Takes 1 ((demoTrace bobGuessed).getLast (by decide)) := by decide
  refine ⟨_, List.getLast_mem (by decide), htakes, ?_⟩
  exact (unknown_session_iff demo_initial (demoTrace_run (by decide))).2 hstops _ _ _ 1 hsplit
    htakes (by decide)

/-- Root locks a session there is none of. -/
private def rootLocked : List (Env × DaemonEvent) :=
  saidThenCreated 0 (.lockSession 1)

/-- The request goes through, and the session Alice then creates starts locked. -/
theorem unknown_session_locked :
    (¬ ∀ (d₀ d : Daemon) (tr : List (Transition Daemon DaemonLabel)), Initial d₀ →
        Run Step d₀ tr d → ∀ env cmd s, cmd.request.namedSession = some s →
          d.sessions.sessions.lookup s = none → TurnedAway d env cmd)
      ∧ ∃ x ∈ demoTrace rootLocked, Takes 1 x ∧ x.post.locks.isLocked 1 = true := by
  constructor
  · intro hclaim
    have haway := hclaim demo demo [] demo_initial Run.nil (demoEnv 0)
      (demoCommand 9 0 (.lockSession 1)) 1 rfl rfl
    have hlocked := congrArg (fun m : LockManager => m.isLocked 1) haway.locks
    revert hlocked
    decide
  · exact ⟨_, List.getLast_mem (by decide), by decide, by decide⟩

end Daemon

end MitosSession
