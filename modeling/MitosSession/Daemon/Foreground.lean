import MitosSession.Daemon.Standing
import MitosSession.Daemon.Reported

set_option autoImplicit false

/-! # What `Active` means

The state of a session and the active slot of its seat are two records. `RegisterCompositor` and a
successful `Unlock` move a session to `Active` without a look at the seat, `SwitchSession` moves
the slot without a look at the states, and an `Unlock` does not ask whether a compositor ever
registered. `active_means_iff` says exactly along which runs every session that is `Active` is the
one its seat shows and has a compositor registered since it was last `Starting`. -/

namespace MitosSession

/-- The two requests that can make a session active. -/
def Request.mayActivate : Request → Bool
  | .registerCompositor _ => true
  | .unlock _ _ _ => true
  | _ => false

namespace Daemon

variable {d d' d₀ : Daemon} {env : Env} {event : DaemonEvent} {s : SessionId}
  {effects : List Effect}

/-- The step handles an authorized `RegisterCompositor` for a session there is. -/
def Registers (s : SessionId) (x : Transition Daemon DaemonLabel) : Prop :=
  ∃ env cmd effects, x.label = .handled env (.ipc (.command cmd)) effects
    ∧ authorize env.userByName cmd.peer cmd.connId cmd.request x.pre.sessions x.pre.elevation
      = .ok ()
    ∧ cmd.request = .registerCompositor s ∧ x.pre.stateOf s ≠ none

/-- A `RegisterCompositor` for `s` has been handled since `s` was last in `Starting`. -/
def RegisteredSince (s : SessionId) (tr : List (Transition Daemon DaemonLabel)) : Prop :=
  Since (Registers s) (fun x => x.post.stateOf s ≠ some .starting) tr

/-- The session is the one its seat shows. -/
def Foreground (d : Daemon) (s : SessionId) : Prop :=
  ∃ ctx, d.sessions.sessions.lookup s = some ctx
    ∧ d.seats.activeSession ctx.session.seatId = .ok (some s)

/-- Every session that is `Active` is the one its seat shows, and has a compositor. -/
def ActiveMeans (tr : List (Transition Daemon DaemonLabel)) (d : Daemon) : Prop :=
  ∀ s, d.stateOf s = some .active → d.Foreground s ∧ RegisteredSince s tr

/-- What the step has to respect: a compositor registers for an unlocked session only if its seat
    shows it; no seat is switched away from a session that is `Active`; and a password unlocks a
    session only if its seat shows it and its compositor has registered. -/
structure KeepsMeaning (tr : List (Transition Daemon DaemonLabel))
    (x : Transition Daemon DaemonLabel) : Prop where
  register : ∀ s, Registers s x → x.pre.locks.isLocked s = false → x.pre.Foreground s
  switch : ∀ env cmd effects seatId t seat,
    x.label = .handled env (.ipc (.command cmd)) effects →
    authorize env.userByName cmd.peer cmd.connId cmd.request x.pre.sessions x.pre.elevation
      = .ok () →
    cmd.request = .switchSession seatId t → x.pre.seats.seats.lookup seatId = some seat →
    t ∈ seat.held → ∀ s ctx, x.pre.sessions.sessions.lookup s = some ctx →
      ctx.session.seatId = seatId → ctx.state = .active → s = t
  unlock : ∀ env cmd effects s userName password,
    x.label = .handled env (.ipc (.command cmd)) effects →
    authorize env.userByName cmd.peer cmd.connId cmd.request x.pre.sessions x.pre.elevation
      = .ok () →
    cmd.request = .unlock s userName password → x.pre.stateOf s ≠ none →
    (x.pre.locks.entry s).state ≠ .lockedOut →
    (x.pre.authenticator.authenticate env.pam).accepts { sessionId := s, userName, password }
      = true →
    x.pre.Foreground s ∧ RegisteredSince s tr

/-! ## Who becomes active -/

/-- The session is active afterwards only if it was before, and as the same session. -/
def ActiveBefore (s : SessionId) (d : Daemon) (_ : List Effect) (d' : Daemon) : Prop :=
  ∀ ctx', d'.sessions.sessions.lookup s = some ctx' → ctx'.state = .active →
    ∃ ctx, d.sessions.sessions.lookup s = some ctx ∧ ctx.state = .active
      ∧ ctx.session = ctx'.session

theorem activeBefore_seqClosed (s : SessionId) : SeqClosed (ActiveBefore s) where
  refl := fun _ ctx hctx hactive => ⟨ctx, hctx, hactive, rfl⟩
  trans := by
    intro d d' d'' _ _ h h' ctx'' hctx'' hactive''
    obtain ⟨ctx', hctx', hactive', hsession'⟩ := h' ctx'' hctx'' hactive''
    obtain ⟨ctx, hctx, hactive, hsession⟩ := h ctx' hctx' hactive'
    exact ⟨ctx, hctx, hactive, hsession.trans hsession'⟩

theorem ActiveBefore.of_same (h : d'.sessions = d.sessions) : ActiveBefore s d effects d' := by
  intro ctx hctx hactive
  rw [h] at hctx
  exact ⟨ctx, hctx, hactive, rfl⟩

theorem ActiveBefore.of_update {k : SessionId} {f : SessionContext → SessionContext}
    (h : d'.sessions = d.sessions.update k f)
    (hf : ∀ ctx, (f ctx).state = .active → ctx.state = .active)
    (hsession : ∀ ctx, (f ctx).session = ctx.session) : ActiveBefore s d effects d' := by
  intro ctx' hctx' hactive
  rw [h, SessionManager.update_lookup] at hctx'
  split at hctx'
  · obtain ⟨ctx, hctx, rfl⟩ := Option.map_eq_some_iff.1 hctx'
    exact ⟨ctx, hctx, hf ctx hactive, (hsession ctx).symm⟩
  · exact ⟨ctx', hctx', hactive, rfl⟩

/-- A transition to another state than `Active`. -/
theorem ActiveBefore.of_transition {k : SessionId} {next : SessionState}
    (h : d'.sessions = d.sessions.update k (·.transition next)) (hnext : next ≠ .active) :
    ActiveBefore s d effects d' :=
  ActiveBefore.of_update h (fun _ => SessionContext.transition_active hnext) fun ctx =>
    ctx.transition_session next

theorem showLock_activeBefore (k : SessionId) (reason : LockReason) :
    ActiveBefore s d (d.showLock k reason).2 (d.showLock k reason).1 := by
  unfold showLock
  split
  · exact ActiveBefore.of_same rfl
  · exact ActiveBefore.of_transition rfl (by simp)

theorem Change.activeBefore {cause : Option ManagerCommand} (h : Change cause d effects d')
    (hcause : ∀ cmd id, cause = some cmd → cmd.request ≠ .registerCompositor id) :
    ActiveBefore s d effects d' := by
  cases h with
  | disconnect conn =>
      intro ctx' hctx' hactive
      simp only [Table.lookup_mapVal, Option.map_eq_some_iff] at hctx'
      obtain ⟨ctx, hctx, rfl⟩ := hctx'
      refine ⟨ctx, hctx, ?_, ?_⟩
      · split at hactive
        · exact hactive
        · exact hactive
      · split
        · rfl
        · rfl
  | restarting k => exact ActiveBefore.of_transition rfl (by simp)
  | process k f hf =>
      refine ActiveBefore.of_update rfl (fun ctx hactive => ?_) fun ctx => ?_
      · rw [hf ctx] at hactive
        exact hactive
      · rw [hf ctx]
  | erase k =>
      intro ctx hctx hactive
      simp only [Table.lookup_erase_eq] at hctx
      split at hctx
      · cases hctx
      · exact ⟨ctx, hctx, hactive, rfl⟩
  -- the one change to `Active`
  | registerCompositor hcmd hrequest hctx hpeer => exact absurd hrequest (hcause _ _ hcmd)
  | lock reason hlock =>
      -- the lock record first, then the session's state
      have hlocks : ActiveBefore s d [] { d with locks := _ } := ActiveBefore.of_same rfl
      exact (activeBefore_seqClosed s).trans hlocks (showLock_activeBefore _ reason)
  | _ => exact ActiveBefore.of_same rfl

theorem Changes.activeBefore {cause : Option ManagerCommand} (h : Changes cause d effects d')
    (hcause : ∀ cmd id, cause = some cmd → cmd.request ≠ .registerCompositor id) :
    ActiveBefore s d effects d' :=
  (activeBefore_seqClosed s).chain h fun _ _ _ hchange => hchange.activeBefore hcause

theorem Acts.activeBefore (h : Acts d effects d') : ActiveBefore s d effects d' := by
  refine (activeBefore_seqClosed s).chain h fun d effects d' hact => ?_
  cases hact with
  | change hchange => exact hchange.activeBefore (by simp)
  | suspend env => exact ActiveBefore.of_same rfl
  | lose hfound => exact ActiveBefore.of_update rfl (fun _ hactive => hactive) fun _ => rfl

/-- A new session is `Starting`. -/
theorem Enters.activeBefore (h : Enters d d') : ActiveBefore s d effects d' := by
  cases h with
  | none => exact ActiveBefore.of_same rfl
  | spent => exact fun ctx hctx hactive => ⟨ctx, hctx, hactive, rfl⟩
  | entered ctx hid hstate hconn =>
      intro ctx' hctx' hactive
      simp only [Table.lookup_insert_eq] at hctx'
      split at hctx'
      · obtain rfl := Option.some.inj hctx'
        rw [hstate] at hactive
        cases hactive
      · exact ⟨ctx', hctx', hactive, rfl⟩

/-- No other event makes a session active. -/
theorem handle_activeBefore (d : Daemon) (env : Env) (event : DaemonEvent)
    (hother : ∀ cmd, event = .ipc (.command cmd) →
      authorize env.userByName cmd.peer cmd.connId cmd.request d.sessions d.elevation = .ok () →
      cmd.request.mayActivate = false) :
    ActiveBefore s d (d.handle env event).2 (d.handle env event).1 := by
  have hd := handled d env event
  generalize (d.handle env event).2 = effects at hd ⊢
  generalize (d.handle env event).1 = d' at hd ⊢
  cases hd with
  | connected connId peer outbox => exact ActiveBefore.of_same rfl
  | disconnected connId => exact (disconnected_changes connId).activeBefore (by simp)
  | rejected cmd e hauth => exact ActiveBefore.of_same rfl
  | replied cmd response hauth henters hchanges hsuccess =>
      have hnot : ∀ cmd' id, some cmd = some cmd' → cmd'.request ≠ .registerCompositor id := by
        rintro cmd' id hcmd hrequest
        obtain rfl := Option.some.inj hcmd
        have hmay := hother cmd rfl hauth
        rw [hrequest] at hmay
        cases hmay
      have hentered : ActiveBefore s d [] _ := henters.activeBefore
      exact (activeBefore_seqClosed s).silent hentered (hchanges.activeBefore hnot)
  | unlock cmd k userName password hauth hrequest =>
      have hmay := hother cmd rfl hauth
      rw [hrequest] at hmay
      cases hmay
  | begun cmd hauth hrequest hctx hconn hbegin => exact ActiveBefore.of_same rfl
  | suspended cmd response hrequest hresponse => exact ActiveBefore.of_same rfl
  | ticked => exact onIdleTick_acts.activeBefore
  | reaped children => exact (reapChildren_acts children).activeBefore
  | signalled event hchanges => exact hchanges.activeBefore (by simp)

theorem register_stateOf (hkept : Kept d) (connId : ConnId) (k s : SessionId) :
    (d.registerCompositor connId k).daemon.stateOf s
      = if s = k ∧ d.stateOf s ≠ none then
          some (if d.locks.isLocked k = true then .locked else .active)
        else
          d.stateOf s := by
  unfold registerCompositor SessionManager.get
  cases hctx : d.sessions.sessions.lookup k with
  | none =>
      have hunknown : ¬ (s = k ∧ d.stateOf s ≠ none) := by
        rintro ⟨rfl, hknown⟩
        exact hknown (by simp [stateOf, hctx])
      rw [if_neg hunknown]
  | some ctx =>
      have hmoves : ∀ next : SessionState,
          next = .starting ∨ next = .active ∨ next = .locked →
          stateOf { d with sessions := d.sessions.update k fun ctx =>
            { ctx with compositorConn := some connId : SessionContext }.transition next } s
            = if s = k ∧ d.stateOf s ≠ none then some next else d.stateOf s := fun next hnext =>
        update_stateOf_transition hkept
          (f := fun ctx => { ctx with compositorConn := some connId }) rfl (fun _ => rfl) hnext s
      cases hlocked : d.locks.isLocked k with
      | true => exact hmoves .locked (by simp)
      | false => exact hmoves .active (by simp)

theorem unlock_stateOf (hkept : Kept d) (env : Env) (k : SessionId) (userName password : String)
    (s : SessionId) :
    (d.unlock env k userName password).daemon.stateOf s
      = if (d.unlockAttempt env k userName password).outcome = .success ∧ s = k
          ∧ d.stateOf s ≠ none then
          some .active
        else
          d.stateOf s := by
  by_cases hsuccess : (d.unlockAttempt env k userName password).outcome = .success
  · rw [unlock_success hsuccess]
    simp only [hsuccess, true_and]
    exact update_stateOf_transition hkept (f := fun ctx => ctx) rfl (fun _ => rfl) (by simp) s
  · rw [unlock_failure hsuccess, if_neg fun h => hsuccess h.1]
    rfl

/-! ## Who is shown -/

theorem foreground_iff :
    d.Foreground s ↔ ∃ session, d.standing.roster s = some session
      ∧ d.standing.seats.activeSession session.seatId = .ok (some s) := by
  unfold Foreground
  constructor
  · rintro ⟨ctx, hctx, hactive⟩
    exact ⟨ctx.session, SessionManager.roster_eq_some_iff.2 ⟨ctx, hctx, rfl⟩, hactive⟩
  · rintro ⟨session, hroster, hactive⟩
    obtain ⟨ctx, hctx, rfl⟩ := SessionManager.roster_eq_some_iff.1 hroster
    exact ⟨ctx, hctx, hactive⟩

/-- Who is shown stays shown until the seat is switched or the session ends. -/
theorem Stands.activeSession {st : Standing} {seatId : String} (h : Stands d env event st)
    (hactive : d.seats.activeSession seatId = .ok (some s)) (hknown : st.roster s ≠ none)
    (hswitch : ∀ cmd k t, event = .ipc (.command cmd) →
      authorize env.userByName cmd.peer cmd.connId cmd.request d.sessions d.elevation = .ok () →
      cmd.request ≠ .switchSession k t) :
    st.seats.activeSession seatId = .ok (some s) := by
  obtain ⟨seat, hseat, hs⟩ := SeatManager.activeSession_eq_ok.1 hactive
  cases h with
  | created cmd session hauth hrequest hid hon huser =>
      rw [SeatManager.activeSession_eq_ok]
      simp only [SeatManager.attachSession_lookup]
      -- a new session queues behind the one that is shown
      by_cases hk : seatId = session.seatId
      · subst hk
        refine ⟨_, if_pos rfl, ?_⟩
        simp [hseat, Seat.attached, hs]
      · exact ⟨seat, by rw [if_neg hk, hseat], hs⟩
  | terminated cmd hauth hrequest hctx =>
      rename_i id ctx
      have hne : s ≠ id := by
        rintro rfl
        -- the session that ends is another one
        simp at hknown
      rw [SeatManager.activeSession_eq_ok]
      refine ⟨seat.detached id, ?_, ?_⟩
      · rw [SeatManager.detachSession_lookup, hseat]
        rfl
      · simp [Seat.detached, hs, hne]
  | switched cmd hauth hrequest hswitched => exact absurd hrequest (hswitch cmd _ _ rfl hauth)
  | _ => exact hactive

/-! ## One step -/

section Step

variable {tr : List (Transition Daemon DaemonLabel)} {x : Transition Daemon DaemonLabel}

theorem registeredSince_concat_iff :
    RegisteredSince s (tr ++ [x]) ↔
      x.post.stateOf s ≠ some .starting ∧ (Registers s x ∨ RegisteredSince s tr) :=
  since_concat_iff

/-- Sessions that stay active keep their registration. -/
theorem RegisteredSince.snoc (h : RegisteredSince s tr)
    (hactive : x.post.stateOf s = some .active) : RegisteredSince s (tr ++ [x]) :=
  registeredSince_concat_iff.2 ⟨by simp [hactive], Or.inr h⟩

/-- A handler that leaves the standing part alone shows whom it showed. -/
theorem Rests.foreground_iff (h : Rests d effects d') (s : SessionId) :
    d'.Foreground s ↔ d.Foreground s := by
  rw [Daemon.foreground_iff, Daemon.foreground_iff, h]

theorem registers_iff_request {cmd : ManagerCommand}
    (hauth : authorize env.userByName cmd.peer cmd.connId cmd.request d.sessions d.elevation
      = .ok ()) :
    Registers s ⟨d, .handled env (.ipc (.command cmd)) effects, d'⟩ ↔
      cmd.request = .registerCompositor s ∧ d.stateOf s ≠ none := by
  constructor
  · rintro ⟨env', cmd', effects', hlabel, -, hrequest, hknown⟩
    cases hlabel
    exact ⟨hrequest, hknown⟩
  · rintro ⟨hrequest, hknown⟩
    exact ⟨env, cmd, effects, rfl, hauth, hrequest, hknown⟩

/-- What a command has to respect is about its own request. -/
theorem KeepsMeaning.of_command {cmd : ManagerCommand}
    (hregister : ∀ s, cmd.request = .registerCompositor s → d.stateOf s ≠ none →
      d.locks.isLocked s = false → d.Foreground s)
    (hswitch : ∀ seatId t seat, cmd.request = .switchSession seatId t →
      d.seats.seats.lookup seatId = some seat → t ∈ seat.held →
      ∀ s ctx, d.sessions.sessions.lookup s = some ctx → ctx.session.seatId = seatId →
        ctx.state = .active → s = t)
    (hunlock : ∀ s userName password, cmd.request = .unlock s userName password →
      d.stateOf s ≠ none → (d.locks.entry s).state ≠ .lockedOut →
      (d.authenticator.authenticate env.pam).accepts { sessionId := s, userName, password }
        = true →
      d.Foreground s ∧ RegisteredSince s tr) :
    KeepsMeaning tr ⟨d, .handled env (.ipc (.command cmd)) effects, d'⟩ := by
  refine ⟨?_, ?_, ?_⟩
  · rintro s ⟨env', cmd', effects', hlabel, -, hrequest, hknown⟩
    cases hlabel
    exact hregister s hrequest hknown
  · rintro env' cmd' effects' seatId t seat hlabel -
    cases hlabel
    exact hswitch seatId t seat
  · rintro env' cmd' effects' s userName password hlabel -
    cases hlabel
    exact hunlock s userName password

/-- A registration. -/
theorem register_activeMeans_iff (hkept : Kept d) (h : ActiveMeans tr d) {cmd : ManagerCommand}
    {k : SessionId}
    (hauth : authorize env.userByName cmd.peer cmd.connId cmd.request d.sessions d.elevation
      = .ok ())
    (hrequest : cmd.request = .registerCompositor k)
    (hd' : d' = (d.registerCompositor cmd.connId k).daemon) :
    ActiveMeans (tr ++ [⟨d, .handled env (.ipc (.command cmd)) effects, d'⟩]) d' ↔
      KeepsMeaning tr ⟨d, .handled env (.ipc (.command cmd)) effects, d'⟩ := by
  have hstate := register_stateOf hkept cmd.connId k
  rw [← hd'] at hstate
  have hshown : ∀ s, d'.Foreground s ↔ d.Foreground s := by
    intro s
    have hrests : Rests d [] d' := hd' ▸ registerCompositor_rests cmd.connId k
    exact hrests.foreground_iff s
  constructor
  · intro hmeans
    refine KeepsMeaning.of_command ?_ (by simp [hrequest]) (by simp [hrequest])
    intro s hs hknown hopen
    rw [hrequest] at hs
    cases hs
    refine (hshown k).1 (hmeans k ?_).1
    -- it has become active, so it is the one shown
    rw [hstate, if_pos ⟨rfl, hknown⟩, if_neg (by simp [hopen])]
  · intro hkeeps s hactive
    rw [hshown]
    have hpost := hactive
    rw [hstate] at hpost
    split at hpost
    · rename_i hs
      obtain ⟨rfl, hknown⟩ := hs
      have hregisters : Registers s ⟨d, .handled env (.ipc (.command cmd)) effects, d'⟩ :=
        (registers_iff_request hauth).2 ⟨hrequest, hknown⟩
      have hopen : d.locks.isLocked s = false := by
        -- a locked session would have become `Locked`
        by_contra hlocked
        rw [if_pos (Bool.not_eq_false _ ▸ hlocked)] at hpost
        cases hpost
      exact ⟨hkeeps.register s hregisters hopen,
        registeredSince_concat_iff.2 ⟨by simp [hactive], Or.inl hregisters⟩⟩
    · obtain ⟨hforeground, hsince⟩ := h s hpost
      exact ⟨hforeground, hsince.snoc hactive⟩

/-- An unlock attempt. -/
theorem unlock_activeMeans_iff (hkept : Kept d) (h : ActiveMeans tr d) {cmd : ManagerCommand}
    {k : SessionId} {userName password : String}
    (hauth : authorize env.userByName cmd.peer cmd.connId cmd.request d.sessions d.elevation
      = .ok ())
    (hrequest : cmd.request = .unlock k userName password)
    (hd' : d' = (d.unlock env k userName password).daemon) :
    ActiveMeans (tr ++ [⟨d, .handled env (.ipc (.command cmd)) effects, d'⟩]) d' ↔
      KeepsMeaning tr ⟨d, .handled env (.ipc (.command cmd)) effects, d'⟩ := by
  have hstate := unlock_stateOf hkept env k userName password
  rw [← hd'] at hstate
  have hshown : ∀ s, d'.Foreground s ↔ d.Foreground s := by
    intro s
    have hrests : Rests d [] d' := hd' ▸ unlock_rests k userName password
    exact hrests.foreground_iff s
  have hsuccess := d.unlockAttempt_success_iff env k userName password
  constructor
  · intro hmeans
    refine KeepsMeaning.of_command (by simp [hrequest]) (by simp [hrequest]) ?_
    intro s userName' password' hs hknown hopen haccepts
    rw [hrequest] at hs
    cases hs
    have hactive : d'.stateOf k = some .active := by
      -- the attempt succeeds and makes the session active, whatever state it was in
      rw [hstate, if_pos ⟨hsuccess.2 ⟨hopen, haccepts⟩, rfl, hknown⟩]
    obtain ⟨hforeground, hsince⟩ := hmeans k hactive
    refine ⟨(hshown k).1 hforeground, ?_⟩
    -- the attempt itself registers nothing
    refine (registeredSince_concat_iff.1 hsince).2.resolve_left fun hregisters => ?_
    have hregister := ((registers_iff_request hauth).1 hregisters).1
    rw [hrequest] at hregister
    cases hregister
  · intro hkeeps s hactive
    rw [hshown]
    have hpost := hactive
    rw [hstate] at hpost
    split at hpost
    · rename_i hs
      obtain ⟨hout, rfl, hknown⟩ := hs
      obtain ⟨hopen, haccepts⟩ := hsuccess.1 hout
      obtain ⟨hforeground, hsince⟩ :=
        hkeeps.unlock env cmd effects s userName password rfl hauth hrequest hknown hopen haccepts
      exact ⟨hforeground, hsince.snoc hactive⟩
    · obtain ⟨hforeground, hsince⟩ := h s hpost
      exact ⟨hforeground, hsince.snoc hactive⟩

/-- A seat that holds the session shows it afterwards, and otherwise nothing happens. -/
theorem switchSession_activeSession (k : String) (t : SessionId) (j : String) :
    (d.switchSession k t).daemon.seats.activeSession j
      = if j = k ∧ ∃ seat, d.seats.seats.lookup k = some seat ∧ t ∈ seat.held
        then .ok (some t) else d.seats.activeSession j := by
  unfold switchSession
  cases hswitch : d.seats.switchActive k t with
  | error e =>
      have hheld := SeatManager.switchActive_error_iff.1 ⟨e, hswitch⟩
      rw [if_neg]
      rintro ⟨-, seat, hseat, hmem⟩
      exact hheld seat hseat hmem
  | ok switched =>
      obtain ⟨seat, hseat, hmem, -⟩ := SeatManager.switchActive_lookup hswitch
      simp only [SeatManager.switchActive_activeSession hswitch, hseat, Option.some.injEq,
        exists_eq_left', hmem, and_true]

/-- A switch. -/
theorem switch_activeMeans_iff (h : ActiveMeans tr d) {cmd : ManagerCommand} {k : String}
    {t : SessionId}
    (hauth : authorize env.userByName cmd.peer cmd.connId cmd.request d.sessions d.elevation
      = .ok ())
    (hrequest : cmd.request = .switchSession k t)
    (hd' : d' = (d.switchSession k t).daemon) :
    ActiveMeans (tr ++ [⟨d, .handled env (.ipc (.command cmd)) effects, d'⟩]) d' ↔
      KeepsMeaning tr ⟨d, .handled env (.ipc (.command cmd)) effects, d'⟩ := by
  have hsessions : d'.sessions = d.sessions := by
    obtain ⟨seats, heq⟩ := switchSession_writes d k t
    rw [hd', heq]
  have hstate : ∀ s, d'.stateOf s = d.stateOf s := by
    intro s
    unfold stateOf
    rw [hsessions]
  have hseats := switchSession_activeSession (d := d) k t
  rw [← hd'] at hseats
  constructor
  · intro hmeans
    refine KeepsMeaning.of_command (by simp [hrequest]) ?_ (by simp [hrequest])
    intro seatId t' seat hs hseat hheld s ctx hctx hon hactive
    rw [hrequest] at hs
    cases hs
    have hpost : d'.stateOf s = some .active := by
      rw [hstate]
      -- a switch leaves all states as they are, so the session it switches away from stays active
      simp only [stateOf, hctx, Option.map_some, hactive]
    obtain ⟨ctx', hctx', hshown⟩ := (hmeans s hpost).1
    rw [hsessions, hctx] at hctx'
    obtain rfl := Option.some.inj hctx'
    rw [hseats, if_pos ⟨hon, seat, hseat, hheld⟩] at hshown
    cases hshown
    rfl
  · intro hkeeps s hactive
    have hbefore := hactive
    rw [hstate] at hbefore
    obtain ⟨⟨ctx, hctx, hshown⟩, hsince⟩ := h s hbefore
    refine ⟨⟨ctx, by rw [hsessions]; exact hctx, ?_⟩, hsince.snoc hactive⟩
    rw [hseats]
    split
    · rename_i hmoved
      obtain ⟨hon, seat, hseat, hheld⟩ := hmoved
      have hstateActive : ctx.state = .active := by
        simpa [stateOf, hctx] using hbefore
      rw [hkeeps.switch env cmd effects k t seat rfl hauth hrequest hseat hheld s ctx hctx hon
        hstateActive]
    · exact hshown

/-- Any other event. -/
theorem other_activeMeans (h : ActiveMeans tr d)
    (hother : ∀ cmd, event = .ipc (.command cmd) →
      authorize env.userByName cmd.peer cmd.connId cmd.request d.sessions d.elevation = .ok () →
      cmd.request.mayActivate = false ∧ ∀ k t, cmd.request ≠ .switchSession k t) :
    ActiveMeans
      (tr ++ [⟨d, .handled env event (d.handle env event).2, (d.handle env event).1⟩])
      (d.handle env event).1 := by
  intro s hactive
  obtain ⟨ctx', hctx', hstate'⟩ := Option.map_eq_some_iff.1 hactive
  obtain ⟨ctx, hctx, hstate, hsession⟩ :=
    handle_activeBefore d env event (fun cmd he hauth => (hother cmd he hauth).1) ctx' hctx' hstate'
  have hbefore : d.stateOf s = some .active := by
    simp only [stateOf, hctx, Option.map_some, hstate]
  obtain ⟨⟨ctx₀, hctx₀, hshown⟩, hsince⟩ := h s hbefore
  rw [hctx] at hctx₀
  obtain rfl := Option.some.inj hctx₀
  refine ⟨⟨ctx', hctx', ?_⟩, hsince.snoc hactive⟩
  rw [← hsession]
  have hroster : (d.handle env event).1.standing.roster s = some ctx'.session :=
    SessionManager.roster_eq_some_iff.2 ⟨ctx', hctx', rfl⟩
  exact (handle_stands d env event).activeSession hshown (by rw [hroster]; simp)
    fun cmd k t he hauth => (hother cmd he hauth).2 k t

theorem other_keepsMeaning
    (hother : ∀ cmd, event = .ipc (.command cmd) →
      authorize env.userByName cmd.peer cmd.connId cmd.request d.sessions d.elevation = .ok () →
      cmd.request.mayActivate = false ∧ ∀ k t, cmd.request ≠ .switchSession k t) :
    KeepsMeaning tr ⟨d, .handled env event effects, d'⟩ := by
  refine ⟨?_, ?_, ?_⟩
  · rintro s ⟨env', cmd, effects', hlabel, hauth, hrequest, -⟩
    cases hlabel
    have hmay := (hother cmd rfl hauth).1
    rw [hrequest] at hmay
    cases hmay
  · rintro env' cmd effects' seatId t seat hlabel hauth hrequest
    cases hlabel
    exact absurd hrequest ((hother cmd rfl hauth).2 seatId t)
  · rintro env' cmd effects' s userName password hlabel hauth hrequest
    cases hlabel
    have hmay := (hother cmd rfl hauth).1
    rw [hrequest] at hmay
    cases hmay

theorem handle_activeMeans_iff (hkept : Kept d) (h : ActiveMeans tr d) (env : Env)
    (event : DaemonEvent) :
    ActiveMeans
        (tr ++ [⟨d, .handled env event (d.handle env event).2, (d.handle env event).1⟩])
        (d.handle env event).1 ↔
      KeepsMeaning tr ⟨d, .handled env event (d.handle env event).2, (d.handle env event).1⟩ := by
  by_cases hmoves : ∃ cmd, event = .ipc (.command cmd)
      ∧ authorize env.userByName cmd.peer cmd.connId cmd.request d.sessions d.elevation = .ok ()
      ∧ (cmd.request.mayActivate = true ∨ ∃ k t, cmd.request = .switchSession k t)
  · obtain ⟨cmd, rfl, hauth, hrequests⟩ := hmoves
    have hdone := congrArg Prod.fst (handle_authorized hauth)
    dsimp only at hdone
    cases hrequest : cmd.request with
    | registerCompositor k =>
        exact register_activeMeans_iff hkept h hauth hrequest (by rw [hdone, hrequest]; rfl)
    | unlock k userName password =>
        exact unlock_activeMeans_iff hkept h hauth hrequest (by rw [hdone, hrequest]; rfl)
    | switchSession k t =>
        exact switch_activeMeans_iff h hauth hrequest (by rw [hdone, hrequest]; rfl)
    | _ => simp [hrequest, Request.mayActivate] at hrequests
  · have hother : ∀ cmd, event = .ipc (.command cmd) →
        authorize env.userByName cmd.peer cmd.connId cmd.request d.sessions d.elevation = .ok () →
        cmd.request.mayActivate = false ∧ ∀ k t, cmd.request ≠ .switchSession k t := by
      intro cmd hevent hauth
      refine ⟨Bool.eq_false_iff.2 fun hmay => hmoves ⟨cmd, hevent, hauth, Or.inl hmay⟩, ?_⟩
      exact fun k t hrequest => hmoves ⟨cmd, hevent, hauth, Or.inr ⟨k, t, hrequest⟩⟩
    exact iff_of_true (other_activeMeans h hother) (other_keepsMeaning hother)

/-- A change of iteration order changes neither record. -/
theorem rehash_activeMeans (h : ActiveMeans tr d) (hr : Rehash d d') :
    ActiveMeans (tr ++ [⟨d, .rehash, d'⟩]) d' := by
  intro s hactive
  have hlookup := hr.sessions.sessions.lookup_eq s
  have hbefore : d.stateOf s = some .active := by
    rw [← hactive, stateOf, stateOf, hlookup]
  obtain ⟨⟨ctx, hctx, hshown⟩, hsince⟩ := h s hbefore
  refine ⟨⟨ctx, by rw [hlookup]; exact hctx, ?_⟩, hsince.snoc hactive⟩
  rw [SeatManager.activeSession_eq_ok] at hshown ⊢
  rw [Table.Rehash.lookup_eq hr.seats]
  exact hshown

theorem rehash_keepsMeaning : KeepsMeaning tr ⟨d, .rehash, d'⟩ := by
  refine ⟨?_, ?_, ?_⟩
  · rintro s ⟨env, cmd, effects, hlabel, -⟩
    cases hlabel
  · rintro env cmd effects seatId t seat hlabel
    cases hlabel
  · rintro env cmd effects s userName password hlabel
    cases hlabel

end Step

/-! ## Whole runs -/

/-- **When `Active` means what it says.** Along every run from startup, in every state reached each
    session that is `Active` is the one its seat shows and has a compositor registered since it was
    last `Starting`, exactly if no compositor registers for an unlocked session its seat does not
    show, no seat is switched away from a session that is `Active`, and no password unlocks a
    session that its seat does not show or that has no compositor registered since it was last
    `Starting`. -/
theorem active_means_iff {tr : List (Transition Daemon DaemonLabel)} (hinit : Initial d₀)
    (hrun : Run Step d₀ tr d) :
    (∀ tr₁ x tr₂, tr = tr₁ ++ x :: tr₂ → ActiveMeans (tr₁ ++ [x]) x.post) ↔
      ∀ tr₁ x tr₂, tr = tr₁ ++ x :: tr₂ → KeepsMeaning tr₁ x := by
  refine hrun.forall_history_iff ?_ ?_
  · intro s hactive
    obtain ⟨settings, seats, authenticator, uid, powerBackend, socketPath, rfl⟩ := hinit.eq
    cases hactive
  · intro tr d l d' hrun hmeans hstep
    have hkept : Kept d := Reachable.kept ⟨d₀, tr, hinit, hrun⟩
    cases hstep with
    | handled env event => exact handle_activeMeans_iff hkept hmeans env event
    | rehash hr => exact iff_of_true (rehash_activeMeans hmeans hr) rehash_keepsMeaning

/-- Alice's compositor registers for the only session of the seat. -/
theorem active_means_single_session :
    (System.demo.replay (demoThen [])).daemon.stateOf 1 = some .active
      ∧ ∀ tr₁ x tr₂, demoTrace (demoThen []) = tr₁ ++ x :: tr₂ →
        ActiveMeans (tr₁ ++ [x]) x.post := by
  refine ⟨by decide, (active_means_iff demo_initial (demoTrace_run (by decide))).2 ?_⟩
  intro tr₁ x tr₂ htr
  have hx : x ∈ demoTrace (demoThen []) := by
    rw [htr]
    simp
  simp only [demoTrace, demoThen, List.append_nil, System.transitions, List.map_cons, List.map_nil,
    List.mem_cons, List.not_mem_nil, or_false] at hx
  rcases hx with rfl | rfl | rfl
  · exact other_keepsMeaning (by simp [demoConnect])
  · exact other_keepsMeaning (by simp [demoCommand, Request.mayActivate])
  · refine KeepsMeaning.of_command ?_ (by simp [demoCommand]) (by simp [demoCommand])
    rintro s hrequest - -
    cases hrequest
    exact ⟨_, rfl, rfl⟩

/-- Alice's session is on the seat and Bob's is queued behind it; Bob's compositor registers. -/
private def queuedRegisters : List (Env × DaemonEvent) :=
  demoThen [(demoEnv 0, demoConnect 8 1001),
    (demoEnv 0, .ipc (.command (demoCommand 8 1001 (.createSession "bob" none none)))),
    (demoEnv 0, .ipc (.command (demoCommand 8 1001 (.registerCompositor 2))))]

/-- Alice unlocks a session whose compositor has not registered yet. -/
private def unlocksStarting : List (Env × DaemonEvent) :=
  [(demoEnv 0, demoConnect 7 1000),
    (demoEnv 0, .ipc (.command (demoCommand 7 1000 (.createSession "alice" none none)))),
    (demoEnv 0, .ipc (.command (demoCommand 7 1000 (.unlock 1 "alice" "hunter2"))))]

/-- Bob's session is `Active` while the seat shows Alice's; and a password alone moves a session
    from `Starting` to `Active`. -/
theorem active_but_not_shown :
    (¬ ∀ (d₀ d : Daemon) (tr : List (Transition Daemon DaemonLabel)), Initial d₀ →
        Run Step d₀ tr d → ActiveMeans tr d)
      ∧ ∃ x ∈ demoTrace unlocksStarting, x.label.command.any (fun cmd =>
          cmd.request = .unlock 1 "alice" "hunter2") = true
        ∧ x.pre.stateOf 1 = some .starting ∧ x.post.stateOf 1 = some .active := by
  constructor
  · intro hclaim
    have hrun : Run Step demo (demoTrace queuedRegisters) _ := demoTrace_run (by decide)
    obtain ⟨⟨ctx, hctx, hshown⟩, -⟩ := hclaim demo _ _ demo_initial hrun 2 (by decide)
    cases hctx
    cases hshown
  · exact ⟨_, List.getLast_mem (by decide), by decide, by decide, by decide⟩

end Daemon

end MitosSession
