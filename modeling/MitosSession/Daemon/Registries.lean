import MitosSession.Daemon.Standing
import MitosSession.Daemon.Prompts
import MitosSession.Daemon.Sessions

set_option autoImplicit false

/-! # The registries agree on which sessions there are

A session is entered in the session manager and on a seat, and the prompts opened for it name it.
`Agree` says that the three go together. Creating, switching and terminating a session keep them
together; a reboot or a power-off, and the shutdown signal, empty the session manager and forget
the other two. After a power transition that fails or returns, the dead sessions hold their seats.
`registries_agree` is the agreement along every run without such a step. -/

namespace MitosSession

/-- Every session is on the seat it was created for and nowhere else, once. -/
structure Seated (roster : SessionId → Option Session) (seats : SeatManager) : Prop where
  nodup : ∀ seatId seat, seats.seats.lookup seatId = some seat → seat.held.Nodup
  known : ∀ seatId seat, seats.seats.lookup seatId = some seat → ∀ id ∈ seat.held,
    ∃ session, roster id = some session ∧ session.seatId = seatId
  seated : ∀ id session, roster id = some session →
    ∃ seat, seats.seats.lookup session.seatId = some seat ∧ id ∈ seat.held

namespace Seated

variable {roster : SessionId → Option Session} {seats : SeatManager}

/-- A new session is attached to its seat. -/
theorem attach (h : Seated roster seats) {session : Session} (hfresh : roster session.id = none) :
    Seated (Function.update roster session.id (some session))
      (seats.attachSession session.seatId session.id) := by
  have hheld : ∀ seat, seat = (seats.seats.lookup session.seatId).getD { id := session.seatId } →
      seat.held.Nodup ∧ ∀ id ∈ seat.held,
        ∃ session', roster id = some session' ∧ session'.seatId = session.seatId := by
    rintro seat rfl
    cases hseat : seats.seats.lookup session.seatId with
    | none => simp [Seat.held]
    | some seat => exact ⟨h.nodup _ seat hseat, h.known _ seat hseat⟩
  have hother : ∀ {id session'}, roster id = some session' → id ≠ session.id := by
    rintro id session' hid rfl
    rw [hfresh] at hid
    cases hid
  refine ⟨fun seatId seat hseat => ?_, fun seatId seat hseat id hid => ?_,
    fun id session' hid => ?_⟩
  · rw [SeatManager.attachSession_lookup] at hseat
    split at hseat
    · obtain rfl := Option.some.inj hseat
      rw [(Seat.attached_held _ _).nodup_iff, List.nodup_cons]
      obtain ⟨hnodup, hknown⟩ := hheld _ rfl
      refine ⟨fun hmem => ?_, hnodup⟩
      obtain ⟨session', hid, -⟩ := hknown _ hmem
      exact hother hid rfl
    · exact h.nodup seatId seat hseat
  · rw [SeatManager.attachSession_lookup] at hseat
    have hold : ∀ {session'}, roster id = some session' → session'.seatId = seatId →
        ∃ session₁, Function.update roster session.id (some session) id = some session₁
          ∧ session₁.seatId = seatId := by
      intro session' hid hon
      exact ⟨session', by rw [Function.update_of_ne (hother hid), hid], hon⟩
    split at hseat
    · rename_i hseatId
      obtain rfl := Option.some.inj hseat
      rw [(Seat.attached_held _ _).mem_iff, List.mem_cons] at hid
      rcases hid with rfl | hid
      · exact ⟨session, Function.update_self .., hseatId.symm⟩
      · obtain ⟨session', hid, hon⟩ := (hheld _ rfl).2 id hid
        exact hold hid (hon.trans hseatId.symm)
    · obtain ⟨session', hid, hon⟩ := h.known seatId seat hseat id hid
      exact hold hid hon
  · rw [SeatManager.attachSession_lookup]
    rw [Function.update_apply] at hid
    split at hid
    · rename_i heq
      obtain rfl := Option.some.inj hid
      refine ⟨_, if_pos rfl, ?_⟩
      rw [(Seat.attached_held _ _).mem_iff, heq]
      exact List.mem_cons_self ..
    · obtain ⟨seat, hseat, hmem⟩ := h.seated id session' hid
      by_cases hseatId : session'.seatId = session.seatId
      · refine ⟨_, if_pos hseatId, ?_⟩
        rw [(Seat.attached_held _ _).mem_iff, ← hseatId, hseat]
        exact List.mem_cons_of_mem _ hmem
      · exact ⟨seat, by rw [if_neg hseatId, hseat], hmem⟩

/-- A session that ends leaves its seat. -/
theorem detach (h : Seated roster seats) (id : SessionId) :
    Seated (Function.update roster id none) (seats.detachSession id) := by
  have hlookup : ∀ {seatId seat}, (seats.detachSession id).seats.lookup seatId = some seat →
      ∃ old, seats.seats.lookup seatId = some old ∧ seat.held = old.held.filter (· ≠ id) := by
    intro seatId seat hseat
    rw [SeatManager.detachSession_lookup, Option.map_eq_some_iff] at hseat
    obtain ⟨old, hold, rfl⟩ := hseat
    exact ⟨old, hold, old.detached_held id (h.nodup seatId old hold)⟩
  refine ⟨fun seatId seat hseat => ?_, fun seatId seat hseat k hk => ?_, fun k session hk => ?_⟩
  · obtain ⟨old, hold, hheld⟩ := hlookup hseat
    rw [hheld]
    exact (h.nodup seatId old hold).filter _
  · obtain ⟨old, hold, hheld⟩ := hlookup hseat
    rw [hheld, List.mem_filter] at hk
    obtain ⟨session, hsession, hon⟩ := h.known seatId old hold k hk.1
    refine ⟨session, ?_, hon⟩
    rw [Function.update_of_ne (by simpa using hk.2), hsession]
  · rw [Function.update_apply] at hk
    split at hk
    · cases hk
    · rename_i hne
      obtain ⟨seat, hseat, hmem⟩ := h.seated k session hk
      refine ⟨seat.detached id, ?_, ?_⟩
      · rw [SeatManager.detachSession_lookup, hseat]
        rfl
      · rw [seat.detached_held id (h.nodup _ seat hseat), List.mem_filter]
        exact ⟨hmem, by simpa using hne⟩

/-- A switch leaves every session on its seat. -/
theorem switch (h : Seated roster seats) {seatId : String} {id : SessionId}
    {out : SeatManager × Option SessionId} (hswitch : seats.switchActive seatId id = .ok out) :
    Seated roster out.1 := by
  obtain ⟨seat, hseat, hmem, hlookup⟩ := SeatManager.switchActive_lookup hswitch
  have hheld := seat.switched_held id (h.nodup seatId seat hseat) hmem
  refine ⟨fun k seat' hk => ?_, fun k seat' hk id' hid' => ?_, fun id' session hid' => ?_⟩
  · rw [hlookup] at hk
    split at hk
    · obtain rfl := Option.some.inj hk
      exact hheld.nodup_iff.2 (h.nodup seatId seat hseat)
    · exact h.nodup k seat' hk
  · rw [hlookup] at hk
    split at hk
    · rename_i heq
      obtain rfl := Option.some.inj hk
      rw [heq]
      exact h.known seatId seat hseat id' (hheld.mem_iff.1 hid')
    · exact h.known k seat' hk id' hid'
  · obtain ⟨seat', hseat', hmem'⟩ := h.seated id' session hid'
    rw [hlookup]
    split
    · rename_i heq
      rw [heq, hseat] at hseat'
      obtain rfl := Option.some.inj hseat'
      exact ⟨_, rfl, hheld.mem_iff.2 hmem'⟩
    · exact ⟨seat', hseat', hmem'⟩

/-- On all seats together there is each session, once. -/
theorem nodup_held (h : Seated roster seats) : seats.held.Nodup := by
  unfold SeatManager.held Table.values
  rw [List.flatMap_map, List.nodup_flatMap]
  refine ⟨fun e he => h.nodup e.1 e.2 (Table.lookup_eq_some_iff.2 he), ?_⟩
  have hkeys : seats.seats.entries.Pairwise fun e e' => e.1 ≠ e'.1 :=
    List.pairwise_map.1 seats.seats.nodupKeys
  refine hkeys.imp_of_mem fun {e e'} he he' hne => ?_
  intro id hid hid'
  obtain ⟨session, hsession, hon⟩ := h.known e.1 e.2 (Table.lookup_eq_some_iff.2 he) id hid
  obtain ⟨session', hsession', hon'⟩ :=
    h.known e'.1 e'.2 (Table.lookup_eq_some_iff.2 he') id hid'
  rw [hsession] at hsession'
  obtain rfl := Option.some.inj hsession'
  exact hne (hon.symm.trans hon')

theorem mem_held_iff (h : Seated roster seats) {id : SessionId} :
    id ∈ seats.held ↔ ∃ session, roster id = some session := by
  simp only [SeatManager.held, List.mem_flatMap, Table.mem_values]
  constructor
  · rintro ⟨seat, ⟨seatId, hseat⟩, hid⟩
    obtain ⟨session, hsession, -⟩ := h.known seatId seat hseat id hid
    exact ⟨session, hsession⟩
  · rintro ⟨session, hsession⟩
    obtain ⟨seat, hseat, hid⟩ := h.seated id session hsession
    exact ⟨seat, ⟨_, hseat⟩, hid⟩

end Seated

namespace Daemon

variable {d d' d₀ : Daemon} {env : Env} {tr : List (Transition Daemon DaemonLabel)}

/-- The seats hold exactly the sessions there are, each once and where its record says, and every
    open prompt names one of them. -/
structure Agree (d : Daemon) : Prop where
  held : d.seats.held.Perm d.sessions.sessions.keys
  seated : ∀ id ctx, d.sessions.sessions.lookup id = some ctx →
    ∃ seat, d.seats.seats.lookup ctx.session.seatId = some seat ∧ id ∈ seat.held
  prompts : ∀ requestId p, d.elevation.pending.lookup requestId = some p →
    p.sessionId ∈ d.sessions.sessions

/-- What the proof carries along: the same, over the roster. -/
structure Registered (d : Daemon) : Prop where
  seated : Seated d.sessions.roster d.seats
  prompts : ∀ requestId p, d.elevation.pending.lookup requestId = some p →
    d.sessions.roster p.sessionId ≠ none

theorem Registered.agree (h : Registered d) : Agree d := by
  have hmem : ∀ id, id ∈ d.sessions.sessions ↔ ∃ session, d.sessions.roster id = some session := by
    intro id
    simp only [Table.mem_iff_lookup, SessionManager.roster_eq_some_iff]
    constructor
    · rintro ⟨ctx, hctx⟩
      exact ⟨ctx.session, ctx, hctx, rfl⟩
    · rintro ⟨_, ctx, hctx, -⟩
      exact ⟨ctx, hctx⟩
  refine ⟨?_, fun id ctx hctx => ?_, fun requestId p hp => ?_⟩
  · refine (List.perm_ext_iff_of_nodup h.seated.nodup_held d.sessions.sessions.keys_nodup).2 ?_
    intro id
    rw [h.seated.mem_held_iff, ← hmem, AList.mem_keys]
  · exact h.seated.seated id ctx.session
      (SessionManager.roster_eq_some_iff.2 ⟨ctx, hctx, rfl⟩)
  · exact (hmem _).2 (Option.ne_none_iff_exists'.1 (h.prompts requestId p hp))

/-! ## Startup -/

theorem Initial.seats_empty (h : Initial d) {seatId : String} {seat : Seat}
    (hseat : d.seats.seats.lookup seatId = some seat) : seat.held = [] := by
  have hensured : ∀ (m : SeatManager) (k : String) (f : Seat → Seat),
      (∀ seat : Seat, seat.held = [] → (f seat).held = []) →
      (∀ seatId seat, m.seats.lookup seatId = some seat → seat.held = []) →
      ∀ seatId seat, (m.ensureSeat k f).seats.lookup seatId = some seat → seat.held = [] := by
    intro m k f hf hm seatId seat hseat
    simp only [SeatManager.ensureSeat, Table.lookup_insert_eq] at hseat
    split at hseat
    · obtain rfl := Option.some.inj hseat
      refine hf _ ?_
      cases hk : m.seats.lookup k with
      | none => rfl
      | some seat => exact hm k seat hk
    · exact hm seatId seat hseat
  obtain ⟨env, configArg, devices, hstart⟩ := h
  unfold start at hstart
  cases hload : load env.config configArg with
  | error e => simp [hload, bind, Except.bind] at hstart
  | ok settings =>
      simp only [hload, bind, Except.bind, pure, Except.pure, Except.ok.injEq] at hstart
      subst hstart
      have hdefault := hensured {} settings.seat.defaultSeat (fun seat => seat) (fun _ h => h)
        (by simp)
      cases devices with
      | none => exact hdefault seatId seat hseat
      | some devices =>
          exact hensured _ settings.seat.defaultSeat (fun seat => { seat with devices })
            (fun _ h => h) hdefault seatId seat hseat

theorem Initial.registered (h : Initial d) : Registered d := by
  have hempty : d.sessions.roster = fun _ => none := by
    obtain ⟨_, _, _, _, _, _, rfl⟩ := h.eq
    rfl
  refine ⟨⟨fun seatId seat hseat => ?_, fun seatId seat hseat id hid => ?_,
    fun id session hid => ?_⟩, fun requestId p hp => ?_⟩
  · rw [h.seats_empty hseat]
    exact List.nodup_nil
  · rw [h.seats_empty hseat] at hid
    cases hid
  · rw [hempty] at hid
    cases hid
  · obtain ⟨_, _, _, _, _, _, rfl⟩ := h.eq
    simp at hp

/-! ## One step -/

/-- What a step must not do: enter a session under an id that is taken, or drop sessions behind
    the back of the seats. -/
def Keeping (d : Daemon) : DaemonEvent → Prop
  | .ipc (.command cmd) =>
    match cmd.request with
    | .createSession _ _ _ => d.sessions.nextId ∉ d.sessions.sessions
    | .reboot => d.locks.inhibitors.blocks .shutdown = true ∨ d.sessions.sessions = ∅
    | .powerOff => d.locks.inhibitors.blocks .shutdown = true ∨ d.sessions.sessions = ∅
    | _ => True
  | .signal .terminate => d.sessions.sessions = ∅
  | _ => True

/-- The same for the steps of a run. -/
def KeepingStep (x : Transition Daemon DaemonLabel) : Prop :=
  match x.label with
  | .handled _ event _ => Keeping x.pre event
  | .rehash => True

theorem terminateAll_roster_of_empty (h : d.sessions.sessions = ∅) :
    d.sessions.terminateAll.roster = d.sessions.roster := by
  rw [SessionManager.terminateAll_of_empty]
  funext id
  simp [SessionManager.roster, h]

theorem Keeping.ended {cmd : ManagerCommand} (h : Keeping d (.ipc (.command cmd)))
    (hrequest : cmd.request = .reboot ∨ cmd.request = .powerOff)
    (hblocks : d.locks.inhibitors.blocks .shutdown = false) : d.sessions.sessions = ∅ := by
  rcases hrequest with hrequest | hrequest
  · simp only [Keeping, hrequest] at h
    exact h.resolve_left (by simp [hblocks])
  · simp only [Keeping, hrequest] at h
    exact h.resolve_left (by simp [hblocks])

theorem Stands.seated {event : DaemonEvent} {st : Standing} (h : Stands d env event st)
    (hkeeping : Keeping d event) (hI : Seated d.sessions.roster d.seats) :
    Seated st.roster st.seats := by
  cases h with
  | created cmd session hauth hrequest hid hseat huser =>
      refine hI.attach ?_
      have hfresh : d.sessions.nextId ∉ d.sessions.sessions := by
        simpa only [Keeping, hrequest] using hkeeping
      rw [hid, SessionManager.roster, AList.lookup_eq_none.2 hfresh]
      rfl
  | terminated cmd hauth hrequest hctx => exact hI.detach _
  | switched cmd hauth hrequest hswitch => exact hI.switch hswitch
  | ended cmd hrequest hblocks =>
      rw [terminateAll_roster_of_empty (hkeeping.ended hrequest hblocks)]
      exact hI
  | shutDown =>
      rw [terminateAll_roster_of_empty hkeeping]
      exact hI
  | _ => exact hI

/-- Ending a session closes the prompts opened for it. -/
theorem terminateSession_prompts {id : SessionId} {ctx : SessionContext}
    (hctx : d.sessions.sessions.lookup id = some ctx) {requestId : ElevationRequestId}
    {p : PendingElevation}
    (hp : (d.terminateSession id).daemon.elevation.pending.lookup requestId = some p) :
    p.sessionId ≠ id := by
  simp only [terminateSession, SessionManager.terminateSession, hctx,
    ElevationManager.abandonSession] at hp
  simpa using ((ElevationManager.abandonWhere_pending _ _).1 hp).2

/-- A session that some prompt names afterwards is not the one that ended. -/
theorem handle_terminate_prompts {cmd : ManagerCommand} {id : SessionId} {ctx : SessionContext}
    (hrequest : cmd.request = .terminateSession id)
    (hctx : d.sessions.sessions.lookup id = some ctx) {requestId : ElevationRequestId}
    {p : PendingElevation}
    (hp : (d.handle env (.ipc (.command cmd))).1.elevation.pending.lookup requestId = some p)
    (hgone : (d.handle env (.ipc (.command cmd))).1.sessions.roster id = none) :
    p.sessionId ≠ id := by
  simp only [handle, handleIpc, handleCommand] at hp hgone
  split at hp
  · rename_i e hauth
    simp [hauth, SessionManager.roster, hctx] at hgone
  · simp only [hrequest, dispatch] at hp
    exact terminateSession_prompts hctx hp

theorem Registered.handle {event : DaemonEvent} (h : Registered d) (hkeeping : Keeping d event) :
    Registered (d.handle env event).1 := by
  have hstands := handle_stands d env event
  refine ⟨hstands.seated hkeeping h.seated, fun requestId p hp => ?_⟩
  have hold : d.sessions.roster p.sessionId ≠ none := by
    rcases handle_prompts d env event with hnarrows | ⟨cmd, id, s, ctx, conn, -, hopens⟩
    · exact h.prompts requestId p (hnarrows.2 requestId p hp)
    · rw [hopens.pending, Table.lookup_insert_eq] at hp
      split at hp
      · obtain rfl := Option.some.inj hp
        simp [SessionManager.roster, hopens.known]
      · exact h.prompts requestId p hp
  have hst : ∀ st, Stands d env event st → (d.handle env event).1.standing = st →
      st.roster p.sessionId ≠ none := by
    intro st hst heq
    cases hst with
    | created cmd session hauth hrequest hid hseat huser =>
        simp only [Function.update_apply]
        split
        · simp
        · exact hold
    | @terminated cmd id ctx hauth hrequest hctx =>
        have hgone := congrArg (fun st => st.roster id) heq
        simp only [Function.update_self] at hgone
        have hne := handle_terminate_prompts hrequest hctx hp hgone
        simpa only [Function.update_of_ne hne] using hold
    | ended cmd hrequest hblocks =>
        rw [terminateAll_roster_of_empty (hkeeping.ended hrequest hblocks)]
        exact hold
    | shutDown =>
        rw [terminateAll_roster_of_empty hkeeping]
        exact hold
    | _ => exact hold
  exact hst _ hstands rfl

theorem Registered.rehash (h : Registered d) (hr : Rehash d d') : Registered d' := by
  have hroster := hr.sessions.roster_eq
  have hseats : ∀ seatId, d'.seats.seats.lookup seatId = d.seats.seats.lookup seatId :=
    Table.Rehash.lookup_eq hr.seats
  refine ⟨⟨?_, ?_, ?_⟩, fun requestId p hp => ?_⟩
  · intro seatId seat hseat
    rw [hseats] at hseat
    exact h.seated.nodup seatId seat hseat
  · intro seatId seat hseat
    rw [hseats] at hseat
    rw [hroster]
    exact h.seated.known seatId seat hseat
  · intro id session hid
    rw [hroster] at hid
    rw [hseats]
    exact h.seated.seated id session hid
  · rw [hr.elevation.pending.lookup_eq] at hp
    rw [hroster]
    exact h.prompts requestId p hp

/-! ## Whole runs -/

/-- **The registries agree on which sessions there are**, along every run in which no step enters
    a session under a taken id, and no reboot, power-off or shutdown drops sessions. -/
theorem registries_agree (hinit : Initial d₀) (hrun : Run Step d₀ tr d)
    (hkeeping : ∀ x ∈ tr, KeepingStep x) : Agree d := by
  have hall := hrun.forall_transitions (I := Registered) (G := KeepingStep) (Q := fun _ => True)
    hinit.registered hkeeping ?_
  · exact hall.1.agree
  · intro d l d' hI hstep hgood
    refine ⟨?_, trivial⟩
    cases hstep with
    | handled env event => exact hI.handle hgood
    | rehash hr => exact hI.rehash hr

section Example

/-- While nothing ends the machine's run, the registries agree. -/
theorem created_agrees : Agree (System.demo.replay (demoThen [])).daemon := by
  refine registries_agree demo_initial (demoTrace_run (by decide)) ?_
  have hfresh : (1 : SessionId) ∉ (∅ : Table SessionId SessionContext) := AList.notMem_empty 1
  exact List.forall_mem_cons.2 ⟨trivial, List.forall_mem_cons.2 ⟨hfresh,
    List.forall_mem_cons.2 ⟨trivial, List.forall_mem_nil _⟩⟩⟩

/-- After a power-off that returns, Alice's session is gone and still holds the seat. -/
theorem poweroff_leaves_seat_held : ¬ ∀ d, Reachable d → Agree d := by
  intro hclaim
  have hagree := hclaim _ (demoActive_reachable.replay
    [(demoEnv 0, .ipc (.command (demoCommand 7 1000 .powerOff)))])
  have hheld : _ = 1 := hagree.held.length_eq.symm.trans rfl
  revert hheld
  decide

end Example

end Daemon

end MitosSession
