import MitosSession.Daemon.Sessions
import MitosSession.Daemon.Prompts

set_option autoImplicit false

/-! # Whose connections a session depends on

The invariant behind everything said about who may do what: the compositor of a session, and the
compositor a prompt is shown on, are open connections of root or of the session's owner
(`Owned`). It survives registrations, disconnects, restarts and the end of sessions. What it does
not survive is a session id used twice, so it is stated for runs that take fewer ids than there
are (`idsTaken`). -/

namespace MitosSession

namespace System

/-- The connection is open and belongs to root or to `uid`. -/
def Trusted (conns : ConnId → ConnStatus) (c : ConnId) (uid : ℕ) : Prop :=
  ∃ peer, conns c = .open peer ∧ (peer.uid = 0 ∨ peer.uid = uid)

/-- Sessions are stored under ids already taken; their compositors, and those of their prompts,
    are trusted; prompts are for ids already taken and their requesters are connected. -/
structure Owned (sys : System) : Prop where
  ids : ∀ id ctx, sys.daemon.sessions.sessions.lookup id = some ctx →
    id < sys.daemon.sessions.nextId
  compositor : ∀ id ctx c, sys.daemon.sessions.sessions.lookup id = some ctx →
    ctx.compositorConn = some c → Trusted sys.conns c ctx.session.uid
  promptId : ∀ id p, sys.daemon.elevation.pending.lookup id = some p →
    p.sessionId < sys.daemon.sessions.nextId
  promptRequester : ∀ id p, sys.daemon.elevation.pending.lookup id = some p →
    (sys.conns p.requesterConn).isOpen = true
  promptOpen : ∀ id p, sys.daemon.elevation.pending.lookup id = some p →
    (sys.conns p.compositorConn).isOpen = true
  promptCompositor : ∀ id p ctx, sys.daemon.elevation.pending.lookup id = some p →
    sys.daemon.sessions.sessions.lookup p.sessionId = some ctx →
    Trusted sys.conns p.compositorConn ctx.session.uid

theorem Trusted.isOpen {conns : ConnId → ConnStatus} {c : ConnId} {uid : ℕ}
    (h : Trusted conns c uid) : (conns c).isOpen = true := by
  obtain ⟨peer, hopen, -⟩ := h
  rw [hopen]
  rfl

/-! ## How connections change -/

section Track

variable {conns : ConnId → ConnStatus} {event : DaemonEvent} {c : ConnId}

/-- A connection that is open stays as it is, unless it disconnects. -/
theorem track_of_open (hadmits : admits conns event) (hopen : (conns c).isOpen = true)
    (hne : event ≠ .ipc (.disconnected c)) : track conns event c = conns c := by
  match event with
  | .ipc (.connected connId peer outbox) =>
      have hc : c ≠ connId := by
        rintro rfl
        rw [show conns c = .fresh from hadmits] at hopen
        cases hopen
      exact Function.update_of_ne hc _ _
  | .ipc (.disconnected connId) =>
      have hc : c ≠ connId := by
        rintro rfl
        exact hne rfl
      exact Function.update_of_ne hc _ _
  | .ipc (.command cmd) => rfl
  | .idleTick => rfl
  | .signal event => rfl

theorem Trusted.track {uid : ℕ} (hadmits : admits conns event) (h : Trusted conns c uid)
    (hne : event ≠ .ipc (.disconnected c)) : Trusted (track conns event) c uid := by
  obtain ⟨peer, hopen, huid⟩ := h
  refine ⟨peer, ?_, huid⟩
  rw [track_of_open hadmits (by rw [hopen]; rfl) hne]
  exact hopen

end Track

/-! ## A disconnect leaves nothing of the connection behind -/

theorem disconnected_compositorConn (d : Daemon) (connId : ConnId) {id : SessionId}
    {ctx : SessionContext}
    (hctx : (d.disconnected connId).1.sessions.sessions.lookup id = some ctx) :
    ctx.compositorConn ≠ some connId := by
  simp only [Daemon.disconnected, Table.lookup_mapVal, Option.map_eq_some_iff] at hctx
  obtain ⟨ctx₀, -, rfl⟩ := hctx
  split
  · simp
  · assumption

theorem disconnected_pending (d : Daemon) (connId : ConnId) {id : ElevationRequestId}
    {p : PendingElevation}
    (hp : (d.disconnected connId).1.elevation.pending.lookup id = some p) :
    p.compositorConn ≠ connId ∧ p.requesterConn ≠ connId := by
  have hnot := ((ElevationManager.abandonWhere_pending d.elevation _).1 hp).2
  simpa only [decide_eq_false_iff_not, not_or] using hnot

/-! ## One step -/

section Step

variable {sys : System} {env : Env} {event : DaemonEvent}

/-- The records after an event: each evolved from one before, or is the new session's. -/
theorem handle_record (d : Daemon) (env : Env) (event : DaemonEvent) {id : SessionId}
    {ctx' : SessionContext}
    (hctx' : (d.handle env event).1.sessions.sessions.lookup id = some ctx') :
    (∃ ctx, d.sessions.sessions.lookup id = some ctx ∧ Daemon.Evolved event.command ctx ctx')
      ∨ (id = d.sessions.nextId ∧ (d.handle env event).1.sessions.nextId
          = wrapU32 (d.sessions.nextId + 1)
        ∧ ∃ ctx, ctx.compositorConn = none ∧ Daemon.Evolved event.command ctx ctx') := by
  obtain ⟨d₁, henters, hnext, hevolves⟩ := Daemon.handle_evolves d env event
  obtain ⟨ctx, hctx, hevolved⟩ := hevolves id ctx' hctx'
  cases henters with
  | none => exact Or.inl ⟨ctx, hctx, hevolved⟩
  | spent => exact Or.inl ⟨ctx, hctx, hevolved⟩
  | entered ctx₁ hid hstate hconn =>
      simp only [Table.lookup_insert_eq] at hctx
      split at hctx
      · rename_i hkey
        obtain rfl := Option.some.inj hctx
        exact Or.inr ⟨hkey, hnext, ctx₁, hconn, hevolved⟩
      · exact Or.inl ⟨ctx, hctx, hevolved⟩

/-- A compositor's connection after an event is trusted. -/
theorem Owned.evolved_trusted (h : Owned sys) (hadmits : admits sys.conns event) {id : SessionId}
    {ctx' : SessionContext} {c : ConnId}
    (hctx' : (sys.daemon.handle env event).1.sessions.sessions.lookup id = some ctx')
    (hc : ctx'.compositorConn = some c) :
    Trusted (track sys.conns event) c ctx'.session.uid := by
  have hne : event ≠ .ipc (.disconnected c) := by
    rintro rfl
    exact disconnected_compositorConn sys.daemon c hctx' hc
  -- a connection that is new in this step is the one the command came on
  have hnew : ∀ ctx, Daemon.Evolved event.command ctx ctx' →
      (ctx.compositorConn = some c → Trusted sys.conns c ctx.session.uid) →
      Trusted (track sys.conns event) c ctx'.session.uid := by
    intro ctx hevolved hold
    rw [hevolved.session]
    rcases hevolved.conn with hnone | hsame | ⟨cmd, hcmd, hconn, huid⟩
    · rw [hnone] at hc
      cases hc
    · exact (hold (hsame ▸ hc)).track hadmits hne
    · obtain rfl := Option.some.inj (hconn.symm.trans hc)
      obtain rfl := DaemonEvent.eq_of_command hcmd
      exact Trusted.track hadmits ⟨cmd.peer, hadmits, huid⟩ hne
  rcases handle_record sys.daemon env event hctx' with
    ⟨ctx, hctx, hevolved⟩ | ⟨-, -, ctx, hnone, hevolved⟩
  · exact hnew ctx hevolved (h.compositor id ctx c hctx)
  · refine hnew ctx hevolved fun hsome => ?_
    rw [hnone] at hsome
    cases hsome

/-- As long as the id counter does not wrap, it is past every id in use. -/
theorem Owned.handle_ids (h : Owned sys)
    (hwrap : sys.daemon.sessions.nextId ≤ (sys.daemon.handle env event).1.sessions.nextId)
    (id : SessionId) (ctx' : SessionContext)
    (hctx' : (sys.daemon.handle env event).1.sessions.sessions.lookup id = some ctx') :
    id < (sys.daemon.handle env event).1.sessions.nextId := by
  rcases handle_record sys.daemon env event hctx' with ⟨ctx, hctx, -⟩ | ⟨rfl, hnext, -⟩
  · exact Nat.lt_of_lt_of_le (h.ids id ctx hctx) hwrap
  · -- the new session's own id, which the counter has just left behind
    rw [hnext] at hwrap ⊢
    refine Nat.lt_of_le_of_ne hwrap fun heq => ?_
    exact wrapU32_succ_ne _ heq.symm

/-- A session under an id that was handed out before is the one it was. -/
theorem handle_session {id : SessionId} {ctx' : SessionContext}
    (hlt : id < sys.daemon.sessions.nextId)
    (hctx' : (sys.daemon.handle env event).1.sessions.sessions.lookup id = some ctx') :
    ∃ ctx, sys.daemon.sessions.sessions.lookup id = some ctx
      ∧ ctx'.session = ctx.session := by
  rcases handle_record sys.daemon env event hctx' with ⟨ctx, hctx, hevolved⟩ | ⟨rfl, -, -⟩
  · exact ⟨ctx, hctx, hevolved.session⟩
  · exact absurd hlt (Nat.lt_irrefl _)

/-- An event that only closes prompts. -/
theorem Owned.narrowed (h : Owned sys) (hadmits : admits sys.conns event)
    (hwrap : sys.daemon.sessions.nextId ≤ (sys.daemon.handle env event).1.sessions.nextId)
    (hnarrows : Daemon.Narrows sys.daemon (sys.daemon.handle env event).2
      (sys.daemon.handle env event).1) :
    Owned { daemon := (sys.daemon.handle env event).1, conns := track sys.conns event } := by
  have hconns : ∀ id p, (sys.daemon.handle env event).1.elevation.pending.lookup id = some p →
      event ≠ .ipc (.disconnected p.compositorConn)
        ∧ event ≠ .ipc (.disconnected p.requesterConn) := by
    intro id p hp
    constructor <;> rintro rfl
    · exact (disconnected_pending sys.daemon _ hp).1 rfl
    · exact (disconnected_pending sys.daemon _ hp).2 rfl
  refine ⟨h.handle_ids hwrap, fun id ctx c => h.evolved_trusted hadmits, ?_, ?_, ?_, ?_⟩
  · intro id p hp
    exact Nat.lt_of_lt_of_le (h.promptId id p (hnarrows.2 id p hp)) hwrap
  · intro id p hp
    have hopen := h.promptRequester id p (hnarrows.2 id p hp)
    show (track sys.conns event p.requesterConn).isOpen = true
    rw [track_of_open hadmits hopen (hconns id p hp).2]
    exact hopen
  · intro id p hp
    have hopen := h.promptOpen id p (hnarrows.2 id p hp)
    show (track sys.conns event p.compositorConn).isOpen = true
    rw [track_of_open hadmits hopen (hconns id p hp).1]
    exact hopen
  · intro id p ctx' hp hctx'
    have hp₀ := hnarrows.2 id p hp
    obtain ⟨ctx, hctx, hsession⟩ := handle_session (h.promptId id p hp₀) hctx'
    rw [hsession]
    exact (h.promptCompositor id p ctx hp₀ hctx).track hadmits (hconns id p hp).1

/-- A command that opens a prompt shows it on the compositor the session has. -/
theorem Owned.opened {cmd : ManagerCommand} {new : ElevationRequestId} {s : SessionId}
    {ctx : SessionContext} {conn : ConnId} (h : Owned sys)
    (hadmits : admits sys.conns (.ipc (.command cmd)))
    (hwrap : sys.daemon.sessions.nextId
      ≤ (sys.daemon.handle env (.ipc (.command cmd))).1.sessions.nextId)
    (hopens : Daemon.Opens env sys.daemon cmd new s ctx conn
      (sys.daemon.handle env (.ipc (.command cmd))).1) :
    Owned
      { daemon := (sys.daemon.handle env (.ipc (.command cmd))).1
        conns := track sys.conns (.ipc (.command cmd)) } := by
  have hnew := h.compositor s ctx conn hopens.known hopens.conn
  have hcases : ∀ id p,
      (sys.daemon.handle env (.ipc (.command cmd))).1.elevation.pending.lookup id = some p →
      p = { sessionId := s, compositorConn := conn, requesterConn := cmd.connId }
        ∨ sys.daemon.elevation.pending.lookup id = some p := by
    intro id p hp
    rw [hopens.pending, Table.lookup_insert_eq] at hp
    split at hp
    · exact Or.inl (Option.some.inj hp).symm
    · exact Or.inr hp
  have hcmd : sys.conns cmd.connId = .open cmd.peer := hadmits
  refine ⟨h.handle_ids hwrap, fun id ctx c => h.evolved_trusted hadmits, ?_, ?_, ?_, ?_⟩
  · intro id p hp
    refine Nat.lt_of_lt_of_le ?_ hwrap
    rcases hcases id p hp with rfl | hp
    · exact h.ids s ctx hopens.known
    · exact h.promptId id p hp
  · intro id p hp
    rcases hcases id p hp with rfl | hp
    · simp only [track, hcmd]
      rfl
    · exact h.promptRequester id p hp
  · intro id p hp
    rcases hcases id p hp with rfl | hp
    · exact hnew.isOpen
    · exact h.promptOpen id p hp
  · intro id p ctx' hp hctx'
    simp only [hopens.sessions] at hctx'
    rcases hcases id p hp with rfl | hp
    · obtain rfl := Option.some.inj (hopens.known.symm.trans hctx')
      exact hnew
    · exact h.promptCompositor id p ctx' hp hctx'

/-- One event keeps the invariant, as long as the id counter does not wrap. -/
theorem Owned.handle (h : Owned sys) (hadmits : admits sys.conns event)
    (hwrap : sys.daemon.sessions.nextId ≤ (sys.daemon.handle env event).1.sessions.nextId) :
    Owned { daemon := (sys.daemon.handle env event).1, conns := track sys.conns event } := by
  rcases Daemon.handle_prompts sys.daemon env event with
    hnarrows | ⟨cmd, new, s, ctx, conn, rfl, hopens⟩
  · exact h.narrowed hadmits hwrap hnarrows
  · exact h.opened hadmits hwrap hopens

theorem Owned.rehash {d' : Daemon} (h : Owned sys) (hr : Daemon.Rehash sys.daemon d') :
    Owned { sys with daemon := d' } := by
  have hsessions := hr.sessions.sessions.lookup_eq
  have hpending := hr.elevation.pending.lookup_eq
  have hnext := hr.sessions.nextId
  refine ⟨?_, ?_, ?_, ?_, ?_, ?_⟩ <;> simp only [hsessions, hpending, hnext]
  · exact h.ids
  · exact h.compositor
  · exact h.promptId
  · exact h.promptRequester
  · exact h.promptOpen
  · exact h.promptCompositor

end Step

/-! ## Whole runs -/

end System

end MitosSession
