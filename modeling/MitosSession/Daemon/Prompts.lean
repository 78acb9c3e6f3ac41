import MitosSession.Daemon.Handled

set_option autoImplicit false

/-! # How the open prompts evolve

Prompts are opened by one event only, a `RequestElevation` that gets past every check (`Opens`);
everything else can at most close some (`Narrows`). No handler rewrites a prompt that stays open:
session, compositor and requester are those it was opened with. -/

namespace MitosSession

namespace Daemon

/-- Every prompt open afterwards was open before, unchanged, and no prompt id was spent. -/
def Narrows (d : Daemon) (_ : List Effect) (d' : Daemon) : Prop :=
  d'.elevation.nextId = d.elevation.nextId
    ∧ ∀ id p, d'.elevation.pending.lookup id = some p → d.elevation.pending.lookup id = some p

theorem narrows_seqClosed : SeqClosed Narrows where
  refl := fun _ => ⟨rfl, fun _ _ h => h⟩
  trans := fun h h' => ⟨h'.1.trans h.1, fun id p hp => h.2 id p (h'.2 id p hp)⟩

/-- The command opened prompt `id` for session `s` on the session's compositor. -/
structure Opens (env : Env) (d : Daemon) (cmd : ManagerCommand) (id : ElevationRequestId)
    (s : SessionId) (ctx : SessionContext) (compositorConn : ConnId) (d' : Daemon) : Prop where
  authorized :
    authorize env.userByName cmd.peer cmd.connId cmd.request d.sessions d.elevation = .ok ()
  request : ∃ action, cmd.request = .requestElevation s action
  known : d.sessions.sessions.lookup s = some ctx
  conn : ctx.compositorConn = some compositorConn
  fresh : id = d.elevation.nextId + 1
  nextId : d'.elevation.nextId = id
  pending : d'.elevation.pending
    = d.elevation.pending.insert id { sessionId := s, compositorConn, requesterConn := cmd.connId }
  sessions : d'.sessions = d.sessions
  registry : d'.registry = d.registry

variable {cause : Option ManagerCommand} {d d' : Daemon} {env : Env} {effects : List Effect}

theorem Narrows.of_same (h : d'.elevation.nextId = d.elevation.nextId)
    (hpending : d'.elevation.pending = d.elevation.pending) : Narrows d effects d' :=
  ⟨h, fun _ _ hp => hpending ▸ hp⟩

theorem Change.narrows (h : Change cause d effects d') : Narrows d effects d' := by
  cases h with
  | registerCompositor _ _ _ _ =>
      rw [Narrows, registerCompositor_elevation]
      exact ⟨rfl, fun _ _ hp => hp⟩
  | lock reason hlock =>
      rw [Narrows, showLock_elevation]
      exact ⟨rfl, fun _ _ hp => hp⟩
  | resolve outcome hp hsuccess =>
      refine ⟨rfl, fun id p hp => ?_⟩
      rw [ElevationManager.close_pending] at hp
      split at hp
      · cases hp
      · exact hp
  | _ => exact Narrows.of_same rfl rfl

theorem Changes.narrows (h : Changes cause d effects d') : Narrows d effects d' :=
  narrows_seqClosed.chain h fun _ _ _ hchange => hchange.narrows

theorem Acts.narrows (h : Acts d effects d') : Narrows d effects d' := by
  refine narrows_seqClosed.chain h fun d effects d' hact => ?_
  cases hact with
  | change hchange => exact hchange.narrows
  | suspend env => exact Narrows.of_same rfl rfl
  | lose hfound => exact Narrows.of_same rfl rfl

theorem Enters.elevation (h : Enters d d') : d'.elevation = d.elevation := by
  cases h <;> rfl

/-- An event narrows the open prompts, or is a command that opens one. -/
theorem handle_prompts (d : Daemon) (env : Env) (event : DaemonEvent) :
    Narrows d (d.handle env event).2 (d.handle env event).1
      ∨ ∃ cmd id s ctx conn, event = .ipc (.command cmd)
        ∧ Opens env d cmd id s ctx conn (d.handle env event).1 := by
  have hd := handled d env event
  generalize (d.handle env event).2 = effects at hd ⊢
  generalize (d.handle env event).1 = d' at hd ⊢
  cases hd with
  | connected connId peer outbox => exact Or.inl (Narrows.of_same rfl rfl)
  | disconnected connId => exact Or.inl (disconnected_changes connId).narrows
  | rejected cmd e hauth => exact Or.inl (Narrows.of_same rfl rfl)
  | replied cmd response hauth henters hchanges hsuccess =>
      have hnarrows := hchanges.narrows
      rw [Narrows, henters.elevation] at hnarrows
      exact Or.inl hnarrows
  | unlock cmd k userName password hauth hrequest =>
      left
      rw [Narrows, unlock_elevation]
      exact ⟨rfl, fun _ _ hp => hp⟩
  | begun cmd hauth hrequest hctx hconn hbegin =>
      right
      obtain ⟨-, rfl, rfl⟩ := ElevationManager.begin_eq_ok_iff.1 hbegin
      exact ⟨cmd, _, _, _, _, rfl,
        ⟨hauth, ⟨_, hrequest⟩, hctx, hconn, rfl, rfl, rfl, rfl, rfl⟩⟩
  | suspended cmd response hrequest hresponse => exact Or.inl (Narrows.of_same rfl rfl)
  | ticked => exact Or.inl onIdleTick_acts.narrows
  | reaped children => exact Or.inl (reapChildren_acts children).narrows
  | signalled event hchanges => exact Or.inl hchanges.narrows

/-- Prompt ids are handed out in order. -/
theorem Reachable.pending_le (h : Reachable d) {id : ElevationRequestId} {p : PendingElevation}
    (hp : d.elevation.pending.lookup id = some p) : id ≤ d.elevation.nextId := by
  refine h.invariant
    (I := fun d => ∀ id p, d.elevation.pending.lookup id = some p → id ≤ d.elevation.nextId)
    ?_ ?_ ?_ id p hp
  · intro d hinit id p hp
    obtain ⟨_, _, _, _, _, _, rfl⟩ := hinit.eq
    simp at hp
  · intro d env event hI id p hp
    rcases handle_prompts d env event with hnarrows | ⟨cmd, id₁, s, ctx, conn, -, hopens⟩
    · rw [hnarrows.1]
      exact hI id p (hnarrows.2 id p hp)
    · rw [hopens.pending, Table.lookup_insert_eq] at hp
      rw [hopens.nextId]
      split at hp
      · rename_i hid
        exact Nat.le_of_eq hid
      · -- older prompts stay below the id just spent
        rw [hopens.fresh]
        exact Nat.le_succ_of_le (hI id p hp)
  · intro d d' hI hrehash id p hp
    rw [hrehash.elevation.pending.lookup_eq] at hp
    rw [hrehash.elevation.nextId]
    exact hI id p hp

/-- The id of a new prompt is not in use. -/
theorem Reachable.nextId_notMem (h : Reachable d) :
    d.elevation.nextId + 1 ∉ d.elevation.pending := by
  intro hmem
  obtain ⟨p, hp⟩ := Table.mem_iff_lookup.1 hmem
  exact Nat.not_succ_le_self _ (h.pending_le hp)

end Daemon

end MitosSession
