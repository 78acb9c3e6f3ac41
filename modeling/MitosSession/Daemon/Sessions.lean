import MitosSession.Daemon.Handled

set_option autoImplicit false

/-! # How the session table evolves

Between two events a session's record may be dropped, but what stays of it is bounded
(`Evolved`): the `Session` itself is never rewritten, its state moves along the lifecycle, and the
only way to become its compositor is the `RegisterCompositor` command being handled, from root or
from the session's owner. New records come from `create_session` alone, under the next id.

From this follow the invariants every reachable daemon has: a session is stored under its own id
(`Reachable.ctx_id`) and none is kept once it started closing (`Reachable.displayed`). -/

namespace MitosSession

/-- The command an event carries. -/
def DaemonEvent.command : DaemonEvent → Option ManagerCommand
  | .ipc (.command cmd) => some cmd
  | _ => none

theorem DaemonEvent.eq_of_command {event : DaemonEvent} {cmd : ManagerCommand}
    (h : event.command = some cmd) : event = .ipc (.command cmd) := by
  unfold command at h
  split at h
  · obtain rfl := Option.some.inj h
    rfl
  · cases h

namespace Daemon

/-- What a handler may have made of a session's record. -/
structure Evolved (cause : Option ManagerCommand) (ctx ctx' : SessionContext) : Prop where
  session : ctx'.session = ctx.session
  state : ctx'.state = ctx.state
    ∨ ctx'.state = .starting ∨ ctx'.state = .active ∨ ctx'.state = .locked
  conn : ctx'.compositorConn = none ∨ ctx'.compositorConn = ctx.compositorConn
    ∨ ∃ cmd, cause = some cmd ∧ ctx'.compositorConn = some cmd.connId
      ∧ (cmd.peer.uid = 0 ∨ cmd.peer.uid = ctx.session.uid)

theorem Evolved.refl (cause : Option ManagerCommand) (ctx : SessionContext) :
    Evolved cause ctx ctx :=
  ⟨rfl, Or.inl rfl, Or.inr (Or.inl rfl)⟩

theorem Evolved.trans {cause : Option ManagerCommand} {ctx ctx' ctx'' : SessionContext}
    (h : Evolved cause ctx ctx') (h' : Evolved cause ctx' ctx'') : Evolved cause ctx ctx'' where
  session := h'.session.trans h.session
  state := by
    rcases h'.state with hsame | hmoved
    · rw [hsame]
      exact h.state
    · exact Or.inr hmoved
  conn := by
    rcases h'.conn with hnone | hsame | hregistered
    · exact Or.inl hnone
    · rw [hsame]
      exact h.conn
    · -- the owner a registration was checked against is still the owner
      rw [h.session] at hregistered
      exact Or.inr (Or.inr hregistered)

/-- Every record afterwards evolved from one before, and no id was spent. -/
def Evolves (cause : Option ManagerCommand) (d : Daemon) (_ : List Effect) (d' : Daemon) : Prop :=
  d'.sessions.nextId = d.sessions.nextId
    ∧ ∀ id ctx', d'.sessions.sessions.lookup id = some ctx' →
      ∃ ctx, d.sessions.sessions.lookup id = some ctx ∧ Evolved cause ctx ctx'

theorem evolves_seqClosed (cause : Option ManagerCommand) : SeqClosed (Evolves cause) where
  refl := fun _ => ⟨rfl, fun _ ctx h => ⟨ctx, h, Evolved.refl cause ctx⟩⟩
  trans := by
    intro d d' d'' _ _ h h'
    refine ⟨h'.1.trans h.1, fun id ctx'' hctx'' => ?_⟩
    obtain ⟨ctx', hctx', hevolved'⟩ := h'.2 id ctx'' hctx''
    obtain ⟨ctx, hctx, hevolved⟩ := h.2 id ctx' hctx'
    exact ⟨ctx, hctx, hevolved.trans hevolved'⟩

variable {cause : Option ManagerCommand} {d d' : Daemon} {env : Env} {effects : List Effect}

/-! ## One change -/

theorem Evolves.of_same (h : d'.sessions = d.sessions) : Evolves cause d effects d' := by
  refine ⟨by rw [h], fun id ctx hctx => ⟨ctx, ?_, Evolved.refl cause ctx⟩⟩
  rwa [h] at hctx

theorem Evolves.of_update {k : SessionId} {f : SessionContext → SessionContext}
    (h : d'.sessions = d.sessions.update k f)
    (hf : ∀ ctx, d.sessions.sessions.lookup k = some ctx → Evolved cause ctx (f ctx)) :
    Evolves cause d effects d' := by
  refine ⟨by rw [h]; rfl, fun id ctx' hctx' => ?_⟩
  rw [h, SessionManager.update_lookup] at hctx'
  split at hctx'
  · rename_i hid
    subst hid
    cases hctx : d.sessions.sessions.lookup id with
    | none => simp [hctx] at hctx'
    | some ctx =>
        simp only [hctx, Option.map_some, Option.some.injEq] at hctx'
        subst hctx'
        exact ⟨ctx, rfl, hf ctx hctx⟩
  · exact ⟨ctx', hctx', Evolved.refl cause ctx'⟩

theorem Evolved.transition (ctx : SessionContext) {next : SessionState}
    (h : next = .starting ∨ next = .active ∨ next = .locked) :
    Evolved cause ctx (ctx.transition next) where
  session := SessionContext.transition_session ..
  state := by
    rcases ctx.transition_state next with hnext | hsame
    · rw [hnext]
      exact Or.inr h
    · exact Or.inl hsame
  conn := Or.inr (Or.inl (SessionContext.transition_compositorConn ..))

theorem showLock_evolves (k : SessionId) (reason : LockReason) :
    Evolves cause d (d.showLock k reason).2 (d.showLock k reason).1 := by
  unfold showLock
  split
  · exact Evolves.of_same rfl
  · exact Evolves.of_update rfl fun ctx _ => Evolved.transition ctx (by simp)

theorem registerCompositor_evolves {cmd : ManagerCommand} {k : SessionId} {ctx : SessionContext}
    (hcause : cause = some cmd) (hctx : d.sessions.sessions.lookup k = some ctx)
    (hpeer : cmd.peer.uid = 0 ∨ cmd.peer.uid = ctx.session.uid) :
    Evolves cause d effects (d.registerCompositor cmd.connId k).daemon := by
  have hregistered : ∀ next, next = .starting ∨ next = .active ∨ next = .locked →
      ∀ ctx', d.sessions.sessions.lookup k = some ctx' → Evolved cause ctx'
        ({ ctx' with compositorConn := some cmd.connId : SessionContext }.transition next) := by
    intro next hnext ctx' hctx'
    obtain rfl := Option.some.inj (hctx.symm.trans hctx')
    have hconn : Evolved cause ctx { ctx with compositorConn := some cmd.connId } :=
      ⟨rfl, Or.inl rfl, Or.inr (Or.inr ⟨cmd, hcause, rfl, hpeer⟩)⟩
    exact hconn.trans (Evolved.transition _ hnext)
  unfold registerCompositor
  simp only [SessionManager.get, hctx]
  split
  · exact Evolves.of_update rfl (hregistered .locked (by simp))
  · exact Evolves.of_update rfl (hregistered .active (by simp))

/-- Only a registration writes a connection into a record: whatever else a command does, the
    records evolve as they would without it. -/
theorem Change.evolves_as {cause' : Option ManagerCommand} (h : Change cause d effects d')
    (hcause : ∀ cmd id, cause = some cmd → cmd.request = .registerCompositor id →
      cause' = cause) : Evolves cause' d effects d' := by
  cases h with
  | notice _ => exact (evolves_seqClosed cause').refl d
  | desk seats idle shouldExit => exact Evolves.of_same rfl
  | configure settings authenticator uid => exact Evolves.of_same rfl
  | disconnect conn =>
      refine ⟨rfl, fun id ctx' hctx' => ?_⟩
      simp only [Table.lookup_mapVal] at hctx'
      cases hctx : d.sessions.sessions.lookup id with
      | none => simp [hctx] at hctx'
      | some ctx =>
          simp only [hctx, Option.map_some, Option.some.injEq] at hctx'
          refine ⟨ctx, rfl, ?_⟩
          split at hctx'
          · subst hctx'
            exact ⟨rfl, Or.inl rfl, Or.inl rfl⟩
          · subst hctx'
            exact Evolved.refl cause' ctx
  | restarting k => exact Evolves.of_update rfl fun ctx _ => Evolved.transition ctx (by simp)
  | process k f hf =>
      refine Evolves.of_update rfl fun ctx _ => ?_
      rw [hf ctx]
      exact ⟨rfl, Or.inl rfl, Or.inr (Or.inl rfl)⟩
  | erase k =>
      refine ⟨rfl, fun id ctx hctx => ⟨ctx, ?_, Evolved.refl cause' ctx⟩⟩
      simp only [Table.lookup_erase_eq] at hctx
      split at hctx
      · cases hctx
      · exact hctx
  | registerCompositor hcmd hrequest hctx hpeer =>
      exact registerCompositor_evolves ((hcause _ _ hcmd hrequest).trans hcmd) hctx hpeer
  | lock reason hlock =>
      have hlocks : Evolves cause' d [] { d with locks := _ } := Evolves.of_same rfl
      exact (evolves_seqClosed cause').trans hlocks (showLock_evolves _ reason)
  | inhibit inhibitors => exact Evolves.of_same rfl
  | sweepLocks now => exact Evolves.of_same rfl
  | record sessionAuth lockoutExpiry => exact Evolves.of_same rfl
  | promptTimers promptExpiry => exact Evolves.of_same rfl
  | resolve outcome hp hsuccess => exact Evolves.of_same rfl

theorem Changes.evolves_as {cause' : Option ManagerCommand} (h : Changes cause d effects d')
    (hcause : ∀ cmd id, cause = some cmd → cmd.request = .registerCompositor id →
      cause' = cause) : Evolves cause' d effects d' :=
  (evolves_seqClosed cause').chain h fun _ _ _ hchange => hchange.evolves_as hcause

theorem Changes.evolves (h : Changes cause d effects d') : Evolves cause d effects d' :=
  h.evolves_as fun _ _ _ _ => rfl

theorem Acts.evolves (h : Acts d effects d') : Evolves cause d effects d' := by
  refine (evolves_seqClosed cause).chain h fun d effects d' hact => ?_
  cases hact with
  | change hchange => exact hchange.evolves_as (by simp)
  | suspend env => exact Evolves.of_same rfl
  | lose hfound =>
      exact Evolves.of_update (f := fun ctx =>
        { ctx with compositorProcess := none, compositorConn := none }) rfl
        fun ctx _ => ⟨rfl, Or.inl rfl, Or.inl rfl⟩

/-! ## Whole events -/

theorem unlock_evolves (k : SessionId) (userName password : String) :
    Evolves cause d effects (d.unlock env k userName password).daemon := by
  by_cases hs : (d.unlockAttempt env k userName password).outcome = .success
  · rw [unlock_success hs]
    exact Evolves.of_update rfl fun ctx _ => Evolved.transition ctx (by simp)
  · rw [unlock_failure hs]
    exact Evolves.of_same rfl

/-- An event enters at most one session, and then lets the records evolve. -/
theorem handle_evolves_as (d : Daemon) (env : Env) (event : DaemonEvent)
    {cause' : Option ManagerCommand}
    (hcause : ∀ cmd id, event.command = some cmd → cmd.request = .registerCompositor id →
      cause' = event.command) :
    ∃ d₁, Enters d d₁ ∧ Evolves cause' d₁ (d.handle env event).2 (d.handle env event).1 := by
  have hd := handled d env event
  generalize (d.handle env event).2 = effects at hd ⊢
  generalize (d.handle env event).1 = d' at hd ⊢
  cases hd with
  | connected connId peer outbox => exact ⟨d, Enters.none, Evolves.of_same rfl⟩
  | disconnected connId =>
      exact ⟨d, Enters.none, (disconnected_changes connId).evolves_as (by simp)⟩
  | rejected cmd e hauth => exact ⟨d, Enters.none, Evolves.of_same rfl⟩
  | replied cmd response hauth henters hchanges hsuccess =>
      exact ⟨_, henters, hchanges.evolves_as hcause⟩
  | unlock cmd k userName password hauth hrequest =>
      exact ⟨d, Enters.none, unlock_evolves k userName password⟩
  | begun cmd hauth hrequest hctx hconn hbegin => exact ⟨d, Enters.none, Evolves.of_same rfl⟩
  | suspended cmd response hrequest hresponse => exact ⟨d, Enters.none, Evolves.of_same rfl⟩
  | ticked => exact ⟨d, Enters.none, onIdleTick_acts.evolves⟩
  | reaped children => exact ⟨d, Enters.none, (reapChildren_acts children).evolves⟩
  | signalled event hchanges => exact ⟨d, Enters.none, hchanges.evolves_as (by simp)⟩

theorem handle_evolves (d : Daemon) (env : Env) (event : DaemonEvent) :
    ∃ d₁, Enters d d₁
      ∧ Evolves event.command d₁ (d.handle env event).2 (d.handle env event).1 :=
  handle_evolves_as d env event fun _ _ _ _ => rfl

/-! ## Reachable daemons -/

/-- A property of the records that fresh ones have and that evolving keeps. -/
structure RecordInvariant (P : SessionId → SessionContext → Prop) : Prop where
  fresh : ∀ ctx, ctx.state = .starting → P ctx.id ctx
  evolved : ∀ {id cause ctx ctx'}, Evolved cause ctx ctx' → P id ctx → P id ctx'

theorem Reachable.record {P : SessionId → SessionContext → Prop} (hP : RecordInvariant P)
    (h : Reachable d) {id : SessionId} {ctx : SessionContext}
    (hctx : d.sessions.sessions.lookup id = some ctx) : P id ctx := by
  refine h.invariant (I := fun d => ∀ id ctx, d.sessions.sessions.lookup id = some ctx → P id ctx)
    ?_ ?_ ?_ id ctx hctx
  · intro d hinit id ctx hctx
    obtain ⟨_, _, _, _, _, _, rfl⟩ := hinit.eq
    simp at hctx
  · intro d env event hI id ctx' hctx'
    obtain ⟨d₁, henters, hevolves⟩ := handle_evolves d env event
    obtain ⟨ctx, hctx, hevolved⟩ := hevolves.2 id ctx' hctx'
    refine hP.evolved hevolved ?_
    cases henters with
    | none => exact hI id ctx hctx
    | spent => exact hI id ctx hctx
    | entered ctx₁ hid hstate hconn =>
        simp only [Table.lookup_insert_eq] at hctx
        split at hctx
        · -- the record just entered, under the id it carries
          rename_i hkey
          obtain rfl := Option.some.inj hctx
          rw [hkey, ← hid]
          exact hP.fresh ctx₁ hstate
        · exact hI id ctx hctx
  · intro d d' hI hrehash id ctx hctx
    rw [hrehash.sessions.sessions.lookup_eq] at hctx
    exact hI id ctx hctx

/-- A session is stored under its own id. -/
theorem Reachable.ctx_id (h : Reachable d) {id : SessionId} {ctx : SessionContext}
    (hctx : d.sessions.sessions.lookup id = some ctx) : ctx.id = id := by
  refine h.record (P := fun id ctx => ctx.id = id) ⟨fun _ _ => rfl, ?_⟩ hctx
  intro id cause ctx ctx' hevolved hid
  rw [← hid]
  exact congrArg Session.id hevolved.session

/-- No session that is closing or closed is kept. -/
theorem Reachable.displayed (h : Reachable d) {id : SessionId} {ctx : SessionContext}
    (hctx : d.sessions.sessions.lookup id = some ctx) :
    ctx.state ≠ .closing ∧ ctx.state ≠ .closed := by
  refine h.record (P := fun _ ctx => ctx.state ≠ .closing ∧ ctx.state ≠ .closed) ⟨?_, ?_⟩ hctx
  · intro ctx hstate
    simp [hstate]
  · intro id cause ctx ctx' hevolved hopen
    rcases hevolved.state with hs | hs | hs | hs
    · rw [hs]
      exact hopen
    all_goals simp [hs]

end Daemon

end MitosSession
