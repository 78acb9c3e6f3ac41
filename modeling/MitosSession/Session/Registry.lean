import MitosSession.Library.Run
import MitosSession.Session

set_option autoImplicit false

/-! # The session registry over its runs

The lock, elevation and authorization tables of the daemon are keyed by session ids and not all of
them are cleaned up when a session ends, so a session id must never come back. `create_session`
moves its counter before it knows whether the session can be prepared: a creation that fails costs
an id and nothing else. `Sound` is what runs of the registry keep as long as the counter has not
gone around, `AtMost` what they keep under one limit. -/

namespace MitosSession

/-- `lifecycle::end`: the child is killed and reaped, and the record is closed from any state. -/
def lifecycleEnd (ctx : SessionContext) : SessionContext × Result Unit :=
  ({ ctx with
      compositorProcess := none
      state := (ctx.state.transition .closed).toOption.getD .closed }, .ok ())

/-- The calls that write the registry. -/
inductive SessionCall where
  | createSession (prepared : Result Unit) (createdAt : ℕ) (user : User) (seatId : String)
      (sessionType : SessionType) (settings : SessionSettings)
  | terminateSession (id : SessionId)
  | setState (id : SessionId) (next : SessionState)

/-- The session limit a creation is made under. -/
def SessionCall.limit : SessionCall → Option ℕ
  | .createSession _ _ _ _ _ settings => some settings.maxSessionsPerUser
  | _ => none

namespace SessionManager

/-- `SessionManager::terminate_session` as it runs on the registry it borrows: the record is taken
    out first. -/
def terminateSessionMut (self : SessionManager) (id : SessionId) : SessionManager × Result Unit :=
  let removed := self.sessions.lookup id
  let self := { self with sessions := self.sessions.erase id }
  match removed with
  | none => (self, .error (.unknownSession id))
  | some ctx => (self, (lifecycleEnd ctx).2)

theorem terminateSessionMut_eq (self : SessionManager) (id : SessionId) :
    self.terminateSessionMut id
      = match self.terminateSession id with
        | .ok self' => (self', .ok ())
        | .error e => (self, .error e) := by
  unfold terminateSessionMut terminateSession
  cases hlookup : self.sessions.lookup id with
  | some ctx => rfl
  | none => simp only [Table.erase_of_lookup_eq_none hlookup]

/-- What a call makes of the registry. `set_state` fails before it writes. -/
def after (self : SessionManager) : SessionCall → SessionManager
  | .createSession prepared createdAt user seatId sessionType settings =>
      (self.createSession prepared createdAt user seatId sessionType settings).1
  | .terminateSession id => (self.terminateSessionMut id).1
  | .setState id next =>
      match self.setState id next with
      | .ok self' => self'
      | .error _ => self

/-- The id a call returns. -/
def returned (self : SessionManager) : SessionCall → Option SessionId
  | .createSession prepared createdAt user seatId sessionType settings =>
      (self.createSession prepared createdAt user seatId sessionType settings).2.toOption
  | _ => none

/-- A call of a run; between calls the registry may come to iterate in another order. -/
def Calls (self : SessionManager) (call : SessionCall) (self' : SessionManager) : Prop :=
  Rehash (self.after call) self'

/-- How many creations were tried. -/
def creations (tr : List (Transition SessionManager SessionCall)) : ℕ :=
  tr.countP fun x => x.label.limit.isSome

/-- The ids that creations have returned, in order. -/
def returnedIds (tr : List (Transition SessionManager SessionCall)) : List SessionId :=
  tr.filterMap fun x => x.pre.returned x.label

/-! ## What a call can do -/

theorem terminateSessionMut_fst (self : SessionManager) (id : SessionId) :
    (self.terminateSessionMut id).1 = { self with sessions := self.sessions.erase id } := by
  unfold terminateSessionMut
  cases self.sessions.lookup id <;> rfl

theorem setState_eq_ok {self self' : SessionManager} {id : SessionId} {next : SessionState}
    (h : self.setState id next = .ok self') :
    ∃ state, self' = self.update id fun ctx => { ctx with state } := by
  unfold setState at h
  cases hget : self.get id with
  | error e => simp [hget, bind, Except.bind] at h
  | ok ctx =>
      cases hstate : ctx.state.transition next with
      | error e => simp [hget, hstate, bind, Except.bind] at h
      | ok state =>
          simp only [hget, hstate, bind, Except.bind, pure, Except.pure, Except.ok.injEq] at h
          exact ⟨state, h.symm⟩

/-- Whose session it is does not depend on its state. -/
theorem countVal_update (self : SessionManager) (id : SessionId) {p : SessionContext → Bool}
    {f : SessionContext → SessionContext} (h : ∀ ctx, p (f ctx) = p ctx) :
    (self.update id f).sessions.countVal p = self.sessions.countVal p :=
  Table.countVal_modify h id self.sessions

/-- A creation fails, costing an id at most, or enters a session of its user under the next id;
    a session is taken out, or its state is written, or nothing happens. -/
theorem after_cases (self : SessionManager) (call : SessionCall) :
    (call.limit.isSome ∧ self.returned call = none
        ∧ (self.after call = self
          ∨ self.after call = { self with nextId := wrapU32 (self.nextId + 1) }))
      ∨ (∃ limit ctx, call.limit = some limit ∧ self.returned call = some self.nextId
        ∧ ctx.session.id = self.nextId ∧ ctx.user.uid = ctx.session.uid
        ∧ wrapU32 (self.sessions.countVal fun c => c.user.uid = ctx.user.uid) < limit
        ∧ self.after call = { sessions := self.sessions.insert self.nextId ctx
                              nextId := wrapU32 (self.nextId + 1) })
      ∨ (call.limit = none ∧ self.returned call = none
        ∧ (self.after call = self
          ∨ (∃ id, self.after call = { self with sessions := self.sessions.erase id })
          ∨ ∃ id state, self.after call = self.update id fun ctx => { ctx with state })) := by
  cases call with
  | createSession prepared createdAt user seatId sessionType settings =>
      have hcases := self.createSession_cases prepared createdAt user seatId sessionType settings
      dsimp only at hcases
      rcases hcases with ⟨e, herror, hafter⟩ | ⟨ctx, hroom, hbegin, hcreated⟩
      · exact Or.inl ⟨rfl, by simp only [returned, herror, Except.toOption], hafter⟩
      · obtain ⟨hsession, -, -⟩ := begin_eq_ok hbegin
        have huser := begin_user hbegin
        refine Or.inr (Or.inl ⟨settings.maxSessionsPerUser, ctx, rfl, ?_, ?_, ?_, ?_, ?_⟩)
        · simp only [returned, hcreated, Except.toOption]
        · rw [hsession]
        · rw [hsession, huser]
        · rw [huser]
          exact hroom
        · simp only [after, hcreated]
  | terminateSession id =>
      exact Or.inr (Or.inr ⟨rfl, rfl, Or.inr (Or.inl ⟨id, self.terminateSessionMut_fst id⟩)⟩)
  | setState id next =>
      refine Or.inr (Or.inr ⟨rfl, rfl, ?_⟩)
      cases hset : self.setState id next with
      | error e => exact Or.inl (by simp only [after, hset])
      | ok self' =>
          obtain ⟨state, hstate⟩ := setState_eq_ok hset
          exact Or.inr (Or.inr ⟨id, state, by simp only [after, hset, hstate]⟩)

/-! ## What runs keep -/

/-- The registry after `tr`, its counter not having gone around. -/
structure Sound (tr : List (Transition SessionManager SessionCall)) (m : SessionManager) :
    Prop where
  counter : m.nextId ≤ creations tr + 1
  keyed : ∀ id ctx, m.sessions.lookup id = some ctx →
    ctx.session.id = id ∧ id < m.nextId ∧ ctx.user.uid = ctx.session.uid
  few : m.sessions.countVal (fun _ => true) < m.nextId
  spent : ∀ id ∈ returnedIds tr, id < m.nextId
  fresh : (returnedIds tr).Nodup

theorem creations_concat (tr : List (Transition SessionManager SessionCall))
    (x : Transition SessionManager SessionCall) :
    creations (tr ++ [x]) = creations tr + if x.label.limit.isSome then 1 else 0 := by
  simp only [creations, List.countP_append, List.countP_singleton]

theorem returnedIds_concat (tr : List (Transition SessionManager SessionCall))
    (x : Transition SessionManager SessionCall) :
    returnedIds (tr ++ [x]) = returnedIds tr ++ (x.pre.returned x.label).toList := by
  unfold returnedIds
  rw [List.filterMap_append]
  cases h : x.pre.returned x.label with
  | none => simp [h]
  | some id => simp [h]

namespace Sound

variable {tr : List (Transition SessionManager SessionCall)} {m m' : SessionManager}
  {x : Transition SessionManager SessionCall}

theorem nil : Sound [] {} where
  counter := Nat.le_refl 1
  keyed := by simp
  few := by decide
  spent := by simp [returnedIds]
  fresh := List.nodup_nil

/-- A step that returns no id and does not move the counter. -/
theorem keep (h : Sound tr m) (hreturned : x.pre.returned x.label = none)
    (hnext : m'.nextId = m.nextId)
    (hkeyed : ∀ id ctx, m'.sessions.lookup id = some ctx → ∃ ctx', m.sessions.lookup id = some ctx'
      ∧ ctx.session = ctx'.session ∧ ctx.user = ctx'.user)
    (hfew : m'.sessions.countVal (fun _ => true) ≤ m.sessions.countVal fun _ => true) :
    Sound (tr ++ [x]) m' := by
  have hids : returnedIds (tr ++ [x]) = returnedIds tr := by
    rw [returnedIds_concat, hreturned]
    simp
  refine ⟨?_, fun id ctx hctx => ?_, ?_, ?_, ?_⟩
  · rw [hnext, creations_concat]
    exact h.counter.trans (Nat.succ_le_succ (Nat.le_add_right ..))
  · obtain ⟨ctx', hctx', hsession, huser⟩ := hkeyed id ctx hctx
    rw [hsession, huser, hnext]
    exact h.keyed id ctx' hctx'
  · rw [hnext]
    exact hfew.trans_lt h.few
  · rw [hids, hnext]
    exact h.spent
  · rw [hids]
    exact h.fresh

/-- The counter does not go around in a creation. -/
theorem wrap (h : Sound tr m) (hlimit : x.label.limit.isSome)
    (hbound : creations (tr ++ [x]) < u32Size - 1) : wrapU32 (m.nextId + 1) = m.nextId + 1 := by
  rw [creations_concat, if_pos hlimit] at hbound
  have hroom : creations tr + 1 + 1 < u32Size := by omega
  exact wrapU32_of_lt ((Nat.succ_le_succ h.counter).trans_lt hroom)

/-- A creation that fails after it has taken the next id. -/
theorem spend (h : Sound tr m) (hlimit : x.label.limit.isSome)
    (hreturned : x.pre.returned x.label = none)
    (hbound : creations (tr ++ [x]) < u32Size - 1) :
    Sound (tr ++ [x]) { m with nextId := wrapU32 (m.nextId + 1) } := by
  have hids : returnedIds (tr ++ [x]) = returnedIds tr := by
    rw [returnedIds_concat, hreturned]
    simp
  rw [h.wrap hlimit hbound]
  refine ⟨?_, fun id ctx hctx => ?_, h.few.trans (Nat.lt_succ_self _), fun id hid => ?_, ?_⟩
  · rw [creations_concat, if_pos hlimit]
    exact Nat.succ_le_succ h.counter
  · obtain ⟨hid, hlt, huser⟩ := h.keyed id ctx hctx
    exact ⟨hid, hlt.trans (Nat.lt_succ_self _), huser⟩
  · rw [hids] at hid
    exact (h.spent id hid).trans (Nat.lt_succ_self _)
  · rw [hids]
    exact h.fresh

/-- A creation that succeeds: the id it returns is the counter, and every id so far is below. -/
theorem enter {ctx : SessionContext} (h : Sound tr m) (hlimit : x.label.limit.isSome)
    (hreturned : x.pre.returned x.label = some m.nextId) (hid : ctx.session.id = m.nextId)
    (huser : ctx.user.uid = ctx.session.uid)
    (hbound : creations (tr ++ [x]) < u32Size - 1) :
    Sound (tr ++ [x])
      { sessions := m.sessions.insert m.nextId ctx, nextId := wrapU32 (m.nextId + 1) } := by
  have hids : returnedIds (tr ++ [x]) = returnedIds tr ++ [m.nextId] := by
    rw [returnedIds_concat, hreturned]
    rfl
  have hnew : m.nextId ∉ m.sessions := by
    intro hmem
    obtain ⟨ctx', hctx'⟩ := Table.mem_iff_lookup.1 hmem
    exact Nat.lt_irrefl _ (h.keyed m.nextId ctx' hctx').2.1
  rw [h.wrap hlimit hbound]
  refine ⟨?_, fun id ctx' hctx' => ?_, ?_, fun id hmem => ?_, ?_⟩
  · rw [creations_concat, if_pos hlimit]
    exact Nat.succ_le_succ h.counter
  · rw [Table.lookup_insert_eq] at hctx'
    split at hctx'
    · rename_i heq
      obtain rfl := Option.some.inj hctx'
      rw [heq]
      exact ⟨hid, Nat.lt_succ_self _, huser⟩
    · obtain ⟨hkey, hlt, huser'⟩ := h.keyed id ctx' hctx'
      exact ⟨hkey, hlt.trans (Nat.lt_succ_self _), huser'⟩
  · rw [Table.countVal_insert_of_notMem _ _ hnew]
    exact Nat.succ_lt_succ h.few
  · rw [hids, List.mem_append, List.mem_singleton] at hmem
    rcases hmem with hold | rfl
    · exact (h.spent id hold).trans (Nat.lt_succ_self _)
    · exact Nat.lt_succ_self _
  · rw [hids, List.nodup_append]
    refine ⟨h.fresh, List.nodup_singleton _, fun id hold id' hnew' heq => ?_⟩
    rw [List.mem_singleton.1 hnew'] at heq
    exact Nat.lt_irrefl _ (heq ▸ h.spent id hold)

theorem rehash (h : Sound tr m) (hrehash : Rehash m m') : Sound tr m' := by
  refine ⟨?_, fun id ctx hctx => ?_, ?_, ?_, h.fresh⟩
  · rw [hrehash.nextId]
    exact h.counter
  · rw [hrehash.sessions.lookup_eq] at hctx
    rw [hrehash.nextId]
    exact h.keyed id ctx hctx
  · rw [hrehash.sessions.countVal_eq, hrehash.nextId]
    exact h.few
  · rw [hrehash.nextId]
    exact h.spent

theorem step {call : SessionCall} (h : Sound tr m) (hcall : m.Calls call m')
    (hbound : creations (tr ++ [⟨m, call, m'⟩]) < u32Size - 1) :
    Sound (tr ++ [⟨m, call, m'⟩]) m' := by
  refine Sound.rehash ?_ hcall
  rcases m.after_cases call with ⟨hlimit, hreturned, hafter | hafter⟩
    | ⟨limit, ctx, hlimit, hreturned, hid, huser, -, hafter⟩
    | ⟨-, hreturned, hafter | ⟨id, hafter⟩ | ⟨id, state, hafter⟩⟩
  all_goals rw [hafter]
  · exact h.keep hreturned rfl (fun _ ctx hctx => ⟨ctx, hctx, rfl, rfl⟩) le_rfl
  · exact h.spend hlimit hreturned hbound
  · exact h.enter (by simp [hlimit]) hreturned hid huser hbound
  · exact h.keep hreturned rfl (fun _ ctx hctx => ⟨ctx, hctx, rfl, rfl⟩) le_rfl
  · refine h.keep hreturned rfl (fun k ctx hctx => ?_) ?_
    · rw [Table.lookup_erase_eq] at hctx
      split at hctx
      · cases hctx
      · exact ⟨ctx, hctx, rfl, rfl⟩
    · refine Table.countVal_le_of_lookup _ fun k ctx hctx => ?_
      rw [Table.lookup_erase_eq] at hctx
      split at hctx
      · cases hctx
      · exact hctx
  · refine h.keep hreturned rfl (fun k ctx hctx => ?_) ?_
    · rw [update_lookup] at hctx
      split at hctx
      · obtain ⟨ctx', hctx', rfl⟩ := Option.map_eq_some_iff.1 hctx
        exact ⟨ctx', hctx', rfl, rfl⟩
      · exact ⟨ctx, hctx, rfl, rfl⟩
    · refine Nat.le_of_eq (m.countVal_update id ?_)
      exact fun _ => rfl

end Sound

/-- The invariant along runs. -/
theorem sound_of_run {tr : List (Transition SessionManager SessionCall)} {m : SessionManager}
    (h : Run Calls {} tr m) (hbound : creations tr < u32Size - 1) : Sound tr m := by
  revert hbound
  refine h.history (P := fun tr m => creations tr < u32Size - 1 → Sound tr m)
    (fun _ => Sound.nil) ?_
  intro tr m call m' _ ih hcall hbound
  have hprefix : creations tr < u32Size - 1 := by
    rw [creations_concat] at hbound
    omega
  exact (ih hprefix).step hcall hbound

/-- Nobody owns more sessions than `limit`. -/
def AtMost (limit : ℕ) (m : SessionManager) : Prop :=
  ∀ uid, (m.sessions.countVal fun c => c.user.uid = uid) ≤ limit

theorem AtMost.step {tr : List (Transition SessionManager SessionCall)} {m m' : SessionManager}
    {call : SessionCall} {limit : ℕ} (h : AtMost limit m) (hsound : Sound tr m)
    (hbound : creations tr < u32Size - 1) (hcall : m.Calls call m')
    (hlimit : ∀ n, call.limit = some n → n = limit) : AtMost limit m' := by
  intro uid
  rw [hcall.sessions.countVal_eq]
  rcases m.after_cases call with ⟨-, -, hafter | hafter⟩
    | ⟨n, ctx, hn, -, -, -, hroom, hafter⟩
    | ⟨-, -, hafter | ⟨id, hafter⟩ | ⟨id, state, hafter⟩⟩
  all_goals rw [hafter]
  · exact h uid
  · exact h uid
  · have hnew : m.nextId ∉ m.sessions := by
      intro hmem
      obtain ⟨ctx', hctx'⟩ := Table.mem_iff_lookup.1 hmem
      exact Nat.lt_irrefl _ (hsound.keyed m.nextId ctx' hctx').2.1
    rw [Table.countVal_insert_of_notMem _ _ hnew]
    split
    · rename_i howner
      obtain rfl := of_decide_eq_true howner
      -- the count the limit was compared with is the count, not its remainder
      have hexact : wrapU32 (m.sessions.countVal fun c => c.user.uid = ctx.user.uid)
          = m.sessions.countVal fun c => c.user.uid = ctx.user.uid := by
        refine wrapU32_of_lt ((Table.countVal_le _ _).trans_lt (hsound.few.trans_le ?_))
        have hcounter : creations tr + 1 ≤ u32Size := by omega
        exact hsound.counter.trans hcounter
      rw [hexact, hlimit n hn] at hroom
      exact hroom
    · exact h uid
  · exact h uid
  · refine (Table.countVal_le_of_lookup _ fun k ctx hctx => ?_).trans (h uid)
    rw [Table.lookup_erase_eq] at hctx
    split at hctx
    · cases hctx
    · exact hctx
  · rw [countVal_update]
    · exact h uid
    · exact fun _ => rfl

theorem atMost_of_run {tr : List (Transition SessionManager SessionCall)} {m : SessionManager}
    {limit : ℕ} (h : Run Calls {} tr m) (hbound : creations tr < u32Size - 1)
    (hlimit : ∀ x ∈ tr, ∀ n, x.label.limit = some n → n = limit) : AtMost limit m := by
  revert hbound hlimit
  refine h.history (P := fun tr m => creations tr < u32Size - 1 →
    (∀ x ∈ tr, ∀ n, x.label.limit = some n → n = limit) → AtMost limit m) ?_ ?_
  · intro _ _ uid
    exact Nat.zero_le limit
  · intro tr m call m' hrun ih hcall hbound hlimit
    have hprefix : creations tr < u32Size - 1 := by
      rw [creations_concat] at hbound
      omega
    rw [List.forall_mem_append] at hlimit
    exact (ih hprefix hlimit.1).step (sound_of_run hrun hprefix) hprefix hcall
      (hlimit.2 _ (List.mem_singleton_self _))

/-- In every registry that fewer than `2 ^ 32 - 1` creations, with terminations and state changes
    in any order, lead to: every session is kept under its id, below the counter, and owned by its
    user; no id was returned twice; under one limit nobody has more sessions than it allows; and a
    creation or a termination that fails leaves the sessions as they are. -/
theorem sessions_keep_their_ids {tr : List (Transition SessionManager SessionCall)}
    {m : SessionManager} (h : Run Calls {} tr m) (hbound : creations tr < 2 ^ 32 - 1) :
    (∀ id ctx, m.sessions.lookup id = some ctx →
        ctx.session.id = id ∧ id < m.nextId ∧ ctx.user.uid = ctx.session.uid)
      ∧ (returnedIds tr).Nodup
      ∧ (∀ limit, (∀ x ∈ tr, ∀ n, x.label.limit = some n → n = limit) →
        ∀ uid, (m.sessions.countVal fun c => c.session.uid = uid) ≤ limit)
      ∧ (∀ prepared createdAt user seatId sessionType settings e,
        (m.createSession prepared createdAt user seatId sessionType settings).2 = .error e →
        (m.createSession prepared createdAt user seatId sessionType settings).1.sessions
          = m.sessions)
      ∧ ∀ id e, (m.terminateSessionMut id).2 = .error e →
        (m.terminateSessionMut id).1.sessions = m.sessions := by
  have hsound : Sound tr m := sound_of_run h hbound
  refine ⟨hsound.keyed, hsound.fresh, fun limit hlimit uid => ?_, ?_, ?_⟩
  · have hmost : AtMost limit m := atMost_of_run h hbound hlimit
    have howner : (m.sessions.countVal fun c => c.session.uid = uid)
        = m.sessions.countVal fun c => c.user.uid = uid := by
      refine List.countP_congr fun ctx hctx => ?_
      obtain ⟨id, hctx⟩ := Table.mem_values.1 hctx
      rw [(hsound.keyed id ctx hctx).2.2]
    rw [howner]
    exact hmost uid
  · intro prepared createdAt user seatId sessionType settings e herror
    have hcases := m.createSession_cases prepared createdAt user seatId sessionType settings
    dsimp only at hcases
    rcases hcases with ⟨-, -, hafter | hafter⟩ | ⟨ctx, -, -, hcreated⟩
    · rw [hafter]
    · rw [hafter]
    · rw [hcreated] at herror
      cases herror
  · intro id e herror
    rw [terminateSessionMut_eq] at herror ⊢
    cases hterminate : m.terminateSession id with
    | error e => rfl
    | ok m' =>
        rw [hterminate] at herror
        cases herror

/-- A creation, one whose home cannot be prepared, a termination and another creation. -/
theorem sessions_keep_their_ids_recreated :
    ∃ (tr : List (Transition SessionManager SessionCall)) (m : SessionManager),
      Run Calls {} tr m ∧ returnedIds tr = [1, 3] ∧ (returnedIds tr).Nodup
        ∧ (m.sessions.countVal fun c => c.session.uid = 1000) ≤ 1 := by
  let alice : User := ⟨1000, 1000, "alice", "/home/alice", "/bin/sh"⟩
  let settings : SessionSettings := { (default : SessionSettings) with maxSessionsPerUser := 1 }
  let create (prepared : Result Unit) : SessionCall :=
    .createSession prepared 0 alice "seat0" .wayland settings
  have hrehash : ∀ m : SessionManager, Rehash m m := fun m => ⟨List.Perm.refl _, rfl⟩
  have hrun : Run Calls {} _ _ := (((Run.single (l := create (.ok ())) (hrehash _)).snoc
    (l := .terminateSession 1) (hrehash _)).snoc
    (l := create (.error (.io "home directory missing"))) (hrehash _)).snoc
    (l := create (.ok ())) (hrehash _)
  obtain ⟨-, hfresh, hmost, -, -⟩ := sessions_keep_their_ids hrun (by decide)
  refine ⟨_, _, hrun, by decide, hfresh, hmost 1 ?_ 1000⟩
  simp [create, SessionCall.limit, settings]

end SessionManager

end MitosSession
