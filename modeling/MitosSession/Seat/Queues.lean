import MitosSession.Library.Run
import MitosSession.Seat

set_option autoImplicit false

/-! # The queues of the seats

Runs of the calls that write the seat registry, `attach_session` being called with sessions that
are on no seat. `Placed` is what such runs keep: a session is on one seat at most and there once,
and nobody queues on a seat nobody is active on. The two need each other: a session that were
active and queued would survive its own logout, and a queue behind nobody would not be served.
`Conserves` is what each call does to a registry like that.

`switch_active` works on the borrowed registry and can return an error halfway, so it is written
out here as it runs (`switchActiveMut`) and shown to be the function the daemon's model uses. -/

namespace MitosSession

namespace SeatManager

/-- A write through the reference `seat_mut` returned. -/
def writeSeat (self : SeatManager) (seatId : String) (f : Seat → Seat) : SeatManager :=
  { seats := self.seats.modify seatId f }

/-- `SeatManager::switch_active` as it runs on the registry it borrows: its answer, and the
    registry with everything written up to there. -/
def switchActiveMut (self : SeatManager) (seatId : String) (session : SessionId) :
    Result (Option SessionId) × SeatManager :=
  match self.seat seatId with
  | .error e => (.error e, self)
  | .ok seat =>
      if !seat.hasSession session then
        (.error (.unknownSession session), self)
      else
        let previous := seat.activeSession
        if previous ≠ some session then
          let pushed :=
            match previous with
            | some prev => self.writeSeat seatId fun seat =>
                { seat with queuedSessions := seat.queuedSessions ++ [prev] }
            | none => self
          let retained := pushed.writeSeat seatId fun seat =>
            { seat with queuedSessions := seat.queuedSessions.filter (· ≠ session) }
          let active := retained.writeSeat seatId fun seat =>
            { seat with activeSession := some session }
          (.ok (previous.filter (· ≠ session)), active)
        else
          (.ok (previous.filter (· ≠ session)), self)

theorem writeSeat_writeSeat (self : SeatManager) (seatId : String) (f g : Seat → Seat) :
    (self.writeSeat seatId f).writeSeat seatId g = self.writeSeat seatId (g ∘ f) := by
  simp only [writeSeat, Table.modify_modify]

theorem writeSeat_congr {self : SeatManager} {seatId : String} {seat : Seat} {f g : Seat → Seat}
    (hseat : self.seats.lookup seatId = some seat) (h : f seat = g seat) :
    self.writeSeat seatId f = self.writeSeat seatId g := by
  simp only [writeSeat, Table.modify_congr hseat h]

theorem writeSeat_self {self : SeatManager} {seatId : String} {seat : Seat}
    (hseat : self.seats.lookup seatId = some seat) :
    self.writeSeat seatId (fun _ => seat) = self := by
  refine (writeSeat_congr (f := fun _ => seat) (g := id) hseat rfl).trans ?_
  simp only [writeSeat, Table.modify_id]

/-- Running the statements is the function: an error comes before the first write. -/
theorem switchActiveMut_eq (self : SeatManager) (seatId : String) (session : SessionId) :
    self.switchActiveMut seatId session
      = match self.switchActive seatId session with
        | .ok (switched, previous) => (.ok previous, switched)
        | .error e => (.error e, self) := by
  unfold switchActiveMut switchActive SeatManager.seat
  cases hseat : self.seats.lookup seatId with
  | none => rfl
  | some seat =>
      simp only [bind, Except.bind, pure, Except.pure]
      cases hhas : seat.hasSession session with
      | false => rfl
      | true =>
          simp only [Bool.not_true, Bool.false_eq_true, if_false]
          by_cases hactive : seat.activeSession = some session
          · simp only [hactive, ne_eq, not_true, if_false]
            exact congrArg (Prod.mk _) (writeSeat_self hseat).symm
          · simp only [ne_eq, hactive, not_false_iff, if_true]
            refine congrArg (Prod.mk _) ?_
            cases hprevious : seat.activeSession with
            | none =>
                simp only [writeSeat_writeSeat]
                refine writeSeat_congr hseat ?_
                simp
            | some prev =>
                simp only [writeSeat_writeSeat]
                exact writeSeat_congr hseat rfl

end SeatManager

/-! ## One seat -/

namespace Seat

/-- The same seat with the same hardware. -/
def Kept (seat seat' : Seat) : Prop :=
  seat'.id = seat.id ∧ seat'.devices = seat.devices

variable {seat : Seat} {session : SessionId}

theorem attached_of_none (h : seat.activeSession = none) :
    seat.attached session = { seat with activeSession := some session } := by
  simp [attached, h]

theorem attached_of_some {active : SessionId} (h : seat.activeSession = some active) :
    seat.attached session
      = { seat with queuedSessions := seat.queuedSessions ++ [session] } := by
  simp [attached, h]

theorem attached_ne_none : (seat.attached session).activeSession ≠ none := by
  cases h : seat.activeSession with
  | none => simp [attached_of_none h]
  | some active => simp [attached_of_some h, h]

theorem attached_kept : seat.Kept (seat.attached session) := by
  unfold attached
  split <;> exact ⟨rfl, rfl⟩

/-- The session comes last, whether the seat was free or taken. -/
theorem attached_held_eq (h : seat.activeSession = none → seat.queuedSessions = []) :
    (seat.attached session).held = seat.held ++ [session] := by
  cases hactive : seat.activeSession with
  | none => simp [attached_of_none hactive, held, hactive, h hactive]
  | some active => simp [attached_of_some hactive, held, hactive]

theorem attached_active_iff (h : session ∉ seat.held) :
    (seat.attached session).activeSession = some session ↔ seat.activeSession = none := by
  cases hactive : seat.activeSession with
  | none => simp [attached_of_none hactive]
  | some active =>
      have hne : active ≠ session := by
        rintro rfl
        exact h (by simp [held, hactive])
      simp [attached_of_some hactive, hactive, hne]

theorem detached_kept : seat.Kept (seat.detached session) := by
  unfold detached
  split <;> exact ⟨rfl, rfl⟩

theorem switched_kept : seat.Kept (seat.switched session) := by
  unfold switched
  split <;> exact ⟨rfl, rfl⟩

/-- The session that was active goes to the end of the queue. -/
theorem switched_queue {previous : SessionId} (h : seat.activeSession = some previous)
    (hne : previous ≠ session) :
    (seat.switched session).queuedSessions
      = seat.queuedSessions.filter (· ≠ session) ++ [previous] := by
  have hactive : seat.activeSession ≠ some session := by
    rw [h]
    exact fun heq => hne (Option.some.inj heq)
  rw [switched, if_pos hactive, h]
  simp [List.filter_append, hne]

/-- Whoever leaves, somebody waiting gets the seat. -/
theorem detached_served (h : seat.activeSession = none → seat.queuedSessions = [])
    (hnone : (seat.detached session).activeSession = none) :
    (seat.detached session).queuedSessions = [] := by
  unfold detached at *
  split at hnone
  · rename_i hactive
    rw [if_pos hactive]
    rw [List.head?_eq_none_iff] at hnone
    simp [hnone]
  · rename_i hactive
    rw [if_neg hactive]
    simp [h hnone]

end Seat

/-! ## Runs of calls -/

/-- The calls that write the registry. The reference `ensure_seat` returns is not written to. -/
inductive SeatCall where
  | ensureSeat (id : String)
  | setDevices (seatId : String) (devices : List Device)
  | attachSession (seatId : String) (session : SessionId)
  | detachSession (session : SessionId)
  | switchActive (seatId : String) (session : SessionId)

namespace SeatManager

/-- What a call makes of the registry. -/
def after (self : SeatManager) : SeatCall → SeatManager
  | .ensureSeat id => self.ensureSeat id fun seat => seat
  | .setDevices seatId devices => self.setDevices seatId devices
  | .attachSession seatId session => self.attachSession seatId session
  | .detachSession session => self.detachSession session
  | .switchActive seatId session => (self.switchActiveMut seatId session).2

/-- A call of a run. Only sessions that are on no seat are attached; between calls the registry
    may come to iterate in another order. -/
def Calls (self : SeatManager) (call : SeatCall) (self' : SeatManager) : Prop :=
  (∀ seatId session, call = .attachSession seatId session → session ∉ self.held)
    ∧ Rehash (self.after call) self'

/-- The seat `ensure_seat` finds or makes. -/
def seatOrNew (self : SeatManager) (seatId : String) : Seat :=
  (self.seats.lookup seatId).getD { id := seatId }

theorem mem_held {self : SeatManager} {session : SessionId} :
    session ∈ self.held ↔
      ∃ seatId seat, self.seats.lookup seatId = some seat ∧ session ∈ seat.held := by
  simp only [held, List.mem_flatMap, Table.mem_values]
  constructor
  · rintro ⟨seat, ⟨seatId, hseat⟩, hmem⟩
    exact ⟨seatId, seat, hseat, hmem⟩
  · rintro ⟨seatId, seat, hseat, hmem⟩
    exact ⟨seat, ⟨seatId, hseat⟩, hmem⟩

/-- A session of the seat `ensure_seat` finds was there before: a new seat has none. -/
theorem lookup_of_mem_seatOrNew {self : SeatManager} {seatId : String} {session : SessionId}
    (h : session ∈ (self.seatOrNew seatId).held) :
    ∃ seat, self.seats.lookup seatId = some seat ∧ session ∈ seat.held := by
  unfold seatOrNew at h
  cases hseat : self.seats.lookup seatId with
  | none => simp [hseat, Seat.held] at h
  | some seat => exact ⟨seat, rfl, by simpa [hseat] using h⟩

/-! ## Every session in one place -/

/-- A session is on one seat at most, once, and nobody queues behind nobody. -/
structure Placed (seats : SeatManager) : Prop where
  once : ∀ seatId seat, seats.seats.lookup seatId = some seat → seat.held.Nodup
  apart : ∀ seatId seatId' seat seat' session, seats.seats.lookup seatId = some seat →
    seats.seats.lookup seatId' = some seat' → session ∈ seat.held → session ∈ seat'.held →
    seatId = seatId'
  served : ∀ seatId seat, seats.seats.lookup seatId = some seat → seat.activeSession = none →
    seat.queuedSessions = []

namespace Placed

variable {self self' : SeatManager}

theorem empty : Placed {} := by
  constructor <;> simp

theorem seatOrNew_nodup (h : Placed self) (seatId : String) :
    (self.seatOrNew seatId).held.Nodup := by
  unfold seatOrNew
  cases hseat : self.seats.lookup seatId with
  | none => simp [Seat.held]
  | some seat => exact h.once seatId seat hseat

theorem seatOrNew_served (h : Placed self) (seatId : String)
    (hnone : (self.seatOrNew seatId).activeSession = none) :
    (self.seatOrNew seatId).queuedSessions = [] := by
  unfold seatOrNew at *
  cases hseat : self.seats.lookup seatId with
  | none => rfl
  | some seat =>
      rw [hseat] at hnone
      exact h.served seatId seat hseat hnone

/-- The sessions of the whole registry are pairwise distinct. -/
theorem held_nodup (h : Placed self) : self.held.Nodup := by
  unfold held Table.values
  rw [List.nodup_flatMap]
  constructor
  · intro seat hseat
    obtain ⟨seatId, hlookup⟩ := Table.mem_values.1 hseat
    exact h.once seatId seat hlookup
  · rw [List.pairwise_map]
    have hkeys : self.seats.entries.Pairwise fun e e' => e.1 ≠ e'.1 :=
      List.pairwise_map.1 self.seats.nodupKeys
    refine hkeys.imp_of_mem fun {e e'} he he' hne => ?_
    intro session hmem hmem'
    exact hne (h.apart e.1 e'.1 e.2 e'.2 session (Table.lookup_eq_some_iff.2 he)
      (Table.lookup_eq_some_iff.2 he') hmem hmem')

/-- Only the lookups count. -/
theorem of_lookup (h : Placed self)
    (heq : ∀ k, self'.seats.lookup k = self.seats.lookup k) : Placed self' := by
  constructor
  · intro seatId seat hseat
    rw [heq] at hseat
    exact h.once seatId seat hseat
  · intro seatId seatId' seat seat' session hseat hseat'
    rw [heq] at hseat hseat'
    exact h.apart seatId seatId' seat seat' session hseat hseat'
  · intro seatId seat hseat
    rw [heq] at hseat
    exact h.served seatId seat hseat

/-- One seat is replaced; whoever is on it now was on it before, or nowhere. -/
theorem replace {seatId : String} {seat : Seat} (h : Placed self)
    (hlookup : ∀ k, self'.seats.lookup k = if k = seatId then some seat else self.seats.lookup k)
    (honce : seat.held.Nodup)
    (hmem : ∀ session ∈ seat.held, session ∈ (self.seatOrNew seatId).held ∨ session ∉ self.held)
    (hserved : seat.activeSession = none → seat.queuedSessions = []) : Placed self' := by
  -- a session on the new seat and on another one would have been on both before
  have hother : ∀ k other session, k ≠ seatId → self.seats.lookup k = some other →
      session ∈ seat.held → session ∉ other.held := by
    intro k other session hk hother hin hin'
    rcases hmem session hin with hold | hnew
    · obtain ⟨old, hseat, hold⟩ := lookup_of_mem_seatOrNew hold
      exact hk (h.apart k seatId other old session hother hseat hin' hold)
    · exact hnew (mem_held.2 ⟨k, other, hother, hin'⟩)
  constructor
  · intro k other hk
    rw [hlookup] at hk
    split at hk
    · obtain rfl := Option.some.inj hk
      exact honce
    · exact h.once k other hk
  · intro k k' other other' session hk hk' hin hin'
    rw [hlookup] at hk hk'
    split at hk
    · rename_i heq
      obtain rfl := Option.some.inj hk
      split at hk'
      · rename_i heq'
        exact heq.trans heq'.symm
      · rename_i hne
        exact absurd hin' (hother k' other' session hne hk' hin)
    · rename_i hne
      split at hk'
      · obtain rfl := Option.some.inj hk'
        exact absurd hin (hother k other session hne hk hin')
      · exact h.apart k k' other other' session hk hk' hin hin'
  · intro k other hk
    rw [hlookup] at hk
    split at hk
    · obtain rfl := Option.some.inj hk
      exact hserved
    · exact h.served k other hk

/-- Writing to the seat `ensure_seat` returns. -/
theorem ensureSeat {seatId : String} {f : Seat → Seat} (h : Placed self)
    (honce : (f (self.seatOrNew seatId)).held.Nodup)
    (hmem : ∀ session ∈ (f (self.seatOrNew seatId)).held,
      session ∈ (self.seatOrNew seatId).held ∨ session ∉ self.held)
    (hserved : (f (self.seatOrNew seatId)).activeSession = none →
      (f (self.seatOrNew seatId)).queuedSessions = []) :
    Placed (self.ensureSeat seatId f) :=
  h.replace (fun k => Table.lookup_insert_eq _ seatId k _) honce hmem hserved

theorem attachSession {seatId : String} {session : SessionId} (h : Placed self)
    (hfresh : session ∉ self.held) : Placed (self.attachSession seatId session) := by
  have hperm := (self.seatOrNew seatId).attached_held session
  refine h.ensureSeat (f := fun seat => seat.attached session) ?_ ?_ ?_
  · refine hperm.nodup_iff.2 (List.nodup_cons.2 ⟨fun hmem => ?_, h.seatOrNew_nodup seatId⟩)
    obtain ⟨seat, hseat, hmem⟩ := lookup_of_mem_seatOrNew hmem
    exact hfresh (mem_held.2 ⟨seatId, seat, hseat, hmem⟩)
  · intro other hother
    rcases List.mem_cons.1 (hperm.mem_iff.1 hother) with rfl | hold
    · exact Or.inr hfresh
    · exact Or.inl hold
  · intro hnone
    exact absurd hnone Seat.attached_ne_none

theorem detachSession {session : SessionId} (h : Placed self) :
    Placed (self.detachSession session) := by
  have hbefore : ∀ {seatId seat'},
      (self.detachSession session).seats.lookup seatId = some seat' →
      ∃ seat, self.seats.lookup seatId = some seat ∧ seat' = seat.detached session := by
    intro seatId seat' hseat'
    rw [detachSession_lookup, Option.map_eq_some_iff] at hseat'
    obtain ⟨seat, hseat, rfl⟩ := hseat'
    exact ⟨seat, hseat, rfl⟩
  constructor
  · intro seatId seat' hseat'
    obtain ⟨seat, hseat, rfl⟩ := hbefore hseat'
    have honce := h.once seatId seat hseat
    rw [Seat.detached_held _ _ honce]
    exact honce.filter _
  · intro seatId seatId' seat₁ seat₂ other hseat₁ hseat₂ hin₁ hin₂
    obtain ⟨old₁, hold₁, rfl⟩ := hbefore hseat₁
    obtain ⟨old₂, hold₂, rfl⟩ := hbefore hseat₂
    exact h.apart seatId seatId' old₁ old₂ other hold₁ hold₂
      (Seat.mem_of_mem_detached _ _ hin₁) (Seat.mem_of_mem_detached _ _ hin₂)
  · intro seatId seat' hseat'
    obtain ⟨seat, hseat, rfl⟩ := hbefore hseat'
    exact Seat.detached_served (h.served seatId seat hseat)

theorem switchActiveMut {seatId : String} {session : SessionId} (h : Placed self) :
    Placed (self.switchActiveMut seatId session).2 := by
  rw [switchActiveMut_eq]
  cases hswitch : self.switchActive seatId session with
  | error e => exact h
  | ok out =>
      obtain ⟨seat, hseat, hmem, hlookup⟩ := switchActive_lookup hswitch
      have hfound : self.seatOrNew seatId = seat := by
        unfold seatOrNew
        rw [hseat, Option.getD_some]
      have honce := h.once seatId seat hseat
      refine h.replace hlookup ?_ ?_ ?_
      · exact (seat.switched_held session honce hmem).nodup_iff.2 honce
      · intro other hother
        rw [hfound]
        exact Or.inl (seat.mem_of_mem_switched session hmem hother)
      · intro hnone
        rw [seat.switched_active] at hnone
        cases hnone

/-- Every call keeps each session in its one place. -/
theorem step {call : SeatCall} (h : Placed self) (hcall : self.Calls call self') :
    Placed self' := by
  obtain ⟨hfresh, hrehash⟩ := hcall
  refine Placed.of_lookup ?_ hrehash.lookup_eq
  cases call with
  | ensureSeat id =>
      exact h.ensureSeat (f := fun seat => seat) (h.seatOrNew_nodup id) (fun _ => Or.inl)
        (h.seatOrNew_served id)
  | setDevices seatId devices =>
      exact h.ensureSeat (f := fun seat => { seat with devices }) (h.seatOrNew_nodup seatId)
        (fun _ => Or.inl) (h.seatOrNew_served seatId)
  | attachSession seatId session => exact h.attachSession (hfresh seatId session rfl)
  | detachSession session => exact h.detachSession
  | switchActive seatId session => exact h.switchActiveMut

end Placed

/-! ## What the calls do -/

/-- What the calls do to the seats of a registry. -/
structure Conserves (seats : SeatManager) : Prop where
  /-- The given session, and nothing else, is added: as the active one of a free seat, at the end
      of the queue of a taken one. -/
  attach : ∀ seatId session, session ∉ seats.held →
    (∀ k, k ≠ seatId →
      (seats.attachSession seatId session).seats.lookup k = seats.seats.lookup k)
    ∧ ∃ seat, (seats.attachSession seatId session).seats.lookup seatId = some seat
      ∧ (seats.seatOrNew seatId).Kept seat
      ∧ seat.held = (seats.seatOrNew seatId).held ++ [session]
      ∧ (seat.activeSession = some session ↔ (seats.seatOrNew seatId).activeSession = none)
      ∧ ∀ active, (seats.seatOrNew seatId).activeSession = some active →
        seat.activeSession = some active
          ∧ seat.queuedSessions = (seats.seatOrNew seatId).queuedSessions ++ [session]
  /-- The given session, and nothing else, is removed, and the others keep their order. -/
  detach : ∀ session k,
    (seats.seats.lookup k = none → (seats.detachSession session).seats.lookup k = none)
    ∧ ∀ seat, seats.seats.lookup k = some seat →
      ∃ seat', (seats.detachSession session).seats.lookup k = some seat'
        ∧ seat.Kept seat'
        ∧ seat'.held = seat.held.filter (· ≠ session)
        ∧ (seat.activeSession = some session →
          seat'.activeSession = seat.queuedSessions.head?
            ∧ seat'.queuedSessions = seat.queuedSessions.tail)
        ∧ (seat.activeSession ≠ some session →
          seat'.activeSession = seat.activeSession
            ∧ seat'.queuedSessions = seat.queuedSessions.filter (· ≠ session))
  /-- A switch succeeds if the seat holds the session. -/
  succeeds : ∀ seatId session, (∃ previous, (seats.switchActiveMut seatId session).1 = .ok previous)
    ↔ ∃ seat, seats.seats.lookup seatId = some seat ∧ session ∈ seat.held
  /-- A switch that fails has written nothing. -/
  fails : ∀ seatId session e, (seats.switchActiveMut seatId session).1 = .error e →
    (seats.switchActiveMut seatId session).2 = seats
  /-- Switching to the active session does nothing. -/
  stays : ∀ seatId session seat, seats.seats.lookup seatId = some seat →
    seat.activeSession = some session → seats.switchActiveMut seatId session = (.ok none, seats)
  /-- Switching to a queued session swaps it with the active one, which goes to the end. -/
  switches : ∀ seatId session seat, seats.seats.lookup seatId = some seat →
    session ∈ seat.queuedSessions →
    ∃ previous seat' seats', seat.activeSession = some previous
      ∧ seats.switchActiveMut seatId session = (.ok (some previous), seats')
      ∧ seats'.seats.lookup seatId = some seat'
      ∧ seat.Kept seat'
      ∧ seat'.activeSession = some session
      ∧ seat'.queuedSessions = seat.queuedSessions.filter (· ≠ session) ++ [previous]
      ∧ seat'.held.Perm seat.held
      ∧ ∀ k, k ≠ seatId → seats'.seats.lookup k = seats.seats.lookup k

namespace Placed

variable {self : SeatManager}

/-- A switch that succeeds, on a registry that keeps its sessions apart. -/
theorem switchActiveMut_queued {seatId : String} {session : SessionId} {seat : Seat}
    (h : Placed self) (hseat : self.seats.lookup seatId = some seat)
    (hqueued : session ∈ seat.queuedSessions) :
    ∃ previous seats', seat.activeSession = some previous ∧ previous ≠ session
      ∧ self.switchActiveMut seatId session = (.ok (some previous), seats')
      ∧ ∀ k, seats'.seats.lookup k
        = if k = seatId then some (seat.switched session) else self.seats.lookup k := by
  have hmem : session ∈ seat.held := List.mem_append_right _ hqueued
  -- somebody is active, since there is a queue, and it is not the queued session
  obtain ⟨previous, hprevious⟩ : ∃ previous, seat.activeSession = some previous := by
    cases hactive : seat.activeSession with
    | none =>
        rw [h.served seatId seat hseat hactive] at hqueued
        cases hqueued
    | some previous => exact ⟨previous, rfl⟩
  have hne : previous ≠ session := by
    rintro rfl
    have honce := h.once seatId seat hseat
    rw [Seat.held, hprevious, Option.toList_some, List.singleton_append, List.nodup_cons] at honce
    exact honce.1 hqueued
  cases hswitch : self.switchActive seatId session with
  | error e => exact absurd hmem (switchActive_error_iff.1 ⟨e, hswitch⟩ seat hseat)
  | ok out =>
      obtain ⟨seat', hseat', -, hlookup⟩ := switchActive_lookup hswitch
      obtain rfl := Option.some.inj (hseat.symm.trans hseat')
      refine ⟨previous, out.1, hprevious, hne, ?_, hlookup⟩
      rw [switchActiveMut_eq, hswitch]
      refine congrArg (fun answer => (Except.ok answer, out.1)) ?_
      rw [switchActive_previous hswitch hseat, hprevious]
      simp [Option.filter, hne]

/-- On a registry that keeps its sessions apart, the calls do what they are for. -/
theorem conserves (h : Placed self) : Conserves self where
  attach := by
    intro seatId session hfresh
    have hnot : session ∉ (self.seatOrNew seatId).held := by
      intro hmem
      obtain ⟨seat, hseat, hmem⟩ := lookup_of_mem_seatOrNew hmem
      exact hfresh (mem_held.2 ⟨seatId, seat, hseat, hmem⟩)
    refine ⟨fun k hk => ?_, (self.seatOrNew seatId).attached session, ?_, Seat.attached_kept,
      Seat.attached_held_eq (h.seatOrNew_served seatId), Seat.attached_active_iff hnot, ?_⟩
    · rw [attachSession_lookup, if_neg hk]
    · rw [attachSession_lookup, if_pos rfl]
      rfl
    · intro active hactive
      rw [Seat.attached_of_some hactive]
      exact ⟨hactive, rfl⟩
  detach := by
    intro session k
    rw [detachSession_lookup]
    refine ⟨fun hnone => by rw [hnone]; rfl, fun seat hseat => ?_⟩
    refine ⟨seat.detached session, by rw [hseat]; rfl, Seat.detached_kept,
      seat.detached_held session (h.once k seat hseat), fun hactive => ?_, fun hactive => ?_⟩
    · rw [Seat.detached, if_pos hactive]
      exact ⟨rfl, rfl⟩
    · rw [Seat.detached, if_neg hactive]
      exact ⟨rfl, rfl⟩
  succeeds := by
    intro seatId session
    have hiff := not_congr (@switchActive_error_iff self seatId session)
    simp only [not_exists, not_forall, not_not, exists_prop] at hiff
    rw [← hiff, switchActiveMut_eq]
    cases self.switchActive seatId session with
    | error e => simp
    | ok out => simp
  fails := by
    intro seatId session e herror
    rw [switchActiveMut_eq] at herror ⊢
    cases hswitch : self.switchActive seatId session with
    | error e => rfl
    | ok out =>
        rw [hswitch] at herror
        cases herror
  stays := by
    intro seatId session seat hseat hactive
    have hhas : seat.hasSession session = true := by
      rw [Seat.hasSession_iff, Seat.held, hactive]
      simp
    simp [SeatManager.switchActiveMut, SeatManager.seat, hseat, hhas, hactive, Option.filter]
  switches := by
    intro seatId session seat hseat hqueued
    obtain ⟨previous, seats', hprevious, hne, hrun, hlookup⟩ :=
      h.switchActiveMut_queued hseat hqueued
    refine ⟨previous, seat.switched session, seats', hprevious, hrun, ?_, Seat.switched_kept,
      seat.switched_active session, Seat.switched_queue hprevious hne, ?_, fun k hk => ?_⟩
    · rw [hlookup, if_pos rfl]
    · exact seat.switched_held session (h.once seatId seat hseat) (List.mem_append_right _ hqueued)
    · rw [hlookup, if_neg hk]

end Placed

/-- In every registry that calls lead to from the empty one, a session is in one place at most,
    nobody queues on a seat nobody is active on, and every call moves the sessions as it should. -/
theorem sessions_conserved {tr : List (Transition SeatManager SeatCall)} {seats : SeatManager}
    (h : Run Calls {} tr seats) :
    seats.held.Nodup
      ∧ (∀ seatId seat, seats.seats.lookup seatId = some seat → seat.activeSession = none →
        seat.queuedSessions = [])
      ∧ seats.Conserves := by
  have hplaced : seats.Placed :=
    h.invariant Placed.empty fun _ _ _ hplaced hcall => hplaced.step hcall
  exact ⟨hplaced.held_nodup, hplaced.served, hplaced.conserves⟩

/-- Two logins on one seat and a switch to the second. -/
theorem sessions_conserved_switched :
    ∃ (tr : List (Transition SeatManager SeatCall)) (seats : SeatManager),
      Run Calls {} tr seats ∧ seats.held = [2, 1] ∧ seats.held.Nodup ∧ seats.Conserves := by
  have hrun : Run Calls {} _ _ := ((Run.single
    (l := .attachSession "seat0" 1) ⟨by simp [held, Table.values], List.Perm.refl _⟩).snoc
    (l := .attachSession "seat0" 2) ⟨by
      intro seatId session hcall
      cases hcall
      decide, List.Perm.refl _⟩).snoc
    (l := .switchActive "seat0" 2) ⟨by simp, List.Perm.refl _⟩
  obtain ⟨hnodup, -, hconserves⟩ := sessions_conserved hrun
  exact ⟨_, _, hrun, by decide, hnodup, hconserves⟩

end SeatManager

end MitosSession
