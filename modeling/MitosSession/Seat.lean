import MitosSession.Library.Table
import MitosSession.Basic

set_option autoImplicit false

/-! # Seats

`seat/seat.rs` and the `SeatManager` of `seat/manager.rs`: which session is active on a seat and
which ones queue behind it. -/

namespace MitosSession

/-- `seat::DeviceKind`. -/
inductive DeviceKind where
  | keyboard
  | pointer
  | touch
  | drm
  | other
deriving DecidableEq

/-- `seat::Device`. -/
structure Device where
  syspath : String
  kind : DeviceKind
deriving DecidableEq

/-- `seat::Seat`. -/
structure Seat where
  id : String
  activeSession : Option SessionId := none
  queuedSessions : List SessionId := []
  devices : List Device := []
deriving DecidableEq

/-- `Seat::has_session`. -/
def Seat.hasSession (self : Seat) (id : SessionId) : Bool :=
  self.activeSession = some id ∨ id ∈ self.queuedSessions

/-- `seat::SeatManager`. -/
structure SeatManager where
  seats : Table String Seat := ∅

namespace SeatManager

/-- `SeatManager::ensure_seat` and a write through the reference it returns. -/
def ensureSeat (self : SeatManager) (id : String) (f : Seat → Seat) : SeatManager :=
  { seats := self.seats.insert id (f ((self.seats.lookup id).getD { id })) }

/-- `SeatManager::seat`. -/
def seat (self : SeatManager) (id : String) : Result Seat :=
  match self.seats.lookup id with
  | some seat => .ok seat
  | none => .error (.unknownSeat id)

/-- `SeatManager::set_devices`. -/
def setDevices (self : SeatManager) (seatId : String) (devices : List Device) : SeatManager :=
  self.ensureSeat seatId fun seat => { seat with devices }

/-- `SeatManager::attach_session`. -/
def attachSession (self : SeatManager) (seatId : String) (session : SessionId) : SeatManager :=
  self.ensureSeat seatId fun seat =>
    if seat.activeSession.isNone then
      { seat with activeSession := some session }
    else
      { seat with queuedSessions := seat.queuedSessions ++ [session] }

/-- `SeatManager::detach_session`. -/
def detachSession (self : SeatManager) (session : SessionId) : SeatManager :=
  { seats := self.seats.mapVal fun _ seat =>
      if seat.activeSession = some session then
        { seat with
          activeSession := seat.queuedSessions.head?
          queuedSessions := seat.queuedSessions.tail }
      else
        { seat with queuedSessions := seat.queuedSessions.filter (· ≠ session) } }

/-- `SeatManager::switch_active`: the manager and the session that was active before. -/
def switchActive (self : SeatManager) (seatId : String) (session : SessionId) :
    Result (SeatManager × Option SessionId) := do
  let seat ← self.seat seatId
  if !seat.hasSession session then
    .error (.unknownSession session)
  else
    let previous := seat.activeSession
    let switched :=
      if previous ≠ some session then
        { seat with
          queuedSessions := (seat.queuedSessions ++ previous.toList).filter (· ≠ session)
          activeSession := some session }
      else
        seat
    return ({ seats := self.seats.modify seatId fun _ => switched },
      previous.filter (· ≠ session))

/-- `SeatManager::active_session`. -/
def activeSession (self : SeatManager) (seatId : String) : Result (Option SessionId) := do
  let seat ← self.seat seatId
  return seat.activeSession

/-- The same registry under two iteration orders. -/
def Rehash (m m' : SeatManager) : Prop :=
  Table.Rehash m.seats m'.seats

end SeatManager

/-! ## Who is on a seat -/

namespace Seat

/-- The sessions on a seat: the active one, then the queue. -/
def held (self : Seat) : List SessionId :=
  self.activeSession.toList ++ self.queuedSessions

/-- What `attach_session` makes of the seat. -/
def attached (self : Seat) (session : SessionId) : Seat :=
  if self.activeSession.isNone then
    { self with activeSession := some session }
  else
    { self with queuedSessions := self.queuedSessions ++ [session] }

/-- What `detach_session` makes of each seat. -/
def detached (self : Seat) (session : SessionId) : Seat :=
  if self.activeSession = some session then
    { self with
      activeSession := self.queuedSessions.head?
      queuedSessions := self.queuedSessions.tail }
  else
    { self with queuedSessions := self.queuedSessions.filter (· ≠ session) }

/-- What `switch_active` makes of the seat. -/
def switched (self : Seat) (session : SessionId) : Seat :=
  if self.activeSession ≠ some session then
    { self with
      queuedSessions := (self.queuedSessions ++ self.activeSession.toList).filter (· ≠ session)
      activeSession := some session }
  else
    self

variable (self : Seat) (session : SessionId)

theorem hasSession_iff : self.hasSession session = true ↔ session ∈ self.held := by
  simp [hasSession, held]

theorem attached_held : (self.attached session).held.Perm (session :: self.held) := by
  unfold attached held
  cases hactive : self.activeSession with
  | none => simp
  | some active =>
      simp only [Option.isNone_some, Bool.false_eq_true, if_false, Option.toList_some,
        List.singleton_append]
      exact ((List.perm_append_singleton ..).cons active).trans (List.Perm.swap ..)

/-- The session is gone from the seat; the others stay, in order. -/
theorem detached_held (h : self.held.Nodup) :
    (self.detached session).held = self.held.filter (· ≠ session) := by
  unfold detached held at *
  by_cases hactive : self.activeSession = some session
  · simp only [hactive, if_true, Option.toList_some, List.singleton_append, List.nodup_cons] at h ⊢
    have hqueue : self.queuedSessions.filter (· ≠ session) = self.queuedSessions :=
      List.filter_eq_self.2 fun k hk => by
        simp only [ne_eq, decide_eq_true_eq]
        rintro rfl
        exact h.1 hk
    rw [List.filter_cons_of_neg (by simp), hqueue]
    cases self.queuedSessions <;> rfl
  · rw [if_neg hactive, List.filter_append]
    cases hnone : self.activeSession with
    | none => simp
    | some active =>
        have hne : active ≠ session := by
          rintro rfl
          exact hactive hnone
        simp [hne]

theorem switched_active : (self.switched session).activeSession = some session := by
  unfold switched
  split
  · rfl
  · rename_i h
    simpa using h

/-- Nobody gets on a seat by another's leaving. -/
theorem mem_of_mem_detached {k : SessionId} (h : k ∈ (self.detached session).held) :
    k ∈ self.held := by
  unfold detached at h
  unfold held at *
  split at h
  · refine List.mem_append_right _ ?_
    cases hqueue : self.queuedSessions with
    | nil => simp [hqueue] at h
    | cons next rest => simpa [hqueue] using h
  · rcases List.mem_append.1 h with hactive | hqueued
    · exact List.mem_append_left _ hactive
    · exact List.mem_append_right _ (List.mem_filter.1 hqueued).1

/-- A switch brings nobody new to the seat. -/
theorem mem_of_mem_switched {k : SessionId} (hmem : session ∈ self.held)
    (h : k ∈ (self.switched session).held) : k ∈ self.held := by
  unfold switched at h
  split at h
  · simp only [held, Option.toList_some, List.singleton_append, List.mem_cons, List.mem_filter,
      List.mem_append] at h
    rcases h with rfl | ⟨hqueued | hprevious, -⟩
    · exact hmem
    · exact List.mem_append_right _ hqueued
    · exact List.mem_append_left _ hprevious
  · exact h

/-- A switch moves the sessions of the seat around. -/
theorem switched_held (h : self.held.Nodup) (hmem : session ∈ self.held) :
    (self.switched session).held.Perm self.held := by
  unfold switched
  by_cases hactive : self.activeSession = some session
  · simp [hactive]
  · rw [if_pos hactive]
    unfold held at *
    have hperm : (self.queuedSessions ++ self.activeSession.toList).Perm
        (self.activeSession.toList ++ self.queuedSessions) := List.perm_append_comm
    refine (List.perm_ext_iff_of_nodup ?_ h).2 fun k => ?_
    · have hnodup := (hperm.nodup_iff.2 h).filter (p := fun k => decide (k ≠ session))
      simp only [Option.toList_some, List.singleton_append, List.nodup_cons]
      exact ⟨by simp, hnodup⟩
    · rw [← hperm.mem_iff] at hmem ⊢
      simp only [Option.toList_some, List.singleton_append, List.mem_cons, List.mem_filter,
        decide_eq_true_eq]
      constructor
      · rintro (rfl | ⟨hk, -⟩)
        · exact hmem
        · exact hk
      · intro hk
        by_cases heq : k = session
        · exact Or.inl heq
        · exact Or.inr ⟨hk, heq⟩

end Seat

namespace SeatManager

/-- The sessions on all seats. -/
def held (self : SeatManager) : List SessionId :=
  self.seats.values.flatMap Seat.held

theorem attachSession_lookup (self : SeatManager) (seatId k : String) (session : SessionId) :
    (self.attachSession seatId session).seats.lookup k
      = if k = seatId then
          some (((self.seats.lookup seatId).getD { id := seatId }).attached session)
        else self.seats.lookup k :=
  Table.lookup_insert_eq ..

theorem detachSession_lookup (self : SeatManager) (session : SessionId) (k : String) :
    (self.detachSession session).seats.lookup k = (self.seats.lookup k).map (·.detached session) :=
  Table.lookup_mapVal ..

theorem switchActive_lookup {self : SeatManager} {seatId : String} {session : SessionId}
    {out : SeatManager × Option SessionId} (h : self.switchActive seatId session = .ok out) :
    ∃ seat, self.seats.lookup seatId = some seat ∧ session ∈ seat.held
      ∧ ∀ k, out.1.seats.lookup k
        = if k = seatId then some (seat.switched session) else self.seats.lookup k := by
  unfold switchActive SeatManager.seat at h
  cases hseat : self.seats.lookup seatId with
  | none => simp [hseat, bind, Except.bind] at h
  | some seat =>
      simp only [hseat, bind, Except.bind, pure, Except.pure] at h
      split at h
      · cases h
      · rename_i hhas
        obtain rfl := Except.ok.inj h
        refine ⟨seat, rfl, (seat.hasSession_iff session).1 (by simpa using hhas), fun k => ?_⟩
        simp only [Table.lookup_modify]
        split
        · rename_i hk
          subst hk
          rw [hseat]
          rfl
        · rfl

theorem switchActive_previous {self : SeatManager} {seatId : String} {session : SessionId}
    {out : SeatManager × Option SessionId} {seat : Seat}
    (h : self.switchActive seatId session = .ok out)
    (hseat : self.seats.lookup seatId = some seat) :
    out.2 = seat.activeSession.filter (· ≠ session) := by
  unfold switchActive SeatManager.seat at h
  simp only [hseat, bind, Except.bind, pure, Except.pure] at h
  split at h
  · cases h
  · obtain rfl := Except.ok.inj h
    rfl

/-- A switch fails exactly if the seat does not hold the session. -/
theorem switchActive_error_iff {self : SeatManager} {seatId : String} {session : SessionId} :
    (∃ e, self.switchActive seatId session = .error e) ↔
      ∀ seat, self.seats.lookup seatId = some seat → session ∉ seat.held := by
  unfold switchActive SeatManager.seat
  cases self.seats.lookup seatId with
  | none => simp [bind, Except.bind]
  | some seat =>
      simp only [bind, Except.bind, Option.some.injEq, forall_eq', ← Seat.hasSession_iff]
      cases seat.hasSession session with
      | false => simp
      | true => simp [pure, Except.pure]

theorem activeSession_eq_ok {self : SeatManager} {seatId : String} {active : Option SessionId} :
    self.activeSession seatId = .ok active ↔
      ∃ seat, self.seats.lookup seatId = some seat ∧ seat.activeSession = active := by
  unfold activeSession SeatManager.seat
  cases self.seats.lookup seatId with
  | none => simp [bind, Except.bind]
  | some seat => simp [bind, Except.bind, pure, Except.pure]

theorem switchActive_activeSession {self : SeatManager} {seatId : String} {session : SessionId}
    {out : SeatManager × Option SessionId} (h : self.switchActive seatId session = .ok out)
    (k : String) :
    out.1.activeSession k = if k = seatId then .ok (some session) else self.activeSession k := by
  obtain ⟨seat, hseat, -, hlookup⟩ := switchActive_lookup h
  split
  · rename_i hk
    refine activeSession_eq_ok.2 ⟨seat.switched session, by rw [hlookup, if_pos hk], ?_⟩
    exact seat.switched_active session
  · rename_i hk
    unfold activeSession SeatManager.seat
    rw [hlookup, if_neg hk]

end SeatManager

end MitosSession
