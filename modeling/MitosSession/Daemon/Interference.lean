import MitosSession.Daemon.ExceptElevation
import MitosSession.Daemon.ExceptLocks
import MitosSession.Daemon.LockPersistence

set_option autoImplicit false

/-! # Unlocking and elevation do not interfere

`unlock` and the elevation flow check credentials with the same function, against the same
authenticator, for the same sessions, and the idle tick sweeps the records of both. They keep
separate counters all the same. Delete the elevation commands from a run: what is left is a run in
which, at every step, only the elevation manager may be different. Delete the lock and unlock
commands: only the lock records and the session states may be different, and nothing that elevation
reads. `unlock_elevation_separate` says both. -/

namespace MitosSession

/-- What a step was given: the event it handled and where, or nothing for a change of iteration
    order. -/
def DaemonLabel.input : DaemonLabel → Option (Env × DaemonEvent)
  | .handled env event _ => some (env, event)
  | .rehash => none

/-- The request of a step that handles a command. -/
def DaemonLabel.request (l : DaemonLabel) : Option Request :=
  l.command.map ManagerCommand.request

namespace Daemon

variable {d t : Daemon}

/-- The lock managers and all session states are the same. -/
def SameLocks (d t : Daemon) : Prop :=
  t.locks = d.locks ∧ ∀ s, t.stateOf s = d.stateOf s

/-- The elevation managers are the same. -/
def SameElevation (d t : Daemon) : Prop :=
  t.elevation = d.elevation

/-- The two steps were given the same, in states that are the same as far as `R` goes, and ended in
    such states. -/
def Mirrors (R : Daemon → Daemon → Prop) (x y : Transition Daemon DaemonLabel) : Prop :=
  y.label.input = x.label.input ∧ R x.pre y.pre ∧ R x.post y.post

theorem ExceptElevation.sameLocks (h : ExceptElevation d t) : SameLocks d t := by
  obtain ⟨e, rfl⟩ := exceptElevation_iff.1 h
  exact ⟨rfl, fun _ => rfl⟩

theorem ExceptLocks.sameElevation (h : ExceptLocks d t) : SameElevation d t := by
  obtain ⟨sessions, locks, rfl, -⟩ := h
  rfl

/-- Deleting the commands with a request that satisfies `p`, for a relation such a command does not
    show in and every other step keeps. -/
theorem purged {R : Daemon → Daemon → Prop} {p : Request → Bool} {d₀ : Daemon}
    {tr : List (Transition Daemon DaemonLabel)} (hrun : Run Step d₀ tr d) (h0 : R d₀ d₀)
    (hdrop : ∀ d env cmd t, R d t → p cmd.request = true →
      R (d.handle env (.ipc (.command cmd))).1 t)
    (hkeep : ∀ d t env event, R d t →
      (∀ cmd, event = .ipc (.command cmd) → p cmd.request = false) →
        R (d.handle env event).1 (t.handle env event).1)
    (hrehash : ∀ d d' t, R d t → Rehash d d' → ∃ t', Rehash t t' ∧ R d' t') :
    ∃ tr' t, Run Step d₀ tr' t ∧ R d t
      ∧ List.Forall₂ (Mirrors R) (tr.filter fun x => !x.label.request.any p) tr' := by
  refine hrun.purge (Q := fun l l' => l'.input = l.input) (fun l => !l.request.any p) h0
    (fun d l d' t h hstep hl => ?_) fun d l d' t h hstep hl => ?_
  -- a deleted step: the other run stays where it is
  · obtain ⟨request, hrequest, hp⟩ : ∃ request, l.request = some request ∧ p request = true := by
      simpa [Option.any_eq_true] using hl
    obtain ⟨cmd, hcmd, rfl⟩ := Option.map_eq_some_iff.1 hrequest
    cases hstep with
    | handled env event =>
        obtain rfl := DaemonLabel.event_of_command hcmd
        exact hdrop d env cmd t h hp
    | rehash hr => cases hcmd
  · cases hstep with
    | handled env event =>
        -- a step that stays: the other run takes it too
        refine ⟨_, _, Step.handled t env event, rfl, hkeep d t env event h ?_⟩
        rintro cmd rfl
        simpa [DaemonLabel.request, DaemonLabel.command] using hl
    | rehash hr =>
        -- another iteration order in one run is answered by one in the other
        obtain ⟨t', hr', h'⟩ := hrehash d d' t h hr
        exact ⟨_, t', Step.rehash hr', rfl, h'⟩

theorem Mirrors.imp {R R' : Daemon → Daemon → Prop} (himp : ∀ d t, R d t → R' d t)
    {x y : Transition Daemon DaemonLabel} (h : Mirrors R x y) : Mirrors R' x y :=
  ⟨h.1, himp _ _ h.2.1, himp _ _ h.2.2⟩

/-- **Unlocking and elevation do not interfere.** Deleting all `RequestElevation` and
    `RespondElevation` commands from a run leaves a run in which the lock manager and every session
    state are the same at every step; and deleting all `LockSession` and `Unlock` commands leaves
    one in which the elevation manager is. -/
theorem unlock_elevation_separate {d₀ : Daemon} {tr : List (Transition Daemon DaemonLabel)}
    (hrun : Run Step d₀ tr d) :
    (∃ tr' t, Run Step d₀ tr' t ∧ SameLocks d t
        ∧ List.Forall₂ (Mirrors SameLocks)
          (tr.filter fun x => !x.label.request.any Request.isElevation) tr')
      ∧ ∃ tr' t, Run Step d₀ tr' t ∧ SameElevation d t
        ∧ List.Forall₂ (Mirrors SameElevation)
          (tr.filter fun x => !x.label.request.any Request.isLocking) tr' := by
  constructor
  · have hdrop : ∀ (d : Daemon) env cmd t, ExceptElevation d t → cmd.request.isElevation = true →
        ExceptElevation (d.handle env (.ipc (.command cmd))).1 t := by
      intro d env cmd t h hcmd
      obtain ⟨e, heq⟩ := handle_elevation_command d env hcmd
      obtain ⟨e', rfl⟩ := exceptElevation_iff.1 h
      rw [heq]
      exact rfl
    obtain ⟨tr', t, hrun', hlast, hall⟩ := purged (R := ExceptElevation) (p := Request.isElevation)
      hrun rfl hdrop (fun d t env event h hevent => handle_exceptElevation h env hevent)
      fun d d' t h hr => rehash_exceptElevation h hr
    exact ⟨tr', t, hrun', hlast.sameLocks,
      hall.imp fun _ _ h => h.imp fun _ _ => ExceptElevation.sameLocks⟩
  · obtain ⟨tr', t, hrun', hlast, hall⟩ := purged (R := ExceptLocks) (p := Request.isLocking)
      hrun (ExceptLocks.refl d₀)
      (fun d env cmd t h hcmd => (handle_locking_command d env hcmd).symm.trans h)
      (fun d t env event h hevent => handle_exceptLocks h env hevent)
      fun d d' t h hr => rehash_exceptLocks h hr
    exact ⟨tr', t, hrun', hlast.sameElevation,
      hall.imp fun _ _ h => h.imp fun _ _ => ExceptLocks.sameElevation⟩

/-- Somebody guesses Alice's password, once to unlock and once to elevate. -/
private def guessedTwice : List (Env × DaemonEvent) :=
  demoThen
    [(demoEnv 0, demoConnect 9 900),
      (demoEnv 0, .ipc (.command (demoCommand 9 900 (.requestElevation 1
        { requestingApp := "mitos-store"
          description := "install"
          risk := .elevated
          durationLabel := "once" })))),
      (demoEnv 0, .ipc (.command (demoCommand 7 1000 (.unlock 1 "alice" "guess")))),
      (demoEnv 0, .ipc (.command (demoCommand 7 1000 (.respondElevation 1 (.password "guess")))))]

/-- Each guess costs one attempt, in its own flow, and would do so without the other. -/
theorem unlock_elevation_separate_guesses :
    ((System.demo.replay guessedTwice).daemon.locks.entry 1).attempts = 1
      ∧ ((System.demo.replay guessedTwice).daemon.elevation.auth 1).attempts = 1
      ∧ (∃ tr' t, Run Step demo tr' t ∧ (t.locks.entry 1).attempts = 1
        ∧ List.Forall₂ (Mirrors SameLocks) ((demoTrace guessedTwice).filter fun x =>
          !x.label.request.any Request.isElevation) tr')
      ∧ ∃ tr' t, Run Step demo tr' t ∧ (t.elevation.auth 1).attempts = 1
        ∧ List.Forall₂ (Mirrors SameElevation) ((demoTrace guessedTwice).filter fun x =>
          !x.label.request.any Request.isLocking) tr' := by
  have hrun : Run Step demo (demoTrace guessedTwice) _ := demoTrace_run (by decide)
  have hlocks : ((System.demo.replay guessedTwice).daemon.locks.entry 1).attempts = 1 := by decide
  have helevation : ((System.demo.replay guessedTwice).daemon.elevation.auth 1).attempts = 1 := by
    decide
  obtain ⟨⟨tr₁, t₁, hrun₁, hsame₁, hall₁⟩, tr₂, t₂, hrun₂, hsame₂, hall₂⟩ :=
    unlock_elevation_separate hrun
  refine ⟨hlocks, helevation, ⟨tr₁, t₁, hrun₁, ?_, hall₁⟩, tr₂, t₂, hrun₂, ?_, hall₂⟩
  · rw [hsame₁.1]
    exact hlocks
  · rw [show t₂.elevation = _ from hsame₂]
    exact helevation

end Daemon

end MitosSession
