import MitosSession.Daemon.Standing

set_option autoImplicit false

/-! # Configuration, reloads and what was built from it

`Daemon::new` builds three things from the settings: the authenticator, the uid that may ask for
elevation, and the power backend. The `ReloadConfig` signal loads the settings again and rebuilds
the first two. It does not use the path given on the command line, and it keeps the power backend:
`reload_agrees_iff` says when a reload nevertheless ends where a restart would.

The one authenticator is built for the lock screen's PAM service and serves the elevation prompts
as well: `own_service_iff` says when that is the service configured for them. -/

namespace MitosSession

/-- The settings and what the daemon builds from them. -/
structure Configured where
  settings : Settings
  authenticator : PamAuthenticator
  requesterUid : Option ℕ
  powerBackend : PowerBackend
deriving DecidableEq

/-- The two settings make the same backend. The socket only matters to `MitosPowerBackend`. -/
def PowerSettings.SameBackend (p p' : PowerSettings) : Prop :=
  p.backend = p'.backend
    ∧ (p.backend = .mitosPower → p.mitosPowerSocketPath = p'.mitosPowerSocketPath)

theorem PowerSettings.sameBackend_iff (p p' : PowerSettings) :
    p.SameBackend p' ↔
      p.backend.make p.mitosPowerSocketPath = p'.backend.make p'.mitosPowerSocketPath := by
  unfold SameBackend
  cases hp : p.backend <;> cases hp' : p'.backend <;> simp [PowerBackendKind.make]

namespace Daemon

def configured (self : Daemon) : Configured where
  settings := self.settings
  authenticator := self.authenticator
  requesterUid := self.elevation.requesterUid
  powerBackend := self.powerBackend

variable {d d' d₀ : Daemon} {env env₀ : Env} {tr : List (Transition Daemon DaemonLabel)}

/-! ## Startup and reload -/

/-- Startup succeeds exactly if the configuration loads, and then builds everything from it. -/
theorem start_eq_ok {configArg : Option String} {devices : Option (List Device)}
    (h : start env configArg devices = .ok d) :
    ∃ settings, load env.config configArg = .ok settings
      ∧ d.configured = (new env settings).configured := by
  unfold start at h
  cases hload : load env.config configArg with
  | error e => simp [hload, bind, Except.bind] at h
  | ok settings =>
      simp only [hload, bind, Except.bind, pure, Except.pure, Except.ok.injEq] at h
      subst h
      exact ⟨settings, rfl, rfl⟩

theorem start_of_load {configArg : Option String} {settings : Settings}
    (h : load env.config configArg = .ok settings) (devices : Option (List Device)) :
    ∃ d₁, start env configArg devices = .ok d₁
      ∧ d₁.configured = (new env settings).configured := by
  unfold start
  simp only [h, bind, Except.bind, pure, Except.pure]
  exact ⟨_, rfl, rfl⟩

/-- A reload builds what startup would, but for the power backend. -/
theorem reload_configured {settings : Settings} (h : load env.config none = .ok settings) :
    (d.handle env (.signal .reloadConfig)).1.configured
      = { (new env settings).configured with powerBackend := d.powerBackend } := by
  simp only [handle, onSignal, reloadConfig, h]
  rfl

theorem reload_failed {e : SessionError} (h : load env.config none = .error e) :
    (d.handle env (.signal .reloadConfig)).1 = d := by
  simp only [handle, onSignal, reloadConfig, h]

theorem Stands.powerBackend {event : DaemonEvent} {st : Standing} (h : Stands d env event st) :
    st.powerBackend = d.powerBackend := by
  cases h <;> rfl

/-- The power backend is the one startup made, whatever came in between. -/
theorem run_powerBackend (hrun : Run Step d₀ tr d) : d.powerBackend = d₀.powerBackend := by
  refine hrun.invariant (I := fun d => d.powerBackend = d₀.powerBackend) rfl ?_
  intro d l d' hI hstep
  cases hstep with
  | handled env event => exact (handle_stands d env event).powerBackend.trans hI
  | rehash hr => exact hr.powerBackend.trans hI

/-- **When a reload agrees with a restart.** Take any run of a daemon started with a configuration
    argument, and then a `ReloadConfig` signal. If the configuration loads, what the daemon ends up
    with is what startup with the same argument would build, exactly if the argument makes no
    difference to what is loaded and the `[power]` section makes the backend it made at startup. A
    reload of files that have not changed changes nothing, exactly if the argument makes no
    difference. If the configuration does not load, nothing changes. -/
theorem reload_agrees_iff {configArg : Option String} {devices₀ : Option (List Device)}
    (hstart : start env₀ configArg devices₀ = .ok d₀) (hrun : Run Step d₀ tr d) (env : Env)
    (devices : Option (List Device)) :
    (∀ settings, load env.config none = .ok settings →
      ((∃ d₁, start env configArg devices = .ok d₁
          ∧ (d.handle env (.signal .reloadConfig)).1.configured = d₁.configured) ↔
        load env.config configArg = load env.config none
          ∧ d₀.settings.power.SameBackend settings.power))
    ∧ (∀ settings d₁, load env.config none = .ok settings →
      start env configArg devices = .ok d₁ → d.configured = d₁.configured →
      ((d.handle env (.signal .reloadConfig)).1.configured = d.configured ↔
        load env.config configArg = load env.config none))
    ∧ ∀ e, load env.config none = .error e →
      (d.handle env (.signal .reloadConfig)).1.configured = d.configured := by
  have hbackend : d.powerBackend
      = d₀.settings.power.backend.make d₀.settings.power.mitosPowerSocketPath := by
    obtain ⟨settings₀, -, hbuilt⟩ := start_eq_ok hstart
    have hsettings : d₀.settings = settings₀ := congrArg Configured.settings hbuilt
    rw [run_powerBackend hrun, hsettings]
    exact congrArg Configured.powerBackend hbuilt
  refine ⟨fun settings hload => ?_, fun settings d₁ hload hd₁ hsame => ?_, fun e hload => ?_⟩
  · rw [reload_configured hload, PowerSettings.sameBackend_iff, ← hbackend, hload]
    constructor
    · rintro ⟨d₁, hd₁, hconfigured⟩
      obtain ⟨settings₁, hload₁, hbuilt₁⟩ := start_eq_ok hd₁
      rw [hbuilt₁] at hconfigured
      have hsettings : settings = settings₁ := congrArg Configured.settings hconfigured
      subst hsettings
      exact ⟨hload₁, congrArg Configured.powerBackend hconfigured⟩
    · rintro ⟨hload₁, hpower⟩
      obtain ⟨d₁, hd₁, hbuilt₁⟩ := start_of_load hload₁ devices
      refine ⟨d₁, hd₁, ?_⟩
      rw [hbuilt₁, hpower]
      rfl
  · obtain ⟨settings₁, hload₁, hbuilt₁⟩ := start_eq_ok hd₁
    rw [hbuilt₁] at hsame
    rw [reload_configured hload, hsame, hload₁, hload]
    constructor
    · intro hconfigured
      exact congrArg Except.ok (congrArg Configured.settings hconfigured).symm
    · intro heq
      obtain rfl := Except.ok.inj heq
      have hpower : d.powerBackend = (new env settings₁).powerBackend :=
        congrArg Configured.powerBackend hsame
      rw [hpower]
      rfl
  · rw [reload_failed hload]

section Example

/-- Started without an argument and with unchanged files, a reload ends where a restart would. -/
theorem reload_unchanged_agrees :
    ∃ d₁, start (demoEnv 5) none none = .ok d₁
      ∧ (demo.handle (demoEnv 5) (.signal .reloadConfig)).1.configured = d₁.configured := by
  have hstart : start (demoEnv 0) none none = .ok demo := rfl
  have hrun : Run Step demo [] demo := Run.nil
  exact ((reload_agrees_iff hstart hrun (demoEnv 5) none).1 default rfl).2
    ⟨rfl, rfl, fun _ => rfl⟩

/-- A system where `/etc/mitos/kiosk.toml` is the only configuration file; it locks after a
    minute. -/
private def kioskEnv : Env :=
  { demoEnv 0 with
    config :=
      { configVar := none
        fileExists := fun path => path = "/etc/mitos/kiosk.toml"
        readToString := fun _ => .ok "kiosk"
        fromToml := fun _ => .ok { (default : Settings) with
          idle := { (default : IdleSettings) with lockAfterSecs := 60 } } } }

private def kioskArg : Option String := some "/etc/mitos/kiosk.toml"

/-- Started with that file as its argument, the daemon falls back to the defaults at the first
    reload, though no file has changed. -/
theorem reload_forgets_argument :
    ¬ ∀ (env₀ env : Env) (configArg : Option String) (devices₀ devices : Option (List Device))
      (d₀ d : Daemon) (tr : List (Transition Daemon DaemonLabel)) (settings : Settings),
      start env₀ configArg devices₀ = .ok d₀ → Run Step d₀ tr d →
      load env.config none = .ok settings →
      ∃ d₁, start env configArg devices = .ok d₁
        ∧ (d.handle env (.signal .reloadConfig)).1.configured = d₁.configured := by
  intro hclaim
  have hkioskLoad : load kioskEnv.config kioskArg = .ok _ := rfl
  have hreload : load kioskEnv.config none = .ok default := rfl
  obtain ⟨d₀, hstart, -⟩ := start_of_load hkioskLoad none
  obtain ⟨d₁, hd₁, hconfigured⟩ := hclaim kioskEnv kioskEnv kioskArg none none d₀ d₀ [] default
    hstart Run.nil hreload
  obtain ⟨settings, hload, hbuilt⟩ := start_eq_ok hd₁
  rw [reload_configured hreload, hbuilt] at hconfigured
  have hsettings : default = settings := congrArg Configured.settings hconfigured
  have hkiosk := congrArg (fun r => r.toOption.map fun s => s.idle.lockAfterSecs) hload
  rw [← hsettings] at hkiosk
  revert hkiosk
  decide

end Example

/-! ## The authenticator of both flows -/

/-- The authenticator is the one of the settings in force. -/
theorem Reachable.authenticator (h : Reachable d) :
    d.authenticator
      = PamAuthenticator.new (authPolicy d.settings.authentication d.settings.lock) := by
  refine h.invariant (I := fun d => d.authenticator
    = PamAuthenticator.new (authPolicy d.settings.authentication d.settings.lock)) ?_ ?_ ?_
  · rintro d ⟨env, configArg, devices, hstart⟩
    obtain ⟨settings, -, hbuilt⟩ := start_eq_ok hstart
    have hsettings : d.settings = settings := congrArg Configured.settings hbuilt
    rw [hsettings]
    exact congrArg Configured.authenticator hbuilt
  · intro d env event hI
    have hstands := handle_stands d env event
    have hst : ∀ st, Stands d env event st → st.authenticator
        = PamAuthenticator.new (authPolicy st.settings.authentication st.settings.lock) := by
      intro st hst
      -- only a reload writes to either, and it writes both
      cases hst with
      | reloaded hload => rfl
      | _ => exact hI
    exact hst _ hstands
  · intro d d' hI hr
    rw [hr.authenticator, hr.settings]
    exact hI

/-- The step checks a password for an `Unlock` request, against `service`. -/
def UnlockCheck (l : DaemonLabel) (service : String) : Prop :=
  ∃ cmd s userName password request accepted, l.command = some cmd
    ∧ cmd.request = .unlock s userName password
    ∧ Effect.authenticate service request accepted ∈ l.effects

/-- The step checks a password given to an elevation prompt, against `service`. -/
def ElevationCheck (l : DaemonLabel) (service : String) : Prop :=
  ∃ cmd id password request accepted, l.command = some cmd
    ∧ cmd.request = .respondElevation id (.password password)
    ∧ Effect.authenticate service request accepted ∈ l.effects

theorem mem_authEffects {calls : List AuthRequest} {service : String} {request : AuthRequest}
    {accepted : Bool} (h : Effect.authenticate service request accepted ∈ d.authEffects env calls) :
    service = d.authenticator.service := by
  obtain ⟨r, -, heq⟩ := List.mem_map.1 h
  exact (Effect.authenticate.inj heq).1.symm

/-- An `Unlock` request asks the daemon's authenticator. -/
theorem unlock_service {k : SessionId} {userName password service : String}
    {request : AuthRequest} {accepted : Bool}
    (h : Effect.authenticate service request accepted
      ∈ (d.unlock env k userName password).effects) : service = d.authenticator.service := by
  have htold : ∀ calls event, Effect.authenticate service request accepted
      ∈ d.authEffects env calls ++ d.tells k event → service = d.authenticator.service := by
    intro calls event hmem
    rcases List.mem_append.1 hmem with hmem | hmem
    · exact mem_authEffects hmem
    · obtain ⟨_, _, heq⟩ := mem_tells hmem
      cases heq
  by_cases hs : (d.unlockAttempt env k userName password).outcome = .success
  · rw [unlock_success hs] at h
    exact htold _ _ h
  · rw [unlock_failure hs] at h
    exact htold _ _ h

theorem authenticate_notMem_reportElevation (id : ElevationRequestId)
    (resolved : ElevationOutcome) (service : String) (request : AuthRequest) (accepted : Bool) :
    Effect.authenticate service request accepted ∉ d.reportElevation id resolved := by
  unfold reportElevation
  split <;> simp [ConnRegistry.sendEvent, ConnRegistry.sendResponse]

/-- So does an answer to a prompt. -/
theorem respondElevation_service {id : ElevationRequestId} {response : ElevationResponse}
    {service : String} {request : AuthRequest} {accepted : Bool}
    (h : Effect.authenticate service request accepted
      ∈ (d.respondElevation env id response).effects) : service = d.authenticator.service := by
  rcases respondElevation_cases d env id response with
    ⟨e, heq⟩ | ⟨p, -, ⟨-, heq⟩ | ⟨password, ctx, attempt, -, -, -, heq⟩⟩
  · rw [heq] at h
    cases h
  · rw [heq] at h
    exact absurd h (authenticate_notMem_reportElevation _ _ _ _ _)
  · rw [heq] at h
    rcases List.mem_append.1 h with hmem | hmem
    · exact mem_authEffects hmem
    · exact absurd hmem (authenticate_notMem_reportElevation _ _ _ _ _)

/-- What a command's answer adds to its effects is no password check. -/
theorem mem_handleCommand {cmd : ManagerCommand} {service : String} {request : AuthRequest}
    {accepted : Bool}
    (h : Effect.authenticate service request accepted ∈ (d.handleCommand env cmd).2) :
    Effect.authenticate service request accepted
      ∈ (d.dispatch env cmd.connId cmd.request).effects := by
  unfold handleCommand at h
  split at h
  · simp [ConnRegistry.sendResponse] at h
  · rcases List.mem_append.1 h with hmem | hmem
    · exact hmem
    · simp only [Option.mem_toList, Option.map_eq_some_iff] at hmem
      obtain ⟨_, -, heq⟩ := hmem
      cases heq

/-- Both kinds of check go to the service of the daemon's one authenticator. -/
theorem Step.service {l : DaemonLabel} {service : String} (hstep : Step d l d')
    (h : UnlockCheck l service ∨ ElevationCheck l service) :
    service = d.authenticator.service := by
  cases hstep with
  | rehash hr =>
      rcases h with ⟨_, _, _, _, _, _, hcmd, -⟩ | ⟨_, _, _, _, _, hcmd, -⟩ <;> cases hcmd
  | handled env event =>
      rcases h with ⟨cmd, s, userName, password, request, accepted, hcmd, hrequest, hmem⟩
        | ⟨cmd, id, password, request, accepted, hcmd, hrequest, hmem⟩
      · obtain rfl := DaemonLabel.event_of_command hcmd
        have hdispatch := mem_handleCommand hmem
        rw [hrequest] at hdispatch
        exact unlock_service hdispatch
      · obtain rfl := DaemonLabel.event_of_command hcmd
        have hdispatch := mem_handleCommand hmem
        rw [hrequest] at hdispatch
        exact respondElevation_service hdispatch

/-- **Each flow and its PAM service.** Along every run, every check made for an `Unlock` request
    goes to the service of `auth_policy` under the settings in force; and all checks made for
    prompts go to the service of `elevation_auth_policy`, exactly if at each of them the two
    sections of the settings in force name one service. -/
theorem own_service_iff (hinit : Initial d₀) (hrun : Run Step d₀ tr d) :
    (∀ x ∈ tr, ∀ service, UnlockCheck x.label service →
      service = (authPolicy x.pre.settings.authentication x.pre.settings.lock).pamService)
    ∧ ((∀ x ∈ tr, ∀ service, ElevationCheck x.label service →
        service = (elevationAuthPolicy x.pre.settings.elevation).pamService) ↔
      ∀ x ∈ tr, (∃ service, ElevationCheck x.label service) →
        x.pre.settings.authentication.pamService = x.pre.settings.elevation.pamService) := by
  have hservice : ∀ x ∈ tr, ∀ service,
      UnlockCheck x.label service ∨ ElevationCheck x.label service →
      service = x.pre.settings.authentication.pamService := by
    intro x hx service hcheck
    obtain ⟨⟨tr', hpre⟩, hstep⟩ := hrun.of_mem hx
    have hreach : Reachable x.pre := ⟨d₀, tr', hinit, hpre⟩
    rw [hstep.service hcheck, hreach.authenticator]
    rfl
  refine ⟨fun x hx service hcheck => hservice x hx service (Or.inl hcheck), ?_, ?_⟩
  · rintro h x hx ⟨service, hcheck⟩
    rw [← hservice x hx service (Or.inr hcheck)]
    exact h x hx service hcheck
  · intro h x hx service hcheck
    rw [hservice x hx service (Or.inr hcheck)]
    exact h x hx ⟨service, hcheck⟩

section Example

/-- A prompt is opened on Alice's compositor, which answers it with her password. -/
private def answeredEvents : List (Env × DaemonEvent) :=
  [demoConnect 7 1000,
    .ipc (.command (demoCommand 7 1000 (.createSession "alice" none none))),
    .ipc (.command (demoCommand 7 1000 (.registerCompositor 1))),
    demoConnect 9 900,
    .ipc (.command (demoCommand 9 900
      (.requestElevation 1 ⟨"editor", "save a file", .elevated, ""⟩))),
    .ipc (.command (demoCommand 7 1000 (.respondElevation 1 (.password "hunter2"))))].map
    fun event => (demoEnv 0, event)

private def answeredTrace (d₀ : Daemon) : List (Transition Daemon DaemonLabel) :=
  (System.transitions { daemon := d₀, conns := fun _ => .fresh } answeredEvents).map
    System.toDaemon

private theorem answeredTrace_run (d₀ : Daemon) :
    ∃ d, Run Step d₀ (answeredTrace d₀) d := by
  have hadmitted : System.Admitted (fun _ => .fresh) answeredEvents := by decide
  have hrun : Run System.Step { daemon := d₀, conns := fun _ => .fresh } _ _ :=
    System.run_replay hadmitted
  exact ⟨_, System.run_daemon hrun⟩

private theorem answeredTrace_checks (d₀ : Daemon) {x : Transition Daemon DaemonLabel}
    (hlast : (answeredTrace d₀).getLast? = some x)
    (hcmd : x.label.command
      = some (demoCommand 7 1000 (.respondElevation 1 (.password "hunter2"))))
    (hchecked : x.label.effects.head?
      = some (.authenticate "mitos-session" ⟨1, "alice", "hunter2"⟩ true)) :
    x ∈ answeredTrace d₀ ∧ ElevationCheck x.label "mitos-session" :=
  ⟨List.mem_of_getLast? hlast, _, _, _, _, _, hcmd, rfl, List.mem_of_head? hchecked⟩

/-- A configuration that gives both flows one service. -/
private def sharedSettings : Settings :=
  { (default : Settings) with
    elevation := { (default : ElevationSettings) with pamService := "mitos-session" } }

private def sharedEnv : Env :=
  { demoEnv 0 with
    config :=
      { configVar := none
        fileExists := fun _ => true
        readToString := fun _ => .ok "shared"
        fromToml := fun _ => .ok sharedSettings } }

private def sharedStart : Daemon :=
  { Daemon.new sharedEnv sharedSettings with
    seats := ({} : SeatManager).ensureSeat "seat0" fun seat => seat }

/-- Under it, the prompt is checked against its own service. -/
theorem shared_service_checks :
    (∃ x ∈ answeredTrace sharedStart, ∃ service, ElevationCheck x.label service)
      ∧ ∀ x ∈ answeredTrace sharedStart, ∀ service, ElevationCheck x.label service →
        service = (elevationAuthPolicy x.pre.settings.elevation).pamService := by
  have hinit : Initial sharedStart := ⟨sharedEnv, none, none, rfl⟩
  obtain ⟨d, hrun⟩ := answeredTrace_run sharedStart
  have hshared : ∀ x ∈ answeredTrace sharedStart,
      x.pre.settings.authentication.pamService = x.pre.settings.elevation.pamService := by
    decide
  refine ⟨?_, (own_service_iff hinit hrun).2.2 fun x hx _ => hshared x hx⟩
  obtain ⟨hmem, hcheck⟩ := answeredTrace_checks sharedStart rfl rfl rfl
  exact ⟨_, hmem, _, hcheck⟩

/-- By default the services differ, and an answer to a prompt goes to the lock screen's. -/
theorem elevation_checked_by_lock_service :
    ¬ ∀ (d₀ d : Daemon) (tr : List (Transition Daemon DaemonLabel)), Initial d₀ →
      Run Step d₀ tr d → ∀ x ∈ tr, ∀ service, ElevationCheck x.label service →
        service = (elevationAuthPolicy x.pre.settings.elevation).pamService := by
  intro hclaim
  obtain ⟨d, hrun⟩ := answeredTrace_run demo
  obtain ⟨hmem, hcheck⟩ := answeredTrace_checks demo rfl rfl rfl
  have hservice := hclaim demo d _ demo_initial hrun _ hmem _ hcheck
  revert hservice
  decide

end Example

end Daemon

end MitosSession
