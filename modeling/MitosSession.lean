import MitosSession.Library.Table
import MitosSession.Library.Run
import MitosSession.Library.Loop
import MitosSession.Library.Bytes
import MitosSession.Library.Fields
import MitosSession.Library.Processes
import MitosSession.Library.Interleaving
import MitosSession.Library.Credentials
import MitosSession.Basic
import MitosSession.Text
import MitosSession.Streams
import MitosSession.Config
import MitosSession.User
import MitosSession.User.Groups
import MitosSession.Authentication
import MitosSession.Lock
import MitosSession.Lock.Lockout
import MitosSession.Session
import MitosSession.Session.Registry
import MitosSession.Seat
import MitosSession.Seat.Queues
import MitosSession.Idle
import MitosSession.Idle.Reports
import MitosSession.Idle.Escalation
import MitosSession.Elevation
import MitosSession.Elevation.Lockout
import MitosSession.Ipc
import MitosSession.Ipc.Protocol
import MitosSession.Ipc.Hangup
import MitosSession.Policy
import MitosSession.Deadlines
import MitosSession.Power
import MitosSession.Power.MitosPower
import MitosSession.Daemon
import MitosSession.Daemon.Outcomes
import MitosSession.Daemon.Run
import MitosSession.Daemon.Connection
import MitosSession.Daemon.Change
import MitosSession.Daemon.Handled
import MitosSession.Daemon.Sessions
import MitosSession.Daemon.LockPersistence
import MitosSession.Daemon.UnlockIdentity
import MitosSession.Daemon.Screen
import MitosSession.Daemon.Suspend
import MitosSession.Daemon.Prompts
import MitosSession.Daemon.Replies
import MitosSession.Daemon.Ownership
import MitosSession.Daemon.Provenance
import MitosSession.Daemon.Strangers
import MitosSession.Daemon.Standing
import MitosSession.Daemon.Configuration
import MitosSession.Daemon.Registries
import MitosSession.Daemon.Engage
import MitosSession.Daemon.Passwordless
import MitosSession.Daemon.Topics
import MitosSession.Daemon.Tick
import MitosSession.Daemon.Sleep
import MitosSession.Daemon.Reported
import MitosSession.Daemon.Inhibitors
import MitosSession.Daemon.IdleLock
import MitosSession.Daemon.Handles
import MitosSession.Daemon.PromptTraffic
import MitosSession.Lock.Calls
import MitosSession.Elevation.Bookkeeping
import MitosSession.Accounting
import MitosSession.Daemon.Managers
import MitosSession.Daemon.LateAnswers
import MitosSession.Daemon.Lockouts
import MitosSession.Daemon.RetryTimes
import MitosSession.Daemon.PowerPermissions
import MitosSession.Daemon.IdleSuspend
import MitosSession.Daemon.Unknown
import MitosSession.Daemon.Foreground
import MitosSession.Daemon.Restarts
import MitosSession.Daemon.Crashes
import MitosSession.Daemon.Children
import MitosSession.Daemon.Signals
import MitosSession.Daemon.Secrets
import MitosSession.Launcher
import MitosSession.Daemon.Launches
import MitosSession.Logging
import MitosSession.Daemon.Audit
import MitosSession.Daemon.ExceptElevation
import MitosSession.Daemon.ExceptLocks
import MitosSession.Daemon.Interference
import MitosSession.Daemon.Delivery
import MitosSession.Server.Refinement
import MitosSession.Server.Outboxes
import MitosSession.Ipc.Client
import MitosSession.Server.Calls
import MitosSession.Server.Exchange
import MitosSession.Server.Consent
