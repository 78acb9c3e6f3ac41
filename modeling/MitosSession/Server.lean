import MitosSession.Library.Interleaving
import MitosSession.Ipc.Reading
import MitosSession.Daemon.Connection

set_option autoImplicit false

/-! # The server

`ipc/server.rs` as a whole: the accept loop, the two threads of every connection, the one channel
on which they all send to the event loop, and the daemon. A step is one step of one of these
threads, so a run of the server is an interleaving of them. `Server.Refinement` says what the
daemon gets to see of it, `Server.Outboxes` what the peers do.

A connection's bytes are given as a whole (`Handler.stream`); reading them is a step the thread may
be late with, so nothing is said of when they arrive. Left out are an event loop that has ended,
which takes the process and all threads with it, and the failure to start a thread. -/

namespace MitosSession

/-! ## The threads of a connection -/

/-- A call of `handle_connection` that has made its channel, with its two threads. -/
structure Handler where
  connId : ConnId
  peer : PeerCred
  /-- All the peer sends. -/
  stream : ByteReader
  /-- What is still to be read of it. -/
  input : ByteReader
  reader : Reader := .announcing
  writer : Writer := .notSpawned
  /-- What the writer has not taken yet. -/
  outbox : List Message := []

/-- What a step of a connection's threads does outside of them. -/
inductive HandlerAct where
  | silent
  /-- A message sent to the event loop. -/
  | sent (message : ManagerMessage)
  /-- A message written to the socket. -/
  | wrote (message : Message)
deriving DecidableEq

/-- The message sent to the event loop, if one was. -/
def HandlerAct.toDaemon : HandlerAct → Option ManagerMessage
  | .sent message => some message
  | _ => none

namespace Handler

/-- One step of one of the two threads; `senderAlive` tells whether a sender of the outbox is
    left. -/
inductive Step (codec : Codec Request) (senderAlive : Bool) :
    Handler → HandlerAct → Handler → Prop
  | announce (h : Handler) (hreader : h.reader = .announcing) :
      Step codec senderAlive h (.sent (.connected h.connId h.peer {}))
        { h with reader := .spawning }
  | spawn (h : Handler) (hreader : h.reader = .spawning) :
      Step codec senderAlive h .silent { h with reader := .reading, writer := .receiving }
  | request (h : Handler) {request : Request} {input : ByteReader} (hreader : h.reader = .reading)
      (hread : readMessage codec h.input = (.ok request, input)) :
      Step codec senderAlive h (.sent (.command { connId := h.connId, peer := h.peer, request }))
        { h with input }
  /-- The peer hung up, or sent something malformed. -/
  | hangUp (h : Handler) {e : SessionError} {input : ByteReader} (hreader : h.reader = .reading)
      (hread : readMessage codec h.input = (.error e, input)) :
      Step codec senderAlive h .silent { h with reader := .leaving, input }
  | dropSender (h : Handler) (hreader : h.reader = .leaving) :
      Step codec senderAlive h .silent { h with reader := .joining }
  | join (h : Handler) (hreader : h.reader = .joining) (hwriter : h.writer = .ended) :
      Step codec senderAlive h .silent { h with reader := .reporting }
  | report (h : Handler) (hreader : h.reader = .reporting) :
      Step codec senderAlive h (.sent (.disconnected h.connId)) { h with reader := .done }
  | receive (h : Handler) {message : Message} {rest : List Message}
      (hwriter : h.writer = .receiving) (houtbox : h.outbox = message :: rest) :
      Step codec senderAlive h .silent { h with writer := .writing message, outbox := rest }
  | exhausted (h : Handler) (hwriter : h.writer = .receiving) (houtbox : h.outbox = [])
      (hsenders : senderAlive = false) :
      Step codec senderAlive h .silent { h with writer := .ended }
  | written (h : Handler) {message : Message} (hwriter : h.writer = .writing message) :
      Step codec senderAlive h (.wrote message) { h with writer := .receiving }
  | writeFailed (h : Handler) {message : Message} (hwriter : h.writer = .writing message) :
      Step codec senderAlive h .silent { h with writer := .ended }

/-- What the daemon sends to the connection is lost once the writer has ended. -/
def deliver (effects : List Effect) (h : Handler) : Handler :=
  { h with
    outbox := if h.writer = .ended then h.outbox else h.outbox ++ queuedFor h.connId effects }

theorem deliver_nil (h : Handler) : h.deliver [] = h := by
  simp [deliver, queuedFor]

end Handler

/-! ## The server -/

/-- The daemon and everything that runs next to it for its socket. -/
structure Server where
  daemon : Daemon
  /-- `NEXT_CONN_ID`. -/
  nextConnId : ConnId := 1
  handlers : List Handler := []
  /-- What the event loop has not taken yet. -/
  queue : List ManagerMessage := []

/-- Whose step it is, and what it does. -/
inductive ServerLabel where
  /-- A connection is accepted and its thread takes this id. -/
  | accepted (connId : ConnId)
  | thread (connId : ConnId) (act : HandlerAct)
  | daemon (label : DaemonLabel)

namespace Server

/-- A sender of the connection's outbox is alive. -/
def senderAlive (srv : Server) (h : Handler) : Bool :=
  h.reader.ownsSender
    || srv.queue.any (fun message => match message with
      | .connected connId _ _ => connId = h.connId
      | _ => false)
    || srv.daemon.registry.knows h.connId

/-- The daemon handles an event. -/
def handles (srv : Server) (env : Env) (event : DaemonEvent) : Server :=
  { srv with
    daemon := (srv.daemon.handle env event).1
    handlers := srv.handlers.map (·.deliver (srv.daemon.handle env event).2) }

/-- One step of one of the threads. -/
inductive Step (codec : Codec Request) : Server → ServerLabel → Server → Prop
  | accept (srv : Server) (peer : PeerCred) (stream : ByteReader) :
      Step codec srv (.accepted srv.nextConnId)
        { srv with
          nextConnId := wrapU64 (srv.nextConnId + 1)
          handlers :=
            srv.handlers ++ [{ connId := srv.nextConnId, peer, stream, input := stream }] }
  /-- The credentials cannot be read, or the stream not cloned: the id is spent. -/
  | reject (srv : Server) :
      Step codec srv (.accepted srv.nextConnId)
        { srv with nextConnId := wrapU64 (srv.nextConnId + 1) }
  | thread (srv : Server) {i : ℕ} {h h' : Handler} {act : HandlerAct}
      (hget : srv.handlers[i]? = some h) (hstep : h.Step codec (srv.senderAlive h) act h') :
      Step codec srv (.thread h.connId act)
        { srv with
          handlers := srv.handlers.set i h'
          queue := srv.queue ++ act.toDaemon.toList }
  | take (srv : Server) (env : Env) {message : ManagerMessage} {rest : List ManagerMessage}
      (hqueue : srv.queue = message :: rest) :
      Step codec srv
        (.daemon (.handled env (.ipc message) (srv.daemon.handle env (.ipc message)).2))
        ({ srv with queue := rest }.handles env (.ipc message))
  | idleTick (srv : Server) (env : Env) :
      Step codec srv (.daemon (.handled env .idleTick (srv.daemon.handle env .idleTick).2))
        (srv.handles env .idleTick)
  | signal (srv : Server) (env : Env) (event : Daemon.SignalEvent) :
      Step codec srv
        (.daemon (.handled env (.signal event) (srv.daemon.handle env (.signal event)).2))
        (srv.handles env (.signal event))
  | rehash (srv : Server) {d' : Daemon} (h : Daemon.Rehash srv.daemon d') :
      Step codec srv (.daemon .rehash) { srv with daemon := d' }

/-- The server as startup leaves it: no connection yet. -/
def Initial (srv : Server) : Prop :=
  ∃ d, Daemon.Initial d ∧ srv = { daemon := d }

/-! ## What the threads have said -/

/-- The message the step sends to the event loop, if it sends one. -/
def saidBy (l : ServerLabel) : Option ManagerMessage :=
  match l with
  | .thread _ act => act.toDaemon
  | _ => none

/-- The message the step hands to the daemon, if it hands one over. -/
def takenBy (l : ServerLabel) : Option ManagerMessage :=
  match l with
  | .daemon (.handled _ (.ipc message) _) => some message
  | _ => none

/-- The id the step spends, if it spends one. -/
def spentBy (l : ServerLabel) : Option ConnId :=
  match l with
  | .accepted connId => some connId
  | _ => none

/-- Everything said along a run. -/
def said (tr : List (Transition Server ServerLabel)) : List ManagerMessage :=
  tr.filterMap fun x => saidBy x.label

/-- Everything the daemon has taken along a run. -/
def taken (tr : List (Transition Server ServerLabel)) : List ManagerMessage :=
  tr.filterMap fun x => takenBy x.label

/-- The ids spent along a run. -/
def spent (tr : List (Transition Server ServerLabel)) : List ConnId :=
  tr.filterMap fun x => spentBy x.label

end Server

end MitosSession
