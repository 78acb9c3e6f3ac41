import MitosSession.Server

set_option autoImplicit false

/-! # What the daemon sees of the server

`Server.runs_system` says that the daemon of the server steps exactly as the one of `System` does:
what `System` takes for granted of connection ids and credentials is what the threads produce.
`Server.messages_in_order` says that on the way from the sockets to the daemon no message is lost,
repeated or overtaken.

Both rest on `Orderly`: what is said about a connection, by whichever interleaving, is what its own
threads say in order (`Handler.Speaks`), and the channel only delays it. -/

namespace MitosSession

/-! ## Connections as seen by the daemon -/

/-- The connection a message is about. -/
def ManagerMessage.connId : ManagerMessage → ConnId
  | .connected connId _ _ => connId
  | .command cmd => cmd.connId
  | .disconnected connId => connId

/-- What a connection can say next, and where it stands then. -/
def ConnStatus.next : ConnStatus → ManagerMessage → Option ConnStatus
  | .fresh, .connected _ peer _ => some (.open peer)
  | .open peer, .command cmd => if cmd.peer = peer then some (.open peer) else none
  | .open _, .disconnected _ => some .closed
  | _, _ => none

/-- The connections together take a message exactly if `System` does, and stand as there
    afterwards. -/
theorem System.together_next_iff {conns conns' : ConnId → ConnStatus} {message : ManagerMessage} :
    together ManagerMessage.connId ConnStatus.next conns message = some conns' ↔
      System.admits conns (.ipc message) ∧ System.track conns (.ipc message) = conns' := by
  rw [together_eq_some_iff]
  cases message with
  | connected connId peer outbox =>
      cases hstatus : conns connId <;>
        simp [ManagerMessage.connId, ConnStatus.next, System.admits, System.track, hstatus]
  | disconnected connId =>
      cases hstatus : conns connId <;>
        simp [ManagerMessage.connId, ConnStatus.next, System.admits, System.track, hstatus,
          ConnStatus.isOpen]
  | command cmd =>
      cases hstatus : conns cmd.connId with
      | «open» peer =>
          have hsame : Function.update conns cmd.connId (.open peer) = conns := by
            rw [← hstatus, Function.update_eq_self]
          by_cases hpeer : cmd.peer = peer
          · simp [ManagerMessage.connId, ConnStatus.next, System.admits, System.track, hstatus,
              hpeer, hsame]
          · simp [ManagerMessage.connId, ConnStatus.next, System.admits, System.track, hstatus,
              hpeer, Ne.symm hpeer]
      | fresh =>
          simp [ManagerMessage.connId, ConnStatus.next, System.admits, System.track, hstatus]
      | closed =>
          simp [ManagerMessage.connId, ConnStatus.next, System.admits, System.track, hstatus]

/-- What a connection says as long as it lasts. -/
def dialogue (connId : ConnId) (peer : PeerCred) (requests : List Request) :
    List ManagerMessage :=
  .connected connId peer {} :: requests.map fun request => .command { connId, peer, request }

theorem foldlM_commands (connId : ConnId) (peer : PeerCred) (requests : List Request) :
    (requests.map fun request => ManagerMessage.command { connId, peer, request }).foldlM
      ConnStatus.next (.open peer) = some (.open peer) := by
  induction requests with
  | nil => rfl
  | cons request rest ih =>
      rw [List.map_cons, List.foldlM_cons]
      simpa [ConnStatus.next] using ih

/-- A connection may say that, and then hang up. -/
theorem foldlM_dialogue (connId : ConnId) (peer : PeerCred) (requests : List Request) :
    (dialogue connId peer requests).foldlM ConnStatus.next .fresh = some (.open peer) :=
  foldlM_commands connId peer requests

theorem foldlM_dialogue_disconnected (connId : ConnId) (peer : PeerCred)
    (requests : List Request) :
    (dialogue connId peer requests ++ [ManagerMessage.disconnected connId]).foldlM
      ConnStatus.next .fresh = some .closed :=
  foldlM_append_some.2 ⟨_, foldlM_dialogue connId peer requests, rfl⟩

theorem connId_of_mem_dialogue {connId : ConnId} {peer : PeerCred} {requests : List Request}
    {message : ManagerMessage} (h : message ∈ dialogue connId peer requests) :
    message.connId = connId := by
  rcases List.mem_cons.1 h with rfl | h
  · rfl
  · obtain ⟨request, -, rfl⟩ := List.mem_map.1 h
    rfl

namespace Handler

/-- What the threads of a connection have said by now, if its requests were these. -/
def said (h : Handler) (requests : List Request) : List ManagerMessage :=
  match h.reader with
  | .announcing => []
  | .done => dialogue h.connId h.peer requests ++ [.disconnected h.connId]
  | _ => dialogue h.connId h.peer requests

/-- The connection has said its part so far: the requests it read, of those it can read. -/
structure Speaks (codec : Codec Request) (h : Handler) (requests : List Request)
    (messages : List ManagerMessage) : Prop where
  said : messages = h.said requests
  announcing : h.reader = .announcing → requests = []
  reading : h.reader.left = false → requests ++ readable codec h.input = readable codec h.stream
  left : h.reader.left = true → requests = readable codec h.stream

variable {codec : Codec Request} {h h' : Handler} {act : HandlerAct} {senderAlive : Bool}
  {requests : List Request} {messages : List ManagerMessage}

/-- The connection is the same, and says only what concerns it. -/
theorem Step.frame (hstep : Step codec senderAlive h act h') :
    h'.connId = h.connId ∧ h'.peer = h.peer ∧ h'.stream = h.stream
      ∧ ∀ message, act.toDaemon = some message → message.connId = h.connId := by
  cases hstep <;> simp [HandlerAct.toDaemon, ManagerMessage.connId]

/-- A step that says nothing, and leaves alone what the connection has still to read. -/
theorem Speaks.silent (hspeaks : Speaks codec h requests messages) (hsaid : h'.said = h.said)
    (hstream : h'.stream = h.stream) (hinput : h'.input = h.input)
    (hreader : h'.reader = .announcing → h.reader = .announcing)
    (hleft : h'.reader.left = h.reader.left) : Speaks codec h' requests messages where
  said := by rw [hspeaks.said, hsaid]
  announcing hannouncing := hspeaks.announcing (hreader hannouncing)
  reading hno := by
    rw [hinput, hstream]
    exact hspeaks.reading (hleft ▸ hno)
  left hyes := by
    rw [hstream]
    exact hspeaks.left (hleft ▸ hyes)

/-- One step: what was said before, and what the step says. -/
theorem Step.speaks (hstep : Step codec senderAlive h act h')
    (hspeaks : Speaks codec h requests messages) :
    ∃ requests', Speaks codec h' requests' (messages ++ act.toDaemon.toList) := by
  cases hstep with
  | announce hreader =>
      refine ⟨requests, ?_, Reader.noConfusion, fun _ => hspeaks.reading (by rw [hreader]; rfl),
        fun hleft => Bool.noConfusion hleft⟩
      rw [hspeaks.said, hspeaks.announcing hreader]
      simp [said, hreader, HandlerAct.toDaemon, dialogue]
  | spawn hreader =>
      refine ⟨requests, ?_⟩
      rw [show HandlerAct.silent.toDaemon.toList = [] from rfl, List.append_nil]
      exact hspeaks.silent (by funext; simp [said, hreader]) rfl rfl Reader.noConfusion
        (by rw [hreader]; rfl)
  | @request request input hreader hread =>
      have hunread := hspeaks.reading (by rw [hreader]; rfl)
      rw [readable_of_ok hread] at hunread
      refine ⟨requests ++ [request], ?_, ?_, fun _ => ?_, ?_⟩
      · rw [hspeaks.said]
        simp [said, hreader, HandlerAct.toDaemon, dialogue]
      · simp [hreader]
      · rw [List.append_assoc]
        exact hunread
      · simp [hreader, Reader.left]
  | hangUp hreader hread =>
      have hunread := hspeaks.reading (by rw [hreader]; rfl)
      rw [readable_of_error hread, List.append_nil] at hunread
      refine ⟨requests, ?_, Reader.noConfusion, fun hno => Bool.noConfusion hno, fun _ => hunread⟩
      rw [hspeaks.said]
      simp [said, hreader, HandlerAct.toDaemon]
  | dropSender hreader =>
      refine ⟨requests, ?_⟩
      rw [show HandlerAct.silent.toDaemon.toList = [] from rfl, List.append_nil]
      exact hspeaks.silent (by funext; simp [said, hreader]) rfl rfl Reader.noConfusion
        (by rw [hreader]; rfl)
  | join hreader hwriter =>
      refine ⟨requests, ?_⟩
      rw [show HandlerAct.silent.toDaemon.toList = [] from rfl, List.append_nil]
      exact hspeaks.silent (by funext; simp [said, hreader]) rfl rfl Reader.noConfusion
        (by rw [hreader]; rfl)
  | report hreader =>
      refine ⟨requests, ?_, Reader.noConfusion, fun hno => Bool.noConfusion hno, fun _ => ?_⟩
      · rw [hspeaks.said]
        simp [said, hreader, HandlerAct.toDaemon]
      · exact hspeaks.left (by rw [hreader]; rfl)
  | receive hwriter houtbox =>
      exact ⟨requests, by rw [hspeaks.said]; exact List.append_nil _, hspeaks.announcing,
        hspeaks.reading, hspeaks.left⟩
  | exhausted hwriter houtbox hsenders =>
      exact ⟨requests, by rw [hspeaks.said]; exact List.append_nil _, hspeaks.announcing,
        hspeaks.reading, hspeaks.left⟩
  | written hwriter =>
      exact ⟨requests, by rw [hspeaks.said]; exact List.append_nil _, hspeaks.announcing,
        hspeaks.reading, hspeaks.left⟩
  | writeFailed hwriter =>
      exact ⟨requests, by rw [hspeaks.said]; exact List.append_nil _, hspeaks.announcing,
        hspeaks.reading, hspeaks.left⟩

end Handler

namespace Server

variable {codec : Codec Request} {srv₀ srv srv' : Server}
  {tr : List (Transition Server ServerLabel)} {l : ServerLabel}

/-! ## Connection ids -/

/-- The ids are handed out in a row, around the end of the counter. -/
theorem spent_eq (hinit : Initial srv₀) (hrun : Run (Step codec) srv₀ tr srv) :
    spent tr = (List.range (spent tr).length).map (fun k => wrapU64 (k + 1))
      ∧ srv.nextConnId = wrapU64 ((spent tr).length + 1) := by
  refine hrun.history
    (P := fun tr srv => spent tr = (List.range (spent tr).length).map (fun k => wrapU64 (k + 1))
      ∧ srv.nextConnId = wrapU64 ((spent tr).length + 1)) ?_ ?_
  · obtain ⟨d, -, rfl⟩ := hinit
    exact ⟨rfl, rfl⟩
  · rintro tr srv l srv' - ⟨hspent, hnext⟩ hstep
    have hwrap : wrapU64 (srv.nextConnId + 1) = wrapU64 ((spent tr).length + 1 + 1) := by
      rw [hnext]
      unfold wrapU64 u64Size
      omega
    have hsnoc : ∀ x : Transition Server ServerLabel, spent (tr ++ [x])
        = spent tr ++ (spentBy x.label).toList := by
      intro x
      cases hx : spentBy x.label <;> simp [spent, List.filterMap_append, hx]
    rw [hsnoc]
    cases hstep with
    | accept peer stream =>
        simp only [spentBy, Option.toList_some, List.length_append, List.length_singleton,
          List.range_succ, List.map_append, List.map_singleton]
        exact ⟨by rw [← hspent, hnext], hwrap⟩
    | reject =>
        simp only [spentBy, Option.toList_some, List.length_append, List.length_singleton,
          List.range_succ, List.map_append, List.map_singleton]
        exact ⟨by rw [← hspent, hnext], hwrap⟩
    | thread hget hstep => simpa [spentBy] using ⟨hspent, hnext⟩
    | take env hqueue => simpa [spentBy] using ⟨hspent, hnext⟩
    | idleTick env => simpa [spentBy] using ⟨hspent, hnext⟩
    | signal env event => simpa [spentBy] using ⟨hspent, hnext⟩
    | rehash hr => simpa [spentBy] using ⟨hspent, hnext⟩

/-- As long as the counter has not come around, the next id is new. -/
theorem next_notMem_spent (hinit : Initial srv₀) (hrun : Run (Step codec) srv₀ tr srv)
    (hids : (spent tr).length < u64Size) : srv.nextConnId ∉ spent tr := by
  obtain ⟨hspent, hnext⟩ := spent_eq hinit hrun
  rw [hspent, hnext, List.mem_map]
  rintro ⟨k, hk, heq⟩
  rw [List.mem_range] at hk
  have hmod : (k + 1) % u64Size = ((spent tr).length + 1) % u64Size := heq
  unfold u64Size at hids hmod
  omega

/-! ## Every connection says its part -/

/-- What is so of the connections after a history that has not run out of ids. -/
structure Orderly (codec : Codec Request) (tr : List (Transition Server ServerLabel))
    (srv : Server) : Prop where
  queue : said tr = taken tr ++ srv.queue
  ids : (srv.handlers.map Handler.connId).Nodup
  known : ∀ h ∈ srv.handlers, h.connId ∈ spent tr
  speaks : ∀ h ∈ srv.handlers, ∃ requests,
    h.Speaks codec requests (lettersOf ManagerMessage.connId h.connId (said tr))
  strangers : ∀ c, c ∉ srv.handlers.map Handler.connId →
    lettersOf ManagerMessage.connId c (said tr) = []

theorem said_snoc (x : Transition Server ServerLabel) :
    said (tr ++ [x]) = said tr ++ (saidBy x.label).toList := by
  cases hx : saidBy x.label <;> simp [said, List.filterMap_append, hx]

theorem taken_snoc (x : Transition Server ServerLabel) :
    taken (tr ++ [x]) = taken tr ++ (takenBy x.label).toList := by
  cases hx : takenBy x.label <;> simp [taken, List.filterMap_append, hx]

theorem spent_snoc (x : Transition Server ServerLabel) :
    spent (tr ++ [x]) = spent tr ++ (spentBy x.label).toList := by
  cases hx : spentBy x.label <;> simp [spent, List.filterMap_append, hx]

/-- A step that says nothing and spends no id keeps what is said of the connections, whatever it
    puts into their outboxes. -/
theorem Orderly.deliver {x : Transition Server ServerLabel} {effects : List Effect}
    {queue : List ManagerMessage} {daemon : Daemon} (h : Orderly codec tr srv)
    (hsaid : saidBy x.label = none) (hspent : spentBy x.label = none)
    (hqueue : (takenBy x.label).toList ++ queue = srv.queue) :
    Orderly codec (tr ++ [x])
      { srv with daemon, queue, handlers := srv.handlers.map (·.deliver effects) } := by
  have hsame : said (tr ++ [x]) = said tr := by
    rw [said_snoc, hsaid]
    exact List.append_nil _
  have hids : (srv.handlers.map (·.deliver effects)).map Handler.connId
      = srv.handlers.map Handler.connId := by
    rw [List.map_map]
    rfl
  constructor
  · rw [hsame, h.queue, taken_snoc, List.append_assoc, hqueue]
  · rw [hids]
    exact h.ids
  · intro g hg
    obtain ⟨g', hg', rfl⟩ := List.mem_map.1 hg
    rw [spent_snoc, hspent]
    exact List.mem_append_left _ (h.known g' hg')
  · intro g hg
    obtain ⟨g', hg', rfl⟩ := List.mem_map.1 hg
    obtain ⟨requests, hspeaks⟩ := h.speaks g' hg'
    rw [hsame]
    exact ⟨requests, hspeaks.said, hspeaks.announcing, hspeaks.reading, hspeaks.left⟩
  · intro c hc
    rw [hids] at hc
    rw [hsame]
    exact h.strangers c hc

/-- A step of a connection's threads: it says its next word, and the others stay where they are. -/
theorem Orderly.thread {i : ℕ} {g g' : Handler} {act : HandlerAct} {senderAlive : Bool}
    {post : Server} (h : Orderly codec tr srv) (hget : srv.handlers[i]? = some g)
    (hstep : g.Step codec senderAlive act g') :
    Orderly codec (tr ++ [⟨srv, .thread g.connId act, post⟩])
      { srv with
        handlers := srv.handlers.set i g'
        queue := srv.queue ++ act.toDaemon.toList } := by
  obtain ⟨hconnId, -, -, habout⟩ := hstep.frame
  have hsame : said (tr ++ [⟨srv, .thread g.connId act, post⟩])
      = said tr ++ act.toDaemon.toList := said_snoc _
  have hids : (srv.handlers.set i g').map Handler.connId = srv.handlers.map Handler.connId :=
    map_set_eq_self hget hconnId
  -- what the step says is about its own connection only
  have hown : lettersOf ManagerMessage.connId g.connId act.toDaemon.toList
      = act.toDaemon.toList := by
    refine List.filter_eq_self.2 fun message hmem => decide_eq_true ?_
    exact habout message (Option.mem_toList.1 hmem)
  have hother : ∀ c, c ≠ g.connId →
      lettersOf ManagerMessage.connId c act.toDaemon.toList = [] := by
    intro c hc
    refine List.filter_eq_nil_iff.2 fun message hmem => ?_
    rw [decide_eq_true_eq, habout message (Option.mem_toList.1 hmem)]
    exact Ne.symm hc
  constructor
  · rw [hsame, h.queue, taken_snoc, List.append_assoc, List.append_assoc]
    rfl
  · rw [hids]
    exact h.ids
  · intro k hk
    rw [spent_snoc]
    refine List.mem_append_left _ ?_
    rcases mem_set_of_nodup h.ids hget hk with rfl | ⟨hmem, -⟩
    · rw [hconnId]
      exact h.known g (List.mem_of_getElem? hget)
    · exact h.known k hmem
  · intro k hk
    rw [hsame, lettersOf_append]
    rcases mem_set_of_nodup h.ids hget hk with rfl | ⟨hmem, hne⟩
    · obtain ⟨requests, hspeaks⟩ := h.speaks g (List.mem_of_getElem? hget)
      rw [hconnId, hown]
      exact hstep.speaks hspeaks
    · rw [hother _ hne, List.append_nil]
      exact h.speaks k hmem
  · intro c hc
    rw [hids] at hc
    have hne : c ≠ g.connId := by
      rintro rfl
      exact hc (List.mem_map_of_mem (List.mem_of_getElem? hget))
    rw [hsame, lettersOf_append, hother c hne, List.append_nil]
    exact h.strangers c hc

/-- A connection that has just got its id has said nothing. -/
theorem Orderly.accept {x : Transition Server ServerLabel} {peer : PeerCred} {stream : ByteReader}
    {nextConnId : ConnId} (h : Orderly codec tr srv) (hnew : srv.nextConnId ∉ spent tr)
    (hx : x.label = .accepted srv.nextConnId) :
    Orderly codec (tr ++ [x])
      { srv with
        nextConnId
        handlers :=
          srv.handlers ++ [{ connId := srv.nextConnId, peer, stream, input := stream }] } := by
  have hsame : said (tr ++ [x]) = said tr := by
    rw [said_snoc, hx]
    exact List.append_nil _
  have hspent : spent (tr ++ [x]) = spent tr ++ [srv.nextConnId] := by
    rw [spent_snoc, hx]
    rfl
  have hnone : srv.nextConnId ∉ srv.handlers.map Handler.connId := by
    intro hmem
    obtain ⟨g, hg, heq⟩ := List.mem_map.1 hmem
    exact hnew (heq ▸ h.known g hg)
  constructor
  · rw [hsame, h.queue, taken_snoc, hx]
    exact congrArg (· ++ srv.queue) (List.append_nil _).symm
  · simp only [List.map_append, List.map_singleton]
    exact List.nodup_append.2 ⟨h.ids, List.nodup_singleton _, by
      rintro a ha b hb rfl
      exact hnone (List.mem_singleton.1 hb ▸ ha)⟩
  · intro g hg
    rw [hspent]
    rcases List.mem_append.1 hg with hold | hnewest
    · exact List.mem_append_left _ (h.known g hold)
    · obtain rfl := List.mem_singleton.1 hnewest
      exact List.mem_append_right _ (List.mem_singleton_self _)
  · intro g hg
    rw [hsame]
    rcases List.mem_append.1 hg with hold | hnewest
    · exact h.speaks g hold
    · obtain rfl := List.mem_singleton.1 hnewest
      refine ⟨[], ?_, fun _ => rfl, fun _ => rfl, fun hleft => Bool.noConfusion hleft⟩
      exact h.strangers _ hnone
  · intro c hc
    rw [hsame]
    refine h.strangers c fun hmem => hc ?_
    rw [List.map_append]
    exact List.mem_append_left _ hmem

/-- A spent id that went to no connection. -/
theorem Orderly.reject {x : Transition Server ServerLabel} {nextConnId : ConnId}
    (h : Orderly codec tr srv) (hx : x.label = .accepted srv.nextConnId) :
    Orderly codec (tr ++ [x]) { srv with nextConnId } := by
  have hsame : said (tr ++ [x]) = said tr := by
    rw [said_snoc, hx]
    exact List.append_nil _
  constructor
  · rw [hsame, h.queue, taken_snoc, hx]
    exact congrArg (· ++ srv.queue) (List.append_nil _).symm
  · exact h.ids
  · intro g hg
    rw [spent_snoc]
    exact List.mem_append_left _ (h.known g hg)
  · rw [hsame]
    exact h.speaks
  · rw [hsame]
    exact h.strangers

theorem orderly (hinit : Initial srv₀) (hrun : Run (Step codec) srv₀ tr srv)
    (hids : (spent tr).length ≤ u64Size) : Orderly codec tr srv := by
  refine hrun.history
    (P := fun tr srv => (spent tr).length ≤ u64Size → Orderly codec tr srv) ?_ ?_ hids
  · rintro -
    obtain ⟨d, -, rfl⟩ := hinit
    constructor <;> simp [said, taken, lettersOf]
  · intro tr srv l srv' hrun ih hstep hids
    have hle : (spent tr).length ≤ u64Size := by
      rw [spent_snoc, List.length_append] at hids
      exact (Nat.le_add_right _ _).trans hids
    have h := ih hle
    cases hstep with
    | accept peer stream =>
        rw [spent_snoc, List.length_append] at hids
        have hlt : (spent tr).length < u64Size := hids
        exact h.accept (next_notMem_spent hinit hrun hlt) rfl
    | reject => exact h.reject rfl
    | thread hget hstep => exact h.thread hget hstep
    | take env hqueue => exact h.deliver rfl rfl hqueue.symm
    | idleTick env => exact h.deliver rfl rfl rfl
    | signal env event => exact h.deliver rfl rfl rfl
    | rehash hr =>
        have hsame : srv.handlers.map (·.deliver []) = srv.handlers := by
          simp only [Handler.deliver_nil, List.map_id']
        rw [← hsame]
        exact h.deliver rfl rfl rfl

/-! ## The daemon of the server is the daemon of the system -/

/-- What is said along a run can be said by connections that start afresh. -/
theorem Orderly.admissible (h : Orderly codec tr srv) : ∃ conns,
    (said tr).foldlM (together ManagerMessage.connId ConnStatus.next) (fun _ => .fresh)
      = some conns := by
  have hall : ∀ c, ∃ status,
      (lettersOf ManagerMessage.connId c (said tr)).foldlM ConnStatus.next .fresh
        = some status := by
    intro c
    by_cases hc : c ∈ srv.handlers.map Handler.connId
    · obtain ⟨g, hg, rfl⟩ := List.mem_map.1 hc
      obtain ⟨requests, hspeaks⟩ := h.speaks g hg
      rw [hspeaks.said]
      unfold Handler.said
      split
      · exact ⟨_, rfl⟩
      · exact ⟨_, foldlM_dialogue_disconnected _ _ _⟩
      · exact ⟨_, foldlM_dialogue _ _ _⟩
    · rw [h.strangers c hc]
      exact ⟨_, rfl⟩
  choose conns hconns using hall
  exact ⟨conns, foldlM_together_iff.2 hconns⟩

/-- The transition of the daemon in a step of the server, if the daemon steps. -/
def daemonStep (x : Transition Server ServerLabel) : Option (Transition Daemon DaemonLabel) :=
  match x.label with
  | .daemon label => some ⟨x.pre.daemon, label, x.post.daemon⟩
  | _ => none

/-- What the event loop takes next, the connections can say after all it has taken. -/
theorem Orderly.admits {conns : ConnId → ConnStatus} {message : ManagerMessage}
    {rest : List ManagerMessage} (h : Orderly codec tr srv) (hqueue : srv.queue = message :: rest)
    (hconns : (taken tr).foldlM (together ManagerMessage.connId ConnStatus.next) (fun _ => .fresh)
      = some conns) :
    System.admits conns (.ipc message)
      ∧ together ManagerMessage.connId ConnStatus.next conns message
        = some (System.track conns (.ipc message)) := by
  obtain ⟨last, hlast⟩ := h.admissible
  rw [h.queue, hqueue] at hlast
  obtain ⟨mid, hmid, hrest⟩ := foldlM_append_some.1 hlast
  obtain rfl := Option.some.inj (hconns.symm.trans hmid)
  rw [List.foldlM_cons] at hrest
  obtain ⟨conns', hnext, -⟩ := Option.bind_eq_some_iff.1 hrest
  obtain ⟨hadmits, rfl⟩ := System.together_next_iff.1 hnext
  exact ⟨hadmits, hnext⟩

/-- What a run of the server and the run of the system it is have in common. -/
structure Follows (srv₀ : Server) (tr : List (Transition Server ServerLabel)) (srv : Server)
    (trace : List (Transition System DaemonLabel)) (conns : ConnId → ConnStatus) : Prop where
  run : Run System.Step { daemon := srv₀.daemon, conns := fun _ => .fresh } trace
    { daemon := srv.daemon, conns }
  conns : (taken tr).foldlM (together ManagerMessage.connId ConnStatus.next) (fun _ => .fresh)
    = some conns
  steps : trace.map System.toDaemon = tr.filterMap daemonStep

/-- A step the daemon has no part in. -/
theorem Follows.beside {trace : List (Transition System DaemonLabel)}
    {conns : ConnId → ConnStatus} {x : Transition Server ServerLabel}
    (h : Follows srv₀ tr srv trace conns) (htaken : takenBy x.label = none)
    (hstep : daemonStep x = none) (hdaemon : srv'.daemon = srv.daemon) :
    Follows srv₀ (tr ++ [x]) srv' trace conns where
  run := by
    rw [hdaemon]
    exact h.run
  conns := by
    rw [taken_snoc, htaken, Option.toList_none, List.append_nil]
    exact h.conns
  steps := by
    rw [h.steps, List.filterMap_append, List.filterMap_cons_none hstep, List.filterMap_nil,
      List.append_nil]

/-- A step of the daemon. -/
theorem Follows.daemon {trace : List (Transition System DaemonLabel)}
    {conns conns' : ConnId → ConnStatus} {label : DaemonLabel}
    (h : Follows srv₀ tr srv trace conns)
    (hconns : (takenBy (.daemon label)).toList.foldlM
      (together ManagerMessage.connId ConnStatus.next) conns = some conns')
    (hstep : System.Step { daemon := srv.daemon, conns } label
      { daemon := srv'.daemon, conns := conns' }) :
    Follows srv₀ (tr ++ [⟨srv, .daemon label, srv'⟩]) srv'
      (trace ++ [⟨{ daemon := srv.daemon, conns }, label,
        { daemon := srv'.daemon, conns := conns' }⟩]) conns' where
  run := h.run.snoc hstep
  conns := by
    rw [taken_snoc]
    exact foldlM_append_some.2 ⟨conns, h.conns, hconns⟩
  steps := by
    rw [List.map_append, h.steps, List.filterMap_append]
    rfl

theorem exists_follows (hinit : Initial srv₀) (hrun : Run (Step codec) srv₀ tr srv)
    (hids : (spent tr).length ≤ u64Size) : ∃ trace conns, Follows srv₀ tr srv trace conns := by
  refine hrun.history
    (P := fun tr srv =>
      (spent tr).length ≤ u64Size → ∃ trace conns, Follows srv₀ tr srv trace conns)
    ?_ ?_ hids
  · rintro -
    exact ⟨[], _, Run.nil, rfl, rfl⟩
  · intro tr srv l srv' hrun ih hstep hids
    have hle : (spent tr).length ≤ u64Size := by
      rw [spent_snoc, List.length_append] at hids
      exact (Nat.le_add_right _ _).trans hids
    obtain ⟨trace, conns, h⟩ := ih hle
    cases hstep with
    | accept peer stream => exact ⟨trace, conns, h.beside rfl rfl rfl⟩
    | reject => exact ⟨trace, conns, h.beside rfl rfl rfl⟩
    | thread hget hstep => exact ⟨trace, conns, h.beside rfl rfl rfl⟩
    | @take env message rest hqueue =>
        obtain ⟨hadmits, hnext⟩ := (orderly hinit hrun hle).admits hqueue h.conns
        refine ⟨_, _, h.daemon ?_ (System.Step.handled _ env (.ipc message) hadmits)⟩
        simpa only [takenBy, Option.toList_some, List.foldlM_cons, List.foldlM_nil, bind_pure]
          using hnext
    | idleTick env =>
        exact ⟨_, _, h.daemon rfl (System.Step.handled _ env .idleTick trivial)⟩
    | signal env event =>
        exact ⟨_, _, h.daemon rfl (System.Step.handled _ env (.signal event) trivial)⟩
    | rehash hr => exact ⟨_, _, h.daemon rfl (System.Step.rehash _ hr)⟩

/-- **The server is the system.** However the accept loop, the threads of the connections and the
    event loop interleave, as long as no connection id is handed out twice: what the daemon does
    along the run is what it does along a run of `System`, step by step. -/
theorem runs_system (hinit : Initial srv₀) (hrun : Run (Step codec) srv₀ tr srv)
    (hids : (spent tr).length ≤ u64Size) :
    ∃ sys₀ trace sys, System.Initial sys₀ ∧ Run System.Step sys₀ trace sys
      ∧ sys₀.daemon = srv₀.daemon ∧ sys.daemon = srv.daemon
      ∧ trace.map System.toDaemon = tr.filterMap daemonStep := by
  obtain ⟨trace, conns, h⟩ := exists_follows hinit hrun hids
  obtain ⟨d, hd, rfl⟩ := hinit
  exact ⟨_, trace, _, ⟨hd, rfl⟩, h.run, rfl, rfl, h.steps⟩

/-! ## Nothing is lost, repeated or overtaken on the way to the daemon -/

/-- What a connection has said is the beginning of what it says in all, which is all of it once it
    has hung up. -/
theorem said_begins {h : Handler} {requests : List Request} {messages : List ManagerMessage}
    (hspeaks : h.Speaks codec requests messages) :
    messages <+: dialogue h.connId h.peer (readable codec h.stream) ++ [.disconnected h.connId]
      ∧ (h.reader = .done → messages
        = dialogue h.connId h.peer (readable codec h.stream) ++ [.disconnected h.connId]) := by
  have hrequests : requests <+: readable codec h.stream := by
    cases hleft : h.reader.left with
    | true => rw [hspeaks.left hleft]
    | false => exact ⟨_, hspeaks.reading hleft⟩
  have hdialogue : dialogue h.connId h.peer requests
      <+: dialogue h.connId h.peer (readable codec h.stream) :=
    List.cons_prefix_cons.2 ⟨rfl, hrequests.map _⟩
  have hdone : h.reader = .done → messages
      = dialogue h.connId h.peer (readable codec h.stream) ++ [.disconnected h.connId] := by
    intro hreader
    rw [hspeaks.said, hspeaks.left (by rw [hreader]; rfl)]
    simp only [Handler.said, hreader]
  refine ⟨?_, hdone⟩
  by_cases hreader : h.reader = .done
  · rw [hdone hreader]
  · rw [hspeaks.said]
    unfold Handler.said
    split
    · exact List.nil_prefix
    · rename_i hreader'
      exact absurd hreader' hreader
    · exact hdialogue.trans (List.prefix_append _ _)

/-- **Nothing is lost, repeated or overtaken on the way to the daemon.** Whatever the daemon has
    taken comes from a connection that was accepted; and of every connection it has taken, in
    order, a beginning of: the announcement, one command for each request its peer sends before
    the first that cannot be read, and the end of the connection. Once the reader is done and
    nothing of the connection is in the channel, it has taken all of that. -/
theorem messages_in_order (hinit : Initial srv₀) (hrun : Run (Step codec) srv₀ tr srv)
    (hids : (spent tr).length ≤ u64Size) :
    (∀ message ∈ taken tr, ∃ h ∈ srv.handlers, message.connId = h.connId)
      ∧ ∀ h ∈ srv.handlers,
        lettersOf ManagerMessage.connId h.connId (taken tr)
            <+: dialogue h.connId h.peer (readable codec h.stream) ++ [.disconnected h.connId]
          ∧ (h.reader = .done → (∀ message ∈ srv.queue, message.connId ≠ h.connId) →
            lettersOf ManagerMessage.connId h.connId (taken tr)
              = dialogue h.connId h.peer (readable codec h.stream)
                ++ [.disconnected h.connId]) := by
  have horderly := orderly hinit hrun hids
  constructor
  · intro message hmem
    by_contra hno
    have hnone := horderly.strangers message.connId fun hin => by
      obtain ⟨h, hh, heq⟩ := List.mem_map.1 hin
      exact hno ⟨h, hh, heq.symm⟩
    rw [horderly.queue, lettersOf_append, List.append_eq_nil_iff] at hnone
    have hmem' : message ∈ lettersOf ManagerMessage.connId message.connId (taken tr) :=
      List.mem_filter.2 ⟨hmem, by simp⟩
    rw [hnone.1] at hmem'
    cases hmem'
  · intro h hh
    obtain ⟨requests, hspeaks⟩ := horderly.speaks h hh
    obtain ⟨hbegins, hdone⟩ := said_begins hspeaks
    rw [horderly.queue, lettersOf_append] at hbegins hdone
    refine ⟨(List.prefix_append _ _).trans hbegins, fun hreader hqueue => ?_⟩
    have hnone : lettersOf ManagerMessage.connId h.connId srv.queue = [] :=
      List.filter_eq_nil_iff.2 fun message hmem => by simpa using hqueue message hmem
    rw [hnone, List.append_nil] at hdone
    exact hdone hreader

section Example

/-- A process of Alice. -/
def visitor : PeerCred := { uid := 1000, gid := 1000, pid := 1 }

/-- A connection is accepted whose peer reports activity: the daemon takes its announcement and
    the report, and answers. -/
theorem visit :
    ∃ stream srv tr, readable Codec.reportActivity stream = [.reportActivity "seat0"]
      ∧ Writes Sink.buffer Codec.reportActivity [] [.reportActivity "seat0"] stream.bytes
      ∧ Run (Step Codec.reportActivity) { daemon := Daemon.demo } tr srv
      ∧ spent tr = [1] ∧ taken tr = dialogue 1 visitor [.reportActivity "seat0"] ∧ srv.queue = []
      ∧ (∀ x ∈ tr, ∀ c message, x.label ≠ .thread c (.wrote message))
      ∧ srv.handlers = [{ connId := 1, peer := visitor, stream, input := ⟨[], none⟩
                          reader := .reading, writer := .receiving, outbox := [.response .ok] }]
      ∧ srv.daemon = ((Daemon.demo.handle (demoEnv 0) (.ipc (.connected 1 visitor {}))).1.handle
        (demoEnv 0) (.ipc (.command
          { connId := 1, peer := visitor, request := .reportActivity "seat0" }))).1 := by
  have hsize : "seat0".utf8ByteSize = 5 := by decide
  obtain ⟨payload, hserialize, hlen⟩ := @serialize_reportActivity "seat0" (by rw [hsize]; decide)
  have hread : readMessage Codec.reportActivity ⟨frame payload ++ [], none⟩
      = (.ok (.reportActivity "seat0"), ⟨[], none⟩) :=
    readMessage_frame Codec.reportActivity_lawful hserialize (by rw [hlen, hsize]; decide)
  have hwrites : Writes Sink.buffer Codec.reportActivity [] [.reportActivity "seat0"]
      (frame payload ++ []) := by
    rw [List.append_nil]
    exact writes_buffer hserialize (by rw [hlen, hsize]; decide)
  have haccepted : Run (Step Codec.reportActivity) { daemon := Daemon.demo } _ _ :=
    Run.single (Step.accept _ visitor ⟨frame payload ++ [], none⟩)
  have hannounced := haccepted.snoc (Step.thread _ (i := 0) rfl (Handler.Step.announce _ rfl))
  have hconnected := hannounced.snoc (Step.take _ (demoEnv 0) rfl)
  have hspawned := hconnected.snoc (Step.thread _ (i := 0) rfl (Handler.Step.spawn _ rfl))
  have hread' := hspawned.snoc (Step.thread _ (i := 0) rfl (Handler.Step.request _ rfl hread))
  have htaken := hread'.snoc (Step.take _ (demoEnv 0) rfl)
  refine ⟨⟨frame payload ++ [], none⟩, _, _, ?_, hwrites, htaken, rfl, rfl, rfl, ?_, rfl, rfl⟩
  · rw [readable_of_ok hread]
    rfl
  · simp

theorem visit_runs_system :
    ∃ sys₀ trace sys, System.Initial sys₀ ∧ Run System.Step sys₀ trace sys
      ∧ sys₀.daemon = Daemon.demo
      ∧ sys.daemon = ((Daemon.demo.handle (demoEnv 0) (.ipc (.connected 1 visitor {}))).1.handle
        (demoEnv 0) (.ipc (.command
          { connId := 1, peer := visitor, request := .reportActivity "seat0" }))).1 := by
  obtain ⟨stream, srv, tr, -, -, hrun, hspent, -, -, -, -, hdaemon⟩ := visit
  obtain ⟨sys₀, trace, sys, hinit, hrun', hfirst, hlast, -⟩ :=
    runs_system ⟨Daemon.demo, Daemon.demo_initial, rfl⟩ hrun (by rw [hspent]; decide)
  exact ⟨sys₀, trace, sys, hinit, hrun', hfirst, hlast.trans hdaemon⟩

theorem visit_in_order :
    ∃ tr : List (Transition Server ServerLabel),
      taken tr = dialogue 1 visitor [.reportActivity "seat0"]
        ∧ lettersOf ManagerMessage.connId 1 (taken tr)
          <+: dialogue 1 visitor [.reportActivity "seat0"] ++ [.disconnected 1] := by
  obtain ⟨stream, srv, tr, hreadable, -, hrun, hspent, htaken, -, -, hhandlers, -⟩ := visit
  obtain ⟨-, hall⟩ :=
    messages_in_order ⟨Daemon.demo, Daemon.demo_initial, rfl⟩ hrun (by rw [hspent]; decide)
  have hbegins := (hall _ (by rw [hhandlers]; exact List.mem_singleton_self _)).1
  rw [hreadable] at hbegins
  exact ⟨tr, htaken, hbegins⟩

end Example

end Server

end MitosSession
