import Http2Rtsp.Server.Answers
import Http2Rtsp.Server.Descriptors
import Http2Rtsp.Server.Threads

/-!
# The record of the client

There is one `Client` for all connections. `step_client` lists what a step may
do to it: a connection and its end change two fields, a SETUP stores sockets,
and only the TEARDOWN block resets it.
-/

namespace Http2Rtsp.Server

open Http2Rtsp.Std Http2Rtsp.Message Http2Rtsp.Semantics

/-- The descriptors the TEARDOWN block closes, in order. -/
def teardownCloses (i : Int) (client : Client) : List Int := i :: clientSockets client

/-- The block closes these. -/
theorem tearDown_kernel (variant : Variant) (s : ServerState) (i : Int) (io : RtspIo)
    (thread tinfo : Nat) :
    (s.tearDown variant i io thread tinfo).1.kernel =
      ((teardownCloses i s.streamclient).foldl ServerState.close s).kernel :=
  rfl

/-- What is closed is closed, and the rest is as it was. -/
theorem foldl_close_kernel (s : ServerState) (fds : List Int) (fd : Int) :
    (fds.foldl ServerState.close s).kernel fd = if fd ∈ fds then none else s.kernel fd := by
  induction fds generalizing s with
  | nil => simp
  | cons first rest ih =>
      rw [List.foldl_cons, ih]
      by_cases same : fd = first
      · simp [same, ServerState.close]
      · simp [same, ServerState.close]

/-- What a step does to the record of the client, and says. -/
inductive ClientEffect (variant : Variant) (s : ServerState) (input : Input) (after : ServerState) :
    List Output → Prop where
  | silent (same : after.streamclient = s.streamclient) : ClientEffect variant s input after []
  | connected {fd} (running : s.Running) (free : s.streamclient.state = .noclient)
      (client : after.streamclient =
        { s.streamclient with rtspfd := fd, state := .cliconnected }) :
      ClientEffect variant s input after [.connected fd]
  /-- The connection is closed, and no TEARDOWN block ends behind it. -/
  | closed {i rest io} (received : input = .rtsp io) (pc : s.pc = .dispatch (i :: rest))
      (opened : s.kernel i ≠ none) (empty : io.received = [])
      (client : after.streamclient = { s.streamclient with state := .noclient })
      (untorn : s.rtspmsg.type ≠ .teardown ∨ ∃ reason, after.pc = .halted reason) :
      ClientEffect variant s input after [.disconnected i]
  | options {i cseq reply} (state : s.streamclient.state = .cliconnected)
      (client : after.streamclient = { s.streamclient with cseq := cseq }) :
      ClientEffect variant s input after [.acted i .options, .reply i reply]
  | described {i cseq reply} (state : s.streamclient.state = .cliconnected)
      (client : after.streamclient = { s.streamclient with state := .sdpsent, cseq := cseq }) :
      ClientEffect variant s input after [.acted i .describe, .reply i reply]
  | setUp {i rest io rtp rtcp session reply} (received : input = .rtsp io)
      (pc : s.pc = .dispatch (i :: rest)) (read : HasType io.received .setup)
      (state : s.streamclient.state = .sdpsent) (sockets : io.sockets = .ok (rtp, rtcp))
      (client : after.streamclient = setupClient variant s.streamclient rtp rtcp session) :
      ClientEffect variant s input after [.acted i .setup, .reply i reply]
  | played {i reply} (state : s.streamclient.state = .setupcomplete)
      (same : after.streamclient = s.streamclient) :
      ClientEffect variant s input after [.acted i .play, .reply i reply]
  | tornDown {i endpoint prior reply} (quiet : prior = [] ∨ prior = [.disconnected i])
      (known : s.kernel i = some endpoint) (stream : endpoint.IsStream)
      (client : after.streamclient = initClient)
      (closed : ∀ fd ∈ teardownCloses i s.streamclient, after.kernel fd = none) :
      ClientEffect variant s input after (prior ++ [.acted i .teardown, .reply i reply])

/-- A step which says nothing leaves the record alone. -/
theorem ClientEffect.unchanged {variant : Variant} {s after : ServerState} {input : Input}
    {talk : List Output} (effect : ClientEffect variant s input after talk) (quiet : talk = []) :
    after.streamclient = s.streamclient := by
  cases effect with
  | silent same => exact same
  | _ => simp at quiet

/-- Who is heard in the RTSP branch is a connection. -/
theorem ReceiveEffect.stream {s after : ServerState} {i : Int} {io : RtspIo} {output : List Output}
    (effect : ReceiveEffect s i io.received after output) (possible : io.possible s i = true) :
    ∃ endpoint, s.kernel i = some endpoint ∧ endpoint.IsStream := by
  have opened : s.kernel i ≠ none := by
    cases effect with
    | closed opened empty => exact opened
    | message opened nonempty terminated parsed => exact opened
  obtain ⟨endpoint, known⟩ := Option.ne_none_iff_exists'.mp opened
  exact ⟨endpoint, known, delivers_stream ((RtspIo.possible_iff possible).1 endpoint known)⟩

/-- Messages which are handled come from a client. -/
theorem not_handled_noclient {s : ServerState} (noclient : s.streamclient.state = .noclient) :
    ¬ Handled s.streamclient.state s.rtspmsg.type := by
  simp [Handled, noclient]

section Rtsp

variable {variant : Variant} {s received after : ServerState} {i : Int} {rest : List Int}
  {io : RtspIo} {prior output : List Output}

/-- The `switch` behind a message. -/
theorem SwitchEffect.record (effect : SwitchEffect variant received i io after output)
    (pc : s.pc = .dispatch (i :: rest)) (read : HasType io.received received.rtspmsg.type)
    (same : received.streamclient = s.streamclient) :
    ClientEffect variant s (.rtsp io) after (talkOf output) := by
  cases effect with
  | ignored other => exact .silent same
  | failed reason spoken handled before =>
      rw [talkOf_append, talkOf_haltOutput, List.append_nil]
      rcases before with ⟨-, rfl⟩ | ⟨type, rfl, -⟩
      · exact .silent same
      · refine .played ?_ same
        rw [type] at handled
        rw [← same]
        cases state : received.streamclient.state <;> simp [Handled, state] at handled ⊢
  | options state type => exact .options (same ▸ state) (by rw [← same])
  | described state type downloaded => exact .described (same ▸ state) (by rw [← same])
  | fetched state type absent fetch => exact .described (same ▸ state) (by rw [← same])
  | setup state type sockets => exact .setUp rfl pc (type ▸ read) (same ▸ state) sockets (by rw [← same])
  | played state type absent free => exact .played (same ▸ state) same
  | unopened state type downloaded unopened => exact .played (same ▸ state) same
  | launched state type downloaded opened => exact .played (same ▸ state) same

/-- The TEARDOWN block. -/
theorem TeardownEffect.record (effect : TeardownEffect variant received i io after output)
    (pc : s.pc = .dispatch (i :: rest))
    (receive : ReceiveEffect { s with pc := .dispatch rest } i io.received received prior)
    (possible : io.possible s i = true) :
    ClientEffect variant s (.rtsp io) after (talkOf (prior ++ output)) := by
  obtain ⟨endpoint, known, stream⟩ : ∃ endpoint, s.kernel i = some endpoint ∧ endpoint.IsStream :=
    receive.stream possible
  have client : clientSockets received.streamclient = clientSockets s.streamclient := by
    cases receive <;> rfl
  cases effect with
  | locked taken =>
      cases receive with
      | closed opened empty => exact .closed rfl pc opened empty rfl (Or.inr ⟨_, rfl⟩)
      | message opened nonempty terminated parsed => exact .silent rfl
  | dangling free dead =>
      cases receive with
      | closed opened empty => exact .closed rfl pc opened empty rfl (Or.inr ⟨_, rfl⟩)
      | message opened nonempty terminated parsed => exact .silent rfl
  | @done thread tinfo free armed =>
      have closed : ∀ fd ∈ teardownCloses i s.streamclient,
          (received.tearDown variant i io thread tinfo).1.kernel fd = none := by
        intro fd member
        rw [tearDown_kernel, foldl_close_kernel, if_pos]
        rwa [teardownCloses, client]
      have spoken : talkOf (received.tearDown variant i io thread tinfo).2 =
          [.acted i .teardown, .reply i (rtspTeardown received.rtspmsg)] := rfl
      rw [talkOf_append, spoken]
      cases receive with
      | closed opened empty => exact .tornDown (Or.inr rfl) known stream rfl closed
      | message opened nonempty terminated parsed =>
          exact .tornDown (Or.inl rfl) known stream rfl closed

/-- Data from a client. -/
theorem RtspEffect.record
    (effect : RtspEffect variant { s with pc := .dispatch rest } i io after output)
    (pc : s.pc = .dispatch (i :: rest)) (possible : io.possible s i = true) :
    ClientEffect variant s (.rtsp io) after (talkOf output) := by
  cases effect with
  | failed reason unread =>
      rw [talkOf_haltOutput]
      exact .silent rfl
  | teardown receive type effect => exact effect.record pc receive possible
  | switched receive type effect =>
      cases receive with
      | closed opened empty =>
          cases effect with
          | ignored other => exact .closed rfl pc opened empty rfl (Or.inl type)
          | failed reason spoken handled before => exact absurd handled (not_handled_noclient rfl)
          | options state => cases state
          | described state => cases state
          | fetched state => cases state
          | setup state => cases state
          | played state => cases state
          | unopened state => cases state
          | launched state => cases state
      | message opened nonempty terminated parsed =>
          exact effect.record pc ⟨_, _, _, terminated, parsed, rfl⟩ rfl

end Rtsp

/-- Every step does one of these to the record of the client. -/
theorem step_client {variant : Variant} {url : List UInt8} {s after : ServerState} {input : Input}
    {output : List Output} (taken : step variant url s input = .ok (after, output)) :
    ClientEffect variant s input after (talkOf output) := by
  cases step_cases taken with
  | rtsp pc branch possible effect => exact effect.record pc possible
  | accept pc branch possible effect =>
      cases effect with
      | halted reason =>
          rw [talkOf_haltOutput]
          exact .silent rfl
      | rejected busy => exact .silent rfl
      | accepted accepted free =>
          exact .connected (fun reason => by simp [pc]) free rfl
  | timeout pc set effect =>
      obtain ⟨quiet, same⟩ := effect.talk
      rw [quiet]
      exact .silent same
  | datagram pc branch effect =>
      obtain ⟨quiet, same⟩ := effect.talk
      rw [quiet]
      exact .silent same
  | media pc branch possible effect =>
      obtain ⟨quiet, same⟩ := effect.talk
      rw [quiet]
      exact .silent same
  | interrupted pc => exact .silent rfl
  | ready pc members => exact .silent rfl
  | rearmed pc free =>
      refine .silent ?_
      rw [ServerState.rearm, locked_free free]
  | rearmLocked pc taken => exact .silent rfl
  | filler effect =>
      obtain ⟨queue, lock, fillers, rfl, -⟩ := effect.only
      exact .silent rfl

end Http2Rtsp.Server
