import Http2Rtsp.Message.Answers
import Http2Rtsp.Server.Behaviour

/-!
# Answers

What the server and its clients say to each other: connections, requests which
are acted on, and replies. A step of the server says nothing, takes a connection
or notes its end, or answers one request; the answer is what the builder for the
state of the client and the type of the request writes.
-/

namespace Http2Rtsp.Server

open Http2Rtsp.Std Http2Rtsp.Message Http2Rtsp.Pacing Http2Rtsp.Semantics

/-! ## What is said -/

/-- The output belongs to the conversation with a client. -/
def Output.isTalk : Output → Bool
  | .connected _ | .disconnected _ | .acted .. | .reply .. => true
  | _ => false

/-- The conversation in these outputs. -/
def talkOf (outputs : List Output) : List Output := outputs.filter Output.isTalk

@[simp] theorem talkOf_nil : talkOf [] = [] := rfl

@[simp] theorem talkOf_append (first second : List Output) :
    talkOf (first ++ second) = talkOf first ++ talkOf second :=
  List.filter_append first second

theorem mem_talkOf {outputs : List Output} {fd : Int} {text : List UInt8} :
    .reply fd text ∈ talkOf outputs ↔ .reply fd text ∈ outputs := by
  simp [talkOf, Output.isTalk]

/-- Outputs none of which belong to it. -/
theorem talkOf_eq_nil {outputs : List Output}
    (silent : ∀ output ∈ outputs, output.isTalk = false) : talkOf outputs = [] :=
  List.filter_eq_nil_iff.mpr fun output member => by simp [silent output member]

theorem talkOf_haltOutput (reason : Halt) : talkOf (haltOutput reason) = [] := by
  apply talkOf_eq_nil
  intro output member
  obtain ⟨reason, rfl⟩ := mem_haltOutput member
  rfl

/-- A BYE goes to a SIP client. -/
theorem talkOf_byes {sent : List Output}
    (farewell : ∀ output ∈ sent, ∃ text cliaddr, output = .byeSent text cliaddr) :
    talkOf sent = [] := by
  apply talkOf_eq_nil
  intro output member
  obtain ⟨text, cliaddr, rfl⟩ := farewell output member
  rfl

/-- The answer to a message of a type, in the state the client is in, with the client behind it. -/
inductive Answered (client : Client) (msg : RTSPMsg) (io : RtspIo) :
    RtspMsgType → Client → List UInt8 → Prop where
  | options (state : client.state = .cliconnected) (type : msg.type = .options) :
      Answered client msg io .options (rtspOptions msg client).1 (rtspOptions msg client).2
  | describe (state : client.state = .cliconnected) (type : msg.type = .describe) :
      Answered client msg io .describe (rtspDescribe { client with state := .sdpsent } io.date).1
        (rtspDescribe { client with state := .sdpsent } io.date).2
  | setup {opened after rtp rtcp reply} (state : client.state = .sdpsent) (type : msg.type = .setup)
      (stays : opened.state = .sdpsent ∨ opened.state = .setupcomplete)
      (written : rtspSetup msg opened io.rand rtp rtcp = .ok (after, reply)) :
      Answered client msg io .setup after reply
  | play (state : client.state = .setupcomplete) (type : msg.type = .play) :
      Answered client msg io .play client (rtspPlay msg io.date)
  | teardown (type : msg.type = .teardown) :
      Answered client msg io .teardown initClient (rtspTeardown msg)

/-- A message of type TEARDOWN has one answer. -/
theorem Answered.of_teardown {client after : Client} {msg : RTSPMsg} {io : RtspIo}
    {type : RtspMsgType} {reply : List UInt8} (answer : Answered client msg io type after reply)
    (teardown : msg.type = .teardown) :
    type = .teardown ∧ after = initClient ∧ reply = rtspTeardown msg := by
  cases answer with
  | options state type => cases teardown.symm.trans type
  | describe state type => cases teardown.symm.trans type
  | setup state type => cases teardown.symm.trans type
  | play state type => cases teardown.symm.trans type
  | teardown type => exact ⟨rfl, rfl, rfl⟩

/-- Behind an answer to a SETUP there is a client, with the number drawn. -/
theorem Answered.of_setup {client after : Client} {msg : RTSPMsg} {io : RtspIo} {reply : List UInt8}
    (answer : Answered client msg io .setup after reply) :
    after.state ≠ .noclient ∧ after.session = (io.rand % 1000000 : Nat) := by
  cases answer with
  | setup state type stays written =>
      obtain ⟨rfl, -⟩ := rtspSetup_reply written
      refine ⟨?_, rfl⟩
      rcases stays with state | state
      · simp [state]
      · simp [state]

/-- The answer is to the type of the message. -/
theorem Answered.type_eq {client after : Client} {msg : RTSPMsg} {io : RtspIo}
    {type : RtspMsgType} {reply : List UInt8} (answer : Answered client msg io type after reply) :
    msg.type = type := by
  cases answer with
  | options state type => exact type
  | describe state type => exact type
  | setup state type => exact type
  | play state type => exact type
  | teardown type => exact type

/-- The numbers of an answer: those of the request, but for what the builder makes of them. -/
theorem Answered.numbers {client after : Client} {msg : RTSPMsg} {io : RtspIo} {type : RtspMsgType}
    {reply : List UInt8} (answer : Answered client msg io type after reply) (received : msg.Received)
    (dated : 13 ∉ io.date) (header : NumberHeader) :
    headers header.name reply =
      match type, header with
      | .describe, .cseq => [decimal client.cseq]
      | .describe, .session => []
      | .describe, .contlen => [decimal sdp.length]
      | .setup, .session => [decimal (io.rand % 1000000 : Nat)]
      | .play, .session => if msg.has fSession then [] else [decimal msg.session]
      | .teardown, .cseq => [decimal msg.cseq]
      | .teardown, .session => [decimal msg.session]
      | .teardown, .contlen => []
      | _, _ => msg.numbers header := by
  cases answer with
  | options state type => exact headers_rtspOptions received.lined received.bare client header
  | describe state type =>
      rw [rtspDescribe_reply, headers_writeRtsp (describeMsg_lined _ dated), describeMsg_numbers]
      cases header <;> rfl
  | setup state type stays written =>
      obtain ⟨-, rfl⟩ := rtspSetup_reply written
      rw [headers_writeRtsp (received.setup_lined _ _ _), setupMsg_numbers]
      cases header <;> rfl
  | play state type =>
      rw [rtspPlay_reply, headers_writeRtsp (received.play_lined dated), playMsg_numbers]
      cases header <;> rfl
  | teardown type =>
      rw [rtspTeardown_reply, headers_writeRtsp received.teardown_lined, teardownMsg_numbers]
      cases header <;> rfl

/-- What an outcome of a message comes to. -/
inductive Answers (client : Client) (msg : RTSPMsg) (i : Int) (io : RtspIo) (outcome : Outcome) :
    Prop where
  | silent (quiet : talkOf outcome.2 = []) (same : outcome.1.streamclient = client)
  | answered {type reply} (said : talkOf outcome.2 = [.acted i type, .reply i reply])
      (answer : Answered client msg io type outcome.1.streamclient reply)

/-! ## The handlers -/

section Handlers

variable {variant : Variant} {url : List UInt8} {s : ServerState} {i : Int} {io : RtspIo}

theorem Answers.halt (reason : Halt) :
    Answers s.streamclient s.rtspmsg i io (s.halt reason) := by
  rw [halt_eq]
  exact .silent (talkOf_haltOutput reason) rfl

theorem handleDescribe_answers (running : s.Running) (state : s.streamclient.state = .cliconnected)
    (type : s.rtspmsg.type = .describe) :
    Answers s.streamclient s.rtspmsg i io (s.handleDescribe url i io) := by
  unfold ServerState.handleDescribe
  cases downloaded : s.download.mediaDownloaded with
  | true =>
      rw [if_pos rfl, andThen_running running]
      exact .answered rfl (.describe state type)
  | false =>
      rw [if_neg Bool.false_ne_true]
      rcases fetchMedia_cases s url io.fetch with ⟨reason, halted⟩ | ⟨fd, request, response, ok, done⟩
      · rw [halted, andThen_halt]
        exact .halt reason
      · rw [done, andThen_running running]
        exact .answered rfl (.describe state type)

theorem handleSetup_answers (state : s.streamclient.state = .sdpsent)
    (type : s.rtspmsg.type = .setup) :
    Answers s.streamclient s.rtspmsg i io (s.handleSetup variant i io) := by
  unfold ServerState.handleSetup
  cases sockets : io.sockets with
  | error reason => exact .halt reason
  | ok pair =>
      dsimp only
      split
      · exact .halt _
      · rename_i reply written
        have stays := (setupClient_fields variant s.streamclient pair.1 pair.2 0 state).2.2
        exact .answered rfl (.setup state type (stays.imp id And.left) written)

/-- What follows the reply to a PLAY is not said to the client. -/
theorem handlePlay_answers (running : s.Running) (state : s.streamclient.state = .setupcomplete)
    (type : s.rtspmsg.type = .play) :
    Answers s.streamclient s.rtspmsg i io (s.handlePlay i io) := by
  have behind : ∀ {rest : Outcome}, talkOf rest.2 = [] ∧ rest.1.streamclient = s.streamclient →
      Answers s.streamclient s.rtspmsg i io
        (rest.1, [.acted i .play, .reply i (rtspPlay s.rtspmsg io.date)] ++ rest.2) := by
    rintro rest ⟨silent, same⟩
    refine @Answers.answered _ _ _ _ _ .play (rtspPlay s.rtspmsg io.date) ?_ ?_
    · rw [talkOf_append, silent]
      rfl
    · rw [same]
      exact .play state type
  unfold ServerState.handlePlay
  rw [andThen_running running]
  apply behind
  cases downloaded : s.download.mediaDownloaded with
  | true =>
      rw [if_pos rfl]
      cases opened : io.opening with
      | error failure =>
          cases failure with
          | exits =>
              rw [ServerState.startFiller, andThen_halt, halt_eq]
              exact ⟨rfl, rfl⟩
          | fails =>
              rw [startFiller_fails running, andThen_halted rfl]
              exact ⟨rfl, rfl⟩
      | ok sets =>
          have stillRunning : (s.launch sets).1.Running := running
          rw [ServerState.startFiller, andThen_running stillRunning]
          exact ⟨rfl, rfl⟩
  | false =>
      rw [if_neg Bool.false_ne_true]
      by_cases free : s.lock = none
      · rw [locked_free free]
        exact ⟨rfl, rfl⟩
      · rw [locked_taken free, halt_eq]
        exact ⟨rfl, rfl⟩

/-- The `switch` on the state of the client. -/
theorem clientSwitch_answers (running : s.Running) :
    Answers s.streamclient s.rtspmsg i io (s.clientSwitch variant url i io) := by
  unfold ServerState.clientSwitch
  split
  · rename_i state type
    exact .answered rfl (.options state type)
  · rename_i state type
    exact handleDescribe_answers running state type
  · rename_i state type
    exact handleSetup_answers state type
  · rename_i state type
    exact handlePlay_answers running state type
  · exact .silent rfl rfl

/-- The TEARDOWN block. -/
theorem handleTeardown_answers (type : s.rtspmsg.type = .teardown) :
    Answers s.streamclient s.rtspmsg i io (s.handleTeardown variant i io) := by
  rcases h : s.handleTeardown variant i io with ⟨after, output⟩
  have effect := handleTeardown_cases variant s i io
  rw [h] at effect
  cases effect with
  | locked taken => exact .silent rfl rfl
  | dangling free dead => exact .silent rfl rfl
  | done free armed => exact .answered rfl (.teardown type)

end Handlers

/-! ## Steps -/

/-- What a step says, and the client behind it. -/
inductive TalkEffect (s : ServerState) (input : Input) (after : ServerState) : List Output → Prop where
  | silent (same : after.streamclient = s.streamclient) : TalkEffect s input after []
  | connected {fd} (client : after.streamclient =
        { s.streamclient with rtspfd := fd, state := .cliconnected }) :
      TalkEffect s input after [.connected fd]
  | closed {i io} (received : input = .rtsp io) (empty : io.received = [])
      (client : after.streamclient = { s.streamclient with state := .noclient }) :
      TalkEffect s input after [.disconnected i]
  /-- A TEARDOWN which was left over is answered again. -/
  | closedTeardown {i io} (received : input = .rtsp io) (empty : io.received = [])
      (client : after.streamclient = initClient) :
      TalkEffect s input after
        [.disconnected i, .acted i .teardown, .reply i (rtspTeardown s.rtspmsg)]
  | answered {i rest io text result msg type reply} (received : input = .rtsp io)
      (pc : s.pc = .dispatch (i :: rest)) (nonempty : io.received ≠ [])
      (terminated : cString bufSize io.received = some text)
      (parsed : parseRtsp text = .ok (result, msg))
      (answer : Answered s.streamclient msg io type after.streamclient reply) :
      TalkEffect s input after [.acted i type, .reply i reply]

/-- What a handled message says. -/
theorem Answers.talk {s : ServerState} {i : Int} {rest : List Int} {io : RtspIo}
    {text : List UInt8} {result : Int} {msg : RTSPMsg} {outcome : Outcome}
    (answers : Answers s.streamclient msg i io outcome) (pc : s.pc = .dispatch (i :: rest))
    (nonempty : io.received ≠ []) (terminated : cString bufSize io.received = some text)
    (parsed : parseRtsp text = .ok (result, msg)) :
    TalkEffect s (.rtsp io) outcome.1 (talkOf outcome.2) := by
  cases answers with
  | silent quiet same =>
      rw [quiet]
      exact .silent same
  | answered said answer =>
      rw [said]
      exact .answered rfl pc nonempty terminated parsed answer

theorem handleRtsp_talk {variant : Variant} {url : List UInt8} {s : ServerState} {i : Int}
    {rest : List Int} {io : RtspIo} (pc : s.pc = .dispatch (i :: rest)) :
    TalkEffect s (.rtsp io)
      (ServerState.handleRtsp variant url { s with pc := .dispatch rest } i io).1
      (talkOf (ServerState.handleRtsp variant url { s with pc := .dispatch rest } i io).2) := by
  rcases handleRtsp_outcome variant url i io (dispatch_running s rest) with
    ⟨reason, halted, -⟩ | ⟨received, prior, receive, still, outcome⟩
  · rw [halted, halt_eq, talkOf_haltOutput]
    exact .silent rfl
  · rw [outcome]
    cases receive with
    | closed opened empty =>
        split
        · rename_i type
          have answers := @handleTeardown_answers variant _ i io type
          simp only [talkOf_append]
          cases answers with
          | silent quiet same =>
              rw [quiet]
              exact .closed rfl empty same
          | answered said answer =>
              obtain ⟨rfl, client, rfl⟩ := answer.of_teardown type
              rw [said]
              exact .closedTeardown rfl empty client
        · rw [clientSwitch_noclient rfl]
          exact .closed rfl empty rfl
    | @message text result msg opened nonempty terminated parsed =>
        split
        · rename_i type
          have answers : Answers s.streamclient msg i io (ServerState.handleTeardown variant _ i io) :=
            handleTeardown_answers type
          exact answers.talk pc nonempty terminated parsed
        · rename_i type
          have answers : Answers s.streamclient msg i io (ServerState.clientSwitch variant url _ i io) :=
            clientSwitch_answers still
          exact answers.talk pc nonempty terminated parsed

/-- Media frames and what else a timeout puts out are not said to the client. -/
theorem EventEffect.talk {s after : ServerState} {event : TimeoutEvent} {output : List Output}
    (effect : EventEffect s event after output) :
    talkOf output = [] ∧ after.streamclient = s.streamclient := by
  cases effect with
  | ended last farewell =>
      refine ⟨?_, rfl⟩
      rw [talkOf_append, talkOf_byes farewell]
      rfl
  | video media => exact ⟨rfl, rfl⟩
  | audio media frames =>
      refine ⟨talkOf_eq_nil fun output member => ?_, rfl⟩
      obtain ⟨fd, seq, rfl⟩ := frames output member
      rfl
  | dummy check waiting => exact ⟨rfl, rfl⟩
  | ready check streaming => exact ⟨rfl, rfl⟩

theorem TimeoutEffect.talk {s after : ServerState} {wake : Nat} {output : List Output}
    (effect : TimeoutEffect s wake after output) :
    talkOf output = [] ∧ after.streamclient = s.streamclient := by
  cases effect with
  | locked taken => exact ⟨rfl, rfl⟩
  | idle free empty => exact ⟨rfl, rfl⟩
  | failed free queued last farewell =>
      refine ⟨?_, rfl⟩
      rw [talkOf_append, talkOf_byes farewell]
      rfl
  | handled free queued effect => exact effect.talk

theorem MediaEffect.talk {s after : ServerState} {i : Int} {io : MediaIo} {output : List Output}
    (effect : MediaEffect s i io after output) :
    talkOf output = [] ∧ after.streamclient = s.streamclient := by
  have stored : (s.storeMedia i io).streamclient = s.streamclient := by
    obtain ⟨kernel, masterfds, eq⟩ := storeMedia_eq s i io
    rw [eq]
  cases effect with
  | ignored other => exact ⟨rfl, rfl⟩
  | failed reason reads => exact ⟨talkOf_haltOutput reason, rfl⟩
  | header getsent opened found parsed => exact ⟨rfl, rfl⟩
  | stored recvtcp opened more => exact ⟨rfl, stored⟩
  | completed recvtcp opened last effect =>
      cases effect with
      | exited unopened => exact ⟨rfl, stored⟩
      | failed unopened => exact ⟨rfl, stored⟩
      | locked opened taken => exact ⟨rfl, stored⟩
      | launched opened free => exact ⟨rfl, stored⟩

/-- What the SIP clients are sent is not said to an RTSP client. -/
theorem SipEffect.talk {s after : ServerState} {output : List Output}
    (effect : SipEffect s after output) :
    talkOf output = [] ∧ after.streamclient = s.streamclient := by
  cases effect with
  | only halts answers =>
      refine ⟨talkOf_eq_nil fun output member => ?_, rfl⟩
      rcases answers output member with ⟨text, size, cliaddr, rfl⟩ | ⟨reason, rfl⟩
      · rfl
      · rfl

/-- Every step says one of these. -/
theorem step_talk {variant : Variant} {url : List UInt8} {s after : ServerState} {input : Input}
    {output : List Output} (taken : step variant url s input = .ok (after, output)) :
    TalkEffect s input after (talkOf output) := by
  cases step_cases taken with
  | timeout pc set effect =>
      obtain ⟨quiet, same⟩ := effect.talk
      rw [quiet]
      exact .silent same
  | interrupted pc => exact .silent rfl
  | ready pc members => exact .silent rfl
  | accept pc branch possible effect =>
      cases effect with
      | halted reason =>
          rw [talkOf_haltOutput]
          exact .silent rfl
      | rejected busy => exact .silent rfl
      | accepted accepted free => exact .connected rfl
  | datagram pc branch effect =>
      obtain ⟨quiet, same⟩ := effect.talk
      rw [quiet]
      exact .silent same
  | media pc branch possible effect =>
      obtain ⟨quiet, same⟩ := effect.talk
      rw [quiet]
      exact .silent same
  | @rtsp io i rest after output pc branch possible effect =>
      rw [step] at taken
      obtain ⟨i', rest', pc', -, -, same⟩ := dispatch_cases taken
      obtain ⟨rfl, rfl⟩ := Prod.mk.inj same
      exact handleRtsp_talk pc'
  | rearmed pc free =>
      refine .silent ?_
      rw [ServerState.rearm, locked_free free]
  | rearmLocked pc taken => exact .silent rfl
  | filler effect =>
      obtain ⟨queue, lock, fillers, rfl, -⟩ := effect.only
      exact .silent rfl

/-! ## Exchanges -/

/-- In this step the text of a request was received and a reply was sent. -/
structure Exchange (entry : Entry ServerState Input Output) (io : RtspIo) (text reply : List UInt8) :
    Prop where
  input : entry.input = .rtsp io
  terminated : cString bufSize io.received = some text
  nonempty : io.received ≠ []
  replied : ∃ fd, .reply fd reply ∈ entry.output

/-- The dates of a run are lines, as `ctime_r` writes them. -/
def Dated (trace : List (Entry ServerState Input Output)) : Prop :=
  ∀ entry ∈ trace, ∀ io, entry.input = .rtsp io → 13 ∉ io.date

/-- The dates of an input are lines. -/
def datedInput : Input → Bool
  | .rtsp io => !io.date.contains 13
  | _ => true

theorem dated_of_inputs {trace : List (Entry ServerState Input Output)}
    (inputs : (trace.map Entry.input).all datedInput = true) : Dated trace := by
  intro entry member io input
  have checked := List.all_eq_true.mp inputs _ (List.mem_map_of_mem member)
  rw [input] at checked
  simpa [datedInput] using checked

/-- The reply of an exchange is the answer to the message parsed. -/
theorem Exchange.answered {variant : Variant} {url : List UInt8}
    {entry : Entry ServerState Input Output} {after : ServerState} {io : RtspIo}
    {text reply : List UInt8} (exchange : Exchange entry io text reply)
    (taken : step variant url entry.before entry.input = .ok (after, entry.output)) :
    ∃ result msg type, parseRtsp text = .ok (result, msg) ∧ msg.Received ∧
      Answered entry.before.streamclient msg io type after.streamclient reply := by
  obtain ⟨input, terminated, nonempty, fd, replied⟩ := exchange
  have said := mem_talkOf.mpr replied
  have effect := step_talk taken
  rw [input] at effect
  generalize talkOf entry.output = talk at said effect
  cases effect with
  | silent same => cases said
  | connected client => simp at said
  | closed received empty client =>
      obtain rfl := Input.rtsp.inj received
      exact absurd empty nonempty
  | closedTeardown received empty client =>
      obtain rfl := Input.rtsp.inj received
      exact absurd empty nonempty
  | answered received pc _ terminated' parsed answer =>
      obtain rfl := Input.rtsp.inj received
      obtain rfl := Option.some.inj (terminated.symm.trans terminated')
      have noNul := cString_noNul terminated
      obtain ⟨-, rfl⟩ : _ ∧ reply = _ := by simpa using said
      exact ⟨_, _, _, parsed, parseRtsp_received noNul parsed, answer⟩

end Http2Rtsp.Server
