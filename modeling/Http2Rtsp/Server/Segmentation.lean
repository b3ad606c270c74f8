import Http2Rtsp.Message.Consistency
import Http2Rtsp.Server.Answers

/-!
# Segmentation

A TCP stream has no message boundaries, and the RTSP branch reads what one receipt
returns as one request: nothing of it is kept for the next receipt. The module
compares the service of a stream, cut in any way, with the service of its requests,
one with each receipt. What counts are the messages which are heard in it: those on
which the server acts in the phase its client has come to.
-/

namespace Http2Rtsp.Server

open Http2Rtsp.Std Http2Rtsp.Message Http2Rtsp.Semantics

/-! ## Streams -/

/-- A complete and well-formed request: a request line with one of the methods, its header block,
and a body of the length the block announces. -/
structure Request where
  bytes : List UInt8
  method : ∃ type, requestType bytes = some type ∧ type ≠ .ok
  complete : Consistent bytes
  text : 0 ∉ bytes
  fits : bytes.length ≤ bufSize

/-- `recv_all` may return these bytes, and there are some. -/
def Receivable (received : List UInt8) : Prop := received ≠ [] ∧ received.length ≤ bufSize

theorem Request.receivable (request : Request) : Receivable request.bytes := by
  refine ⟨fun empty => ?_, request.fits⟩
  obtain ⟨type, known, -⟩ := request.method
  rw [empty] at known
  cases known

/-- The bytes of some requests, and the receipts in which they are delivered. -/
structure Delivery where
  requests : List Request
  receipts : List (List UInt8)
  nonempty : ∀ received ∈ receipts, received ≠ []
  fits : ∀ received ∈ receipts, received.length ≤ bufSize
  whole : receipts.flatten = (requests.map Request.bytes).flatten

theorem Delivery.receivable (delivery : Delivery) :
    ∀ received ∈ delivery.receipts, Receivable received :=
  fun received member => ⟨delivery.nonempty received member, delivery.fits received member⟩

/-- One receipt for each request. -/
def Delivery.wholeRequests (delivery : Delivery) : List (List UInt8) :=
  delivery.requests.map Request.bytes

theorem Delivery.wholeRequests_receivable (delivery : Delivery) :
    ∀ received ∈ delivery.wholeRequests, Receivable received := by
  intro bytes member
  obtain ⟨request, -, rfl⟩ := List.mem_map.mp member
  exact request.receivable

/-! ## Service -/

/-- The main thread is at work, and the connection of a client is open on the descriptor. -/
def Hears (i : Int) (s : ServerState) : Prop := s.Running ∧ s.kernel i = some .peer

/-- What else happens between two receipts: the client stays as it is, and its connection is not
opened again. -/
structure Elsewhere (i : Int) (s t : ServerState) : Prop where
  before : s.Running
  after : t.Running
  client : t.streamclient = s.streamclient
  connection : t.kernel i = some .peer → s.kernel i = some .peer

/-- The texts of the replies. -/
def repliesOf (outputs : List Output) : List (List UInt8) :=
  outputs.filterMap fun
    | .reply _ text => some text
    | _ => none

/-- The service of a client: the RTSP branch takes one receipt after the other, and sends these
replies. Behind the end of the connection or of the server nothing more is received. -/
inductive Service (variant : Variant) (url : List UInt8) (i : Int) :
    ServerState → List (List UInt8) → List (List UInt8) → ServerState → Prop where
  | done {s} : Service variant url i s [] [] s
  | deaf {s receipts} (ended : ¬ Hears i s) : Service variant url i s receipts [] s
  | elsewhere {s t u receipts replies} (between : Elsewhere i s t)
      (rest : Service variant url i t receipts replies u) : Service variant url i s receipts replies u
  | receipt {s u io receipts replies} (hears : Hears i s) (possible : io.possible s i = true)
      (rest : Service variant url i (s.handleRtsp variant url i io).1 receipts replies u) :
      Service variant url i s (io.received :: receipts)
        (repliesOf (s.handleRtsp variant url i io).2 ++ replies) u

/-- How the main thread has ended, if it has. -/
def haltOf : MainPc → Option Halt
  | .halted reason => some reason
  | _ => none

/-- The service of these receipts can come to this. -/
def Results (variant : Variant) (url : List UInt8) (i : Int) (s : ServerState)
    (receipts replies : List (List UInt8)) (client : Client) (halt : Option Halt) : Prop :=
  ∃ t, Service variant url i s receipts replies t ∧ t.streamclient = client ∧ haltOf t.pc = halt

/-- The service of the stream comes to what that of its requests can come to, and to nothing
else. -/
def Recovered (variant : Variant) (url : List UInt8) (i : Int) (s : ServerState)
    (delivery : Delivery) : Prop :=
  ∀ replies client halt,
    Results variant url i s delivery.receipts replies client halt ↔
      Results variant url i s delivery.wholeRequests replies client halt

/-! ## What is heard -/

/-- What a receipt is read as. -/
def readMessage (received : List UInt8) : Except Undefined RTSPMsg :=
  match cString bufSize received with
  | none => .error .unterminated
  | some text => (parseRtsp text).map Prod.snd

/-- How far a client has come. -/
structure Phase where
  state : ClientState
  setups : Nat

/-- How far this client has come. -/
def phaseOf (client : Client) : Phase := ⟨client.state, client.setupsreceived⟩

/-- The phase behind an answer. -/
def Phase.next (phase : Phase) : RtspMsgType → Phase
  | .describe => ⟨.sdpsent, phase.setups⟩
  | .setup => ⟨if phase.setups + 1 < 2 then phase.state else .setupcomplete, phase.setups + 1⟩
  | _ => phase

instance (state : ClientState) (type : RtspMsgType) : Decidable (Handled state type) :=
  decidable_of_iff ((state = .cliconnected ∧ (type = .options ∨ type = .describe)) ∨
      (state = .sdpsent ∧ type = .setup) ∨ (state = .setupcomplete ∧ type = .play)) <| by
    cases state <;> cases type <;> simp [Handled]

/-- The messages the server acts on, when these receipts follow each other. Behind a TEARDOWN and
behind a receipt it cannot read it hears nothing more. -/
def heard : Phase → List (List UInt8) → List (Except Undefined RTSPMsg)
  | _, [] => []
  | phase, received :: rest =>
      match readMessage received with
      | .error reason => [.error reason]
      | .ok msg =>
          if msg.type = .teardown then [.ok msg]
          else if Handled phase.state msg.type then .ok msg :: heard (phase.next msg.type) rest
          else heard phase rest

/-- The server does nothing about what a receipt is read as. -/
def Ignored (phase : Phase) (message : Except Undefined RTSPMsg) : Prop :=
  ∃ msg, message = .ok msg ∧ msg.type ≠ .teardown ∧ ¬ Handled phase.state msg.type

/-- What is heard behind a message which is not ignored. -/
def heardBehind (phase : Phase) (rest : List (List UInt8)) :
    Except Undefined RTSPMsg → List (Except Undefined RTSPMsg)
  | .error _ => []
  | .ok msg => if msg.type = .teardown then [] else heard (phase.next msg.type) rest

theorem heard_ignored {phase : Phase} {received : List UInt8} (rest : List (List UInt8))
    (ignored : Ignored phase (readMessage received)) :
    heard phase (received :: rest) = heard phase rest := by
  obtain ⟨msg, read, teardown, other⟩ := ignored
  simp only [heard, read, if_neg teardown, if_neg other]

theorem heard_noticed {phase : Phase} {received : List UInt8} (rest : List (List UInt8))
    (noticed : ¬ Ignored phase (readMessage received)) :
    heard phase (received :: rest) =
      readMessage received :: heardBehind phase rest (readMessage received) := by
  rw [heard]
  cases read : readMessage received with
  | error reason => rfl
  | ok msg =>
      by_cases teardown : msg.type = .teardown
      · simp only [heardBehind, if_pos teardown]
      · by_cases handled : Handled phase.state msg.type
        · simp only [heardBehind, if_neg teardown, if_pos handled]
        · exact absurd ⟨msg, read, teardown, handled⟩ noticed

/-- The same is heard in the stream, as it is cut, and in its requests. -/
def SameHeard (client : Client) (delivery : Delivery) : Prop :=
  heard (phaseOf client) delivery.receipts = heard (phaseOf client) delivery.wholeRequests

/-! ## One receipt -/

section Receipt

variable {variant : Variant} {url : List UInt8} {i : Int} {s : ServerState}

/-- What the server does about a message it has received. -/
def ServerState.act (variant : Variant) (url : List UInt8) (s : ServerState) (i : Int)
    (io : RtspIo) : Outcome :=
  if s.rtspmsg.type = .teardown then s.handleTeardown variant i io
  else s.clientSwitch variant url i io

/-- What a client sends is not kept in the kernel's state. -/
theorem recv_peer (peer : s.kernel i = some .peer) (received : List UInt8) :
    s.recv i received = s := by
  have same : (s.kernel i).map (fun endpoint => endpoint.consume received) = s.kernel i := by
    rw [peer]
    rfl
  rw [ServerState.recv, same, Function.update_eq_self]

theorem receiveRtsp_peer (peer : s.kernel i = some .peer) {received : List UInt8}
    (nonempty : received ≠ []) :
    s.receiveRtsp i received =
      match readMessage received with
      | .error reason => s.halt (.undefined reason)
      | .ok msg => ({ s with rtspmsg := msg }, []) := by
  have opened : s.kernel i ≠ none := by simp [peer]
  rw [ServerState.receiveRtsp, if_neg opened, if_neg nonempty, readMessage]
  cases cString bufSize received with
  | none => rfl
  | some text =>
      cases parsed : parseRtsp text with
      | error reason => simp only [parsed, Except.map]
      | ok message => simp only [parsed, Except.map, recv_peer peer]

/-- A receipt which cannot be read. -/
theorem handleRtsp_unread (hears : Hears i s) {io : RtspIo} {reason : Undefined}
    (nonempty : io.received ≠ []) (unread : readMessage io.received = .error reason) :
    s.handleRtsp variant url i io = s.halt (.undefined reason) := by
  rw [ServerState.handleRtsp, receiveRtsp_peer hears.2 nonempty, unread]
  exact andThen_halt s _ _

/-- A receipt which is read as a message. -/
theorem handleRtsp_read (hears : Hears i s) {io : RtspIo} {msg : RTSPMsg}
    (nonempty : io.received ≠ []) (read : readMessage io.received = .ok msg) :
    s.handleRtsp variant url i io = ServerState.act variant url { s with rtspmsg := msg } i io := by
  have receive : s.receiveRtsp i io.received = ({ s with rtspmsg := msg }, []) := by
    rw [receiveRtsp_peer hears.2 nonempty, read]
  have running : ServerState.Running { s with rtspmsg := msg } := hears.1
  unfold ServerState.act
  split
  · rename_i type
    exact handleRtsp_teardown receive running type
  · rename_i type
    exact handleRtsp_switch receive running type

/-- A message which the server does not act on is only stored. -/
theorem act_ignored {io : RtspIo} (teardown : s.rtspmsg.type ≠ .teardown)
    (other : ¬ Handled s.streamclient.state s.rtspmsg.type) : s.act variant url i io = (s, []) := by
  rw [ServerState.act, if_neg teardown, ServerState.clientSwitch]
  split
  · rename_i state type
    exact absurd (by rw [state, type]; trivial) other
  · rename_i state type
    exact absurd (by rw [state, type]; trivial) other
  · rename_i state type
    exact absurd (by rw [state, type]; trivial) other
  · rename_i state type
    exact absurd (by rw [state, type]; trivial) other
  · rfl

/-- What is done about a message does not depend on the bytes it was received in. -/
theorem act_received (io : RtspIo) (received : List UInt8) :
    s.act variant url i { io with received := received } = s.act variant url i io := rfl

/-- Other bytes which are read as the same message do the same, whatever was stored before. -/
theorem handleRtsp_same (hears : Hears i s) {io : RtspIo} {request : List UInt8} {msg : RTSPMsg}
    (nonempty : io.received ≠ []) (requestNonempty : request ≠ [])
    (read : readMessage io.received = .ok msg) (read' : readMessage request = .ok msg)
    (last : RTSPMsg) :
    ServerState.handleRtsp variant url { s with rtspmsg := last } i
        { io with received := request } = s.handleRtsp variant url i io := by
  have hears' : Hears i { s with rtspmsg := last } := hears
  rw [handleRtsp_read hears nonempty read,
    @handleRtsp_read variant url i _ hears' { io with received := request } msg requestNonempty read']
  exact act_received io request

/-- Behind a TEARDOWN no connection is left. -/
theorem act_teardown {io : RtspIo} (teardown : s.rtspmsg.type = .teardown) :
    ¬ Hears i (s.act variant url i io).1 := by
  rw [ServerState.act, if_pos teardown]
  rintro ⟨running, peer⟩
  rcases outcome : s.handleTeardown variant i io with ⟨after, output⟩
  have effect := handleTeardown_cases variant s i io
  rw [outcome] at effect running peer
  cases effect with
  | locked taken => exact running _ rfl
  | dangling free dead => exact running _ rfl
  | done free armed =>
      simp only [ServerState.close] at peer
      simp [Function.update_apply] at peer

theorem setupClient_phase (variant : Variant) (client : Client) (rtp rtcp session : Int) :
    phaseOf (setupClient variant client rtp rtcp session) = (phaseOf client).next .setup := by
  have next : (phaseOf client).next .setup =
      ⟨if client.setupsreceived + 1 < 2 then client.state else .setupcomplete,
        client.setupsreceived + 1⟩ := rfl
  rw [next]
  by_cases few : client.setupsreceived + 1 < 2
  · simp only [phaseOf, setupClient, setupSockets, if_pos few]
  · simp only [phaseOf, setupClient, setupSockets, if_neg few]
    cases variant with
    | server => rfl
    | mt => rfl

/-- A message which is acted on brings the client to the next phase, unless the server ends. -/
theorem act_phase {io : RtspIo} (running : s.Running) (teardown : s.rtspmsg.type ≠ .teardown)
    (handled : Handled s.streamclient.state s.rtspmsg.type)
    (still : (s.act variant url i io).1.Running) :
    phaseOf (s.act variant url i io).1.streamclient =
      (phaseOf s.streamclient).next s.rtspmsg.type := by
  rw [ServerState.act, if_neg teardown] at still ⊢
  rcases outcome : s.clientSwitch variant url i io with ⟨after, output⟩
  have effect := @clientSwitch_cases variant url s i io running
  rw [outcome] at effect still
  cases effect with
  | ignored other => exact absurd handled other
  | failed reason output handled before => exact absurd rfl (still reason)
  | options state type => rw [type]; rfl
  | described state type downloaded => rw [type]; rfl
  | fetched state type absent fetch => rw [type]; rfl
  | @setup rtp rtcp session text state type sockets =>
      rw [type]
      exact setupClient_phase variant s.streamclient rtp rtcp session
  | played state type absent free => rw [type]; rfl
  | unopened state type downloaded unopened => exact absurd rfl (still _)
  | launched state type downloaded opened => rw [type]; rfl

/-- Behind a message which is heard the connection has ended, or the client is in the next phase. -/
theorem handleRtsp_goesOn (hears : Hears i s) {io : RtspIo} {msg : RTSPMsg}
    (nonempty : io.received ≠ []) (read : readMessage io.received = .ok msg)
    (noticed : ¬ Ignored (phaseOf s.streamclient) (readMessage io.received)) :
    ¬ Hears i (s.handleRtsp variant url i io).1 ∨
      msg.type ≠ .teardown ∧ phaseOf (s.handleRtsp variant url i io).1.streamclient =
        (phaseOf s.streamclient).next msg.type := by
  rw [handleRtsp_read hears nonempty read]
  by_cases teardown : msg.type = .teardown
  · exact Or.inl (act_teardown teardown)
  · have handled : Handled s.streamclient.state msg.type := by
      by_contra other
      exact noticed ⟨msg, read, teardown, other⟩
    by_cases running : (ServerState.act variant url { s with rtspmsg := msg } i io).1.Running
    · exact Or.inr ⟨teardown, act_phase hears.1 teardown handled running⟩
    · exact Or.inl fun hears => running hears.1

end Receipt

/-! ## The service of two streams -/

section Service

variable {variant : Variant} {url : List UInt8} {i : Int}

theorem Elsewhere.stored {s t : ServerState} (between : Elsewhere i s t) (msg : RTSPMsg) :
    Elsewhere i { s with rtspmsg := msg } t :=
  ⟨between.before, between.after, between.client, between.connection⟩

/-- Where the connection has ended it does not matter what is still to be received. -/
theorem Service.of_deaf {s t : ServerState} {receipts others replies : List (List UInt8)}
    (served : Service variant url i s receipts replies t) (ended : ¬ Hears i s) :
    Service variant url i s others replies t := by
  induction served with
  | done => exact .deaf ended
  | deaf _ => exact .deaf ended
  | elsewhere between rest ih =>
      exact .elsewhere between (ih fun hears => ended ⟨between.before, between.connection hears.2⟩)
  | receipt hears possible rest ih => exact absurd hears ended

/-- Nor does the message which was stored last. -/
theorem Service.stored_of_deaf {s t : ServerState} {receipts replies : List (List UInt8)}
    (served : Service variant url i s receipts replies t) (ended : ¬ Hears i s)
    (others : List (List UInt8)) (msg : RTSPMsg) :
    ∃ msg', Service variant url i { s with rtspmsg := msg } others replies
      { t with rtspmsg := msg' } := by
  cases served with
  | done => exact ⟨msg, .deaf ended⟩
  | deaf _ => exact ⟨msg, .deaf ended⟩
  | @elsewhere _ middle _ _ _ between rest =>
      have still : ¬ Hears i middle := fun hears =>
        ended ⟨between.before, between.connection hears.2⟩
      exact ⟨t.rtspmsg, .elsewhere (between.stored msg) (rest.of_deaf still)⟩
  | receipt hears possible rest => exact absurd hears ended

theorem canRecv_peer {s : ServerState} (peer : s.kernel i = some .peer) {received : List UInt8}
    (fits : received.length ≤ bufSize) : s.CanRecv i bufSize received := by
  intro endpoint found
  obtain rfl := Option.some.inj (peer.symm.trans found)
  exact decide_eq_true fits

/-- Any bytes may be received from a client. -/
theorem possible_text {s : ServerState} (hears : Hears i s) {received : List UInt8}
    (proper : Receivable received) : (RtspIo.text received).possible s i = true := by
  simp [RtspIo.possible, RtspIo.text, canRecv_peer hears.2 proper.2]

/-- Other bytes may be received in the place of these. -/
theorem possible_received {s : ServerState} {io : RtspIo} (hears : Hears i s)
    (possible : io.possible s i = true) {received : List UInt8} (fits : received.length ≤ bufSize)
    (msg : RTSPMsg) :
    RtspIo.possible { s with rtspmsg := msg } i { io with received := received } = true := by
  have can : ServerState.CanRecv { s with rtspmsg := msg } i bufSize received :=
    canRecv_peer hears.2 fits
  simp only [RtspIo.possible, Bool.and_eq_true] at possible ⊢
  exact ⟨⟨decide_eq_true can, possible.1.2⟩, possible.2⟩

/-- A receipt which is ignored. -/
theorem Service.ignored {s t : ServerState} {received : List UInt8}
    {receipts replies : List (List UInt8)} (hears : Hears i s) (proper : Receivable received)
    {msg : RTSPMsg} (read : readMessage received = .ok msg) (teardown : msg.type ≠ .teardown)
    (other : ¬ Handled s.streamclient.state msg.type)
    (rest : Service variant url i { s with rtspmsg := msg } receipts replies t) :
    Service variant url i s (received :: receipts) replies t := by
  have outcome : s.handleRtsp variant url i (RtspIo.text received) =
      ({ s with rtspmsg := msg }, []) :=
    (handleRtsp_read hears proper.1 read).trans (act_ignored teardown other)
  have receipt := @Service.receipt variant url i s t (RtspIo.text received) receipts replies hears
    (possible_text hears proper)
  rw [outcome] at receipt
  exact receipt rest

/-- Up to the next message which is heard, a service only stores messages. -/
theorem Service.skip {requests : List (List UInt8)} (proper : ∀ request ∈ requests, Receivable request)
    {s : ServerState} (hears : Hears i s) {message : Except Undefined RTSPMsg}
    {behind : List (Except Undefined RTSPMsg)}
    (next : heard (phaseOf s.streamclient) requests = message :: behind) :
    ∃ msg request later, (∀ other ∈ request :: later, Receivable other) ∧
      readMessage request = message ∧
      heardBehind (phaseOf s.streamclient) later message = behind ∧
      ∀ replies t, Service variant url i { s with rtspmsg := msg } (request :: later) replies t →
        Service variant url i s requests replies t := by
  induction requests generalizing s with
  | nil => cases next
  | cons request later ih =>
      by_cases ignored : Ignored (phaseOf s.streamclient) (readMessage request)
      · rw [heard_ignored later ignored] at next
        obtain ⟨msg, read, teardown, other⟩ := ignored
        have properLater := fun other member => proper other (List.mem_cons_of_mem request member)
        have hears_ : Hears i { s with rtspmsg := msg } := hears
        obtain ⟨last, found, later', proper', read', behind', goesOn⟩ := ih properLater hears_ next
        refine ⟨last, found, later', proper', read', behind', fun replies t served => ?_⟩
        exact .ignored hears (proper request List.mem_cons_self) read teardown other
          (goesOn replies t served)
      · rw [heard_noticed later ignored] at next
        obtain ⟨rfl, rfl⟩ := List.cons.inj next
        exact ⟨s.rtspmsg, request, later, proper, rfl, rfl, fun replies t served => served⟩

/-- When nothing is heard in the requests, their service only stores messages. -/
theorem Service.nothing {requests : List (List UInt8)}
    (proper : ∀ request ∈ requests, Receivable request) {s : ServerState}
    (nothing : heard (phaseOf s.streamclient) requests = []) :
    ∃ msg, Service variant url i s requests [] { s with rtspmsg := msg } := by
  by_cases hears : Hears i s
  · induction requests generalizing s with
    | nil => exact ⟨s.rtspmsg, .done⟩
    | cons request later ih =>
        by_cases ignored : Ignored (phaseOf s.streamclient) (readMessage request)
        · rw [heard_ignored later ignored] at nothing
          obtain ⟨msg, read, teardown, other⟩ := ignored
          have properLater := fun other member => proper other (List.mem_cons_of_mem request member)
          obtain ⟨last, served⟩ := @ih properLater { s with rtspmsg := msg } nothing hears
          exact ⟨last, .ignored hears (proper request List.mem_cons_self) read teardown other served⟩
        · rw [heard_noticed later ignored] at nothing
          cases nothing
  · exact ⟨s.rtspmsg, .deaf hears⟩

/-! ## The number of replies -/

theorem repliesOf_talkOf (outputs : List Output) : repliesOf (talkOf outputs) = repliesOf outputs := by
  rw [repliesOf, talkOf, List.filterMap_filter]
  congr 1
  funext output
  cases output <;> rfl

theorem repliesOf_append (first second : List Output) :
    repliesOf (first ++ second) = repliesOf first ++ repliesOf second :=
  List.filterMap_append

/-- A message gets at most one reply. -/
theorem Answers.replies_le {client : Client} {msg : RTSPMsg} {io : RtspIo} {outcome : Outcome}
    (answers : Answers client msg i io outcome) : (repliesOf outcome.2).length ≤ 1 := by
  rw [← repliesOf_talkOf]
  cases answers with
  | silent quiet same =>
      rw [quiet]
      exact Nat.zero_le 1
  | answered said answer =>
      rw [said]
      exact Nat.le_refl 1

/-- A receipt gets at most one reply. -/
theorem handleRtsp_replies_le {s : ServerState} (running : s.Running) (io : RtspIo) :
    (repliesOf (s.handleRtsp variant url i io).2).length ≤ 1 := by
  rcases handleRtsp_outcome variant url i io running with
    ⟨reason, halted, -⟩ | ⟨received, prior, receive, still, outcome⟩
  · rw [halted, halt_eq, ← repliesOf_talkOf, talkOf_haltOutput]
    exact Nat.zero_le 1
  · have quiet : repliesOf prior = [] := by
      cases receive with
      | closed opened empty => rfl
      | message opened nonempty terminated parsed => rfl
    rw [outcome]
    split
    · rename_i type
      rw [repliesOf_append, quiet]
      exact (handleTeardown_answers type).replies_le
    · rw [repliesOf_append, quiet]
      exact (clientSwitch_answers still).replies_le

/-- There are never more replies than receipts. -/
theorem Service.length_le {s t : ServerState} {receipts replies : List (List UInt8)}
    (served : Service variant url i s receipts replies t) : replies.length ≤ receipts.length := by
  induction served with
  | done => exact Nat.le_refl 0
  | deaf ended => exact Nat.zero_le _
  | elsewhere between rest ih => exact ih
  | @receipt s t io receipts replies hears possible rest ih =>
      have one := @handleRtsp_replies_le variant url i s hears.1 io
      simp only [List.length_append, List.length_cons]
      omega

/-! ## Streams in which the same is heard -/

/-- The next message which is heard in the requests is handled in the surroundings of another
receipt. -/
theorem Service.replay {s : ServerState} {io : RtspIo} {requests : List (List UInt8)}
    (hears : Hears i s) (possible : io.possible s i = true)
    (proper : ∀ request ∈ requests, Receivable request) {message : Except Undefined RTSPMsg}
    {behind : List (Except Undefined RTSPMsg)}
    (next : heard (phaseOf s.streamclient) requests = message :: behind) (msg : RTSPMsg) :
    ∃ last request later, request ≠ [] ∧ (∀ other ∈ later, Receivable other) ∧
      readMessage request = message ∧
      heardBehind (phaseOf s.streamclient) later message = behind ∧
      ∀ replies t, Service variant url i
          (ServerState.handleRtsp variant url { s with rtspmsg := last } i
            { io with received := request }).1 later replies t →
        Service variant url i { s with rtspmsg := msg } requests
          (repliesOf (ServerState.handleRtsp variant url { s with rtspmsg := last } i
            { io with received := request }).2 ++ replies) t := by
  obtain ⟨last, request, later, proper', read, behind', goesOn⟩ :=
    @Service.skip variant url i requests proper { s with rtspmsg := msg } hears message behind next
  obtain ⟨nonempty, fits⟩ := proper' request List.mem_cons_self
  refine ⟨last, request, later, nonempty,
    fun other member => proper' other (List.mem_cons_of_mem request member), read, behind',
    fun replies t rest => goesOn _ t ?_⟩
  exact @Service.receipt variant url i { s with rtspmsg := last } t { io with received := request }
    later replies hears (possible_received hears possible fits last) rest

/-- Where the same is heard in two streams, the service of the one can be done for the other. The
states of the two services differ in the message which was stored last. -/
theorem Service.same_heard {s t : ServerState} {receipts requests replies : List (List UInt8)}
    (served : Service variant url i s receipts replies t)
    (proper : ∀ received ∈ receipts, Receivable received)
    (proper' : ∀ request ∈ requests, Receivable request)
    (same : heard (phaseOf s.streamclient) receipts = heard (phaseOf s.streamclient) requests)
    (msg : RTSPMsg) :
    ∃ msg', Service variant url i { s with rtspmsg := msg } requests replies
      { t with rtspmsg := msg' } := by
  induction served generalizing requests msg with
  | @done s => exact @Service.nothing variant url i requests proper' { s with rtspmsg := msg } same.symm
  | @deaf s receipts ended =>
      exact (@Service.deaf variant url i s receipts ended).stored_of_deaf ended requests msg
  | @elsewhere s middle t receipts replies between rest ih =>
      rw [← between.client] at same
      obtain ⟨msg', served⟩ := ih proper proper' same middle.rtspmsg
      exact ⟨msg', .elsewhere (between.stored msg) served⟩
  | @receipt s t io receipts replies hears possible rest ih =>
      have nonempty : io.received ≠ [] := (proper io.received List.mem_cons_self).1
      have proper := fun other member => proper other (List.mem_cons_of_mem io.received member)
      by_cases ignored : Ignored (phaseOf s.streamclient) (readMessage io.received)
      · -- A receipt which is ignored has no counterpart among the requests.
        rw [heard_ignored receipts ignored] at same
        obtain ⟨stored, read, teardown, other⟩ := ignored
        rw [(handleRtsp_read hears nonempty read).trans (act_ignored teardown other)] at ih ⊢
        exact ih proper proper' same msg
      · rw [heard_noticed receipts ignored] at same
        obtain ⟨last, request, later, nonempty', properLater, read, behind, replay⟩ :=
          @Service.replay variant url i s io requests hears possible proper' _ _ same.symm msg
        cases message : readMessage io.received with
        | error reason =>
            rw [message] at read
            rw [handleRtsp_unread hears nonempty message] at rest ⊢
            have ended : ¬ Hears i (s.halt (.undefined reason)).1 := fun hears => hears.1 _ rfl
            obtain ⟨msg', served⟩ := rest.stored_of_deaf ended later last
            rw [@handleRtsp_unread variant url i { s with rtspmsg := last } hears
              { io with received := request } reason nonempty' read] at replay
            exact ⟨msg', replay _ _ served⟩
        | ok stored =>
            rw [message] at read behind
            rw [handleRtsp_same hears nonempty nonempty' message read last] at replay
            suffices served : ∃ msg', Service variant url i (s.handleRtsp variant url i io).1 later
                replies { t with rtspmsg := msg' } by
              obtain ⟨msg', served⟩ := served
              exact ⟨msg', replay _ _ served⟩
            rcases handleRtsp_goesOn hears nonempty message ignored with ended | ⟨teardown, phase⟩
            · exact ⟨t.rtspmsg, rest.of_deaf ended⟩
            · simp only [heardBehind, if_neg teardown] at behind
              exact ih proper properLater (phase ▸ behind.symm)
                (s.handleRtsp variant url i io).1.rtspmsg

/-- The service of a stream in which the same is heard as in its requests comes to what theirs can
come to. -/
theorem recovered_of_sameHeard {s : ServerState} {delivery : Delivery}
    (same : SameHeard s.streamclient delivery) : Recovered variant url i s delivery := by
  intro replies client halt
  constructor
  · rintro ⟨t, served, rfl, rfl⟩
    obtain ⟨msg, served'⟩ := served.same_heard delivery.receivable
      delivery.wholeRequests_receivable same s.rtspmsg
    exact ⟨_, served', rfl, rfl⟩
  · rintro ⟨t, served, rfl, rfl⟩
    obtain ⟨msg, served'⟩ := served.same_heard delivery.wholeRequests_receivable
      delivery.receivable same.symm s.rtspmsg
    exact ⟨_, served', rfl, rfl⟩

/-! ## Runs -/

/-- Steps of the machine, with the receipts on the descriptor among them. All the others have nothing
to do with the client. -/
inductive Attended (variant : Variant) (url : List UInt8) (i : Int) :
    ServerState → List (List UInt8) → List Output → ServerState → Prop where
  | nil {s} : Attended variant url i s [] [] s
  | receipt {s t u io rest output receipts outputs} (pc : s.pc = .dispatch (i :: rest))
      (peer : s.kernel i = some .peer) (taken : step variant url s (.rtsp io) = .ok (t, output))
      (later : Attended variant url i t receipts outputs u) :
      Attended variant url i s (io.received :: receipts) (output ++ outputs) u
  | other {s t u input output receipts outputs}
      (taken : step variant url s input = .ok (t, output)) (silent : talkOf output = [])
      (connection : t.kernel i = some .peer → s.kernel i = some .peer)
      (later : Attended variant url i t receipts outputs u) :
      Attended variant url i s receipts (output ++ outputs) u

theorem Attended.running {s t : ServerState} {receipts : List (List UInt8)} {outputs : List Output}
    (attended : Attended variant url i s receipts outputs t) (running : t.Running) : s.Running := by
  induction attended with
  | nil => exact running
  | receipt pc peer taken later ih => exact running_before taken (ih running)
  | other taken silent connection later ih => exact running_before taken (ih running)

/-- What a run does for a client is a service. -/
theorem Attended.served {s t : ServerState} {receipts : List (List UInt8)} {outputs : List Output}
    (attended : Attended variant url i s receipts outputs t) (running : t.Running) :
    Service variant url i s receipts (repliesOf outputs) t := by
  induction attended with
  | nil => exact .done
  | @receipt s t u io rest output receipts outputs pc peer taken later ih =>
      have runs : s.Running := running_before taken (later.running running)
      rw [step] at taken
      obtain ⟨i', rest', pc', branch, possible, same⟩ := dispatch_cases taken
      obtain ⟨rfl, rfl⟩ := List.cons.inj (MainPc.dispatch.inj (pc.symm.trans pc'))
      obtain ⟨rfl, rfl⟩ := Prod.mk.inj same
      have between : Elsewhere i s { s with pc := .dispatch rest } :=
        ⟨runs, dispatch_running s rest, rfl, id⟩
      rw [repliesOf_append]
      exact .elsewhere between (.receipt ⟨dispatch_running s rest, peer⟩ possible (ih running))
  | @other s t u input output receipts outputs taken silent connection later ih =>
      have quiet : repliesOf output = [] := by
        rw [← repliesOf_talkOf, silent]
        rfl
      have client : t.streamclient = s.streamclient := by
        have effect := step_talk taken
        rw [silent] at effect
        cases effect with
        | silent same => exact same
      have after := later.running running
      rw [repliesOf_append, quiet, List.nil_append]
      exact .elsewhere ⟨running_before taken after, after, client, connection⟩ (ih running)

/-- A run in which the same is heard in the stream as in its requests comes to what their service
can come to. -/
theorem Attended.recovered {s t : ServerState} {delivery : Delivery} {outputs : List Output}
    (attended : Attended variant url i s delivery.receipts outputs t) (running : t.Running)
    (same : SameHeard s.streamclient delivery) :
    Results variant url i s delivery.wholeRequests (repliesOf outputs) t.streamclient
      (haltOf t.pc) := by
  obtain ⟨msg, served⟩ := (attended.served running).same_heard delivery.receivable
    delivery.wholeRequests_receivable same s.rtspmsg
  exact ⟨_, served, rfl, rfl⟩

/-! ## A client which has just connected -/

/-- A client has connected. -/
theorem connected_runs : ∃ result,
    (machine .server someUrl).exec [] (startState .server) (connect 6) = .ok result ∧
      Hears 6 result.2 ∧ result.2.streamclient.state = .cliconnected :=
  ⟨_, rfl, ⟨running_of_select rfl, rfl⟩, rfl⟩

/-- A DESCRIBE with a body. -/
def describeWithBody : Request where
  bytes := ascii "DESCRIBE rtsp://h/v RTSP/1.0\r\nCSeq: 1\r\nContent-Length: 4\r\n\r\nbody"
  method := ⟨.describe, rfl, RtspMsgType.noConfusion⟩
  complete := by
    refine ⟨[⟨ascii "DESCRIBE rtsp://h/v RTSP/1.0", by decide, by decide⟩,
      ⟨ascii "CSeq: 1", by decide, by decide⟩, ⟨ascii "Content-Length: 4", by decide, by decide⟩],
      ascii "body", List.cons_ne_nil _ _, rfl, rfl, fun none => ?_, fun value member => ?_⟩
    · cases none
    · exact List.mem_singleton.mp member
  text := by decide
  fits := by decide

/-- Behind its header block a DESCRIBE is cut in two. -/
def describeCut : Delivery where
  requests := [describeWithBody]
  receipts := [ascii "DESCRIBE rtsp://h/v RTSP/1.0\r\nCSeq: 1\r\nContent-Length: 4\r\n\r\n", ascii "body"]
  nonempty := by decide
  fits := by decide
  whole := by decide

/-- What it is read as, with its body or without. -/
def describeMessage : RTSPMsg :=
  { RTSPMsg.zero with
    type := .describe
    fields := fType ||| fCseq ||| fContlen
    cseq := 1
    contentlen := 4 }

/-- Of that stream the DESCRIBE is heard, and its body is not. -/
theorem describeCut_heard (setups : Nat) :
    heard ⟨.cliconnected, setups⟩ describeCut.receipts =
      heard ⟨.cliconnected, setups⟩ describeCut.wholeRequests := by
  have header : readMessage (ascii "DESCRIBE rtsp://h/v RTSP/1.0\r\nCSeq: 1\r\nContent-Length: 4\r\n\r\n") =
    .ok describeMessage := rfl
  have request : readMessage describeWithBody.bytes = .ok describeMessage := rfl
  have body : readMessage (ascii "body") = .ok RTSPMsg.zero := rfl
  have ignored : Ignored ⟨.sdpsent, setups⟩ (readMessage (ascii "body")) :=
    ⟨_, body, RtspMsgType.noConfusion, id⟩
  have noticed : ¬ Ignored ⟨.cliconnected, setups⟩ (.ok describeMessage) := by
    rintro ⟨msg, ⟨⟩, -, other⟩
    exact other trivial
  have front := @heard_noticed ⟨.cliconnected, setups⟩ _ [ascii "body"] (header ▸ noticed)
  have whole := @heard_noticed ⟨.cliconnected, setups⟩ describeWithBody.bytes [] (request ▸ noticed)
  rw [header] at front
  rw [request] at whole
  exact (front.trans (congrArg _ (heard_ignored [] ignored))).trans whole.symm

/-- In the stream of a client which has just connected. -/
theorem recovered_of_sameHeard_describeCut : ∃ result,
    (machine .server someUrl).exec [] (startState .server) (connect 6) = .ok result ∧
      Hears 6 result.2 ∧ Recovered .server someUrl 6 result.2 describeCut := by
  obtain ⟨result, computed, hears, state⟩ := connected_runs
  refine ⟨result, computed, hears, recovered_of_sameHeard ?_⟩
  rw [SameHeard, phaseOf, state]
  exact describeCut_heard _

/-- An OPTIONS without a body. -/
def optionsOne : Request where
  bytes := ascii "OPTIONS * RTSP/1.0\r\nCSeq: 1\r\n\r\n"
  method := ⟨.options, rfl, RtspMsgType.noConfusion⟩
  complete := by
    refine ⟨[⟨ascii "OPTIONS * RTSP/1.0", by decide, by decide⟩,
      ⟨ascii "CSeq: 1", by decide, by decide⟩], [], List.cons_ne_nil _ _, rfl, rfl,
      fun _ => rfl, fun value member => ?_⟩
    cases member
  text := by decide
  fits := by decide

/-- It is cut behind its first line. -/
def optionsCut : Delivery where
  requests := [optionsOne]
  receipts := [ascii "OPTIONS * RTSP/1.0\r\n", ascii "CSeq: 1\r\n\r\n"]
  nonempty := by decide
  fits := by decide
  whole := by decide

/-- Neither half is read as anything: both leave the zeroed message, which is an OPTIONS. -/
theorem optionsCut_read : ∀ received ∈ optionsCut.receipts, readMessage received = .ok RTSPMsg.zero := by
  intro received member
  rcases List.mem_cons.mp member with rfl | member
  · rfl
  · obtain rfl := List.mem_singleton.mp member
    rfl

/-- Each half is answered, and the client may go on. -/
theorem Service.zeroed {s t : ServerState} {received : List UInt8}
    {receipts replies : List (List UInt8)} (hears : Hears i s)
    (state : s.streamclient.state = .cliconnected) (proper : Receivable received)
    (read : readMessage received = .ok RTSPMsg.zero)
    (rest : Service variant url i
      { s with
        rtspmsg := RTSPMsg.zero
        streamclient := (rtspOptions RTSPMsg.zero s.streamclient).1 } receipts replies t) :
    Service variant url i s (received :: receipts)
      ((rtspOptions RTSPMsg.zero s.streamclient).2 :: replies) t := by
  have outcome : s.handleRtsp variant url i (RtspIo.text received) =
      ({ s with
          rtspmsg := RTSPMsg.zero
          streamclient := (rtspOptions RTSPMsg.zero s.streamclient).1 },
        [.acted i .options, .reply i (rtspOptions RTSPMsg.zero s.streamclient).2]) := by
    have other : RTSPMsg.zero.type ≠ .teardown := RtspMsgType.noConfusion
    have type : RTSPMsg.zero.type = .options := rfl
    rw [@handleRtsp_read variant url i s hears (RtspIo.text received) RTSPMsg.zero proper.1 read,
      ServerState.act, if_neg other, ServerState.clientSwitch]
    simp only [state, type]
  have receipt := @Service.receipt variant url i s t (RtspIo.text received) receipts replies hears
    (possible_text hears proper)
  rw [outcome] at receipt
  exact receipt rest

/-- The halves of one request get two replies, the request gets one. -/
theorem recovered_not_always : ¬ ∀ variant url trace s, (machine variant url).Runs trace s →
    ∀ i delivery, Hears i s → Recovered variant url i s delivery := by
  intro all
  obtain ⟨result, computed, hears, state⟩ := connected_runs
  have run := Machine.Runs.of_exec (startState_initial .server someUrl) computed
  have proper := optionsCut.receivable
  have first : ascii "OPTIONS * RTSP/1.0\r\n" ∈ optionsCut.receipts := List.mem_cons_self
  have second : ascii "CSeq: 1\r\n\r\n" ∈ optionsCut.receipts :=
    List.mem_cons_of_mem _ List.mem_cons_self
  have cut := @Service.zeroed .server someUrl 6 _ _ _ _ _ hears state (proper _ first)
    (optionsCut_read _ first) (.zeroed hears state (proper _ second) (optionsCut_read _ second) .done)
  obtain ⟨t, whole, -⟩ := (all _ _ _ _ run 6 optionsCut hears _ _ _).mp ⟨_, cut, rfl, rfl⟩
  have few := whole.length_le
  simp [Delivery.wholeRequests, optionsCut] at few

end Service

end Http2Rtsp.Server
