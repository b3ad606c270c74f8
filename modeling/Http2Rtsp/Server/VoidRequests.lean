import Http2Rtsp.Server.Behaviour

/-!
# Requests which were not accepted

What the RTSP branch does when it has received no request: the peer has closed
the connection, `parse_rtsp` has rejected the text, or the header block is not
complete. The branch looks at `rtspmsg` in each of these cases. After a close it
is the message before; otherwise it is zeroed, and a zeroed message is an
OPTIONS request.
-/

namespace Http2Rtsp.Server

open Http2Rtsp.Std Http2Rtsp.Message Http2Rtsp.Semantics

/-- `recv` has returned 0, or `parse_rtsp` returns -1, or the bytes hold no complete header block. -/
def VoidRequest (received : List UInt8) : Prop :=
  received = [] ∨ ¬ crlfcrlf <:+: received ∨
    ∃ text msg, cString bufSize received = some text ∧ parseRtsp text = .ok (-1, msg)

/-- The server goes on, replies nothing, acts on nothing, and at most notes that the peer has
closed the connection. -/
structure Quiet (s after : ServerState) (i : Int) (received : List UInt8) (output : List Output) :
    Prop where
  running : after.Running
  silent : ∀ o ∈ output, o = .disconnected i
  streamclient : after.streamclient = s.streamclient ∨
    (received = [] ∧ after.streamclient = { s.streamclient with state := .noclient })

/-- A void request is harmless: after a close the message before was no TEARDOWN; otherwise the
buffer holds a NUL behind what was received, and the client is not in `CLICONNECTED`. -/
def HarmlessRequest (s : ServerState) (received : List UInt8) : Prop :=
  (received = [] → s.rtspmsg.type ≠ .teardown) ∧
    (received ≠ [] → cString bufSize received ≠ none ∧ s.streamclient.state ≠ .cliconnected)

/-- In this state this input is the receipt of a void request on a descriptor of the RTSP branch. -/
def ReceivesVoid (s : ServerState) (input : Input) (i : Int) (received : List UInt8) : Prop :=
  ∃ io rest, input = .rtsp io ∧ s.pc = .dispatch (i :: rest) ∧ s.kernel i ≠ none ∧
    io.received = received ∧ VoidRequest received

/-- A step which receives a void request is quiet. -/
def QuietOnVoid (s : ServerState) (input : Input) (after : ServerState) (output : List Output) :
    Prop :=
  ∀ i received, ReceivesVoid s input i received → Quiet s after i received output

/-- A void request which is received in this state is harmless. -/
def HarmlessOnVoid (s : ServerState) (input : Input) : Prop :=
  ∀ i received, ReceivesVoid s input i received → HarmlessRequest s received

/-! ## The handler -/

/-- A void text in a terminated buffer leaves a zeroed message. -/
theorem VoidRequest.parses {received text : List UInt8} (void : VoidRequest received)
    (nonempty : received ≠ []) (terminated : cString bufSize received = some text) :
    ∃ result, parseRtsp text = .ok (result, RTSPMsg.zero) := by
  rcases void with empty | absent | ⟨text', msg', terminated', rejected⟩
  · exact absurd empty nonempty
  · have noBlock : ¬ crlfcrlf <:+: text := fun block =>
      absent (block.trans (cString_begins terminated).isInfix)
    exact ⟨1, parseRtsp_of_no_block noBlock⟩
  · obtain rfl := Option.some.inj (terminated.symm.trans terminated')
    obtain rfl := parseRtsp_rejected rejected
    exact ⟨-1, rejected⟩

/-- A teardown block is never quiet: it halts or is put out. -/
theorem TeardownEffect.not_quiet {variant : Variant} {s received after : ServerState} {i : Int}
    {io : RtspIo} {before output : List Output}
    (effect : TeardownEffect variant received i io after output) :
    ¬ Quiet s after i io.received (before ++ output) := by
  intro quiet
  cases effect with
  | locked taken => exact quiet.running _ rfl
  | dangling free dead => exact quiet.running _ rfl
  | done free armed =>
      have silent := quiet.silent (.acted i .teardown) (by simp [ServerState.tearDown])
      cases silent

/-- What is received from a peer which has closed. -/
theorem receiveRtsp_closed {s : ServerState} {i : Int} (opened : s.kernel i ≠ none) :
    s.receiveRtsp i [] =
      ({ s.close i with
        masterfds := fdClr s.masterfds i
        streamclient := { s.streamclient with state := .noclient } }, [.disconnected i]) := by
  rw [ServerState.receiveRtsp, if_neg opened, if_pos rfl]

/-- A close is handled quietly exactly when no TEARDOWN was left over. -/
theorem handleRtsp_closed_quiet_iff {variant : Variant} {url : List UInt8} {s : ServerState}
    {i : Int} {io : RtspIo} (running : s.Running) (opened : s.kernel i ≠ none)
    (empty : io.received = []) :
    Quiet s (s.handleRtsp variant url i io).1 i io.received (s.handleRtsp variant url i io).2 ↔
      s.rtspmsg.type ≠ .teardown := by
  have receive := receiveRtsp_closed opened
  rw [← empty] at receive
  constructor
  · intro quiet type
    rw [handleRtsp_teardown receive running type] at quiet
    exact (handleTeardown_cases variant _ i io).not_quiet quiet
  · intro type
    rw [handleRtsp_switch receive running type, clientSwitch_noclient rfl]
    exact ⟨running, by simp, Or.inr ⟨empty, rfl⟩⟩

/-- What is received when a void request is parsed: a zeroed message, which is an OPTIONS. -/
theorem receiveRtsp_void {s : ServerState} {i : Int} {received text : List UInt8}
    (opened : s.kernel i ≠ none) (nonempty : received ≠ []) (void : VoidRequest received)
    (terminated : cString bufSize received = some text) :
    s.receiveRtsp i received = ({ s.recv i received with rtspmsg := RTSPMsg.zero }, []) := by
  obtain ⟨result, parsed⟩ := void.parses nonempty terminated
  rw [ServerState.receiveRtsp, if_neg opened, if_neg nonempty]
  simp only [terminated, parsed]

/-- A void text is handled quietly exactly when it is terminated and meets no client which waits
for its OPTIONS. -/
theorem handleRtsp_void_quiet_iff {variant : Variant} {url : List UInt8} {s : ServerState} {i : Int}
    {io : RtspIo} (running : s.Running) (opened : s.kernel i ≠ none) (nonempty : io.received ≠ [])
    (void : VoidRequest io.received) :
    Quiet s (s.handleRtsp variant url i io).1 i io.received (s.handleRtsp variant url i io).2 ↔
      cString bufSize io.received ≠ none ∧ s.streamclient.state ≠ .cliconnected := by
  cases terminated : cString bufSize io.received with
  | none =>
      have halted : s.receiveRtsp i io.received = s.halt (.undefined .unterminated) := by
        rw [ServerState.receiveRtsp, if_neg opened, if_neg nonempty]
        simp only [terminated]
      rw [ServerState.handleRtsp, halted, andThen_halt]
      refine iff_of_false (fun quiet => quiet.running _ rfl) fun harmless => harmless.1 rfl
  | some text =>
      have receive := receiveRtsp_void opened nonempty void terminated
      have notTeardown : RTSPMsg.zero.type ≠ .teardown := by simp [RTSPMsg.zero]
      rw [handleRtsp_switch receive running notTeardown]
      simp only [ne_eq, reduceCtorEq, not_false_eq_true, true_and, List.nil_append]
      cases state : s.streamclient.state with
      | cliconnected =>
          refine iff_of_false (fun quiet => ?_) fun other => other rfl
          have acted : ServerState.clientSwitch variant url
              { s.recv i io.received with rtspmsg := RTSPMsg.zero } i io =
              ({ s.recv i io.received with
                  rtspmsg := RTSPMsg.zero
                  streamclient := (rtspOptions RTSPMsg.zero s.streamclient).1 },
                [.acted i .options, .reply i (rtspOptions RTSPMsg.zero s.streamclient).2]) := by
            simp only [ServerState.clientSwitch, ServerState.recv, state, RTSPMsg.zero]
          rw [acted] at quiet
          cases quiet.silent (.acted i .options) List.mem_cons_self
      | noclient | sdpsent | setupcomplete | streaming =>
          refine iff_of_true ?_ fun same => by cases same
          have ignored : ServerState.clientSwitch variant url
              { s.recv i io.received with rtspmsg := RTSPMsg.zero } i io =
              ({ s.recv i io.received with rtspmsg := RTSPMsg.zero }, []) := by
            simp only [ServerState.clientSwitch, ServerState.recv, state, RTSPMsg.zero]
          rw [ignored]
          exact ⟨running, by simp, Or.inl rfl⟩

/-- Both together. -/
theorem handleRtsp_quiet_iff {variant : Variant} {url : List UInt8} {s : ServerState} {i : Int}
    {io : RtspIo} (running : s.Running) (opened : s.kernel i ≠ none)
    (void : VoidRequest io.received) :
    Quiet s (s.handleRtsp variant url i io).1 i io.received (s.handleRtsp variant url i io).2 ↔
      HarmlessRequest s io.received := by
  by_cases empty : io.received = []
  · rw [handleRtsp_closed_quiet_iff running opened empty]
    simp [HarmlessRequest, empty]
  · rw [handleRtsp_void_quiet_iff running opened empty void]
    simp [HarmlessRequest, empty]

/-! ## Runs -/

/-- One step: it is quiet on a void request exactly when the request is harmless. -/
theorem quietOnVoid_iff {variant : Variant} {url : List UInt8} {s after : ServerState} {input : Input}
    {output : List Output} (taken : step variant url s input = .ok (after, output)) :
    QuietOnVoid s input after output ↔ HarmlessOnVoid s input := by
  refine forall_congr' fun i => forall_congr' fun received => forall_congr' fun void => ?_
  obtain ⟨io, rest, rfl, pc, opened, rfl, void⟩ := void
  rw [step] at taken
  obtain ⟨i', rest', pc', -, -, same⟩ := dispatch_cases taken
  obtain ⟨rfl, rfl⟩ : i = i' ∧ rest = rest' := by simpa [pc] using pc'
  obtain ⟨rfl, rfl⟩ := Prod.mk.inj same
  have exact_ := @handleRtsp_quiet_iff variant url { s with pc := .dispatch rest } i io
    (dispatch_running s rest) opened void
  refine Iff.trans ⟨?_, ?_⟩ exact_
  · rintro ⟨running, silent, client⟩
    exact ⟨running, silent, client⟩
  · rintro ⟨running, silent, client⟩
    exact ⟨running, silent, client⟩

/-- In every run, every void request is handled quietly exactly when every one is harmless. -/
theorem voidRequests_quiet_iff {variant : Variant} {url : List UInt8}
    {trace : List (Entry ServerState Input Output)} {state : ServerState}
    (run : (machine variant url).Runs trace state) :
    (machine variant url).EveryStep QuietOnVoid trace ↔
      ∀ entry ∈ trace, HarmlessOnVoid entry.before entry.input := by
  apply run.everyStep_iff fun _ => True
  · intro start valid
    trivial
  · intro before input after output known taken
    trivial
  · intro before input after output known taken
    exact quietOnVoid_iff taken

/-- A client connects and sends half a line. -/
def greeting : List Input := connect 6 ++ request 6 (RtspIo.text (ascii "HELLO"))

/-- The last steps of this script are taken, and the client gets a reply to an OPTIONS. -/
theorem greeting_runs (variant : Variant) (url : List UInt8) : ∃ result entry after,
    (machine variant url).exec [] (startState variant) greeting = .ok result ∧
    entry ∈ result.1 ∧ entry.input = .rtsp (RtspIo.text (ascii "HELLO")) ∧
    entry.before.pc = .dispatch [6] ∧ entry.before.kernel 6 = some .peer ∧
    entry.before.streamclient.state = .cliconnected ∧
    (machine variant url).step entry.before entry.input = .ok (after, entry.output) := by
  cases variant <;>
    exact ⟨_, _, _, rfl, .tail _ (.tail _ (.tail _ (.tail _ (.head _)))), rfl, rfl, rfl, rfl, rfl⟩

/-- Half a line is a void request. -/
theorem hello_void : VoidRequest (ascii "HELLO") := by
  exact Or.inr (Or.inl (strstr_eq_none_iff.mp rfl))

/-- To a client which waits for its OPTIONS it does harm. -/
theorem hello_harms {s : ServerState} {input : Input}
    (heard : input = .rtsp (RtspIo.text (ascii "HELLO"))) (pc : s.pc = .dispatch [6])
    (opened : s.kernel 6 = some .peer) (client : s.streamclient.state = .cliconnected) :
    ¬ HarmlessOnVoid s input := by
  intro harmless
  have received : ReceivesVoid s input 6 (ascii "HELLO") :=
    ⟨RtspIo.text (ascii "HELLO"), [], heard, pc, by simp [opened], rfl, hello_void⟩
  exact ((harmless 6 _ received).2 (by decide)).2 client

/-- Half a line is not handled quietly, and it is not harmless. -/
theorem voidRequests_quiet_iff_greeting : ∃ result,
    (machine .server []).exec [] (startState .server) greeting = .ok result ∧
      ¬ (machine .server []).EveryStep QuietOnVoid result.1 ∧
      ¬ ∀ entry ∈ result.1, HarmlessOnVoid entry.before entry.input := by
  obtain ⟨result, entry, after, computed, member, input, pc, opened, client, -⟩ :=
    greeting_runs .server []
  have run := Machine.Runs.of_exec (startState_initial .server []) computed
  have harms : ¬ ∀ entry ∈ result.1, HarmlessOnVoid entry.before entry.input := fun harmless =>
    hello_harms input pc opened client (harmless entry member)
  exact ⟨result, computed, mt (voidRequests_quiet_iff run).mp harms, harms⟩

/-- Half a line is answered as an OPTIONS request. -/
theorem voidRequests_not_always_quiet : ¬ ∀ variant url trace state,
    (machine variant url).Runs trace state → (machine variant url).EveryStep QuietOnVoid trace := by
  intro all
  obtain ⟨result, entry, after, computed, member, input, pc, opened, client, taken⟩ :=
    greeting_runs .server []
  have run := Machine.Runs.of_exec (startState_initial .server []) computed
  have quiet := all .server [] result.1 result.2 run entry member after taken
  exact hello_harms input pc opened client ((quietOnVoid_iff taken).mp quiet)

end Http2Rtsp.Server
