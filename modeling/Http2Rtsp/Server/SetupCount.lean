import Http2Rtsp.Server.ClientRecord
import Http2Rtsp.Server.Session

/-!
# SETUPs of a connection

`setupsreceived` tells the audio SETUP from the video SETUP. It counts the SETUPs
of the current connection as long as each connection starts with a fresh record;
a connection which ends without TEARDOWN leaves its record to the next one.
-/

namespace Http2Rtsp.Server

open Http2Rtsp.Std Http2Rtsp.Message Http2Rtsp.Semantics

/-- The record is as `init_client` sets it, apart from `rtspfd` and `state`. -/
def Unused (client : Client) : Prop := { client with rtspfd := -1, state := .noclient } = initClient

instance (client : Client) : Decidable (Unused client) :=
  decidable_of_iff (client.session = 0 ∧ client.cseq = 0 ∧ client.setupsreceived = 0 ∧
      client.serverRtpVideoPort = 50508 ∧ client.serverRtcpVideoPort = 50509 ∧
      client.serverRtpAudioPort = 50510 ∧ client.serverRtcpAudioPort = 50511 ∧
      client.videofds = (-1, -1) ∧ client.audiofds = (-1, -1)) <| by
    cases client
    simp [Unused, initClient]
    tauto

/-- The pair of server ports a SETUP is to open after this many SETUPs of its connection. -/
def pairPorts (client : Client) : Nat → Nat × Nat
  | 0 => (client.serverRtpAudioPort, client.serverRtcpAudioPort)
  | _ => (client.serverRtpVideoPort, client.serverRtcpVideoPort)

/-- The pair of server ports a SETUP opens, whatever sockets it gets. -/
def OpensPair (variant : Variant) (client : Client) (ports : Nat × Nat) : Prop :=
  ∀ rtp rtcp, (setupSockets variant { client with setupsreceived := client.setupsreceived + 1 }
    rtp rtcp).2 = ports

/-- The SETUPs are counted for the connection. -/
structure SetupsCounted (variant : Variant) (past : List Output) (s : ServerState) : Prop where
  /-- A client which was just accepted has a fresh record. -/
  fresh : ∀ earlier fd, past = earlier ++ [.connected fd] →
    s.streamclient = { initClient with rtspfd := fd, state := .cliconnected }
  /-- A SETUP which is due opens the audio pair if it is the first one of the connection, else the
  video pair, and the sockets lead to the client connected. -/
  due : s.streamclient.state = .sdpsent → ∃ session, sessionOf past = some session ∧
    session.fd = s.streamclient.rtspfd ∧ session.setups < 2 ∧
    OpensPair variant s.streamclient (pairPorts s.streamclient session.setups)
  /-- `SETUPCOMPLETE` means two SETUPs of the connection. -/
  complete : s.streamclient.state = .setupcomplete → ∃ session, sessionOf past = some session ∧
    session.fd = s.streamclient.rtspfd ∧ session.setups = 2

/-- What has to be true of data in the RTSP branch: a connection which ends without TEARDOWN leaves
nothing on record, and a SETUP which is due comes from the client connected. -/
structure KeepsCount (s : ServerState) (i : Int) (received : List UInt8) : Prop where
  closes : s.kernel i ≠ none → received = [] → s.rtspmsg.type ≠ .teardown → Unused s.streamclient
  speaker : s.streamclient.state = .sdpsent → HasType received .setup → i = s.streamclient.rtspfd

instance (s : ServerState) (i : Int) (received : List UInt8) :
    Decidable (KeepsCount s i received) :=
  decidable_of_iff ((s.kernel i ≠ none → received = [] → s.rtspmsg.type ≠ .teardown →
      Unused s.streamclient) ∧
    (s.streamclient.state = .sdpsent → HasType received .setup → i = s.streamclient.rtspfd)) <| by
    constructor
    · rintro ⟨closes, speaker⟩
      exact ⟨closes, speaker⟩
    · rintro ⟨closes, speaker⟩
      exact ⟨closes, speaker⟩

/-- The condition on the steps of a run. -/
def Counts (_past : List Output) (s : ServerState) : Input → Prop
  | .rtsp io =>
      match s.pc with
      | .dispatch (i :: _) => KeepsCount s i io.received
      | _ => True
  | _ => True

instance (past : List Output) (s : ServerState) : (input : Input) → Decidable (Counts past s input)
  | .rtsp io =>
      match pc : s.pc with
      | .dispatch (i :: _) =>
          decidable_of_iff (KeepsCount s i io.received) <| by simp only [Counts, pc]
      | .dispatch [] => isTrue <| by simp only [Counts, pc]
      | .select => isTrue <| by simp only [Counts, pc]
      | .halted _ => isTrue <| by simp only [Counts, pc]
  | .timeout .. | .interrupted | .ready _ | .accept _ | .datagram _ | .media _ | .rearm _
  | .filler .. => isTrue trivial

/-! ## The invariant -/

/-- What `setupsreceived` is in each state of the client. -/
structure CountFacts (past : List Output) (s : ServerState) : Prop where
  idle : s.streamclient.state = .noclient →
    Unused s.streamclient ∨ ∃ reason, s.pc = .halted reason
  current : s.streamclient.state ≠ .noclient → ∃ session, sessionOf past = some session ∧
    session.fd = s.streamclient.rtspfd ∧ session.setups = s.streamclient.setupsreceived
  connected : s.streamclient.state = .cliconnected → s.streamclient.setupsreceived = 0
  due : s.streamclient.state = .sdpsent → s.streamclient.setupsreceived < 2
  complete : s.streamclient.state = .setupcomplete → s.streamclient.setupsreceived = 2
  fresh : ∀ earlier fd, past = earlier ++ [.connected fd] →
    s.streamclient = { initClient with rtspfd := fd, state := .cliconnected }

theorem countFacts_initial {variant : Variant} {s : ServerState} (initial : Initial variant s) :
    CountFacts [] s := by
  have client := initial.streamclient
  refine ⟨fun _ => Or.inl (by rw [client]; rfl), ?_, ?_, ?_, ?_, ?_⟩
  · exact fun some => absurd (by rw [client]; rfl) some
  · exact fun state => by simp [client, initClient] at state
  · exact fun state => by simp [client, initClient] at state
  · exact fun state => by simp [client, initClient] at state
  · exact fun earlier fd split => by simp at split

/-- The session depends on the conversation only. -/
theorem sessionOf_talk (past output : List Output) :
    sessionOf (past ++ output) = (talkOf output).foldl nextSession (sessionOf past) := by
  rw [sessionOf, List.foldl_append, ← sessionOf, talkOf, List.foldl_filter]
  congr 1
  funext session o
  cases o <;> rfl

/-- The last output of a record is that of the last step which put something out. -/
theorem last_output {past output earlier : List Output} {o : Output}
    (split : past ++ output = earlier ++ [o]) :
    (output = [] ∧ past = earlier ++ [o]) ∨ o ∈ output := by
  rcases List.eq_nil_or_concat output with rfl | ⟨front, last, rfl⟩
  · exact Or.inl ⟨rfl, by simpa using split⟩
  · rw [List.concat_eq_append, ← List.append_assoc] at split
    obtain rfl := List.singleton_inj.mp (List.append_inj' split rfl).2
    exact Or.inr (by simp)

/-- What a SETUP makes of the count. -/
theorem setupClient_count {variant : Variant} {client after : Client} {rtp rtcp session : Int}
    (made : after = setupClient variant client rtp rtcp session) (state : client.state = .sdpsent)
    (few : client.setupsreceived < 2) :
    after.rtspfd = client.rtspfd ∧ after.setupsreceived = client.setupsreceived + 1 ∧
      ((after.state = .sdpsent ∧ after.setupsreceived < 2) ∨
        (after.state = .setupcomplete ∧ after.setupsreceived = 2)) := by
  subst made
  unfold setupClient setupSockets
  by_cases first : client.setupsreceived + 1 < 2
  · rw [if_pos first]
    exact ⟨rfl, rfl, Or.inl ⟨state, first⟩⟩
  · have two : client.setupsreceived + 1 = 2 := by omega
    rw [if_neg first]
    cases variant
    · exact ⟨rfl, rfl, Or.inr ⟨rfl, two⟩⟩
    · exact ⟨rfl, rfl, Or.inr ⟨rfl, two⟩⟩

section Steps

variable {variant : Variant} {url : List UInt8} {past output : List Output} {s after : ServerState}
  {input : Input}

/-- A step that leaves the record and the session alone. -/
theorem CountFacts.same (facts : CountFacts past s)
    (taken : step variant url s input = .ok (after, output))
    (same : after.streamclient = s.streamclient)
    (session : sessionOf (past ++ output) = sessionOf past)
    (fresh : ∀ earlier fd, past ++ output = earlier ++ [.connected fd] →
      after.streamclient = { initClient with rtspfd := fd, state := .cliconnected }) :
    CountFacts (past ++ output) after := by
  refine ⟨fun state => ?_, ?_, ?_, ?_, ?_, fresh⟩
  · rw [same] at state ⊢
    refine (facts.idle state).imp_right fun ⟨reason, halted⟩ => ?_
    by_contra running
    have running : after.Running := fun reason => (not_exists.mp running reason)
    exact running_before taken running reason halted
  · rw [same, session]
    exact facts.current
  · rw [same]
    exact facts.connected
  · rw [same]
    exact facts.due
  · rw [same]
    exact facts.complete

/-- A step behind which there is no client. -/
theorem CountFacts.of_noclient (state : after.streamclient.state = .noclient)
    (idle : Unused after.streamclient ∨ ∃ reason, after.pc = .halted reason)
    (fresh : ∀ earlier fd, past = earlier ++ [.connected fd] →
      after.streamclient = { initClient with rtspfd := fd, state := .cliconnected }) :
    CountFacts past after := by
  refine ⟨fun _ => idle, fun client => absurd state client, ?_, ?_, ?_, fresh⟩
  · exact fun other => by cases state.symm.trans other
  · exact fun other => by cases state.symm.trans other
  · exact fun other => by cases state.symm.trans other

/-- A client connects to a record which is unused. -/
theorem CountFacts.connect {fd : Int} (unused : Unused s.streamclient)
    (client : after.streamclient = { s.streamclient with rtspfd := fd, state := .cliconnected })
    (session : sessionOf past = some ⟨fd, 0, false⟩)
    (fresh : after.streamclient = { initClient with rtspfd := fd, state := .cliconnected } →
      ∀ earlier fd, past = earlier ++ [.connected fd] →
        after.streamclient = { initClient with rtspfd := fd, state := .cliconnected }) :
    CountFacts past after := by
  have reset : after.streamclient = { initClient with rtspfd := fd, state := .cliconnected } := by
    rw [client]
    exact congrArg (fun c : Client => { c with rtspfd := fd, state := .cliconnected }) unused
  refine ⟨?_, fun _ => ⟨_, session, ?_, ?_⟩, ?_, ?_, ?_, fresh reset⟩
  · simp [reset]
  · simp [reset]
  · simp [reset, initClient]
  · simp [reset, initClient]
  · simp [reset]
  · simp [reset]

/-- A DESCRIBE counts nothing. -/
theorem CountFacts.describe {cseq : Int} (facts : CountFacts past s)
    (state : s.streamclient.state = .cliconnected)
    (client : after.streamclient = { s.streamclient with state := .sdpsent, cseq := cseq })
    (session : sessionOf (past ++ output) = sessionOf past)
    (fresh : ∀ earlier fd, past ++ output = earlier ++ [.connected fd] →
      after.streamclient = { initClient with rtspfd := fd, state := .cliconnected }) :
    CountFacts (past ++ output) after := by
  obtain ⟨current, found, fd, count⟩ := facts.current (by simp [state])
  have none := facts.connected state
  refine ⟨?_, fun _ => ⟨current, session.trans found, ?_, ?_⟩, ?_, ?_, ?_, fresh⟩
  · simp [client]
  · rw [client, fd]
  · rw [client, count]
  · simp [client]
  · simp [client, none]
  · simp [client]

/-- A SETUP of the client which is connected is counted on both sides. -/
theorem CountFacts.setUp {rtp rtcp session : Int} {i : Int} {reply : List UInt8}
    (facts : CountFacts past s) (state : s.streamclient.state = .sdpsent)
    (client : after.streamclient = setupClient variant s.streamclient rtp rtcp session)
    (speaker : i = s.streamclient.rtspfd)
    (counts : sessionOf (past ++ output) =
      [.acted i .setup, .reply i reply].foldl nextSession (sessionOf past))
    (fresh : ∀ earlier fd, past ++ output = earlier ++ [.connected fd] →
      after.streamclient = { initClient with rtspfd := fd, state := .cliconnected }) :
    CountFacts (past ++ output) after := by
  obtain ⟨current, found, fd, count⟩ := facts.current (by simp [state])
  obtain ⟨sameFd, more, outcome⟩ := setupClient_count client state (facts.due state)
  have counted : sessionOf (past ++ output) = some { current with setups := current.setups + 1 } := by
    rw [counts, found]
    simp [nextSession, fd, speaker]
  refine ⟨?_, fun _ => ⟨_, counted, ?_, ?_⟩, ?_, ?_, ?_, fresh⟩
  · rcases outcome with ⟨next, -⟩ | ⟨next, -⟩ <;> simp [next]
  · rw [sameFd, ← fd]
  · rw [more, ← count]
  · rcases outcome with ⟨next, -⟩ | ⟨next, -⟩ <;> simp [next]
  · rcases outcome with ⟨next, less⟩ | ⟨next, -⟩
    · exact fun _ => less
    · simp [next]
  · rcases outcome with ⟨next, -⟩ | ⟨next, two⟩
    · simp [next]
    · exact fun _ => two

/-- A PLAY marks the session and counts nothing. -/
theorem CountFacts.play {i : Int} {reply : List UInt8} (facts : CountFacts past s)
    (state : s.streamclient.state = .setupcomplete) (same : after.streamclient = s.streamclient)
    (plays : sessionOf (past ++ output) =
      [.acted i .play, .reply i reply].foldl nextSession (sessionOf past))
    (fresh : ∀ earlier fd, past ++ output = earlier ++ [.connected fd] →
      after.streamclient = { initClient with rtspfd := fd, state := .cliconnected }) :
    CountFacts (past ++ output) after := by
  obtain ⟨current, found, fd, count⟩ := facts.current (by simp [state])
  have counted : ∃ later, sessionOf (past ++ output) = some later ∧ later.fd = current.fd ∧
      later.setups = current.setups := by
    rw [plays, found]
    by_cases own : current.fd = i
    · exact ⟨{ current with played := true }, by simp [nextSession, own], rfl, rfl⟩
    · exact ⟨current, by simp [nextSession, own], rfl, rfl⟩
  obtain ⟨later, found', fd', count'⟩ := counted
  refine ⟨?_, fun _ => ⟨later, found', ?_, ?_⟩, ?_, ?_, ?_, fresh⟩
  · simp [same, state]
  · rw [same, fd', fd]
  · rw [same, count', count]
  · simp [same, state]
  · simp [same, state]
  · rw [same]
    exact facts.complete

/-- Every step which meets the condition keeps the count. -/
theorem countFacts_kept (facts : CountFacts past s) (counts : Counts past s input)
    (taken : step variant url s input = .ok (after, output)) : CountFacts (past ++ output) after := by
  have effect := step_client taken
  have session := sessionOf_talk past output
  -- A connection is the last output only behind the step which makes it.
  have fresh : (∀ fd, .connected fd ∈ talkOf output →
        after.streamclient = { initClient with rtspfd := fd, state := .cliconnected }) →
      ∀ earlier fd, past ++ output = earlier ++ [.connected fd] →
        after.streamclient = { initClient with rtspfd := fd, state := .cliconnected } := by
    intro here earlier fd split
    rcases last_output split with ⟨rfl, before⟩ | member
    · rw [effect.unchanged rfl]
      exact facts.fresh earlier fd before
    · exact here fd (List.mem_filter.mpr ⟨member, rfl⟩)
  generalize talkOf output = talk at effect session fresh
  cases effect with
  | silent same => exact facts.same taken same session (fresh (by simp))
  | @connected fd running free client =>
      have unused : Unused s.streamclient :=
        (facts.idle free).resolve_right fun ⟨reason, halted⟩ => running reason halted
      refine .connect unused client session fun reset => fresh fun other member => ?_
      obtain rfl : other = fd := by simpa using member
      exact reset
  | @closed i rest io received pc opened empty client untorn =>
      refine .of_noclient (by rw [client]) ?_ (fresh (by simp))
      refine untorn.imp_left fun type => ?_
      subst received
      have condition : KeepsCount s i io.received := by simpa only [Counts, pc] using counts
      rw [client]
      exact condition.closes opened empty type
  | options state client =>
      obtain ⟨current, found, fd, count⟩ := facts.current (by simp [state])
      refine ⟨?_, fun _ => ⟨current, session.trans found, ?_, ?_⟩, ?_, ?_, ?_, fresh (by simp)⟩
      · simp [client, state]
      · rw [client, fd]
      · rw [client, count]
      · rw [client]
        exact facts.connected
      · simp [client, state]
      · simp [client, state]
  | described state client => exact facts.describe state client session (fresh (by simp))
  | @setUp i rest io rtp rtcp session' reply received pc read state sockets client =>
      subst received
      have condition : KeepsCount s i io.received := by simpa only [Counts, pc] using counts
      exact facts.setUp state client (condition.speaker state read) session (fresh (by simp))
  | played state same => exact facts.play state same session (fresh (by simp))
  | tornDown quiet known stream client closed =>
      refine .of_noclient (by rw [client]; rfl) (Or.inl (by rw [client]; rfl)) (fresh ?_)
      rcases quiet with rfl | rfl <;> simp

end Steps

/-- The pair which a SETUP opens. -/
theorem opensPair (variant : Variant) {client : Client} (few : client.setupsreceived < 2) :
    OpensPair variant client (pairPorts client client.setupsreceived) := by
  intro rtp rtcp
  unfold setupSockets
  cases count : client.setupsreceived with
  | zero => simp [pairPorts]
  | succ n =>
      obtain rfl : n = 0 := by omega
      cases variant <;> simp [pairPorts]

/-- What is counted. -/
theorem CountFacts.counted {past : List Output} {s : ServerState} (facts : CountFacts past s)
    (variant : Variant) : SetupsCounted variant past s := by
  refine ⟨facts.fresh, fun state => ?_, fun state => ?_⟩
  · obtain ⟨session, found, fd, count⟩ := facts.current (by simp [state])
    have few := facts.due state
    refine ⟨session, found, fd, by omega, ?_⟩
    rw [count]
    exact opensPair variant few
  · obtain ⟨session, found, fd, count⟩ := facts.current (by simp [state])
    exact ⟨session, found, fd, count.trans (facts.complete state)⟩

/-- In every run in which no connection leaves something on record and the SETUPs come from the client
connected, the SETUPs are counted for each connection. -/
theorem setupsCounted_of_counts {variant : Variant} {url : List UInt8}
    {trace : List (Entry ServerState Input Output)} {state : ServerState}
    (run : (machine variant url).Runs trace state) (counts : Machine.Throughout Counts trace) :
    Machine.Always (SetupsCounted variant) trace state := by
  have always : Machine.Always CountFacts trace state := by
    apply run.always_under counts
    · intro start valid
      exact countFacts_initial valid
    · intro past before input after output facts condition taken
      exact countFacts_kept facts condition taken
  exact always.imp fun past s facts => facts.counted variant

/-- A client connects and goes again, and another one makes its two SETUPs. -/
def secondClient : List Input :=
  connect 6 ++ request 6 (RtspIo.text []) ++ connect 6 ++ describe 6 7 someResponse ++
    request 6 { RtspIo.line "SETUP" with sockets := .ok (8, 9) } ++
    request 6 { RtspIo.line "SETUP" with sockets := .ok (10, 11) }

/-- The first client leaves nothing on record. -/
theorem secondClient_runs : ∃ result,
    (machine .server someUrl).exec [] (startState .server) secondClient = .ok result ∧
      Machine.MeetsAll Counts [] result.1 ∧ result.2.streamclient.state = .setupcomplete :=
  ⟨_, rfl, by decide +kernel, by decide +kernel⟩

/-- The SETUPs of the second client are counted. -/
theorem setupsCounted_of_counts_secondClient : ∃ result,
    (machine .server someUrl).exec [] (startState .server) secondClient = .ok result ∧
      Machine.Always (SetupsCounted .server) result.1 result.2 ∧
      result.2.streamclient.state = .setupcomplete := by
  obtain ⟨result, computed, counts, complete⟩ := secondClient_runs
  have run := Machine.Runs.of_exec (startState_initial .server someUrl) computed
  exact ⟨result, computed, setupsCounted_of_counts run (Machine.throughout_of_meetsAll counts), complete⟩

/-- A client goes after its first SETUP, and the next one makes a single SETUP. -/
def leftSetup : List Input :=
  connect 6 ++ describe 6 7 someResponse ++
    request 6 { RtspIo.line "SETUP" with sockets := .ok (8, 9) } ++ request 6 (RtspIo.text []) ++
    connect 6 ++ describe 6 10 someResponse ++
    request 6 { RtspIo.line "SETUP" with sockets := .ok (11, 12) }

/-- One SETUP of the second connection leads to `SETUPCOMPLETE`. -/
theorem leftSetup_runs : ∃ result,
    (machine .server someUrl).exec [] (startState .server) leftSetup = .ok result ∧
      result.2.streamclient.state = .setupcomplete ∧
      (sessionOf (Machine.outputs result.1)).map Session.setups = some 1 :=
  ⟨_, rfl, by decide +kernel, by decide +kernel⟩

/-- The record which a client leaves makes the first SETUP of the next one its second. -/
theorem setupsCounted_not_always : ¬ ∀ url trace state, (machine .server url).Runs trace state →
    Machine.Always (SetupsCounted .server) trace state := by
  intro all
  obtain ⟨result, computed, complete, one⟩ := leftSetup_runs
  have run := Machine.Runs.of_exec (startState_initial .server someUrl) computed
  obtain ⟨session, found, -, two⟩ := (all someUrl _ _ run).here.complete complete
  rw [found] at one
  have impossible : session.setups = 1 := by simpa using one
  omega

end Http2Rtsp.Server
