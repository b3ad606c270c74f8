import Http2Rtsp.Server.ClientRecord
import Http2Rtsp.Server.MediaSockets

/-!
# The sockets of two SETUPs

A client sets up audio, then video, with an RTP and an RTCP socket each, and the
TEARDOWN block closes what its record holds. `start_mt_server` records all four
sockets. `start_server` puts the second RTCP socket where the first one is
recorded, which is then neither used nor closed.
-/

namespace Http2Rtsp.Server

open Http2Rtsp.Std Http2Rtsp.Message Http2Rtsp.Semantics

/-- A client was accepted. -/
def Output.isConnect : Output → Bool
  | .connected _ => true
  | _ => false

/-- A SETUP was acted on. -/
def Output.isSetup : Output → Bool
  | .acted _ .setup => true
  | _ => false

/-- The TEARDOWN block was run. -/
def Output.isTeardown : Output → Bool
  | .acted _ .teardown => true
  | _ => false

/-- In this step a SETUP succeeded: an RTP and an RTCP socket were opened for it. -/
structure SetsUp (entry : Entry ServerState Input Output) (sockets : Int × Int) : Prop where
  acted : entry.output.any Output.isSetup = true
  opened : ∃ io, entry.input = .rtsp io ∧ io.sockets = .ok sockets
  valid : sockets.1 ≠ -1 ∧ sockets.2 ≠ -1

/-- Two SETUPs succeed on one connection with four different sockets, and `last` is the first step
behind them in which the TEARDOWN block is run, still on that connection. -/
structure SetUpTwice (trace : List (Entry ServerState Input Output))
    (first second last : Entry ServerState Input Output) (audio video : Int × Int) : Prop where
  order : ∃ past between behind future,
    trace = past ++ first :: (between ++ second :: (behind ++ last :: future)) ∧
      (∀ entry ∈ between ++ behind, entry.output.any Output.isConnect = false) ∧
      ∀ entry ∈ behind, entry.output.any Output.isTeardown = false
  first : SetsUp first audio
  second : SetsUp second video
  distinct : [audio.1, audio.2, video.1, video.2].Nodup
  torn : last.output.any Output.isTeardown = true

/-- Behind the second SETUP the record of the client holds the sockets opened; the TEARDOWN block
finds each of them open and closes each once. -/
structure SocketsAccounted (variant : Variant) (url : List UInt8)
    (second last : Entry ServerState Input Output) (opened : List Int) : Prop where
  recorded : ∀ after, step variant url second.before second.input = .ok (after, second.output) →
    (clientSockets after.streamclient).Perm opened
  closed : ∀ after i, step variant url last.before last.input = .ok (after, last.output) →
    .acted i .teardown ∈ last.output → ∀ fd ∈ opened, last.before.kernel fd = some .udp ∧
      (teardownCloses i last.before.streamclient).count fd = 1 ∧ after.kernel fd = none

/-! ## Steps -/

/-- The tests are about the conversation. -/
theorem any_talkOf {outputs : List Output} {test : Output → Bool}
    (talks : ∀ o, test o = true → o.isTalk = true) : (talkOf outputs).any test = outputs.any test := by
  rw [talkOf, List.any_filter]
  congr 1
  funext o
  cases tested : test o with
  | false => simp
  | true => simp [talks o tested]

theorem any_isConnect (outputs : List Output) :
    (talkOf outputs).any Output.isConnect = outputs.any Output.isConnect :=
  any_talkOf fun o => by cases o <;> simp [Output.isConnect, Output.isTalk]

theorem any_isSetup (outputs : List Output) :
    (talkOf outputs).any Output.isSetup = outputs.any Output.isSetup :=
  any_talkOf fun o => by cases o <;> simp [Output.isSetup, Output.isTalk]

theorem any_isTeardown (outputs : List Output) :
    (talkOf outputs).any Output.isTeardown = outputs.any Output.isTeardown :=
  any_talkOf fun o => by cases o <;> simp [Output.isTeardown, Output.isTalk]

section Steps

variable {variant : Variant} {url : List UInt8} {s after : ServerState} {input : Input}
  {output : List Output} {audio video : Int × Int}

/-- What a step with a SETUP does to the record. -/
theorem step_setup (taken : step variant url s input = .ok (after, output))
    (acted : output.any Output.isSetup = true) :
    s.streamclient.state = .sdpsent ∧ ∃ io rtp rtcp session, input = .rtsp io ∧
      io.sockets = .ok (rtp, rtcp) ∧
      after.streamclient = setupClient variant s.streamclient rtp rtcp session := by
  have effect := step_client taken
  rw [← any_isSetup] at acted
  generalize talkOf output = talk at effect acted
  cases effect with
  | setUp received pc read state sockets client => exact ⟨state, _, _, _, _, received, sockets, client⟩
  | tornDown quiet known stream client closed =>
      rcases quiet with rfl | rfl <;> simp [Output.isSetup] at acted
  | _ => simp [Output.isSetup] at acted

theorem SetsUp.client {entry : Entry ServerState Input Output} {sockets : Int × Int}
    (sets : SetsUp entry sockets)
    (taken : step variant url entry.before entry.input = .ok (after, entry.output)) :
    entry.before.streamclient.state = .sdpsent ∧ ∃ session, after.streamclient =
      setupClient variant entry.before.streamclient sockets.1 sockets.2 session := by
  obtain ⟨state, io, rtp, rtcp, session, received, opened, client⟩ := step_setup taken sets.acted
  obtain ⟨io', received', opened'⟩ := sets.opened
  obtain rfl := Input.rtsp.inj (received.symm.trans received')
  obtain rfl := Except.ok.inj (opened.symm.trans opened')
  exact ⟨state, session, client⟩

/-- A SETUP is still to come, for the client with these audio sockets, or none is. -/
def AudioDone (audio : Int × Int) (client : Client) : Prop :=
  (client.state = .sdpsent ∧ client.setupsreceived = 1 ∧ client.audiofds = audio) ∨
    client.state = .setupcomplete ∨ client.state = .noclient

/-- Where a SETUP is acted on, one is to come. -/
theorem AudioDone.due {client : Client} (done : AudioDone audio client)
    (state : client.state = .sdpsent) : client.setupsreceived = 1 ∧ client.audiofds = audio := by
  simpa [AudioDone, state] using done

/-- Behind a SETUP. -/
theorem audioDone_setup {client : Client} {session : Int} (state : client.state = .sdpsent) :
    AudioDone audio (setupClient variant client audio.1 audio.2 session) := by
  unfold setupClient setupSockets
  by_cases few : client.setupsreceived + 1 < 2
  · rw [if_pos few]
    exact Or.inl ⟨state, by simp only; omega, rfl⟩
  · rw [if_neg few]
    exact Or.inr (Or.inl rfl)

/-- No step of the connection undoes that. -/
theorem audioDone_kept (done : AudioDone audio s.streamclient)
    (taken : step variant url s input = .ok (after, output))
    (quiet : output.any Output.isConnect = false) : AudioDone audio after.streamclient := by
  have effect := step_client taken
  rw [← any_isConnect] at quiet
  generalize talkOf output = talk at effect quiet
  cases effect with
  | silent same => rwa [same]
  | connected running free client => simp [Output.isConnect] at quiet
  | closed received pc opened empty client untorn =>
      rw [client]
      exact Or.inr (Or.inr rfl)
  | options state client => simp [AudioDone, state] at done
  | described state client => simp [AudioDone, state] at done
  | setUp received pc read state sockets client =>
      obtain ⟨count, -⟩ := done.due state
      rw [client]
      refine Or.inr (Or.inl ?_)
      simp [setupClient, setupSockets, count]
  | played state same => rwa [same]
  | tornDown before known stream client closed =>
      rw [client]
      exact Or.inr (Or.inr rfl)

/-- What is recorded of two SETUPs. -/
def secondSockets (client : Client) (audio video : Int × Int) : Variant → List Int
  | .server => [video.1, client.videofds.2, audio.1, video.2]
  | .mt => [video.1, video.2, audio.1, audio.2]

/-- The second SETUP stores its sockets beside the first one's, or over them. -/
theorem secondSetup_client {client : Client} {session : Int} (state : client.state = .sdpsent)
    (done : AudioDone audio client) :
    clientSockets (setupClient variant client video.1 video.2 session) =
        secondSockets client audio video variant ∧
      (setupClient variant client video.1 video.2 session).state = .setupcomplete := by
  obtain ⟨count, stored⟩ := done.due state
  cases variant <;> simp [setupClient, setupSockets, count, stored, clientSockets, secondSockets]

/-- These sockets are recorded, and no SETUP is to come. -/
def Recorded (sockets : List Int) (client : Client) : Prop :=
  clientSockets client = sockets ∧ (client.state = .setupcomplete ∨ client.state = .noclient)

/-- They stay recorded until the TEARDOWN block is run. -/
theorem recorded_kept {sockets : List Int} (recorded : Recorded sockets s.streamclient)
    (taken : step variant url s input = .ok (after, output))
    (quiet : output.any Output.isConnect = false) (untorn : output.any Output.isTeardown = false) :
    Recorded sockets after.streamclient := by
  obtain ⟨same, settled⟩ := recorded
  have effect := step_client taken
  rw [← any_isConnect] at quiet
  rw [← any_isTeardown] at untorn
  generalize talkOf output = talk at effect quiet untorn
  cases effect with
  | silent unchanged =>
      rw [unchanged]
      exact ⟨same, settled⟩
  | connected running free client => simp [Output.isConnect] at quiet
  | closed received pc opened empty client untorn =>
      rw [client]
      exact ⟨same, Or.inr rfl⟩
  | options state client => simp [state] at settled
  | described state client => simp [state] at settled
  | setUp received pc read state sockets client => simp [state] at settled
  | played state unchanged =>
      rw [unchanged]
      exact ⟨same, settled⟩
  | tornDown before known stream client closed =>
      simp [Output.isTeardown] at untorn

/-- `start_server` never assigns the second video socket. -/
theorem videoRtcp_kept (unset : s.streamclient.videofds.2 = -1)
    (taken : step .server url s input = .ok (after, output)) :
    after.streamclient.videofds.2 = -1 := by
  have effect := step_client taken
  generalize talkOf output = talk at effect
  cases effect with
  | silent same => rw [same, unset]
  | connected running free client => rw [client, unset]
  | closed received pc opened empty client untorn => rw [client, unset]
  | options state client => rw [client, unset]
  | described state client => rw [client, unset]
  | setUp received pc read state sockets client =>
      rw [client, setupClient, setupSockets]
      split <;> exact unset
  | played state same => rw [same, unset]
  | tornDown before known stream client closed => rw [client, initClient]

end Steps

/-! ## Runs -/

section Runs

variable {variant : Variant} {url : List UInt8} {trace : List (Entry ServerState Input Output)}
  {state : ServerState} {first second last : Entry ServerState Input Output}
  {audio video : Int × Int}

/-- The record behind the second SETUP. -/
theorem SetUpTwice.behindSecond (run : (machine variant url).Runs trace state)
    (twice : SetUpTwice trace first second last audio video) {after : ServerState}
    (taken : step variant url second.before second.input = .ok (after, second.output)) :
    clientSockets after.streamclient =
        secondSockets second.before.streamclient audio video variant ∧
      after.streamclient.state = .setupcomplete := by
  obtain ⟨past, between, behind, future, rfl, quiet, -⟩ := twice.order
  have done : AudioDone audio second.before.streamclient := by
    apply @Machine.Runs.carry _ _ _ _ _ (fun s => AudioDone audio s.streamclient) _ _ _ _ _ _ run
    · intro next taken
      obtain ⟨state, session, client⟩ := twice.first.client taken
      rw [client]
      exact audioDone_setup state
    · intro entry member next done taken
      exact audioDone_kept done taken (quiet entry (List.mem_append_left _ member))
  obtain ⟨state, session, client⟩ := twice.second.client taken
  rw [client]
  exact secondSetup_client state done

/-- The record in front of the TEARDOWN is that behind the second SETUP. -/
theorem SetUpTwice.beforeLast (run : (machine variant url).Runs trace state)
    (twice : SetUpTwice trace first second last audio video) :
    ∃ after, step variant url second.before second.input = .ok (after, second.output) ∧
      clientSockets last.before.streamclient = clientSockets after.streamclient := by
  have member : second ∈ trace := by
    obtain ⟨past, between, behind, future, rfl, -, -⟩ := twice.order
    simp
  obtain ⟨after, taken⟩ := run.taken member
  refine ⟨after, taken, ?_⟩
  have settled := (twice.behindSecond run taken).2
  obtain ⟨past, between, behind, future, rfl, quiet, untorn⟩ := twice.order
  have shifted : (machine variant url).Runs
      ((past ++ first :: between) ++ second :: (behind ++ last :: future)) state := by
    simpa using run
  have recorded : Recorded (clientSockets after.streamclient) last.before.streamclient := by
    apply @Machine.Runs.carry _ _ _ _ _
      (fun s => Recorded (clientSockets after.streamclient) s.streamclient) _ _ _ _ _ _ shifted
    · intro next taken'
      obtain ⟨rfl, -⟩ := Prod.mk.inj (Except.ok.inj (taken.symm.trans taken'))
      exact ⟨rfl, Or.inl settled⟩
    · intro entry member next recorded taken
      exact recorded_kept recorded taken (quiet entry (List.mem_append_right _ member))
        (untorn entry member)
  exact recorded.1

/-- `start_mt_server` accounts for the sockets of two SETUPs. -/
theorem SetUpTwice.accounted (run : (machine .mt url).Runs trace state)
    (twice : SetUpTwice trace first second last audio video) :
    SocketsAccounted .mt url second last [audio.1, audio.2, video.1, video.2] := by
  have order : [video.1, video.2, audio.1, audio.2].Perm [audio.1, audio.2, video.1, video.2] :=
    @List.perm_append_comm _ [video.1, video.2] [audio.1, audio.2]
  constructor
  · intro after taken
    rw [(twice.behindSecond run taken).1]
    exact order
  · intro after i taken torn fd opened
    obtain ⟨settled, taken', same⟩ := twice.beforeLast run
    rw [(twice.behindSecond run taken').1] at same
    have held : fd ∈ clientSockets last.before.streamclient := by
      rw [same]
      exact order.mem_iff.mpr opened
    have member : last ∈ trace := by
      obtain ⟨past, between, behind, future, rfl, -, -⟩ := twice.order
      simp
    have facts := (run.entry (fun _ => socketFacts_initial) socketFacts_kept member).1
    have valid : fd ≠ -1 := by
      obtain ⟨audioRtp, audioRtcp⟩ := twice.first.valid
      obtain ⟨videoRtp, videoRtcp⟩ := twice.second.valid
      simp only [List.mem_cons, List.not_mem_nil, or_false] at opened
      rcases opened with rfl | rfl | rfl | rfl <;> assumption
    have udp := (facts.sockets.client fd held).resolve_left valid
    have effect := step_client taken
    have spoken : .acted i .teardown ∈ talkOf last.output := List.mem_filter.mpr ⟨torn, rfl⟩
    generalize talkOf last.output = talk at effect spoken
    cases effect with
    | @tornDown j endpoint prior reply quiet known stream client closed =>
        obtain rfl : i = j := by
          rcases quiet with rfl | rfl <;> simpa using spoken
        have differs : i ≠ fd := by
          rintro rfl
          obtain rfl := Option.some.inj (known.symm.trans udp)
          exact stream
        have distinct : (clientSockets last.before.streamclient).Nodup := by
          rw [same]
          exact order.nodup_iff.mpr twice.distinct
        refine ⟨udp, ?_, closed fd (List.mem_cons_of_mem i held)⟩
        rw [teardownCloses, List.count_cons_of_ne differs]
        exact List.count_eq_one_of_mem distinct held
    | _ => simp at spoken

/-- `start_server` does not: the first RTCP socket is not recorded any more. -/
theorem SetUpTwice.unaccounted (run : (machine .server url).Runs trace state)
    (twice : SetUpTwice trace first second last audio video) :
    ¬ SocketsAccounted .server url second last [audio.1, audio.2, video.1, video.2] := by
  intro accounted
  have member : second ∈ trace := by
    obtain ⟨past, between, behind, future, rfl, -, -⟩ := twice.order
    simp
  have initial : ∀ start, (machine .server url).Initial start →
      (fun s : ServerState => s.streamclient.videofds.2 = -1) start := by
    intro start valid
    rw [valid.streamclient]
    rfl
  have unset := (run.entry initial videoRtcp_kept member).1
  obtain ⟨after, taken⟩ := run.taken member
  have recorded := accounted.recorded after taken
  rw [(twice.behindSecond run taken).1, secondSockets, unset] at recorded
  have found : audio.2 ∈ [video.1, -1, audio.1, video.2] := recorded.mem_iff.mpr (by simp)
  have distinct := twice.distinct
  have valid := twice.first.valid.2
  simp only [List.nodup_cons, List.mem_cons, List.not_mem_nil, or_false, not_or] at found distinct
  tauto

/-- After two SETUPs and a TEARDOWN on one connection the sockets opened are recorded and closed, each
once, exactly in `start_mt_server`. -/
theorem socketsAccounted_iff (run : (machine variant url).Runs trace state)
    (twice : SetUpTwice trace first second last audio video) :
    SocketsAccounted variant url second last [audio.1, audio.2, video.1, video.2] ↔
      variant = .mt := by
  cases variant with
  | server => exact iff_of_false (twice.unaccounted run) (by simp)
  | mt => exact iff_of_true (twice.accounted run) rfl

end Runs

/-- A client sets up audio on descriptors 8 and 9 and video on 10 and 11, plays, and ends its session. -/
def setUpAndTornDown : List Input :=
  connect 6 ++ describe 6 7 someResponse ++
    request 6 { RtspIo.line "SETUP" with sockets := .ok (8, 9) } ++
    request 6 { RtspIo.line "SETUP" with sockets := .ok (10, 11) } ++
    request 6 (RtspIo.line "PLAY") ++ media 7 someResponse someHeader ++ media 7 [] [7] ++
    request 6 (RtspIo.line "TEARDOWN")

/-- The sockets of a successful SETUP. -/
def setUpSockets (entry : Entry ServerState Input Output) : Option (Int × Int) :=
  match entry.input with
  | .rtsp io =>
      if entry.output.any Output.isSetup then
        match io.sockets with
        | .ok sockets => if sockets.1 ≠ -1 ∧ sockets.2 ≠ -1 then some sockets else none
        | .error _ => none
      else none
  | _ => none

theorem setsUp_of {entry : Entry ServerState Input Output} {sockets : Int × Int}
    (opened : setUpSockets entry = some sockets) : SetsUp entry sockets := by
  unfold setUpSockets at opened
  split at opened
  · rename_i io received
    split_ifs at opened with acted
    split at opened
    · rename_i pair known
      split_ifs at opened with valid
      obtain rfl := Option.some.inj opened
      exact ⟨acted, ⟨io, received, known⟩, valid⟩
    · cases opened
  · cases opened

/-- A list around one of its positions. -/
theorem split_at_position {α : Type} {list : List α} {n : Nat} {x : α} (there : list[n]? = some x) :
    list = list.take n ++ x :: list.drop (n + 1) := by
  obtain ⟨inside, rfl⟩ := List.getElem?_eq_some_iff.mp there
  rw [← List.drop_eq_getElem_cons inside, List.take_append_drop]

/-- Two SETUPs and a TEARDOWN found at positions of a record. -/
theorem setUpTwice_of_positions {entries : List (Entry ServerState Input Output)}
    {audio video : Int × Int} (j k l : Nat)
    (first : (entries[j]?).bind setUpSockets = some audio)
    (second : ((entries.drop (j + 1))[k]?).bind setUpSockets = some video)
    (last : (((entries.drop (j + 1)).drop (k + 1))[l]?).any (·.output.any Output.isTeardown) = true)
    (quiet : ((entries.drop (j + 1)).take k ++ ((entries.drop (j + 1)).drop (k + 1)).take l).all
      (fun entry => !entry.output.any Output.isConnect) = true)
    (untorn : (((entries.drop (j + 1)).drop (k + 1)).take l).all
      (fun entry => !entry.output.any Output.isTeardown) = true)
    (distinct : [audio.1, audio.2, video.1, video.2].Nodup) :
    ∃ first second last, SetUpTwice entries first second last audio video := by
  obtain ⟨firstEntry, atFirst, firstSockets⟩ := Option.bind_eq_some_iff.mp first
  obtain ⟨secondEntry, atSecond, secondSockets⟩ := Option.bind_eq_some_iff.mp second
  obtain ⟨lastEntry, atLast, torn⟩ := (Option.any_eq_true _ _).mp last
  have order : entries = entries.take j ++ firstEntry :: ((entries.drop (j + 1)).take k ++ secondEntry ::
      (((entries.drop (j + 1)).drop (k + 1)).take l ++ lastEntry ::
        ((entries.drop (j + 1)).drop (k + 1)).drop (l + 1))) := by
    rw [← split_at_position atLast, ← split_at_position atSecond]
    exact split_at_position atFirst
  refine ⟨firstEntry, secondEntry, lastEntry, ⟨_, _, _, _, order, ?_, ?_⟩, setsUp_of firstSockets,
    setsUp_of secondSockets, distinct, torn⟩
  · intro entry member
    simpa using List.all_eq_true.mp quiet entry member
  · intro entry member
    simpa using List.all_eq_true.mp untorn entry member

/-- The script runs on both servers. -/
theorem setUpAndTornDown_runs (variant : Variant) : ∃ result first second last,
    (machine variant someUrl).exec [] (startState variant) setUpAndTornDown = .ok result ∧
      SetUpTwice result.1 first second last (8, 9) (10, 11) := by
  have found : ∃ result : List (Entry ServerState Input Output) × ServerState,
      (machine variant someUrl).exec [] (startState variant) setUpAndTornDown = .ok result ∧
        ∃ first second last, SetUpTwice result.1 first second last (8, 9) (10, 11) := by
    cases variant with
    | server =>
        refine ⟨_, rfl, setUpTwice_of_positions 7 2 11 ?_ ?_ ?_ ?_ ?_ (by decide)⟩ <;> decide +kernel
    | mt =>
        refine ⟨_, rfl, setUpTwice_of_positions 7 2 11 ?_ ?_ ?_ ?_ ?_ (by decide)⟩ <;> decide +kernel
  obtain ⟨result, computed, first, second, last, twice⟩ := found
  exact ⟨result, first, second, last, computed, twice⟩

/-- In `start_mt_server` the four sockets of this script are accounted for. -/
theorem socketsAccounted_iff_setUpAndTornDown : ∃ result first second last,
    (machine .mt someUrl).exec [] (startState .mt) setUpAndTornDown = .ok result ∧
      SetUpTwice result.1 first second last (8, 9) (10, 11) ∧
      SocketsAccounted .mt someUrl second last [8, 9, 10, 11] := by
  obtain ⟨result, first, second, last, computed, twice⟩ := setUpAndTornDown_runs .mt
  have run := Machine.Runs.of_exec (startState_initial .mt someUrl) computed
  exact ⟨result, first, second, last, computed, twice, (socketsAccounted_iff run twice).mpr rfl⟩

/-- In `start_server` the TEARDOWN of this script leaves descriptor 9 open. -/
theorem socketsAccounted_not_always : ¬ ∀ variant url trace state first second last audio video,
    (machine variant url).Runs trace state → SetUpTwice trace first second last audio video →
      SocketsAccounted variant url second last [audio.1, audio.2, video.1, video.2] := by
  intro all
  obtain ⟨result, first, second, last, computed, twice⟩ := setUpAndTornDown_runs .server
  have run := Machine.Runs.of_exec (startState_initial .server someUrl) computed
  exact twice.unaccounted run (all _ _ _ _ _ _ _ _ _ run twice)

end Http2Rtsp.Server
