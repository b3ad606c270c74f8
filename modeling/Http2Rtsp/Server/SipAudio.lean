import Http2Rtsp.Rtp.Numbering
import Http2Rtsp.Server.MediaSockets
import Http2Rtsp.Server.SipCalls

/-!
# Audio for the SIP clients

An audio frame is sent to one acknowledged client after the other, and
`rtpseqno_audio` is advanced for each of them. What one client sees of the
numbers depends on how many others were served since it was.
-/

namespace Http2Rtsp.Server

open Http2Rtsp.Std Http2Rtsp.Message Http2Rtsp.Pacing Http2Rtsp.Semantics

/-! ## What is sent -/

/-- The packets of audio given to `send_all` for a socket. -/
def Output.audioPackets (fd : Int) : Output → List Rtp.Sent
  | .audioFrame other frame seqnum => if other = fd then (Rtp.sendAudioFrame frame seqnum).1 else []
  | _ => []

/-- Their sequence numbers. -/
def audioNumbers (fd : Int) (outputs : List Output) : List UInt16 :=
  (outputs.flatMap (Output.audioPackets fd)).map Rtp.Sent.seqnum

@[simp] theorem audioNumbers_nil (fd : Int) : audioNumbers fd [] = [] := rfl

@[simp] theorem audioNumbers_append (fd : Int) (first second : List Output) :
    audioNumbers fd (first ++ second) = audioNumbers fd first ++ audioNumbers fd second := by
  simp [audioNumbers]

/-- An audio frame is one packet with the number it was given. -/
theorem audioNumbers_frame (fd other : Int) (frame : Rtp.Frame) (seqnum : UInt16) :
    audioNumbers fd [.audioFrame other frame seqnum] = if other = fd then [seqnum] else [] := by
  by_cases same : other = fd
  · have carried : ((Rtp.sendAudioFrame frame seqnum).1.map Rtp.Sent.seqnum) = [seqnum] := by
      simp only [Rtp.sendAudioFrame, List.map_cons, List.map_nil, List.cons.injEq, and_true]
      exact Rtp.seqnum_of_header rfl (by simp)
    simpa [audioNumbers, Output.audioPackets, same] using carried
  · simp [audioNumbers, Output.audioPackets, same]

/-- The number moves on by one for each socket. -/
theorem sendAudio_next (frame : Rtp.Frame) (seqnum : UInt16) (fds : List Int) :
    (sendAudio frame seqnum fds).1 = seqnum + fds.length.toUInt16 := by
  induction fds generalizing seqnum with
  | nil => simp [sendAudio]
  | cons fd rest ih =>
      have one : (Rtp.sendAudioFrame frame seqnum).2.toNat.toUInt16 = 1 := rfl
      rw [sendAudio, List.length_cons]
      simp only [one, ih, Nat.toUInt16, UInt16.ofNat_add]
      rw [UInt16.add_assoc, UInt16.add_comm 1]
      rfl

/-- What is sent to the sockets behind goes on from the number behind. -/
theorem sendAudio_append (frame : Rtp.Frame) (seqnum : UInt16) (front back : List Int) :
    (sendAudio frame seqnum (front ++ back)).2 =
      (sendAudio frame seqnum front).2 ++
        (sendAudio frame (seqnum + front.length.toUInt16) back).2 := by
  rw [← sendAudio_next frame seqnum front]
  induction front generalizing seqnum with
  | nil => rfl
  | cons fd rest ih => simp only [List.cons_append, sendAudio, ih]

/-- Nothing is sent to other sockets. -/
theorem audioNumbers_others {fd : Int} {fds : List Int} (others : fd ∉ fds) (frame : Rtp.Frame)
    (seqnum : UInt16) : audioNumbers fd (sendAudio frame seqnum fds).2 = [] := by
  induction fds generalizing seqnum with
  | nil => rfl
  | cons other rest ih =>
      have differs : other ≠ fd := fun same => others (same ▸ List.mem_cons_self)
      have later : fd ∉ rest := fun member => others (List.mem_cons_of_mem _ member)
      rw [sendAudio, ← List.singleton_append, audioNumbers_append, audioNumbers_frame,
        if_neg differs, List.nil_append]
      exact ih later _

/-- A socket among others gets one packet, numbered behind those in front of it. -/
theorem audioNumbers_sendAudio {fd : Int} {front back : List Int} (inFront : fd ∉ front)
    (behind : fd ∉ back) (frame : Rtp.Frame) (seqnum : UInt16) :
    audioNumbers fd (sendAudio frame seqnum (front ++ fd :: back)).2 =
      [seqnum + front.length.toUInt16] := by
  rw [sendAudio_append, audioNumbers_append, audioNumbers_others inFront, List.nil_append, sendAudio,
    ← List.singleton_append, audioNumbers_append, audioNumbers_frame, if_pos rfl,
    audioNumbers_others behind, List.append_nil]

/-! ## Places in the table -/

/-- The client at a place, when it is acknowledged. -/
def Sip.ackedAt (sip : Sip) (k : Fin maxClients) : Option SIPClient :=
  (sip.clientlist k).bind fun client => if client.ackrecvd then some client else none

/-- The acknowledged clients at the places before one. -/
def Sip.before (sip : Sip) (k : Fin maxClients) : List SIPClient :=
  ((List.finRange maxClients).take k).filterMap sip.ackedAt

/-- The acknowledged clients at the places behind one. -/
def Sip.behind (sip : Sip) (k : Fin maxClients) : List SIPClient :=
  ((List.finRange maxClients).drop (k + 1)).filterMap sip.ackedAt

/-- No client at a place before is acknowledged. -/
def NoneBefore (sip : Sip) (k : Fin maxClients) : Prop :=
  ∀ j client, j < k → sip.clientlist j = some client → client.ackrecvd = false

/-- No client at a place behind is acknowledged. -/
def NoneBehind (sip : Sip) (k : Fin maxClients) : Prop :=
  ∀ j client, k < j → sip.clientlist j = some client → client.ackrecvd = false

theorem Sip.ackedAt_eq_some {sip : Sip} {k : Fin maxClients} {client : SIPClient} :
    sip.ackedAt k = some client ↔ sip.clientlist k = some client ∧ client.ackrecvd = true := by
  simp only [Sip.ackedAt, Option.bind_eq_some_iff, Option.ite_none_right_eq_some,
    Option.some.injEq]
  constructor
  · rintro ⟨entry, there, acked, rfl⟩
    exact ⟨there, acked⟩
  · rintro ⟨there, acked⟩
    exact ⟨client, there, acked, rfl⟩

theorem mem_take_finRange {j k : Fin maxClients} : j ∈ (List.finRange maxClients).take k ↔ j < k := by
  simp only [List.mem_take_iff_getElem, List.getElem_finRange]
  constructor
  · rintro ⟨i, bound, rfl⟩
    simp only [List.length_finRange] at bound
    exact Fin.lt_def.mpr (by simp; omega)
  · intro less
    exact ⟨j, by simp; omega, by simp⟩

theorem mem_drop_finRange {j k : Fin maxClients} :
    j ∈ (List.finRange maxClients).drop (k + 1) ↔ k < j := by
  simp only [List.mem_drop_iff_getElem, List.getElem_finRange]
  constructor
  · rintro ⟨i, bound, rfl⟩
    exact Fin.lt_def.mpr (by simp; omega)
  · intro less
    have bound := j.isLt
    exact ⟨j - (k + 1), by simp; omega, by ext; simp; omega⟩

/-- Those before an acknowledged client, it, and those behind it. -/
theorem Sip.acknowledged_split {sip : Sip} {k : Fin maxClients} {client : SIPClient}
    (there : sip.clientlist k = some client) (acked : client.ackrecvd = true) :
    sip.acknowledged = sip.before k ++ client :: sip.behind k := by
  have here : sip.ackedAt k = some client := Sip.ackedAt_eq_some.mpr ⟨there, acked⟩
  have places : List.finRange maxClients =
      (List.finRange maxClients).take k ++ k :: (List.finRange maxClients).drop (k + 1) := by
    have inside : (k : Nat) < (List.finRange maxClients).length := by simp
    have split := List.take_append_drop k (List.finRange maxClients)
    rw [List.drop_eq_getElem_cons inside, List.getElem_finRange] at split
    exact split.symm
  have all : sip.acknowledged = (List.finRange maxClients).filterMap sip.ackedAt := rfl
  rw [all, places, List.filterMap_append, List.filterMap_cons_some here]
  rfl

/-- Nobody at these places is acknowledged. -/
theorem Sip.filterMap_ackedAt_eq_nil {sip : Sip} {places : List (Fin maxClients)} :
    places.filterMap sip.ackedAt = [] ↔
      ∀ j ∈ places, ∀ client, sip.clientlist j = some client → client.ackrecvd = false := by
  rw [List.filterMap_eq_nil_iff]
  refine forall_congr' fun j => forall_congr' fun member => ?_
  constructor
  · intro none client there
    by_contra acked
    have found := Sip.ackedAt_eq_some.mpr ⟨there, by simpa using acked⟩
    cases none.symm.trans found
  · intro none
    rw [Option.eq_none_iff_forall_ne_some]
    intro client found
    obtain ⟨there, acked⟩ := Sip.ackedAt_eq_some.mp found
    cases acked.symm.trans (none client there)

theorem Sip.before_eq_nil {sip : Sip} {k : Fin maxClients} : sip.before k = [] ↔ NoneBefore sip k := by
  simp only [Sip.before, Sip.filterMap_ackedAt_eq_nil, mem_take_finRange, NoneBefore]
  exact forall_congr' fun j => ⟨fun none client less => none less client, fun none less client =>
    none client less⟩

theorem Sip.behind_eq_nil {sip : Sip} {k : Fin maxClients} : sip.behind k = [] ↔ NoneBehind sip k := by
  simp only [Sip.behind, Sip.filterMap_ackedAt_eq_nil, mem_drop_finRange, NoneBehind]
  exact forall_congr' fun j => ⟨fun none client less => none less client, fun none less client =>
    none client less⟩

/-- Before and behind a client there are fewer than the table has places. -/
theorem Sip.length_before_behind (sip : Sip) (k : Fin maxClients) :
    (sip.before k).length + (sip.behind k).length < maxClients := by
  have front := List.length_filterMap_le sip.ackedAt ((List.finRange maxClients).take k)
  have back := List.length_filterMap_le sip.ackedAt ((List.finRange maxClients).drop (k + 1))
  rw [List.length_take, List.length_finRange] at front
  rw [List.length_drop, List.length_finRange] at back
  have inside := k.isLt
  unfold Sip.before Sip.behind
  omega

/-- An acknowledged client shares its socket with nobody before and nobody behind it. -/
theorem MediaSockets.alone {s : ServerState} (sockets : MediaSockets s) {k : Fin maxClients}
    {client : SIPClient} (there : s.sip.clientlist k = some client) :
    client.sockfd ∉ (s.sip.before k).map SIPClient.sockfd ∧
      client.sockfd ∉ (s.sip.behind k).map SIPClient.sockfd := by
  constructor
  · intro member
    obtain ⟨other, listed, same⟩ := List.mem_map.mp member
    obtain ⟨j, place, found⟩ := List.mem_filterMap.mp listed
    have here := sockets.apart j k other client (Sip.ackedAt_eq_some.mp found).1 there same
    exact absurd (mem_take_finRange.mp place) (here ▸ lt_irrefl _)
  · intro member
    obtain ⟨other, listed, same⟩ := List.mem_map.mp member
    obtain ⟨j, place, found⟩ := List.mem_filterMap.mp listed
    have here := sockets.apart j k other client (Sip.ackedAt_eq_some.mp found).1 there same
    exact absurd (mem_drop_finRange.mp place) (here ▸ lt_irrefl _)

/-! ## Steps -/

/-- An audio FRAME event is handled. -/
def PlaysAudio (s : ServerState) (input : Input) : Prop :=
  s.lock = none ∧ ∃ now wake event rest frame, input = .timeout now wake ∧
    s.queue = event :: rest ∧ event.type = .frame frame ∧ frame.frametype = .audio

/-- Then the frame is sent to every acknowledged client, and nothing else is put out. -/
theorem PlaysAudio.sends {url : List UInt8} {s after : ServerState} {input : Input}
    {output : List Output} (plays : PlaysAudio s input)
    (taken : step .mt url s input = .ok (after, output)) :
    ∃ frame, output =
        (sendAudio frame s.rtpseqnoAudio (s.sip.acknowledged.map SIPClient.sockfd)).2 ∧
      after.rtpseqnoAudio = s.rtpseqnoAudio + s.sip.acknowledged.length.toUInt16 := by
  obtain ⟨free, now, wake, event, rest, frame, rfl, queued, type, kind⟩ := plays
  refine ⟨frame, ?_⟩
  have enabled : s.pc = .select ∧ s.timeind ≠ none := by
    by_contra disabled
    rw [step, if_neg disabled] at taken
    cases taken
  rw [step, if_pos enabled] at taken
  let sent := sendAudio frame s.rtpseqnoAudio (s.sip.acknowledged.map SIPClient.sockfd)
  let played : ServerState := { s with timeind := none, queue := rest, rtpseqnoAudio := sent.1 }
  have handled : s.handleTimeout .mt now wake = (played.finishTimeout event wake, sent.2 ++ []) := by
    have running : played.Running := running_of_select enabled.1
    rw [ServerState.handleTimeout,
      locked_free (show ServerState.lock { s with timeind := none } = none from free)]
    simp only [queued, ServerState.handleEvent, type, kind]
    exact @andThen_running (played, sent.2) (fun s => (s.finishTimeout event wake, [])) running
  obtain ⟨rfl, rfl⟩ := Prod.mk.inj (handled.symm.trans (Except.ok.inj taken))
  refine ⟨List.append_nil _, ?_⟩
  have next := sendAudio_next frame s.rtpseqnoAudio (s.sip.acknowledged.map SIPClient.sockfd)
  rw [List.length_map] at next
  exact next

/-- Any other event leaves the number alone. -/
theorem handleEvent_rtpseqnoAudio (variant : Variant) (s : ServerState) {event : TimeoutEvent}
    (now : Clock) (other : ∀ frame, event.type = .frame frame → frame.frametype ≠ .audio) :
    (s.handleEvent variant event now).1.rtpseqnoAudio = s.rtpseqnoAudio := by
  cases type : event.type with
  | endOfStream =>
      obtain ⟨pc, same⟩ := handleEvent_ended variant s now type
      rw [same]
  | frame frame =>
      cases kind : frame.frametype with
      | video => simp only [ServerState.handleEvent, type, kind]
      | audio => exact absurd kind (other frame type)
  | checkMediaState =>
      simp only [ServerState.handleEvent, type]
      split <;> rfl

theorem handleTimeout_rtpseqnoAudio (variant : Variant) {s : ServerState} (now : Clock) (wake : Nat)
    (silent : ¬ PlaysAudio s (.timeout now wake)) :
    (s.handleTimeout variant now wake).1.rtpseqnoAudio = s.rtpseqnoAudio := by
  unfold ServerState.handleTimeout ServerState.locked
  by_cases free : s.lock = none
  · rw [if_pos free]
    cases queued : s.queue with
    | nil => rfl
    | cons event rest =>
        have other : ∀ frame, event.type = .frame frame → frame.frametype ≠ .audio :=
          fun frame type kind => silent ⟨free, now, wake, event, rest, frame, rfl, queued, type, kind⟩
        have kept := handleEvent_rtpseqnoAudio variant { s with timeind := none, queue := rest } now
          other
        simp only [Outcome.andThen]
        split <;> exact kept
  · rw [if_neg free]
    rfl

/-- Any other step leaves the number alone, unless it processes a TEARDOWN. -/
theorem step_rtpseqnoAudio {variant : Variant} {url : List UInt8} {s after : ServerState}
    {input : Input} {output : List Output} (silent : ¬ PlaysAudio s input)
    (goesOn : ∀ i, .acted i .teardown ∉ output)
    (taken : step variant url s input = .ok (after, output)) :
    after.rtpseqnoAudio = s.rtpseqnoAudio := by
  have received : ∀ {s middle : ServerState} {i : Int} {bytes : List UInt8} {prior : List Output},
      ReceiveEffect s i bytes middle prior → middle.rtpseqnoAudio = s.rtpseqnoAudio := by
    intro s middle i bytes prior receive
    cases receive <;> rfl
  cases step_cases taken with
  | @timeout now wake after output pc set effect =>
      rw [step, if_pos ⟨pc, set⟩] at taken
      have handled := Except.ok.inj taken
      have kept := handleTimeout_rtpseqnoAudio variant now wake silent
      rw [handled] at kept
      exact kept
  | accept pc branch possible effect => cases effect <;> rfl
  | datagram pc branch effect =>
      cases effect
      rfl
  | @media io i rest after output pc branch possible effect =>
      obtain ⟨kernel, masterfds, stored⟩ := storeMedia_eq { s with pc := .dispatch rest } i io
      cases effect with
      | stored recvtcp opened more => rw [stored]
      | completed recvtcp opened last effect =>
          rw [stored] at effect
          cases effect <;> rfl
      | _ => rfl
  | rtsp pc branch possible effect =>
      cases effect with
      | failed reason unread => rfl
      | teardown receive type effect =>
          have kept := received receive
          cases effect with
          | locked taken => exact kept
          | dangling free dead => exact kept
          | done free armed =>
              exact absurd (List.mem_append_right _ List.mem_cons_self) (goesOn _)
      | switched receive type effect =>
          have kept := received receive
          cases effect with
          | @setup rtp rtcp session text state type opened =>
              obtain ⟨kernel, same⟩ := openUdp_eq _ rtp rtcp
              rw [same]
              exact kept
          | _ => exact kept
  | rearmed pc free => rw [ServerState.rearm, locked_free free]
  | filler effect =>
      obtain ⟨queue, lock, fillers, rfl, -⟩ := effect.only
      rfl
  | _ => rfl

/-! ## Runs -/

/-- A place of the table holds an acknowledged client with this socket. -/
def Listens (sip : Sip) (k : Fin maxClients) (fd : Int) : Prop :=
  ∃ client, sip.clientlist k = some client ∧ client.ackrecvd = true ∧ client.sockfd = fd

/-- Two successive audio FRAME events of a run, and a client which stays acknowledged across them. -/
structure AudioPair (trace : List (Entry ServerState Input Output)) (k : Fin maxClients) (fd : Int)
    (first : Entry ServerState Input Output) (between : List (Entry ServerState Input Output))
    (second : Entry ServerState Input Output) : Prop where
  inRun : first :: (between ++ [second]) <:+: trace
  firstPlays : PlaysAudio first.before first.input
  secondPlays : PlaysAudio second.before second.input
  successive : ∀ entry ∈ between, ¬ PlaysAudio entry.before entry.input
  stays : ∀ entry ∈ first :: (between ++ [second]), Listens entry.before.sip k fd

/-- The client is sent one packet at each event, and the second is numbered behind the first. -/
def Gapless (fd : Int) (first second : List Output) : Prop :=
  ∃ number, audioNumbers fd first = [number] ∧ audioNumbers fd second = [number + 1]

/-- What a listening client is sent at an audio FRAME event. -/
theorem PlaysAudio.numbers {url : List UInt8} {s after : ServerState} {input : Input}
    {output : List Output} {k : Fin maxClients} {fd : Int} (sockets : MediaSockets s)
    (plays : PlaysAudio s input) (listens : Listens s.sip k fd)
    (taken : step .mt url s input = .ok (after, output)) :
    audioNumbers fd output = [s.rtpseqnoAudio + (s.sip.before k).length.toUInt16] ∧
      after.rtpseqnoAudio = s.rtpseqnoAudio +
        ((s.sip.before k).length + ((s.sip.behind k).length + 1)).toUInt16 := by
  obtain ⟨client, there, acked, rfl⟩ := listens
  obtain ⟨frame, rfl, next⟩ := plays.sends taken
  obtain ⟨inFront, behind⟩ := sockets.alone there
  rw [Sip.acknowledged_split there acked] at next ⊢
  constructor
  · rw [List.map_append, List.map_cons, audioNumbers_sendAudio inFront behind, List.length_map]
  · rw [next, List.length_append, List.length_cons]

/-- Between two audio FRAME events of a session the number stays. -/
theorem rtpseqnoAudio_between {url : List UInt8} {first second : Entry ServerState Input Output}
    {between : List (Entry ServerState Input Output)}
    (chain : (first :: (between ++ [second])).IsChain (machine .mt url).LeadsTo)
    (successive : ∀ entry ∈ between, ¬ PlaysAudio entry.before entry.input)
    (goesOn : ∀ entry ∈ between, ∀ i, .acted i .teardown ∉ entry.output) :
    ∃ after, step .mt url first.before first.input = .ok (after, first.output) ∧
      second.before.rtpseqnoAudio = after.rtpseqnoAudio := by
  -- Induction on the steps between, from the first event on.
  induction between generalizing first with
  | nil => exact ⟨second.before, (List.isChain_cons_cons.mp chain).1, rfl⟩
  | cons entry rest ih =>
      obtain ⟨leads, later⟩ := List.isChain_cons_cons.mp chain
      obtain ⟨after, taken, same⟩ := ih later
        (fun entry member => successive entry (List.mem_cons_of_mem _ member))
        (fun entry member => goesOn entry (List.mem_cons_of_mem _ member))
      have kept := step_rtpseqnoAudio (successive entry List.mem_cons_self)
        (goesOn entry List.mem_cons_self) taken
      exact ⟨entry.before, leads, same.trans kept⟩

/-- Small numbers which are added to a counter of 16 bits are told apart. -/
theorem counter_next_iff (number : UInt16) {front back later : Nat} (small : front + back < 100)
    (few : later < 100) :
    number + (front + (back + 1)).toUInt16 + later.toUInt16 = number + front.toUInt16 + 1 ↔
      back = 0 ∧ later = 0 := by
  rw [← UInt16.toNat_inj]
  simp only [UInt16.toNat_add, UInt16.toNat_ofNat', Nat.toUInt16, UInt16.toNat_one]
  omega

/-- In every run of `start_mt_server`, for every client which stays acknowledged across two successive
audio FRAME events of a session: it is sent one packet at each of them, and the second is numbered
behind the first exactly when nobody is served behind it at the first and nobody before it at the
second. -/
theorem gapless_iff_alone {url : List UInt8} {trace : List (Entry ServerState Input Output)}
    {state : ServerState} (run : (machine .mt url).Runs trace state) {k : Fin maxClients} {fd : Int}
    {first second : Entry ServerState Input Output} {between : List (Entry ServerState Input Output)}
    (pair : AudioPair trace k fd first between second)
    (session : ∀ entry ∈ between, ∀ i, .acted i .teardown ∉ entry.output) :
    Gapless fd first.output second.output ↔
      NoneBehind first.before.sip k ∧ NoneBefore second.before.sip k := by
  have members := pair.inRun.subset
  have secondIn : second ∈ first :: (between ++ [second]) := by simp
  have known : ∀ entry ∈ trace, SocketFacts entry.before ∧
      ∃ after, step .mt url entry.before entry.input = .ok (after, entry.output) := by
    intro entry member
    apply run.entry
    · intro start valid
      exact socketFacts_initial valid
    · intro before input after output facts taken
      exact socketFacts_kept facts taken
    · exact member
  obtain ⟨front, back, split⟩ := pair.inRun
  have chain := run.chain.1
  rw [← split] at chain
  obtain ⟨after, taken, same⟩ := rtpseqnoAudio_between chain.left_of_append.right_of_append
    pair.successive session
  obtain ⟨factsFirst, -⟩ := known first (members List.mem_cons_self)
  obtain ⟨factsSecond, final, takenSecond⟩ := known second (members secondIn)
  obtain ⟨sentFirst, next⟩ := pair.firstPlays.numbers factsFirst.sockets
    (pair.stays first List.mem_cons_self) taken
  obtain ⟨sentSecond, -⟩ := pair.secondPlays.numbers factsSecond.sockets
    (pair.stays second secondIn) takenSecond
  have sizes : Gapless fd first.output second.output ↔
      (first.before.sip.behind k).length = 0 ∧ (second.before.sip.before k).length = 0 := by
    have firstSmall := Sip.length_before_behind first.before.sip k
    have secondSmall := Sip.length_before_behind second.before.sip k
    have places : maxClients = 10 := rfl
    rw [← counter_next_iff first.before.rtpseqnoAudio
      (show (first.before.sip.before k).length + (first.before.sip.behind k).length < 100 by omega)
      (by omega), Gapless, sentFirst, sentSecond, same, next]
    constructor
    · rintro ⟨number, one, two⟩
      rw [List.cons.injEq] at one two
      rw [two.1, one.1]
    · intro equal
      exact ⟨_, rfl, by rw [equal]⟩
  rw [sizes, List.length_eq_zero_iff, List.length_eq_zero_iff, Sip.behind_eq_nil, Sip.before_eq_nil]

/-- Two events at the end of a run, one right behind the other. -/
theorem AudioPair.atEnd {trace : List (Entry ServerState Input Output)} {k : Fin maxClients} {fd : Int}
    {first second : Entry ServerState Input Output}
    (firstPlays : PlaysAudio first.before first.input)
    (secondPlays : PlaysAudio second.before second.input)
    (firstListens : Listens first.before.sip k fd)
    (secondListens : Listens second.before.sip k fd) :
    AudioPair (trace ++ [first] ++ [second]) k fd first [] second where
  inRun := ⟨trace, [], by simp⟩
  firstPlays := firstPlays
  secondPlays := secondPlays
  successive entry member := absurd member List.not_mem_nil
  stays entry member := by
    rcases List.mem_cons.mp member with rfl | later
    · exact firstListens
    · obtain rfl := List.mem_singleton.mp later
      exact secondListens

/-- An audio frame of one byte. -/
def someAudio : Rtp.Frame := ⟨fun _ => 0, 1, 0, .audio⟩

/-- A client calls in and sends an ACK. -/
def callsIn (callid : String) (rtpfd : Int) : List Input :=
  datagram (callDatagram "INVITE" callid rtpfd) ++ datagram (callDatagram "ACK" callid 20)

/-- SIP clients call in; the media is played, and two audio frames are queued. -/
def audioQueued (calls : List Input) : List Input :=
  connect 6 ++ calls ++ describe 6 7 someResponse ++ play 6 ++ media 7 someResponse someHeader ++
    media 7 [] [7] ++ [.filler 0 .wait, .filler 0 .spurious,
      .filler 0 (.resume someTime (some someAudio) ⟨0, 0⟩), .filler 0 .test,
      .filler 0 (.push (some someAudio) ⟨0, 0⟩)]

/-- The first place of the table. -/
def firstPlace : Fin maxClients := ⟨0, by decide⟩

/-- What is seen of the two frames at the first place, behind these calls. -/
structure TwoFrames (calls : List Input) (result : List (Entry ServerState Input Output) × ServerState)
    (one two : Outcome) : Prop where
  queued : (machine .mt someUrl).exec [] (startState .mt) (audioQueued calls) = .ok result
  first : step .mt someUrl result.2 (.timeout someTime 0) = .ok one
  second : step .mt someUrl one.1 (.timeout someTime 0) = .ok two
  firstPlays : PlaysAudio result.2 (.timeout someTime 0)
  secondPlays : PlaysAudio one.1 (.timeout someTime 0)
  firstListens : (result.2.sip.clientlist firstPlace).map (fun c => (c.ackrecvd, c.sockfd)) =
    some (true, 8)
  secondListens : (one.1.sip.clientlist firstPlace).map (fun c => (c.ackrecvd, c.sockfd)) =
    some (true, 8)

theorem Listens.of_map {sip : Sip} {k : Fin maxClients} {fd : Int}
    (there : (sip.clientlist k).map (fun c => (c.ackrecvd, c.sockfd)) = some (true, fd)) :
    Listens sip k fd := by
  obtain ⟨client, found, same⟩ := Option.map_eq_some_iff.mp there
  obtain ⟨acked, socket⟩ := Prod.mk.inj same
  exact ⟨client, found, acked, socket⟩

theorem TwoFrames.run {calls : List Input} {result : List (Entry ServerState Input Output) × ServerState}
    {one two : Outcome} (frames : TwoFrames calls result one two) :
    (machine .mt someUrl).Runs
      (result.1 ++ [⟨result.2, .timeout someTime 0, one.2⟩] ++ [⟨one.1, .timeout someTime 0, two.2⟩])
      two.1 :=
  .step (.step (Machine.Runs.of_exec (startState_initial .mt someUrl) frames.queued) frames.first)
    frames.second

theorem TwoFrames.pair {calls : List Input}
    {result : List (Entry ServerState Input Output) × ServerState} {one two : Outcome}
    (frames : TwoFrames calls result one two) :
    AudioPair
      (result.1 ++ [⟨result.2, .timeout someTime 0, one.2⟩] ++ [⟨one.1, .timeout someTime 0, two.2⟩])
      firstPlace 8 ⟨result.2, .timeout someTime 0, one.2⟩ [] ⟨one.1, .timeout someTime 0, two.2⟩ :=
  .atEnd frames.firstPlays frames.secondPlays (.of_map frames.firstListens)
    (.of_map frames.secondListens)

theorem twoFrames_alone : ∃ result one two, TwoFrames (callsIn "1" 8) result one two ∧
    audioNumbers 8 one.2 = [0] ∧ audioNumbers 8 two.2 = [1] :=
  ⟨_, _, _, ⟨rfl, rfl, rfl, ⟨rfl, _, _, _, _, _, rfl, rfl, rfl, rfl⟩,
    ⟨rfl, _, _, _, _, _, rfl, rfl, rfl, rfl⟩, by decide +kernel, by decide +kernel⟩,
    by decide +kernel, by decide +kernel⟩

/-- One SIP client gets a gapless stream, so it is alone. -/
theorem gapless_iff_alone_oneClient : ∃ result one two, TwoFrames (callsIn "1" 8) result one two ∧
    Gapless 8 one.2 two.2 ∧ NoneBehind result.2.sip firstPlace ∧ NoneBefore one.1.sip firstPlace := by
  obtain ⟨result, one, two, frames, numbered, next⟩ := twoFrames_alone
  have gapless : Gapless 8 one.2 two.2 := ⟨0, numbered, next⟩
  exact ⟨result, one, two, frames, gapless,
    (gapless_iff_alone frames.run frames.pair fun entry member => absurd member List.not_mem_nil).mp
      gapless⟩

theorem twoFrames_crowded : ∃ result one two, TwoFrames (callsIn "1" 8 ++ callsIn "2" 9) result one two ∧
    audioNumbers 8 one.2 = [0] ∧ audioNumbers 8 two.2 = [2] :=
  ⟨_, _, _, ⟨rfl, rfl, rfl, ⟨rfl, _, _, _, _, _, rfl, rfl, rfl, rfl⟩,
    ⟨rfl, _, _, _, _, _, rfl, rfl, rfl, rfl⟩, by decide +kernel, by decide +kernel⟩,
    by decide +kernel, by decide +kernel⟩

/-- With two SIP clients the first one's stream has gaps. -/
theorem gapless_not_always : ¬ ∀ url trace state k fd first between second,
    (machine .mt url).Runs trace state → AudioPair trace k fd first between second →
      Gapless fd first.output second.output := by
  intro all
  obtain ⟨result, one, two, frames, numbered, behind⟩ := twoFrames_crowded
  obtain ⟨number, first, second⟩ := all someUrl _ _ _ _ _ _ _ frames.run frames.pair
  obtain rfl := List.singleton_inj.mp (numbered.symm.trans first)
  have impossible := List.singleton_inj.mp (behind.symm.trans second)
  exact absurd impossible (by decide)

end Http2Rtsp.Server
