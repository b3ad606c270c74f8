import Http2Rtsp.Server.Queueing

/-!
# Sessions and media

What a session of a client has come to is read off from what was put out: its
connection, its SETUPs, its PLAY. Media may be sent when the connected client has
made its two SETUPs and its PLAY was accepted. The server does not keep to this by
itself; the module states which orders of events it needs.
-/

namespace Http2Rtsp.Server

open Http2Rtsp.Std Http2Rtsp.Message Http2Rtsp.Pacing Http2Rtsp.Semantics

/-! ## The history of a session -/

/-- The session of a connected client. -/
structure Session where
  fd : Int
  setups : Nat
  played : Bool
deriving DecidableEq

/-- The session one output later. -/
def nextSession (session : Option Session) : Output → Option Session
  | .connected fd => some ⟨fd, 0, false⟩
  | .disconnected fd => session.filter fun session => session.fd ≠ fd
  | .acted fd .setup => session.map fun session =>
      if session.fd = fd then { session with setups := session.setups + 1 } else session
  | .acted fd .play => session.map fun session =>
      if session.fd = fd then { session with played := true } else session
  | .acted fd .teardown => session.filter fun session => session.fd ≠ fd
  | _ => session

/-- The session which is on after these outputs. -/
def sessionOf (outputs : List Output) : Option Session := outputs.foldl nextSession none

/-- The connected client has made its two SETUPs, and its PLAY was accepted. -/
def Authorised : Option Session → Prop
  | none => False
  | some session => 2 ≤ session.setups ∧ session.played = true

instance : (session : Option Session) → Decidable (Authorised session)
  | none => inferInstanceAs (Decidable False)
  | some _ => inferInstanceAs (Decidable (_ ∧ _))

/-- A PLAY was accepted in the session. -/
def Played : Option Session → Prop
  | none => False
  | some session => session.played = true

instance : (session : Option Session) → Decidable (Played session)
  | none => inferInstanceAs (Decidable False)
  | some _ => inferInstanceAs (Decidable (_ = true))

/-- A filler is started, or a packet which carries media is sent. -/
def Output.isMedia : Output → Bool
  | .launched _ | .videoFrame .. | .audioFrame .. => true
  | _ => false

/-- From this session on, media is put out only when it is authorised. -/
def AuthorisedFrom : Option Session → List Output → Prop
  | _, [] => True
  | session, o :: rest =>
      (o.isMedia = true → Authorised session) ∧ AuthorisedFrom (nextSession session o) rest

/-- Media is put out only when it is authorised. -/
def MediaAuthorised (outputs : List Output) : Prop := AuthorisedFrom none outputs

instance AuthorisedFrom.decidable :
    (session : Option Session) → (outputs : List Output) → Decidable (AuthorisedFrom session outputs)
  | _, [] => .isTrue trivial
  | session, o :: rest =>
      @instDecidableAnd _ _ inferInstance (AuthorisedFrom.decidable (nextSession session o) rest)

instance (outputs : List Output) : Decidable (MediaAuthorised outputs) :=
  AuthorisedFrom.decidable none outputs

theorem authorisedFrom_append {session : Option Session} {first second : List Output} :
    AuthorisedFrom session (first ++ second) ↔
      AuthorisedFrom session first ∧ AuthorisedFrom (first.foldl nextSession session) second := by
  induction first generalizing session with
  | nil => simp [AuthorisedFrom]
  | cons o rest ih => simp only [List.cons_append, AuthorisedFrom, List.foldl_cons, ih, and_assoc]

theorem mediaAuthorised_append {past output : List Output} :
    MediaAuthorised (past ++ output) ↔
      MediaAuthorised past ∧ AuthorisedFrom (sessionOf past) output :=
  authorisedFrom_append

theorem sessionOf_append (past output : List Output) :
    sessionOf (past ++ output) = output.foldl nextSession (sessionOf past) :=
  List.foldl_append

/-- Outputs which do not concern the session. -/
def Output.neutral (o : Output) : Prop := ∀ session, nextSession session o = session

theorem neutral_nil : ∀ o ∈ ([] : List Output), o.neutral :=
  fun _ member => absurd member List.not_mem_nil

theorem silent_nil : ∀ o ∈ ([] : List Output), o.isMedia = false :=
  fun _ member => absurd member List.not_mem_nil

/-- Behind neutral outputs the session is the same. -/
theorem sessionOf_neutral {past output : List Output} (neutral : ∀ o ∈ output, o.neutral) :
    sessionOf (past ++ output) = sessionOf past := by
  rw [sessionOf_append]
  generalize sessionOf past = session
  induction output with
  | nil => rfl
  | cons o rest ih =>
      rw [List.foldl_cons, neutral o List.mem_cons_self]
      exact ih fun later member => neutral later (List.mem_cons_of_mem o member)

/-- Outputs without media are fine. -/
theorem authorisedFrom_silent {session : Option Session} {output : List Output}
    (silent : ∀ o ∈ output, o.isMedia = false) : AuthorisedFrom session output := by
  induction output generalizing session with
  | nil => trivial
  | cons o rest ih =>
      refine ⟨fun media => ?_, ih fun later member => silent later (List.mem_cons_of_mem o member)⟩
      cases (silent o List.mem_cons_self).symm.trans media

/-- Neutral outputs are fine when the session is authorised. -/
theorem authorisedFrom_neutral {session : Option Session} {output : List Output}
    (neutral : ∀ o ∈ output, o.neutral) (authorised : Authorised session) :
    AuthorisedFrom session output := by
  induction output with
  | nil => trivial
  | cons o rest ih =>
      refine ⟨fun _ => authorised, ?_⟩
      rw [neutral o List.mem_cons_self]
      exact ih fun later member => neutral later (List.mem_cons_of_mem o member)

/-! ## The invariant -/

/-- A `FRAME` event. -/
def isFrame : EventType → Bool
  | .frame _ => true
  | _ => false

/-- No filler is alive and no frame is queued. -/
def NoMediaLeft (s : ServerState) : Prop :=
  (∀ filler ∈ s.fillers, ¬ filler.Live) ∧ ∀ event ∈ s.queue, isFrame event.type = false

instance (s : ServerState) : Decidable (NoMediaLeft s) := inferInstanceAs (Decidable (_ ∧ _))

/-- How the client agrees with the session, and that media is left only to an authorised one. -/
structure SessionInvariant (past : List Output) (s : ServerState) : Prop where
  absent : s.streamclient.state = .noclient → sessionOf past = none
  present : s.streamclient.state ≠ .noclient → ∃ played,
    sessionOf past = some ⟨s.streamclient.rtspfd, s.streamclient.setupsreceived, played⟩ ∧
      (played = true → s.streamclient.state = .setupcomplete)
  complete : s.streamclient.state = .setupcomplete → 2 ≤ s.streamclient.setupsreceived
  media : NoMediaLeft s ∨ Authorised (sessionOf past)

/-- A part of a step which keeps the invariant and puts out no media but authorised one. -/
def KeepsSession (past : List Output) (after : ServerState) (output : List Output) : Prop :=
  SessionInvariant (past ++ output) after ∧ AuthorisedFrom (sessionOf past) output

/-- Two parts of a step. -/
theorem KeepsSession.trans {past prior output : List Output} {middle after : ServerState}
    (first : KeepsSession past middle prior) (second : KeepsSession (past ++ prior) after output) :
    KeepsSession past after (prior ++ output) := by
  refine ⟨List.append_assoc past prior output ▸ second.1, authorisedFrom_append.mpr ⟨first.2, ?_⟩⟩
  exact sessionOf_append past prior ▸ second.2

/-- A part of a step which the session does not notice. -/
theorem SessionInvariant.keeps {past output : List Output} {s after : ServerState}
    (inv : SessionInvariant past s) (state : after.streamclient.state = s.streamclient.state)
    (rtspfd : after.streamclient.rtspfd = s.streamclient.rtspfd)
    (setups : after.streamclient.setupsreceived = s.streamclient.setupsreceived)
    (neutral : ∀ o ∈ output, o.neutral)
    (media : Authorised (sessionOf past) ∨
      (NoMediaLeft after ∧ ∀ o ∈ output, o.isMedia = false)) :
    KeepsSession past after output := by
  have same := @sessionOf_neutral past output neutral
  refine ⟨⟨?_, ?_, ?_, ?_⟩, ?_⟩
  · rw [same, state]
    exact inv.absent
  · rw [same, state, rtspfd, setups]
    exact inv.present
  · rw [state, setups]
    exact inv.complete
  · rw [same]
    exact media.symm.imp_left And.left
  · rcases media with authorised | ⟨-, silent⟩
    · exact authorisedFrom_neutral neutral authorised
    · exact authorisedFrom_silent silent

/-- The same, when no media is put out and what was left fades. -/
theorem SessionInvariant.fades {past output : List Output} {s after : ServerState}
    (inv : SessionInvariant past s) (state : after.streamclient.state = s.streamclient.state)
    (rtspfd : after.streamclient.rtspfd = s.streamclient.rtspfd)
    (setups : after.streamclient.setupsreceived = s.streamclient.setupsreceived)
    (neutral : ∀ o ∈ output, o.neutral) (silent : ∀ o ∈ output, o.isMedia = false)
    (fades : Fades s.fillers after.fillers) (queue : AddsTimeouts s.queue after.queue) :
    KeepsSession past after output := by
  refine inv.keeps state rtspfd setups neutral ?_
  rcases inv.media with ⟨dead, frameless⟩ | authorised
  · refine Or.inr ⟨⟨fades.none_live dead, fun event member => ?_⟩, silent⟩
    rcases queue event member with old | check
    · exact frameless event old
    · rw [check]
      rfl
  · exact Or.inl authorised

/-- An authorised session has a client which has made its SETUPs. -/
theorem SessionInvariant.authorised_of_played {past : List Output} {s : ServerState}
    (inv : SessionInvariant past s) (played : Played (sessionOf past)) :
    Authorised (sessionOf past) := by
  by_cases gone : s.streamclient.state = .noclient
  · rw [inv.absent gone] at played
    exact played.elim
  · obtain ⟨playing, known, complete⟩ := inv.present gone
    rw [known] at played ⊢
    exact ⟨inv.complete (complete played), played⟩

theorem sessionInvariant_initial {variant : Variant} {s : ServerState} (initial : Initial variant s) :
    SessionInvariant [] s where
  absent _ := rfl
  present there := absurd (by rw [initial.streamclient]; rfl) there
  complete state := by
    rw [initial.streamclient] at state
    cases state
  media := Or.inl ⟨by simp [initial.fillers], by simp [initial.queue]⟩

theorem haltOutput_neutral {reason : Halt} : ∀ o ∈ haltOutput reason, o.neutral := by
  intro o member
  obtain ⟨reason, rfl⟩ := mem_haltOutput member
  exact fun _ => rfl

theorem haltOutput_silent {reason : Halt} : ∀ o ∈ haltOutput reason, o.isMedia = false := by
  intro o member
  obtain ⟨reason, rfl⟩ := mem_haltOutput member
  rfl

/-- A BYE goes to a SIP client. -/
theorem byes_neutral {sent : List Output}
    (farewell : ∀ output ∈ sent, ∃ text cliaddr, output = .byeSent text cliaddr) :
    ∀ o ∈ sent, o.neutral := by
  intro o member
  obtain ⟨text, cliaddr, rfl⟩ := farewell o member
  exact fun _ => rfl

theorem byes_silent {sent : List Output}
    (farewell : ∀ output ∈ sent, ∃ text cliaddr, output = .byeSent text cliaddr) :
    ∀ o ∈ sent, o.isMedia = false := by
  intro o member
  obtain ⟨text, cliaddr, rfl⟩ := farewell o member
  rfl

/-! ## Orderly events -/

/-- What must be true when data arrives in the RTSP branch on a descriptor. -/
structure OrderlyRequest (s : ServerState) (i : Int) (received : List UInt8) : Prop where
  /-- It is the connected client which is heard. -/
  speaker : s.streamclient.state ≠ .noclient → i = s.streamclient.rtspfd
  /-- The client goes only when nothing is left to be sent to it. -/
  closes : s.kernel i ≠ none → received = [] → NoMediaLeft s
  /-- A TEARDOWN finds no live filler but the one it cancels. -/
  tearsDown : Leaves s i received .teardown →
    ∀ k (there : k < s.fillers.length), s.fillers[k].Live → s.threadid = some k

instance (s : ServerState) (i : Int) (received : List UInt8) :
    Decidable (OrderlyRequest s i received) :=
  decidable_of_iff ((s.streamclient.state ≠ .noclient → i = s.streamclient.rtspfd) ∧
      (s.kernel i ≠ none → received = [] → NoMediaLeft s) ∧
      (Leaves s i received .teardown →
        ∀ k (there : k < s.fillers.length), s.fillers[k].Live → s.threadid = some k)) <| by
    constructor
    · rintro ⟨speaker, closes, tearsDown⟩
      exact ⟨speaker, closes, tearsDown⟩
    · rintro ⟨speaker, closes, tearsDown⟩
      exact ⟨speaker, closes, tearsDown⟩

/-- The orders of events which the server needs: the download ends behind the PLAY of the connected
client, a client connects when no SETUPs of another one are on record, and requests are orderly. -/
def Orderly (past : List Output) (s : ServerState) : Input → Prop
  | .accept (.accepted _) =>
      s.streamclient.state = .noclient → s.streamclient.setupsreceived = 0
  | .media io =>
      s.download.mediastate = .recvtcp → s.download.videoleft ≤ io.received.length →
        Played (sessionOf past)
  | .rtsp io =>
      match s.pc with
      | .dispatch (i :: _) => OrderlyRequest s i io.received
      | _ => True
  | _ => True

instance (past : List Output) (s : ServerState) : (input : Input) → Decidable (Orderly past s input)
  | .accept (.accepted _) => inferInstanceAs (Decidable (_ → _))
  | .media _ => inferInstanceAs (Decidable (_ → _ → _))
  | .rtsp io =>
      match pc : s.pc with
      | .dispatch (i :: _) =>
          decidable_of_iff (OrderlyRequest s i io.received) <| by simp only [Orderly, pc]
      | .dispatch [] => isTrue <| by simp only [Orderly, pc]
      | .select => isTrue <| by simp only [Orderly, pc]
      | .halted _ => isTrue <| by simp only [Orderly, pc]
  | .accept .failed | .accept .fatal | .timeout .. | .interrupted | .ready _ | .datagram _ | .rearm _
  | .filler .. => isTrue trivial

/-! ## Steps -/

/-- A dequeued frame is sent only to an authorised session, since it was left. -/
theorem TimeoutEffect.session {past output : List Output} {s after : ServerState} {wake : Nat}
    (effect : TimeoutEffect s wake after output) (inv : SessionInvariant past s) :
    KeepsSession past after output := by
  cases effect with
  | locked taken => exact inv.fades rfl rfl rfl neutral_nil silent_nil (.refl _) (.refl _)
  | idle free empty => exact inv.fades rfl rfl rfl neutral_nil silent_nil (.refl _) (.refl _)
  | @failed event rest reason sent free queued last farewell =>
      have neutral := List.forall_mem_append.mpr
        ⟨byes_neutral farewell, @haltOutput_neutral (.undefined reason)⟩
      have silent := List.forall_mem_append.mpr
        ⟨byes_silent farewell, @haltOutput_silent (.undefined reason)⟩
      refine inv.fades rfl rfl rfl neutral silent (.refl _) ?_
      exact fun event member => Or.inl (queued ▸ List.mem_cons_of_mem _ member)
  | @handled event rest middle output free queued effect =>
      have fades : Fades s.fillers (middle.finishTimeout event wake).fillers := by
        have same : middle.fillers = s.fillers := effect.threads.1
        unfold ServerState.finishTimeout
        split
        · exact same ▸ fades_signal wake middle.fillers
        · exact same ▸ .refl _
      have queue : AddsTimeouts s.queue (middle.finishTimeout event wake).queue := by
        intro event member
        exact (effect.queue event member).imp_left fun old => queued ▸ List.mem_cons_of_mem _ old
      -- A frame at the head of the queue was left.
      have frame : ∀ frame, event.type = .frame frame → Authorised (sessionOf past) := by
        intro frame media
        rcases inv.media with ⟨-, frameless⟩ | authorised
        · have plain := frameless event (queued ▸ List.mem_cons_self)
          rw [media] at plain
          cases plain
        · exact authorised
      cases effect with
      | @ended sent last farewell =>
          have neutral : ∀ o ∈ sent ++ [.endOfStream], o.neutral :=
            List.forall_mem_append.mpr ⟨byes_neutral farewell, by simp [Output.neutral, nextSession]⟩
          have silent : ∀ o ∈ sent ++ [.endOfStream], o.isMedia = false :=
            List.forall_mem_append.mpr ⟨byes_silent farewell, by simp [Output.isMedia]⟩
          exact inv.fades rfl rfl rfl neutral silent fades queue
      | video media =>
          refine inv.keeps rfl rfl rfl (fun o member => ?_) (Or.inl (frame _ media))
          obtain rfl := List.mem_singleton.mp member
          exact fun _ => rfl
      | audio media frames =>
          refine inv.keeps rfl rfl rfl (fun o member => ?_) (Or.inl (frame _ media))
          obtain ⟨fd, seq, rfl⟩ := frames o member
          exact fun _ => rfl
      | dummy check waiting =>
          refine inv.fades rfl rfl rfl (fun o member => ?_) (fun o member => ?_) fades queue
          · obtain rfl := List.mem_singleton.mp member
            exact fun _ => rfl
          · obtain rfl := List.mem_singleton.mp member
            rfl
      | ready check streaming => exact inv.fades rfl rfl rfl neutral_nil silent_nil fades queue

theorem AcceptEffect.session {past output : List Output} {s after : ServerState} {result : Accept}
    (effect : AcceptEffect s result after output) (inv : SessionInvariant past s)
    (orderly : ∀ fd, result = .accepted fd → s.streamclient.state = .noclient →
      s.streamclient.setupsreceived = 0) : KeepsSession past after output := by
  cases effect with
  | halted reason =>
      exact inv.fades rfl rfl rfl haltOutput_neutral haltOutput_silent (.refl _) (.refl _)
  | rejected busy =>
      refine inv.fades rfl rfl rfl (fun o member => ?_) (fun o member => ?_) (.refl _) (.refl _)
      · obtain rfl := List.mem_singleton.mp member
        exact fun _ => rfl
      · obtain rfl := List.mem_singleton.mp member
        rfl
  | @accepted fd same free =>
      have session : sessionOf (past ++ [.connected fd]) = some ⟨fd, 0, false⟩ := by
        rw [sessionOf_append]
        rfl
      have left : NoMediaLeft s := by
        rcases inv.media with left | authorised
        · exact left
        · rw [inv.absent free] at authorised
          exact authorised.elim
      refine ⟨⟨nofun, fun _ => ⟨false, ?_, nofun⟩, nofun, Or.inl left⟩, nofun, trivial⟩
      rw [session]
      exact congrArg some (by rw [orderly fd same free])

/-- The end of the download starts a filler, which the session must allow. -/
theorem MediaEffect.session {past output : List Output} {s after : ServerState} {i : Int}
    {io : MediaIo} (effect : MediaEffect s i io after output) (inv : SessionInvariant past s)
    (orderly : s.download.mediastate = .recvtcp → s.download.videoleft ≤ io.received.length →
      Played (sessionOf past)) : KeepsSession past after output := by
  cases effect with
  | ignored other => exact inv.fades rfl rfl rfl neutral_nil silent_nil (.refl _) (.refl _)
  | failed reason reads =>
      exact inv.fades rfl rfl rfl haltOutput_neutral haltOutput_silent (.refl _) (.refl _)
  | header getsent opened found parsed =>
      exact inv.fades rfl rfl rfl neutral_nil silent_nil (.refl _) (.refl _)
  | stored recvtcp opened more =>
      obtain ⟨kernel, masterfds, stored⟩ := storeMedia_eq s i io
      rw [stored]
      exact inv.fades rfl rfl rfl neutral_nil silent_nil (.refl _) (.refl _)
  | completed recvtcp opened last effect =>
      obtain ⟨kernel, masterfds, stored⟩ := storeMedia_eq s i io
      rw [stored] at effect last
      have ended : s.download.videoleft ≤ io.received.length := by
        have left : ¬ 0 < s.download.videoleft - io.received.length := last
        omega
      have authorised := inv.authorised_of_played (orderly recvtcp ended)
      cases effect with
      | exited unopened => exact inv.fades rfl rfl rfl neutral_nil silent_nil (.refl _) (.refl _)
      | failed unopened =>
          refine inv.keeps rfl rfl rfl ?_ (Or.inl authorised)
          simp [Output.neutral, nextSession]
      | locked opened taken =>
          refine inv.keeps rfl rfl rfl ?_ (Or.inl authorised)
          simp [ServerState.launch, Output.neutral, nextSession]
      | launched opened free =>
          refine inv.keeps rfl rfl rfl ?_ (Or.inl authorised)
          simp [ServerState.launch, Output.neutral, nextSession]

/-- A receipt: the client has gone, with nothing left, or the session does not notice. -/
theorem ReceiveEffect.session {past output : List Output} {s after : ServerState} {i : Int}
    {received : List UInt8} (effect : ReceiveEffect s i received after output)
    (inv : SessionInvariant past s) (orderly : OrderlyRequest s i received) :
    KeepsSession past after output := by
  cases effect with
  | message opened nonempty terminated parsed =>
      exact inv.fades rfl rfl rfl neutral_nil silent_nil (.refl _) (.refl _)
  | closed opened empty =>
      have gone : sessionOf (past ++ [.disconnected i]) = Option.none := by
        rw [sessionOf_append]
        by_cases absent : s.streamclient.state = .noclient
        · rw [inv.absent absent]
          rfl
        · obtain ⟨played, session, -⟩ := inv.present absent
          rw [session, orderly.speaker absent]
          simp [nextSession]
      exact ⟨⟨fun _ => gone, fun there => absurd rfl there, nofun,
        Or.inl (orderly.closes opened empty)⟩, nofun, trivial⟩

/-- A TEARDOWN ends the session and all that was left for it. -/
theorem TeardownEffect.session {variant : Variant} {past output : List Output} {s after : ServerState}
    {i : Int} {io : RtspIo} (effect : TeardownEffect variant s i io after output)
    (inv : SessionInvariant past s)
    (speaker : s.streamclient.state ≠ .noclient → i = s.streamclient.rtspfd)
    (alone : ∀ k (there : k < s.fillers.length), s.fillers[k].Live → s.threadid = some k) :
    KeepsSession past after output := by
  cases effect with
  | locked taken => exact inv.fades rfl rfl rfl neutral_nil silent_nil (.refl _) (.refl _)
  | dangling free dead =>
      exact inv.fades rfl rfl rfl (@haltOutput_neutral (.undefined .dangling))
        (@haltOutput_silent (.undefined .dangling)) (.refl _) (.refl _)
  | @done thread tinfo free armed =>
      have silent : ∀ o ∈ (s.tearDown variant i io thread tinfo).2, o.isMedia = false := by
        simp [ServerState.tearDown, Output.isMedia]
      have gone : sessionOf (past ++ (s.tearDown variant i io thread tinfo).2) = none := by
        rw [sessionOf_append]
        by_cases absent : s.streamclient.state = .noclient
        · rw [inv.absent absent]
          rfl
        · obtain ⟨played, session, -⟩ := inv.present absent
          rw [session, speaker absent]
          simp [ServerState.tearDown, nextSession]
      obtain ⟨fades, ended⟩ := tearDown_fades variant s i io thread tinfo
      have left : NoMediaLeft (s.tearDown variant i io thread tinfo).1 := by
        refine ⟨fun filler member live => ?_, fun event member => absurd member List.not_mem_nil⟩
        obtain ⟨k, there⟩ := List.mem_iff_getElem?.mp member
        obtain ⟨earlier, before, alive, -⟩ := fades.2 k filler there live
        obtain ⟨short, rfl⟩ := List.getElem?_eq_some_iff.mp before
        have named := alone k short alive
        obtain rfl := Option.some.inj (armed.1.symm.trans named)
        exact ended filler there live
      refine ⟨⟨fun _ => gone, fun there => absurd rfl there, fun complete => ?_, Or.inl left⟩,
        authorisedFrom_silent silent⟩
      cases complete

/-- Before `SETUPCOMPLETE` a session has no PLAY, and nothing is left. -/
theorem SessionInvariant.unplayed {past : List Output} {s : ServerState}
    (inv : SessionInvariant past s) (there : s.streamclient.state ≠ .noclient)
    (early : s.streamclient.state ≠ .setupcomplete) :
    sessionOf past = some ⟨s.streamclient.rtspfd, s.streamclient.setupsreceived, false⟩ ∧
      NoMediaLeft s := by
  obtain ⟨played, session, complete⟩ := inv.present there
  cases played with
  | true => exact absurd (complete rfl) early
  | false =>
      refine ⟨session, inv.media.resolve_right fun authorised => ?_⟩
      rw [session] at authorised
      cases authorised.2

/-- A DESCRIBE takes such a session to `SDPSENT`. -/
theorem SessionInvariant.describes {past output : List Output} {s after : ServerState}
    (inv : SessionInvariant past s) (there : s.streamclient.state ≠ .noclient)
    (early : s.streamclient.state ≠ .setupcomplete) (state : after.streamclient.state = .sdpsent)
    (rtspfd : after.streamclient.rtspfd = s.streamclient.rtspfd)
    (setups : after.streamclient.setupsreceived = s.streamclient.setupsreceived)
    (fillers : after.fillers = s.fillers) (queue : after.queue = s.queue)
    (neutral : ∀ o ∈ output, o.neutral) (silent : ∀ o ∈ output, o.isMedia = false) :
    KeepsSession past after output := by
  obtain ⟨session, left⟩ := inv.unplayed there early
  refine ⟨⟨fun gone => ?_, fun _ => ⟨false, ?_, nofun⟩, fun complete => ?_, Or.inl ?_⟩,
    authorisedFrom_silent silent⟩
  · cases gone.symm.trans state
  · rw [sessionOf_neutral neutral, session, rtspfd, setups]
  · cases complete.symm.trans state
  · unfold NoMediaLeft
    rw [fillers, queue]
    exact left

/-- A PLAY in `SETUPCOMPLETE` makes the session authorised. -/
theorem SessionInvariant.plays {past : List Output} {s : ServerState} {i : Int}
    (inv : SessionInvariant past s) (text : List UInt8) (state : s.streamclient.state = .setupcomplete)
    (speaker : i = s.streamclient.rtspfd) :
    KeepsSession past s [.acted i .play, .reply i text] ∧
      Authorised (sessionOf (past ++ [.acted i .play, .reply i text])) := by
  have there : s.streamclient.state ≠ .noclient := by simp [state]
  obtain ⟨played, session, -⟩ := inv.present there
  have played : sessionOf (past ++ [.acted i .play, .reply i text]) =
      some ⟨s.streamclient.rtspfd, s.streamclient.setupsreceived, true⟩ := by
    rw [sessionOf_append, session, speaker]
    simp [nextSession]
  have authorised : Authorised (sessionOf (past ++ [.acted i .play, .reply i text])) := by
    rw [played]
    exact ⟨inv.complete state, rfl⟩
  refine ⟨⟨⟨fun gone => absurd gone there, fun _ => ⟨true, played, fun _ => state⟩, inv.complete,
    Or.inr authorised⟩, authorisedFrom_silent ?_⟩, authorised⟩
  simp [Output.isMedia]

/-- The `switch` takes the session along: a SETUP counts, and a PLAY finds two of them. -/
theorem SwitchEffect.session {variant : Variant} {past output : List Output} {s after : ServerState}
    {i : Int} {io : RtspIo} (effect : SwitchEffect variant s i io after output)
    (inv : SessionInvariant past s)
    (speaker : s.streamclient.state ≠ .noclient → i = s.streamclient.rtspfd) :
    KeepsSession past after output := by
  cases effect with
  | ignored other => exact inv.fades rfl rfl rfl neutral_nil silent_nil (.refl _) (.refl _)
  | failed reason output handled before =>
      rcases before with ⟨-, rfl⟩ | ⟨type, rfl, -⟩
      · exact inv.fades rfl rfl rfl haltOutput_neutral haltOutput_silent (.refl _) (.refl _)
      · have state : s.streamclient.state = .setupcomplete := by
          rw [type] at handled
          cases state : s.streamclient.state <;> rw [state] at handled <;> first | rfl | cases handled
        have played := (inv.plays (rtspPlay s.rtspmsg io.date) state (speaker (by simp [state]))).1
        refine played.trans ?_
        exact played.1.fades rfl rfl rfl haltOutput_neutral haltOutput_silent (.refl _) (.refl _)
  | options state type =>
      refine inv.fades rfl rfl rfl ?_ ?_ (.refl _) (.refl _)
      · simp [Output.neutral, nextSession]
      · simp [Output.isMedia]
  | described state type downloaded =>
      refine inv.describes (by simp [state]) (by simp [state]) rfl rfl rfl rfl rfl ?_ ?_
      · simp [Output.neutral, nextSession]
      · simp [Output.isMedia]
  | fetched state type absent fetch =>
      refine inv.describes (by simp [state]) (by simp [state]) rfl rfl rfl rfl rfl ?_ ?_
      · simp [Output.neutral, nextSession]
      · simp [Output.isMedia]
  | @setup rtp rtcp session text state type sockets =>
      obtain ⟨before, left⟩ := inv.unplayed (by simp [state]) (by simp [state])
      obtain ⟨rtspfd, setups, next⟩ :=
        setupClient_fields variant s.streamclient rtp rtcp session state
      obtain ⟨kernel, opened⟩ := openUdp_eq s rtp rtcp
      rw [opened]
      refine ⟨⟨fun gone => ?_, fun _ => ⟨false, ?_, nofun⟩, fun complete => ?_, Or.inl left⟩,
        authorisedFrom_silent ?_⟩
      · rcases next with sent | ⟨complete, -⟩
        · cases gone.symm.trans sent
        · cases gone.symm.trans complete
      · rw [sessionOf_append, before, speaker (by simp [state])]
        simp [nextSession, rtspfd, setups]
      · rcases next with sent | ⟨-, enough⟩
        · cases complete.symm.trans sent
        · exact setups ▸ enough
      · simp [Output.isMedia]
  | played state type absent free =>
      obtain ⟨played, authorised⟩ :=
        inv.plays (rtspPlay s.rtspmsg io.date) state (speaker (by simp [state]))
      refine played.trans (@SessionInvariant.keeps _ [.armed] _ _ played.1 rfl rfl rfl ?_ (Or.inl authorised))
      simp [Output.neutral, nextSession]
  | unopened state type downloaded unopened =>
      obtain ⟨played, authorised⟩ :=
        inv.plays (rtspPlay s.rtspmsg io.date) state (speaker (by simp [state]))
      refine played.trans (played.1.keeps rfl rfl rfl ?_ (Or.inl authorised))
      simp [Output.neutral, nextSession]
  | launched state type downloaded opened =>
      obtain ⟨played, authorised⟩ :=
        inv.plays (rtspPlay s.rtspmsg io.date) state (speaker (by simp [state]))
      rw [List.append_assoc]
      refine played.trans (played.1.keeps rfl rfl rfl ?_ (Or.inl authorised))
      simp [ServerState.launch, Output.neutral, nextSession]

theorem RtspEffect.session {variant : Variant} {past output : List Output} {s after : ServerState}
    {i : Int} {io : RtspIo} (effect : RtspEffect variant s i io after output)
    (inv : SessionInvariant past s) (orderly : OrderlyRequest s i io.received) :
    KeepsSession past after output := by
  -- A client which is still there behind the receipt is the one before it.
  have speaks : ∀ {middle prior}, ReceiveEffect s i io.received middle prior →
      middle.streamclient.state ≠ .noclient → i = middle.streamclient.rtspfd := by
    intro middle prior receive there
    have same := (receive.client there).2
    rw [same] at there ⊢
    exact orderly.speaker there
  cases effect with
  | failed reason unread =>
      exact inv.fades rfl rfl rfl haltOutput_neutral haltOutput_silent (.refl _) (.refl _)
  | switched receive type effect =>
      have first := receive.session inv orderly
      exact first.trans (effect.session first.1 (speaks receive))
  | teardown receive type effect =>
      have first := receive.session inv orderly
      have alone := orderly.tearsDown (receive.leaves_iff.mpr type)
      refine first.trans (effect.session first.1 (speaks receive) ?_)
      cases receive with
      | closed opened empty => exact alone
      | message opened nonempty terminated parsed => exact alone

/-- No frame comes into the queue while no filler is alive. -/
theorem QueueEffect.frameless {s after : ServerState} {output : List Output}
    (effect : QueueEffect s after output) (left : NoMediaLeft s) :
    ∀ event ∈ after.queue, isFrame event.type = false := by
  have ofTimeouts : ∀ {before}, AddsTimeouts before after.queue → (∀ event ∈ before, event ∈ s.queue) →
      ∀ event ∈ after.queue, isFrame event.type = false := by
    intro before adds old event member
    rcases adds event member with there | check
    · exact left.2 event (old event there)
    · rw [check]
      rfl
  cases effect with
  | kept queue => exact queue ▸ left.2
  | armed nonempty adds => exact ofTimeouts adds fun _ member => member
  | filled member live => exact absurd live (left.1 _ member)
  | pulled pc queued selects adds =>
      exact ofTimeouts adds fun _ member => queued ▸ List.mem_cons_of_mem _ member
  | emptied empty => simp [empty]

theorem FillerEffect.session {past : List Output} {s after : ServerState} {k : Nat}
    (effect : FillerEffect s k after) (inv : SessionInvariant past s) : KeepsSession past after [] := by
  have frameless := effect.queue.frameless
  have fades := effect.fades
  obtain ⟨queue, lock, fillers, rfl, -⟩ := effect.only
  refine inv.keeps rfl rfl rfl (by simp) ?_
  rcases inv.media with left | authorised
  · exact Or.inr ⟨⟨fades.none_live left.1, frameless left⟩, by simp⟩
  · exact Or.inl authorised

/-- An orderly step keeps the invariant and sends no media but authorised one. -/
theorem step_session {variant : Variant} {url : List UInt8} {past output : List Output}
    {s after : ServerState} {input : Input} (inv : SessionInvariant past s)
    (orderly : Orderly past s input) (taken : step variant url s input = .ok (after, output)) :
    KeepsSession past after output := by
  have dispatched : ∀ rest, SessionInvariant past { s with pc := .dispatch rest } :=
    fun rest => ⟨inv.absent, inv.present, inv.complete, inv.media⟩
  cases step_cases taken with
  | timeout pc set effect => exact effect.session inv
  | interrupted pc => exact inv.fades rfl rfl rfl neutral_nil silent_nil (.refl _) (.refl _)
  | ready pc members => exact inv.fades rfl rfl rfl neutral_nil silent_nil (.refl _) (.refl _)
  | @accept result i rest after output pc branch possible effect =>
      refine effect.session (dispatched rest) fun fd accepted => ?_
      subst accepted
      exact orderly
  | datagram pc branch effect =>
      cases effect with
      | @only pc kernel sip output halts answers =>
          refine inv.fades rfl rfl rfl (fun o member => ?_) (fun o member => ?_) (.refl _) (.refl _)
          · rcases answers o member with ⟨text, size, cliaddr, rfl⟩ | ⟨reason, rfl⟩
            · exact fun _ => rfl
            · exact fun _ => rfl
          · rcases answers o member with ⟨text, size, cliaddr, rfl⟩ | ⟨reason, rfl⟩
            · rfl
            · rfl
  | @media io i rest after output pc branch possible effect =>
      exact effect.session (dispatched rest) orderly
  | @rtsp io i rest after output pc branch possible effect =>
      simp only [Orderly, pc] at orderly
      refine effect.session (dispatched rest) ⟨orderly.speaker, orderly.closes, fun leaves => ?_⟩
      exact orderly.tearsDown ⟨leaves.opened, leaves.left, leaves.parsed⟩
  | rearmed pc free =>
      rw [ServerState.rearm, locked_free free]
      exact inv.fades rfl rfl rfl neutral_nil silent_nil (.refl _) (.refl _)
  | rearmLocked pc taken =>
      exact inv.fades rfl rfl rfl neutral_nil silent_nil (.refl _) (.refl _)
  | filler effect => exact effect.session inv

/-! ## Runs -/

/-- The session is known, and media was put out only when it was authorised. -/
structure MediaSafe (past : List Output) (s : ServerState) : Prop where
  session : SessionInvariant past s
  authorised : MediaAuthorised past

/-- In every run of either server all of whose steps are orderly, media is put out only when the
connected client has made its SETUPs and its PLAY was accepted. -/
theorem mediaAuthorised_of_orderly {variant : Variant} {url : List UInt8}
    {trace : List (Entry ServerState Input Output)} {state : ServerState}
    (run : (machine variant url).Runs trace state) (orderly : Machine.Throughout Orderly trace) :
    MediaAuthorised (Machine.outputs trace) := by
  have safe : MediaSafe (Machine.outputs trace) state := by
    apply run.under orderly
    · intro start initial
      exact ⟨sessionInvariant_initial initial, trivial⟩
    · intro past before input after output known here taken
      obtain ⟨inv, allowed⟩ := step_session known.session here taken
      exact ⟨inv, mediaAuthorised_append.mpr ⟨known.authorised, allowed⟩⟩
  exact safe.authorised

/-- A client plays, and the download ends after its PLAY. -/
def playedInTime : List Input :=
  connect 6 ++ describe 6 7 someResponse ++ play 6 ++ media 7 someResponse someHeader ++
    media 7 [] [7]

/-- The script is orderly, and a filler is launched in it. -/
theorem playedInTime_runs : ∃ result,
    (machine .server someUrl).exec [] (startState .server) playedInTime = .ok result ∧
      Machine.MeetsAll Orderly [] result.1 ∧ result.2.fillers = [⟨.start, 0, none, none⟩] :=
  ⟨_, rfl, of_decide_eq_true rfl, rfl⟩

/-- The theorem applied to a script in which media is put out. -/
theorem mediaAuthorised_of_orderly_playedInTime :
    ∃ result : List (Entry ServerState Input Output) × ServerState,
      (machine .server someUrl).exec [] (startState .server) playedInTime = .ok result ∧
        MediaAuthorised (Machine.outputs result.1) ∧
        result.2.fillers = [⟨.start, 0, none, none⟩] := by
  obtain ⟨result, computed, orderly, launched⟩ := playedInTime_runs
  have run := Machine.Runs.of_exec (startState_initial .server someUrl) computed
  exact ⟨result, computed,
    mediaAuthorised_of_orderly run (Machine.throughout_of_meetsAll orderly), launched⟩

/-- A client has only asked for a description when the download ends. -/
def endedTooSoon : List Input :=
  connect 6 ++ describe 6 7 someResponse ++ media 7 someResponse someHeader ++ media 7 [] [7]

/-- The end of the download starts a filler for it: media does not wait for a PLAY. -/
theorem mediaAuthorised_not_always : ¬ ∀ variant url trace state,
    (machine variant url).Runs trace state → MediaAuthorised (Machine.outputs trace) := by
  intro always
  have ends : ∃ result,
      (machine .server someUrl).exec [] (startState .server) endedTooSoon = .ok result ∧
        ¬ MediaAuthorised (Machine.outputs result.1) :=
    ⟨_, rfl, of_decide_eq_true rfl⟩
  obtain ⟨result, computed, unauthorised⟩ := ends
  have run := Machine.Runs.of_exec (startState_initial .server someUrl) computed
  exact unauthorised (always _ _ _ _ run)

end Http2Rtsp.Server
