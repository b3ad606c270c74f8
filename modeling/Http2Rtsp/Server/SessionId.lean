import Http2Rtsp.Server.Answers

/-!
# The identifier of a session

The first SETUP of a connection announces an identifier, and every reply on it
which has a `Session` header should carry that one. The identifier is drawn in
`rtsp_setup`, copied from the request in `rtsp_teardown` and toggled in
`rtsp_play`. The module says exactly for which requests the server keeps to it.
-/

namespace Http2Rtsp.Server

open Http2Rtsp.Std Http2Rtsp.Message Http2Rtsp.Semantics

/-! ## Dialogues -/

/-- The connection which was taken last: what is being acted on, and the identifiers which the
first and the last reply to a SETUP have announced on it. -/
structure Dialogue where
  fd : Int
  acting : Option RtspMsgType
  first : Option (List UInt8)
  last : Option (List UInt8)

/-- The dialogue one output later. -/
def nextDialogue (dialogue : Option Dialogue) : Output → Option Dialogue
  | .connected fd => some ⟨fd, none, none, none⟩
  | .disconnected fd => dialogue.filter fun dialogue => dialogue.fd ≠ fd
  | .acted _ type => dialogue.map fun dialogue => { dialogue with acting := some type }
  | .reply fd text => dialogue.map fun dialogue =>
      if dialogue.fd = fd ∧ dialogue.acting = some .setup then
        { dialogue with
          first := dialogue.first <|> (headers "Session: " text).head?
          last := (headers "Session: " text).head? }
      else dialogue
  | _ => dialogue

/-- The dialogue behind these outputs. -/
def dialogueOf (outputs : List Output) : Option Dialogue := outputs.foldl nextDialogue none

/-- A reply in the dialogue has no identifier but the first one, or announces the first one. -/
def IdentifiedIn (dialogue : Option Dialogue) : Output → Prop
  | .reply fd text => ∀ current ∈ dialogue, current.fd = fd → ∀ id ∈ headers "Session: " text,
      current.first = some id ∨ (current.first = none ∧ current.acting = some .setup)
  | _ => True

/-- From this dialogue on all replies are so. -/
def IdentifiedFrom : Option Dialogue → List Output → Prop
  | _, [] => True
  | dialogue, o :: rest => IdentifiedIn dialogue o ∧ IdentifiedFrom (nextDialogue dialogue o) rest

/-- On every connection, every reply with an identifier carries the one which its first SETUP has
announced; and while there is a client that one is in the `Client`. -/
structure OneIdentifier (past : List Output) (s : ServerState) : Prop where
  replies : IdentifiedFrom none past
  held : s.streamclient.state ≠ .noclient → ∀ current ∈ dialogueOf past,
    ∀ id ∈ current.first, id = decimal s.streamclient.session

/-- A request has no identifier or the one which was announced last. -/
def Admissible (past : List Output) (_ : ServerState) (input : Input) : Prop :=
  ∀ io text, input = .rtsp io → cString bufSize io.received = some text →
    headers "Session: " text = [] ∨
      ∃ current ∈ dialogueOf past, ∃ id ∈ current.last, headers "Session: " text = [id]

/-- The condition on a message of this type: a second SETUP draws the number of the first one, and
a PLAY or a TEARDOWN without identifier finds that this number is 0. -/
def KeepsIdentifier (past : List Output) (i : Int) (io : RtspIo) (text : List UInt8) :
    RtspMsgType → Prop
  | .setup => ∀ current ∈ dialogueOf past, ∀ id ∈ current.first,
      id = decimal (io.rand % 1000000 : Nat)
  | .play | .teardown => ∀ current ∈ dialogueOf past, current.fd = i →
      headers "Session: " text = [] → current.first = some (decimal 0)
  | _ => True

/-- The condition on a step: the request which is answered meets it. -/
def IdentifierKept (variant : Variant) (url : List UInt8) (past : List Output) (s : ServerState)
    (input : Input) : Prop :=
  ∀ after output i rest io text result msg reply,
    step variant url s input = .ok (after, output) → s.pc = .dispatch (i :: rest) →
    input = .rtsp io → io.received ≠ [] → cString bufSize io.received = some text →
    parseRtsp text = .ok (result, msg) → .reply i reply ∈ output →
      KeepsIdentifier past i io text msg.type

/-! ## What is said, in a dialogue -/

/-- What is not said to the client does not matter. -/
theorem foldl_talkOf (dialogue : Option Dialogue) (outputs : List Output) :
    (talkOf outputs).foldl nextDialogue dialogue = outputs.foldl nextDialogue dialogue := by
  induction outputs generalizing dialogue with
  | nil => rfl
  | cons o rest ih =>
      have step : talkOf (o :: rest) = if o.isTalk then o :: talkOf rest else talkOf rest :=
        List.filter_cons
      rw [step]
      split
      · rw [List.foldl_cons, List.foldl_cons, ih]
      · rename_i other
        have same : nextDialogue dialogue o = dialogue := by
          cases o <;> first | rfl | exact absurd rfl other
        rw [List.foldl_cons, same, ih]

theorem identifiedFrom_talkOf (dialogue : Option Dialogue) (outputs : List Output) :
    IdentifiedFrom dialogue (talkOf outputs) ↔ IdentifiedFrom dialogue outputs := by
  induction outputs generalizing dialogue with
  | nil => rfl
  | cons o rest ih =>
      have step : talkOf (o :: rest) = if o.isTalk then o :: talkOf rest else talkOf rest :=
        List.filter_cons
      rw [step]
      split
      · rw [IdentifiedFrom, IdentifiedFrom, ih]
      · rename_i other
        have same : nextDialogue dialogue o = dialogue ∧ IdentifiedIn dialogue o := by
          cases o <;> first | exact ⟨rfl, trivial⟩ | exact absurd rfl other
        rw [ih, IdentifiedFrom, same.1]
        exact ⟨fun later => ⟨same.2, later⟩, fun both => both.2⟩

theorem identifiedFrom_append {dialogue : Option Dialogue} {first second : List Output} :
    IdentifiedFrom dialogue (first ++ second) ↔
      IdentifiedFrom dialogue first ∧
        IdentifiedFrom (first.foldl nextDialogue dialogue) second := by
  induction first generalizing dialogue with
  | nil => simp [IdentifiedFrom]
  | cons o rest ih => simp only [List.cons_append, IdentifiedFrom, List.foldl_cons, ih, and_assoc]

theorem dialogueOf_append (past output : List Output) :
    dialogueOf (past ++ output) = (talkOf output).foldl nextDialogue (dialogueOf past) := by
  rw [foldl_talkOf]
  exact List.foldl_append

/-- The property behind a step, in terms of what the step says. -/
theorem oneIdentifier_append {past output : List Output} {s after : ServerState}
    (before : OneIdentifier past s) :
    OneIdentifier (past ++ output) after ↔
      IdentifiedFrom (dialogueOf past) (talkOf output) ∧
        (after.streamclient.state ≠ .noclient →
          ∀ current ∈ (talkOf output).foldl nextDialogue (dialogueOf past),
            ∀ id ∈ current.first, id = decimal after.streamclient.session) := by
  rw [← dialogueOf_append, identifiedFrom_talkOf]
  constructor
  · rintro ⟨replies, held⟩
    exact ⟨(identifiedFrom_append.mp replies).2, held⟩
  · rintro ⟨replies, held⟩
    exact ⟨identifiedFrom_append.mpr ⟨before.replies, replies⟩, held⟩

/-- What is known of a dialogue as long as it is good: the last identifier announced is the first
one, and it is a number. -/
def FirstAnnounced (past : List Output) : Prop :=
  ∀ current ∈ dialogueOf past, current.last = current.first ∧
    ∀ id ∈ current.last, ∃ n : Nat, n < 2 ^ 31 ∧ id = decimal n

/-! ## Requests -/

/-- The identifier in the message of an admissible request: there is none, or it is the one which
was announced first. -/
theorem Admissible.session {past : List Output} {s : ServerState} {io : RtspIo}
    {current : Dialogue} {text : List UInt8} {result : Int} {msg : RTSPMsg}
    (admissible : Admissible past s (.rtsp io)) (announced : FirstAnnounced past)
    (known : dialogueOf past = some current) (terminated : cString bufSize io.received = some text)
    (parsed : parseRtsp text = .ok (result, msg)) :
    (msg.has fSession = false ∧ msg.session = 0 ∧
        (headers "Session: " text = [] ∨ msg.type = .options)) ∨
      (msg.has fSession = true ∧ headers "Session: " text ≠ [] ∧
        current.first = some (decimal msg.session)) := by
  rcases admissible io text rfl terminated with lacks | ⟨current', there, id, last, given⟩
  · obtain ⟨bit, value⟩ := @parseRtsp_lacks .session _ _ _ parsed lacks
    exact Or.inl ⟨bit, value, Or.inl lacks⟩
  · obtain rfl : current = current' := Option.some.inj (known.symm.trans there)
    obtain ⟨same, number⟩ := announced current known
    obtain ⟨n, small, rfl⟩ := number id last
    have digits : decimal n = (digitsOf n).bytes := by
      rw [decimal_eq, if_neg (by omega), List.nil_append, Int.natAbs_natCast]
    cases type : requestType text with
    | none =>
        obtain rfl := parseRtsp_unknown parsed type
        exact Or.inl ⟨rfl, rfl, Or.inr rfl⟩
    | some type =>
        rw [digits] at given
        obtain ⟨-, bit, value⟩ := @parseRtsp_number .session _ _ _ _ _ parsed ‹_› given
        have fits : toInt32 (clampLong (digitsOf n).value) = (digitsOf n).value :=
          int_of_value.mpr (by rw [value_digitsOf]; exact small)
        have session : msg.session = n := by
          rw [value_digitsOf] at fits
          exact (value.trans (by rw [value_digitsOf])).trans fits
        refine Or.inr ⟨bit, by rw [given]; exact List.cons_ne_nil _ _, ?_⟩
        rw [session, ← same]
        exact last

/-! ## Steps -/

/-- An answer in a dialogue is good: its identifiers are the first one, and the client behind it
holds that one. -/
def GoodAnswer (current : Dialogue) (i : Int) (type : RtspMsgType) (reply : List UInt8)
    (after : Client) : Prop :=
  (current.fd = i → ∀ id ∈ headers "Session: " reply,
      current.first = some id ∨ (current.first = none ∧ type = .setup)) ∧
    (after.state ≠ .noclient →
      ∀ id ∈ if current.fd = i ∧ type = .setup then
          current.first <|> (headers "Session: " reply).head? else current.first,
        id = decimal after.session)

section Answer

variable {past : List Output} {i : Int} {type : RtspMsgType} {reply : List UInt8} {current : Dialogue}
  {after : Client}

/-- The dialogue behind an answer: an own SETUP announces, and nothing else does. -/
theorem foldl_answer :
    [.acted i type, .reply i reply].foldl nextDialogue (some current) =
      some (if current.fd = i ∧ type = .setup then
          { current with
            acting := some type
            first := current.first <|> (headers "Session: " reply).head?
            last := (headers "Session: " reply).head? }
        else { current with acting := some type }) := by
  simp [nextDialogue]

/-- What an answer has to do is to be good in the dialogue. -/
theorem goodAnswer_iff :
    (IdentifiedFrom (some current) [.acted i type, .reply i reply] ∧
      (after.state ≠ .noclient →
        ∀ next ∈ [.acted i type, .reply i reply].foldl nextDialogue (some current),
          ∀ id ∈ next.first, id = decimal after.session)) ↔
      GoodAnswer current i type reply after := by
  rw [foldl_answer]
  refine and_congr ?_ (forall_congr' fun state => ?_)
  · simp [IdentifiedFrom, IdentifiedIn, nextDialogue]
  · split
    · simp
    · simp

/-- An answer to something else than a SETUP. -/
theorem goodAnswer_other (other : type ≠ .setup)
    (held : after.state ≠ .noclient → ∀ id ∈ current.first, id = decimal after.session) :
    GoodAnswer current i type reply after ↔
      (current.fd = i → ∀ id ∈ headers "Session: " reply, current.first = some id) := by
  unfold GoodAnswer
  constructor
  · rintro ⟨identified, -⟩ own id member
    exact (identified own id member).resolve_right fun setup => other setup.2
  · intro identified
    refine ⟨fun own id member => Or.inl (identified own id member), fun state id member => ?_⟩
    rw [if_neg fun setup => other setup.2] at member
    exact held state id member

/-- An answer to a SETUP: a number drawn before is drawn again. -/
theorem goodAnswer_setup (state : after.state ≠ .noclient)
    (drawn : headers "Session: " reply = [decimal after.session]) :
    GoodAnswer current i .setup reply after ↔ ∀ id ∈ current.first, id = decimal after.session := by
  rw [GoodAnswer, drawn]
  constructor
  · rintro ⟨-, held⟩ id first
    refine held state id ?_
    split
    · rw [first]
      rfl
    · exact first
  · intro same
    refine ⟨fun own id member => ?_, fun _ id member => ?_⟩
    · obtain rfl := List.mem_singleton.mp member
      cases first : current.first with
      | none => exact Or.inr ⟨rfl, rfl⟩
      | some announced => exact Or.inl (by rw [same announced first])
    · split at member
      · cases first : current.first with
        | none =>
            rw [first] at member
            exact (Option.some.inj member).symm
        | some announced =>
            rw [first] at member
            exact (Option.some.inj member).symm.trans (same announced first)
      · exact same id member

variable {s : ServerState} {io : RtspIo} {text : List UInt8} {msg : RTSPMsg}

/-- The condition on the message in this dialogue. -/
theorem keepsIdentifier_iff (known : dialogueOf past = some current) (type : RtspMsgType) :
    KeepsIdentifier past i io text type ↔
      match type with
      | .setup => ∀ id ∈ current.first, id = decimal (io.rand % 1000000 : Nat)
      | .play | .teardown =>
          current.fd = i → headers "Session: " text = [] → current.first = some (decimal 0)
      | _ => True := by
  cases type <;> simp [KeepsIdentifier, known]

/-- An answer of the server to an admissible message is good exactly under the condition. -/
theorem Answered.good_iff {result : Int} (before : OneIdentifier past s)
    (announced : FirstAnnounced past) (admissible : Admissible past s (.rtsp io))
    (dated : 13 ∉ io.date) (known : dialogueOf past = some current)
    (terminated : cString bufSize io.received = some text)
    (parsed : parseRtsp text = .ok (result, msg)) (received : msg.Received)
    (answer : Answered s.streamclient msg io type after reply) :
    GoodAnswer current i type reply after ↔ KeepsIdentifier past i io text msg.type := by
  have numbers := answer.numbers received dated .session
  have session := admissible.session announced known terminated parsed
  have held := fun state => before.held state current known
  rw [answer.type_eq, keepsIdentifier_iff known]
  have client : ∀ {state}, s.streamclient.state = state → state ≠ .noclient →
      s.streamclient.state ≠ .noclient := fun state other => state ▸ other
  cases answer with
  | options state type =>
      have copied : headers "Session: " (rtspOptions msg s.streamclient).2 = msg.numbers .session :=
        numbers
      refine Iff.trans (goodAnswer_other (by simp) fun _ => ?_) ?_
      · exact held (client state (by simp))
      rw [copied]
      refine iff_of_true (fun own id member => ?_) trivial
      rcases session with ⟨clear, -⟩ | ⟨set, -, first⟩
      · have none_ : msg.numbers .session = [] := if_neg (Bool.eq_false_iff.mp clear)
        rw [none_] at member
        cases member
      · have one : msg.numbers .session = [decimal msg.session] := if_pos set
        rw [one] at member
        rw [List.mem_singleton.mp member, first]
  | describe state type =>
      have none_ : headers "Session: " (rtspDescribe _ io.date).2 = [] := numbers
      refine Iff.trans (goodAnswer_other (by simp) fun _ => ?_) ?_
      · exact held (client state (by simp))
      rw [none_]
      exact iff_of_true (fun own id member => by cases member) trivial
  | setup state type stays written =>
      have setup : Answered s.streamclient msg io .setup after reply := .setup state type stays written
      obtain ⟨there, drawn⟩ := setup.of_setup
      rw [← drawn] at numbers ⊢
      exact goodAnswer_setup there numbers
  | play state type =>
      have toggled : headers "Session: " (rtspPlay msg io.date) =
          if msg.has fSession then [] else [decimal msg.session] := numbers
      refine Iff.trans (goodAnswer_other (by simp) fun _ => ?_) ?_
      · exact held (client state (by simp))
      rw [toggled]
      refine forall_congr' fun own => ?_
      rcases session with ⟨clear, zero, lacks⟩ | ⟨set, given, first⟩
      · have lacks := lacks.resolve_right (by simp [type])
        simp [clear, zero, lacks]
      · simp [set, given]
  | teardown type =>
      have copied : headers "Session: " (rtspTeardown msg) = [decimal msg.session] := numbers
      refine Iff.trans (goodAnswer_other (by simp) fun state => ?_) ?_
      · exact absurd rfl state
      rw [copied]
      refine forall_congr' fun own => ?_
      rcases session with ⟨clear, zero, lacks⟩ | ⟨set, given, first⟩
      · have lacks := lacks.resolve_right (by simp [type])
        simp [zero, lacks]
      · simp [given, first]

end Answer

/-! ## Runs -/

/-- The dates in this step are lines. -/
def DatedStep (input : Input) : Prop := ∀ io, input = .rtsp io → 13 ∉ io.date

section Step

variable {variant : Variant} {url : List UInt8} {past output : List Output} {s after : ServerState}
  {input : Input}

/-- The condition on a step which answers a request is the one on the request. -/
theorem identifierKept_iff {i : Int} {rest : List Int} {io : RtspIo} {text reply : List UInt8}
    {result : Int} {msg : RTSPMsg} (taken : step variant url s (.rtsp io) = .ok (after, output))
    (pc : s.pc = .dispatch (i :: rest)) (nonempty : io.received ≠ [])
    (terminated : cString bufSize io.received = some text)
    (parsed : parseRtsp text = .ok (result, msg)) (replied : .reply i reply ∈ output) :
    IdentifierKept variant url past s (.rtsp io) ↔ KeepsIdentifier past i io text msg.type := by
  constructor
  · intro kept
    exact kept after output i rest io text result msg reply taken pc rfl nonempty terminated parsed
      replied
  · intro keeps after' output' i' rest' io' text' result' msg' reply' taken' pc' received' _
      terminated' parsed' _
    obtain rfl := Input.rtsp.inj received'
    obtain ⟨rfl, rfl⟩ : i = i' ∧ rest = rest' := by simpa [pc] using pc'
    obtain rfl := Option.some.inj (terminated.symm.trans terminated')
    obtain ⟨rfl, rfl⟩ := Prod.mk.inj (Except.ok.inj (parsed.symm.trans parsed'))
    exact keeps

/-- A step keeps to the identifiers exactly when the request it answers meets the condition. -/
theorem oneIdentifier_step (admissible : Admissible past s input) (dated : DatedStep input)
    (announced : FirstAnnounced past) (before : OneIdentifier past s)
    (taken : step variant url s input = .ok (after, output)) :
    OneIdentifier (past ++ output) after ↔ IdentifierKept variant url past s input := by
  rw [oneIdentifier_append before]
  have effect := step_talk taken
  -- Without a reply there is nothing to keep.
  have unanswered : (∀ fd text, .reply fd text ∉ talkOf output) →
      IdentifierKept variant url past s input := by
    intro none_ after' output' i rest io text result msg reply taken' pc received nonempty terminated
      parsed replied
    obtain ⟨rfl, rfl⟩ := Prod.mk.inj (Except.ok.inj (taken.symm.trans taken'))
    exact absurd (mem_talkOf.mpr replied) (none_ i reply)
  generalize said : talkOf output = talk at effect unanswered ⊢
  cases effect with
  | silent same =>
      refine iff_of_true ⟨trivial, fun state current known id first => ?_⟩ (unanswered (by simp))
      rw [same] at state ⊢
      exact before.held state current known id first
  | connected client =>
      refine iff_of_true ⟨⟨trivial, trivial⟩, fun state current known id first => ?_⟩
        (unanswered (by simp))
      obtain rfl := Option.some.inj known
      cases first
  | closed received empty client =>
      refine iff_of_true ⟨⟨trivial, trivial⟩, fun state => ?_⟩ (unanswered (by simp))
      rw [client] at state
      exact absurd rfl state
  | @closedTeardown i io received empty client =>
      have nothing : IdentifierKept variant url past s input := by
        intro after' output' i' rest io' text result msg reply taken' pc received' nonempty
        obtain rfl := Input.rtsp.inj (received.symm.trans received')
        exact absurd empty nonempty
      refine iff_of_true ⟨?_, fun state => ?_⟩ nothing
      · cases dialogueOf past with
        | none => simp [IdentifiedFrom, IdentifiedIn, nextDialogue]
        | some current =>
            by_cases own : current.fd = i
            · simp [IdentifiedFrom, IdentifiedIn, nextDialogue, Option.filter, own]
            · simp [IdentifiedFrom, IdentifiedIn, nextDialogue, Option.filter, own]
      · rw [client] at state
        exact absurd rfl state
  | @answered i rest io text result msg type reply received pc nonempty terminated parsed answer =>
      obtain rfl := received
      have replied : .reply i reply ∈ output := by
        rw [← mem_talkOf, said]
        simp
      rw [identifierKept_iff taken pc nonempty terminated parsed replied]
      cases known : dialogueOf past with
      | none =>
          refine iff_of_true ⟨?_, fun _ current member => ?_⟩ ?_
          · simp [IdentifiedFrom, IdentifiedIn, nextDialogue]
          · simp [nextDialogue] at member
          · cases msg.type <;> simp [KeepsIdentifier, known]
      | some current =>
          have noNul := cString_noNul terminated
          exact goodAnswer_iff.trans (answer.good_iff before announced admissible (dated io rfl) known
            terminated parsed (parseRtsp_received noNul parsed))

/-- What is known of a good dialogue stays known. -/
theorem firstAnnounced_step (dated : DatedStep input) (announced : FirstAnnounced past)
    (good : OneIdentifier (past ++ output) after)
    (taken : step variant url s input = .ok (after, output)) : FirstAnnounced (past ++ output) := by
  have effect := step_talk taken
  have held := good.held
  unfold FirstAnnounced
  rw [dialogueOf_append] at held ⊢
  generalize talkOf output = talk at effect held ⊢
  cases effect with
  | silent same => exact announced
  | connected client =>
      intro current known
      obtain rfl := Option.some.inj known
      exact ⟨rfl, fun id last => by cases last⟩
  | @closed i io received empty client =>
      intro current known
      exact announced current (Option.filter_eq_some_iff.mp known).1
  | @closedTeardown i io received empty client =>
      intro current known
      obtain ⟨previous, ⟨earlier, -⟩, rfl⟩ : ∃ previous,
          (dialogueOf past = some previous ∧ ¬ previous.fd = i) ∧
            { previous with acting := some .teardown } = current := by
        simpa [nextDialogue] using known
      exact announced previous earlier
  | @answered i rest io text result msg type reply received pc nonempty terminated parsed answer =>
      cases earlier : dialogueOf past with
      | none => simp [nextDialogue]
      | some previous =>
          have known := announced previous earlier
          rw [earlier, foldl_answer] at held
          rw [foldl_answer]
          by_cases announces : previous.fd = i ∧ type = .setup
          · obtain ⟨own, rfl⟩ := announces
            have noNul := cString_noNul terminated
            have drawn : headers "Session: " reply = [decimal (io.rand % 1000000 : Nat)] :=
              answer.numbers (parseRtsp_received noNul parsed) (dated io received) .session
            obtain ⟨state, session⟩ := answer.of_setup
            have own_ := And.intro own (show RtspMsgType.setup = .setup from rfl)
            rw [if_pos own_] at held ⊢
            rw [drawn] at held ⊢
            intro current same
            obtain rfl := Option.some.inj same
            have small : io.rand % 1000000 < 2 ^ 31 := by
              have := Nat.mod_lt io.rand (show 0 < 1000000 by omega)
              omega
            refine ⟨?_, fun id last => ⟨io.rand % 1000000, small, (Option.some.inj last).symm⟩⟩
            cases first : previous.first with
            | none => rfl
            | some id =>
                have same := held state _ rfl id (by rw [first]; rfl)
                rw [session] at same
                exact congrArg some same.symm
          · rw [if_neg announces]
            intro current same
            obtain rfl := Option.some.inj same
            exact known

end Step

/-- In every run of admissible requests: every connection keeps to one identifier exactly when every
request which is answered meets the condition. -/
theorem oneIdentifier_iff {variant : Variant} {url : List UInt8}
    {trace : List (Entry ServerState Input Output)} {state : ServerState}
    (run : (machine variant url).Runs trace state) (dated : Dated trace)
    (admissible : Machine.Throughout Admissible trace) :
    Machine.Always OneIdentifier trace state ↔
      Machine.Throughout (IdentifierKept variant url) trace := by
  have within : Machine.Throughout
      (fun past s input => Admissible past s input ∧ DatedStep input) trace := by
    intro past entry future split
    exact ⟨admissible past entry future split, dated entry (by simp [split])⟩
  apply run.always_iff_throughout_within within fun past _ => FirstAnnounced past
  · intro start valid current known
    cases known
  · intro past before input after output given announced taken good
    exact firstAnnounced_step given.2 announced good taken
  · intro start valid
    exact ⟨trivial, fun _ current known => by cases known⟩
  · intro past before input after output given announced good taken
    exact oneIdentifier_step given.1 given.2 announced good taken

instance IdentifiedIn.decidable (dialogue : Option Dialogue) :
    (o : Output) → Decidable (IdentifiedIn dialogue o)
  | .reply fd text => inferInstanceAs (Decidable (∀ current ∈ dialogue, current.fd = fd →
      ∀ id ∈ headers "Session: " text,
        current.first = some id ∨ (current.first = none ∧ current.acting = some .setup)))
  | .connected _ | .rejected | .disconnected _ | .acted .. | .fetched .. | .launched _
  | .videoFrame .. | .audioFrame .. | .dummy .. | .armed | .endOfStream | .contextClosed _
  | .freed _ | .okSent .. | .byeSent .. | .undefined _ => .isTrue trivial

instance IdentifiedFrom.decidable : (dialogue : Option Dialogue) → (outputs : List Output) →
    Decidable (IdentifiedFrom dialogue outputs)
  | _, [] => .isTrue trivial
  | dialogue, o :: rest =>
      @instDecidableAnd _ _ (IdentifiedIn.decidable dialogue o)
        (IdentifiedFrom.decidable (nextDialogue dialogue o) rest)

instance (past : List Output) (s : ServerState) : Decidable (OneIdentifier past s) :=
  decidable_of_iff (IdentifiedFrom none past ∧ (s.streamclient.state ≠ .noclient →
      ∀ current ∈ dialogueOf past, ∀ id ∈ current.first, id = decimal s.streamclient.session))
    ⟨fun both => ⟨both.1, both.2⟩, fun one => ⟨one.replies, one.held⟩⟩

/-- A client makes its two SETUPs, for which these numbers are drawn. -/
def twoSetups (first second : Nat) : List Input :=
  connect 6 ++ describe 6 7 someResponse ++ request 6 { RtspIo.line "SETUP" with rand := first } ++
    request 6 { RtspIo.line "SETUP" with rand := second }

/-- An input without a `Session` header. -/
def bareInput : Input → Bool
  | .rtsp io => headers "Session: " (io.received.takeWhile (· ≠ 0)) = []
  | _ => true

/-- Requests without identifiers are admissible. -/
theorem admissible_of_inputs {trace : List (Entry ServerState Input Output)}
    (inputs : (trace.map Entry.input).all bareInput = true) :
    Machine.Throughout Admissible trace := by
  rintro past entry future rfl io text input terminated
  have checked := List.all_eq_true.mp inputs entry.input (by simp)
  rw [input] at checked
  left
  unfold cString at terminated
  split at terminated
  · obtain rfl := Option.some.inj terminated
    simpa [bareInput] using checked
  · cases terminated

/-- The script can be run, and the second identifier is another one. -/
theorem twoSetups_runs : ∃ result,
    (machine .server someUrl).exec [] (startState .server) (twoSetups 5 7) = .ok result ∧
    ¬ IdentifiedFrom none (Machine.outputs result.1) :=
  ⟨_, rfl, by decide +kernel⟩

/-- Its dates are lines, and its requests have no identifiers. -/
theorem twoSetups_inputs {first second : Nat}
    {result : List (Entry ServerState Input Output) × ServerState}
    (computed : (machine .server someUrl).exec [] (startState .server) (twoSetups first second) =
      .ok result) : Dated result.1 ∧ Machine.Throughout Admissible result.1 := by
  have inputs : result.1.map Entry.input = twoSetups first second := Machine.exec_inputs computed
  have dated : (twoSetups 0 0).all datedInput = true := by decide +kernel
  have bare : (twoSetups 0 0).all bareInput = true := by decide +kernel
  exact ⟨dated_of_inputs (inputs ▸ dated), admissible_of_inputs (inputs ▸ bare)⟩

/-- When the same number is drawn twice the connection has one identifier, so the condition is met; when
another one is, it is not. -/
theorem oneIdentifier_iff_twoSetups :
    (∃ result, (machine .server someUrl).exec [] (startState .server) (twoSetups 5 5) = .ok result ∧
      Machine.Always OneIdentifier result.1 result.2 ∧
      Machine.Throughout (IdentifierKept .server someUrl) result.1) ∧
    ∃ result, (machine .server someUrl).exec [] (startState .server) (twoSetups 5 7) = .ok result ∧
      ¬ Machine.Throughout (IdentifierKept .server someUrl) result.1 := by
  constructor
  · have computed : ∃ result,
        (machine .server someUrl).exec [] (startState .server) (twoSetups 5 5) = .ok result ∧
          Machine.MeetsAll (fun past s _ => OneIdentifier past s) [] result.1 ∧
          OneIdentifier (Machine.outputs result.1) result.2 :=
      ⟨_, rfl, by decide +kernel, by decide +kernel⟩
    obtain ⟨result, computed, before, here⟩ := computed
    obtain ⟨dated, admissible⟩ := twoSetups_inputs computed
    have run := Machine.Runs.of_exec (startState_initial .server someUrl) computed
    have always : Machine.Always OneIdentifier result.1 result.2 :=
      ⟨here, Machine.throughout_of_meetsAll before⟩
    exact ⟨result, computed, always, (oneIdentifier_iff run dated admissible).mp always⟩
  · obtain ⟨result, computed, other⟩ := twoSetups_runs
    obtain ⟨dated, admissible⟩ := twoSetups_inputs computed
    have run := Machine.Runs.of_exec (startState_initial .server someUrl) computed
    refine ⟨result, computed, fun kept => ?_⟩
    exact other ((oneIdentifier_iff run dated admissible).mpr kept).here.replies

/-- The second SETUP announces another identifier. -/
theorem oneIdentifier_not_always : ¬ ∀ url trace state, (machine .server url).Runs trace state →
    Dated trace → Machine.Throughout Admissible trace →
      Machine.Always OneIdentifier trace state := by
  intro all
  obtain ⟨result, computed, other⟩ := twoSetups_runs
  obtain ⟨dated, admissible⟩ := twoSetups_inputs computed
  have run := Machine.Runs.of_exec (startState_initial .server someUrl) computed
  exact other (all someUrl result.1 result.2 run dated admissible).here.replies

end Http2Rtsp.Server
