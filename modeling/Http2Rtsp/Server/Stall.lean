import Http2Rtsp.Server.Queueing

/-!
# The pacing loop and its timeout

While a session is paced the main thread sleeps in `Select` with a timeout, and
goes on when it is over. The timeout is set from the head of the queue, so there
is none when the queue has run dry; what a filler pushes later sets none. This
happens exactly when a timeout takes the last event off the queue.
-/

namespace Http2Rtsp.Server

open Http2Rtsp.Std Http2Rtsp.Message Http2Rtsp.Pacing Http2Rtsp.Semantics

/-- Whether a session is paced, one output later. -/
def markPace (paced : Bool) : Output → Bool
  | .armed => true
  | .endOfStream | .acted _ .teardown => false
  | _ => paced

/-- The timeouts of a session were pushed, and since then the end of the stream was not dequeued and
no TEARDOWN was processed. -/
def paced (outputs : List Output) : Bool := outputs.foldl markPace false

/-- Only the events of the pacing count. -/
theorem paced_append (past output : List Output) :
    paced (past ++ output) = (paceEvents output).foldl markPace (paced past) := by
  rw [paced, List.foldl_append, paceEvents, List.foldl_filter]
  congr 1
  funext before o
  cases o with
  | acted fd type => cases type <;> rfl
  | _ => rfl

/-- The main thread is in `Select` without a timeout. -/
def Stalled (s : ServerState) : Prop := s.pc = .select ∧ s.timeind = none

/-- It is not, while a session is paced. -/
def PacingAwake (past : List Output) (s : ServerState) : Prop := paced past = true → ¬ Stalled s

/-- A timeout which takes the last event off the queue of a paced session finds `ENDOFSTREAM`, or
`CHECKMEDIASTATE` before the media is there, when another one is pushed. -/
def LastEventHarmless (past : List Output) (s : ServerState) (input : Input) : Prop :=
  ∀ now wake event, input = .timeout now wake → s.lock = none → paced past = true →
    s.queue = [event] →
    event.type = .endOfStream ∨ (event.type = .checkMediaState ∧ s.download.mediastate ≠ .stream)

instance : (type : EventType) → Decidable (type = .endOfStream)
  | .endOfStream => isTrue rfl
  | .frame _ | .checkMediaState => isFalse <| by simp

instance : (type : EventType) → Decidable (type = .checkMediaState)
  | .checkMediaState => isTrue rfl
  | .frame _ | .endOfStream => isFalse <| by simp

instance (past : List Output) (s : ServerState) :
    (input : Input) → Decidable (LastEventHarmless past s input)
  | .timeout now wake => decidable_of_iff (s.lock = none → paced past = true → s.queue.length = 1 →
      ∀ event ∈ s.queue, event.type = .endOfStream ∨
        (event.type = .checkMediaState ∧ s.download.mediastate ≠ .stream)) <| by
      constructor
      · rintro harmless _ _ event ⟨⟩ free pacing one
        exact harmless free pacing (by rw [one]; rfl) event (by simp [one])
      · intro harmless free pacing single event member
        obtain ⟨last, one⟩ := List.length_eq_one_iff.mp single
        obtain rfl := List.mem_singleton.mp (one ▸ member)
        exact harmless now wake event rfl free pacing one
  | .interrupted | .ready .. | .accept .. | .datagram .. | .media .. | .rtsp .. | .rearm ..
  | .filler .. => isTrue <| by simp [LastEventHarmless]

/-- What ties the timeout to the queue. -/
structure PaceInvariant (past : List Output) (s : ServerState) : Prop where
  timed : s.pc = .select → s.timeind ≠ none → s.queue ≠ []
  queued : paced past = true → s.Running → s.queue ≠ []

/-! ## Steps -/

/-- Where a handler of a descriptor leaves the main thread: where it was, or halted. -/
def StaysOrHalts (s after : ServerState) : Prop :=
  after.pc = s.pc ∨ ∃ reason, after.pc = .halted reason

theorem AcceptEffect.staysOrHalts {s after : ServerState} {result : Accept} {output : List Output}
    (effect : AcceptEffect s result after output) : StaysOrHalts s after := by
  cases effect with
  | halted reason => exact Or.inr ⟨reason, rfl⟩
  | rejected busy => exact Or.inl rfl
  | accepted accepted free => exact Or.inl rfl

theorem MediaEffect.staysOrHalts {s after : ServerState} {i : Int} {io : MediaIo}
    {output : List Output} (effect : MediaEffect s i io after output) : StaysOrHalts s after := by
  cases effect with
  | ignored other => exact Or.inl rfl
  | failed reason reads => exact Or.inr ⟨reason, rfl⟩
  | header getsent opened found parsed => exact Or.inl rfl
  | stored recvtcp opened more =>
      obtain ⟨kernel, masterfds, stored⟩ := storeMedia_eq s i io
      exact Or.inl (by rw [stored])
  | completed recvtcp opened last effect =>
      obtain ⟨kernel, masterfds, stored⟩ := storeMedia_eq s i io
      rw [stored] at effect
      cases effect with
      | exited unopened => exact Or.inr ⟨_, rfl⟩
      | failed unopened => exact Or.inr ⟨_, rfl⟩
      | locked opened taken => exact Or.inr ⟨_, rfl⟩
      | launched opened free => exact Or.inl rfl

theorem SwitchEffect.staysOrHalts {variant : Variant} {s after : ServerState} {i : Int} {io : RtspIo}
    {output : List Output} (effect : SwitchEffect variant s i io after output) :
    StaysOrHalts s after := by
  cases effect with
  | failed reason output handled before => exact Or.inr ⟨reason, rfl⟩
  | unopened state type downloaded unopened => exact Or.inr ⟨_, rfl⟩
  | @setup rtp rtcp session text state type sockets =>
      obtain ⟨kernel, opened⟩ := openUdp_eq s rtp rtcp
      rw [opened]
      exact Or.inl rfl
  | _ => exact Or.inl rfl

theorem RtspEffect.staysOrHalts {variant : Variant} {s after : ServerState} {i : Int} {io : RtspIo}
    {output : List Output} (effect : RtspEffect variant s i io after output) :
    StaysOrHalts s after := by
  cases effect with
  | failed reason unread => exact Or.inr ⟨reason, rfl⟩
  | teardown receive type effect =>
      cases effect with
      | locked taken => exact Or.inr ⟨_, rfl⟩
      | dangling free dead => exact Or.inr ⟨_, rfl⟩
      | done free armed => exact Or.inl receive.pc
  | switched receive type effect =>
      rcases effect.staysOrHalts with same | halted
      · exact Or.inl (same.trans receive.pc)
      · exact Or.inr halted

theorem StaysOrHalts.not_select {s after : ServerState} {rest : List Int}
    (stays : StaysOrHalts { s with pc := .dispatch rest } after) : after.pc ≠ .select := by
  intro selects
  rcases stays with same | ⟨reason, halted⟩
  · cases selects.symm.trans same
  · cases selects.symm.trans halted

/-- A step which is no timeout. -/
def NoTimeout (input : Input) : Prop := ∀ now wake, input ≠ .timeout now wake

/-- Any other step is one. -/
theorem exists_timeout_of_not {input : Input} (other : ¬ NoTimeout input) :
    ∃ now wake, input = .timeout now wake := by
  simpa only [NoTimeout, not_forall, not_not] using other

/-- A step which is no timeout and leaves the main thread in `Select` sets the timeout behind the loop
over the descriptors, or is one of a filler. -/
theorem step_selects {variant : Variant} {url : List UInt8} {s after : ServerState} {input : Input}
    {output : List Output} (taken : step variant url s input = .ok (after, output))
    (other : NoTimeout input) (selects : after.pc = .select) :
    output = [] ∧
      ((∃ now, input = .rearm now ∧ s.pc = .dispatch [] ∧ s.lock = none ∧
          after = (s.rearm now).1) ∨
        ∃ k action, input = .filler k action ∧ FillerEffect s k after) := by
  cases step_cases taken with
  | timeout => exact absurd rfl (other _ _)
  | interrupted => cases selects
  | ready => cases selects
  | accept pc branch possible effect => exact absurd selects effect.staysOrHalts.not_select
  | datagram pc branch effect =>
      cases effect with
      | only halts answers => exact absurd selects (StaysOrHalts.not_select halts)
  | media pc branch possible effect => exact absurd selects effect.staysOrHalts.not_select
  | rtsp pc branch possible effect => exact absurd selects effect.staysOrHalts.not_select
  | rearmed pc free => exact ⟨rfl, Or.inl ⟨_, rfl, pc, free, rfl⟩⟩
  | rearmLocked => cases selects
  | filler effect => exact ⟨rfl, Or.inr ⟨_, _, rfl, effect⟩⟩

/-- How a step which is no timeout leaves the main thread in `Select`: the timeout is set from the
queue, or it is left alone and the queue loses nothing. -/
theorem step_select {variant : Variant} {url : List UInt8} {s after : ServerState} {input : Input}
    {output : List Output} (taken : step variant url s input = .ok (after, output))
    (other : NoTimeout input) (selects : after.pc = .select) :
    s.Running ∧ output = [] ∧
      ((after.queue = s.queue ∧ (after.timeind = none ↔ s.queue = [])) ∨
        (s.pc = .select ∧ after.timeind = s.timeind ∧ (s.queue ≠ [] → after.queue ≠ []))) := by
  obtain ⟨rfl, ⟨now, rfl, pc, free, rfl⟩ | ⟨k, action, rfl, effect⟩⟩ :=
    step_selects taken other selects
  · rw [ServerState.rearm, locked_free free]
    exact ⟨fun reason => by simp [pc], rfl, Or.inl ⟨rfl, by simp⟩⟩
  · obtain ⟨queue, lock, fillers, rfl, pushes⟩ := effect.only
    refine ⟨running_of_select selects, rfl, Or.inr ⟨selects, rfl, fun nonempty => ?_⟩⟩
    rcases pushes with rfl | ⟨event, rfl⟩
    · exact nonempty
    · exact pushed_ne_nil event s.queue

/-- The timeout which is set at the end of the handling of an event. -/
theorem finishTimeout_timeind {s : ServerState} {event : TimeoutEvent} {wake : Nat} :
    (s.finishTimeout event wake).timeind = none ↔ s.queue = [] := by
  simp [ServerState.finishTimeout]

/-- A timeout is set only when an event is left. -/
theorem TimeoutEffect.timed {s after : ServerState} {wake : Nat} {output : List Output}
    (effect : TimeoutEffect s wake after output) (set : after.timeind ≠ none) : after.queue ≠ [] := by
  cases effect with
  | locked taken => exact absurd rfl set
  | idle free empty => exact absurd rfl set
  | failed free queued last => exact absurd rfl set
  | handled free queued effect => exact fun empty => set (finishTimeout_timeind.mpr empty)

theorem paceInvariant_kept {variant : Variant} {url : List UInt8} {past : List Output}
    {s after : ServerState} {input : Input} {output : List Output} (inv : PaceInvariant past s)
    (taken : step variant url s input = .ok (after, output))
    (awake : PacingAwake (past ++ output) after) : PaceInvariant (past ++ output) after := by
  have timed : after.pc = .select → after.timeind ≠ none → after.queue ≠ [] := by
    intro selects set
    by_cases other : NoTimeout input
    · rcases (step_select taken other selects).2.2 with ⟨queue, exact_⟩ | ⟨pc, same, kept⟩
      · exact fun empty => set (exact_.mpr (queue ▸ empty))
      · exact kept (inv.timed pc (same ▸ set))
    · obtain ⟨now, wake, rfl⟩ := exists_timeout_of_not other
      cases step_cases taken with
      | timeout pc _ effect => exact effect.timed set
  refine ⟨timed, fun pacing running => ?_⟩
  rw [paced_append] at pacing
  cases step_queue taken with
  | kept queue events =>
      rw [events] at pacing
      exact queue ▸ inv.queued pacing (running_before taken running)
  | armed nonempty => exact nonempty
  | filled _ _ nonempty => exact nonempty
  | pulled pc queued selects adds =>
      refine timed (selects running) fun unset => ?_
      exact awake (paced_append past output ▸ pacing) ⟨selects running, unset⟩
  | emptied empty events =>
      rw [events] at pacing
      cases pacing

/-- A plain event, behind which nothing is pushed: the session stays awake exactly when it was not
the last one. -/
theorem finishTimeout_awake_iff {past output : List Output} {s : ServerState} {event : TimeoutEvent}
    {wake : Nat} (pc : s.pc = .select) (events : paceEvents output = []) :
    PacingAwake (past ++ output) (s.finishTimeout event wake) ↔ (paced past = true → s.queue ≠ []) := by
  rw [PacingAwake, paced_append, events]
  refine forall_congr' fun _ => not_congr ?_
  exact ⟨fun stalled => finishTimeout_timeind.mp stalled.2, fun empty =>
    ⟨pc, finishTimeout_timeind.mpr empty⟩⟩

/-- A timeout with the mutex free keeps a session awake exactly when the last event is harmless. -/
theorem TimeoutEffect.awake_iff {past : List Output} {s after : ServerState} {now : Clock}
    {wake : Nat} {output : List Output} (effect : TimeoutEffect s wake after output)
    (inv : PaceInvariant past s) (pc : s.pc = .select) (set : s.timeind ≠ none) :
    PacingAwake (past ++ output) after ↔ LastEventHarmless past s (.timeout now wake) := by
  cases effect with
  | locked taken =>
      exact iff_of_true (fun _ stalled => nomatch stalled.1) fun _ _ _ _ free => absurd free taken
  | idle free empty => exact absurd empty (inv.timed pc set)
  | failed free queued last =>
      refine iff_of_true (fun _ stalled => nomatch stalled.1) fun _ _ single _ _ _ one => Or.inl ?_
      obtain ⟨rfl, -⟩ := List.cons.inj (queued.symm.trans one)
      exact last
  | @handled event rest middle output free queued effect =>
      have selects : middle.pc = .select := effect.pc.trans pc
      -- What becomes of the condition when the event is none of the harmless ones.
      have plain : ¬ (event.type = .endOfStream ∨
          (event.type = .checkMediaState ∧ s.download.mediastate ≠ .stream)) →
          ((paced past = true → rest ≠ []) ↔ LastEventHarmless past s (.timeout now wake)) := by
        intro harmful
        constructor
        · intro more _ _ single _ _ pacing one
          obtain ⟨-, empty⟩ := List.cons.inj (queued.symm.trans one)
          exact absurd empty (more pacing)
        · intro harmless pacing empty
          exact harmful (harmless now wake event rfl free pacing (empty ▸ queued))
      cases effect with
      | @ended sent last farewell =>
          have stops : paced (past ++ (sent ++ [.endOfStream])) = false := by
            rw [← List.append_assoc, paced, List.foldl_append]
            rfl
          refine iff_of_true (fun pacing => ?_) fun _ _ single _ _ _ one => Or.inl ?_
          · cases stops.symm.trans pacing
          · obtain ⟨rfl, -⟩ := List.cons.inj (queued.symm.trans one)
            exact last
      | video media =>
          rw [finishTimeout_awake_iff selects rfl]
          exact plain (by simp [media])
      | audio media frames =>
          rw [finishTimeout_awake_iff selects (List.filter_eq_nil_iff.mpr fun output member => ?_)]
          · exact plain (by simp [media])
          · obtain ⟨fd, seq, rfl⟩ := frames output member
            exact Bool.false_ne_true
      | dummy check waiting =>
          rw [finishTimeout_awake_iff selects rfl]
          refine iff_of_true (fun _ => pushed_ne_nil _ _) fun _ _ single _ _ _ one => Or.inr ?_
          obtain ⟨rfl, -⟩ := List.cons.inj (queued.symm.trans one)
          exact ⟨check, waiting⟩
      | ready check streaming =>
          have streams : s.download.mediastate = .stream := streaming
          rw [finishTimeout_awake_iff selects rfl]
          exact plain (by simp [check, streams])

/-- One step keeps a paced session awake exactly when the last event is harmless. -/
theorem pacingAwake_step_iff {variant : Variant} {url : List UInt8} {past : List Output}
    {s after : ServerState} {input : Input} {output : List Output} (inv : PaceInvariant past s)
    (awake : PacingAwake past s) (taken : step variant url s input = .ok (after, output)) :
    PacingAwake (past ++ output) after ↔ LastEventHarmless past s input := by
  by_cases other : NoTimeout input
  · refine iff_of_true (fun pacing stalled => ?_) fun now wake event same => absurd same (other now wake)
    obtain ⟨running, rfl, queue⟩ := step_select taken other stalled.1
    rw [List.append_nil] at pacing
    rcases queue with ⟨-, exact_⟩ | ⟨pc, same, -⟩
    · exact inv.queued pacing running (exact_.mp stalled.2)
    · exact awake pacing ⟨pc, same.symm.trans stalled.2⟩
  · obtain ⟨now, wake, rfl⟩ := exists_timeout_of_not other
    cases step_cases taken with
    | timeout pc set effect => exact effect.awake_iff inv pc set

/-! ## Runs -/

/-- In every run of either server the main thread is awake at every point of a paced session exactly
when every timeout leaves work, or the session ends or goes on without. -/
theorem pacingAwake_iff_lastEventHarmless {variant : Variant} {url : List UInt8}
    {trace : List (Entry ServerState Input Output)} {state : ServerState}
    (run : (machine variant url).Runs trace state) :
    Machine.Always PacingAwake trace state ↔ Machine.Throughout LastEventHarmless trace := by
  apply run.always_iff_throughout (fun _ => True) PaceInvariant trivial
  · intro past output _
    trivial
  · intro start initial
    refine ⟨fun _ set => ?_, fun pacing => nomatch pacing⟩
    exact absurd (Initial.timeind initial) set
  · intro past before input after output _ inv taken awake
    exact paceInvariant_kept inv taken awake
  · intro start initial pacing
    cases pacing
  · intro past before input after output _ inv awake taken
    exact pacingAwake_step_iff inv awake taken

/-- A client plays, the download ends, and both `CHECKMEDIASTATE` timeouts are over before the filler
has come to its wait. -/
def slowFiller : List Input :=
  connect 6 ++ describe 6 7 someResponse ++ play 6 ++ media 7 someResponse someHeader ++
    media 7 [] [7] ++ [.timeout someTime 0, .timeout someTime 0]

/-- The script ends in `Select` without a timeout; the filler, and the end of the stream, are still
to come. -/
theorem slowFiller_runs (variant : Variant) : ∃ result,
    (machine variant someUrl).exec [] (startState variant) slowFiller = .ok result ∧
      paced (Machine.outputs result.1) = true ∧ Stalled result.2 ∧
      result.2.fillers = [⟨.start, 0, none, none⟩] := by
  cases variant <;> exact ⟨_, rfl, rfl, ⟨rfl, rfl⟩, rfl⟩

/-- The same, but the filler has filled the queue before: with a frame for two seconds later, and the
end of the stream. -/
def fastFiller : List Input :=
  connect 6 ++ describe 6 7 someResponse ++ play 6 ++ media 7 someResponse someHeader ++
    media 7 [] [7] ++ [.filler 0 .wait, .filler 0 .spurious,
      .filler 0 (.resume ⟨⟨1002, 0⟩, by decide, by decide⟩ (some tinyFrame) ⟨0, 0⟩), .filler 0 .test,
      .filler 0 (.push none ⟨0, 0⟩)] ++ List.replicate 4 (.timeout someTime 0)

/-- With the fast filler the last event is the end of the stream, and the session stays awake; with
the slow one it is not. -/
theorem pacingAwake_iff_lastEventHarmless_fastFiller :
    (∃ result, (machine .server someUrl).exec [] (startState .server) fastFiller = .ok result ∧
      result.1.getLast?.map Entry.output = some [.endOfStream] ∧
      Machine.Throughout LastEventHarmless result.1 ∧
      Machine.Always PacingAwake result.1 result.2) ∧
    ∃ result, (machine .server someUrl).exec [] (startState .server) slowFiller = .ok result ∧
      ¬ Machine.Throughout LastEventHarmless result.1 := by
  constructor
  · have computed : ∃ result,
        (machine .server someUrl).exec [] (startState .server) fastFiller = .ok result ∧
          result.1.getLast?.map Entry.output = some [.endOfStream] ∧
          Machine.MeetsAll LastEventHarmless [] result.1 :=
      ⟨_, rfl, rfl, by decide +kernel⟩
    obtain ⟨result, computed, ends, harmless⟩ := computed
    have run := Machine.Runs.of_exec (startState_initial .server someUrl) computed
    have throughout := Machine.throughout_of_meetsAll harmless
    exact ⟨result, computed, ends, throughout, (pacingAwake_iff_lastEventHarmless run).mpr throughout⟩
  · obtain ⟨result, computed, pacing, stalled, -⟩ := slowFiller_runs .server
    have run := Machine.Runs.of_exec (startState_initial .server someUrl) computed
    refine ⟨result, computed, fun harmless => ?_⟩
    exact ((pacingAwake_iff_lastEventHarmless run).mpr harmless).here pacing stalled

/-- A session can stall. -/
theorem pacingAwake_not_always : ¬ ∀ variant url trace state,
    (machine variant url).Runs trace state → Machine.Always PacingAwake trace state := by
  intro all
  obtain ⟨result, computed, pacing, stalled, -⟩ := slowFiller_runs .server
  have run := Machine.Runs.of_exec (startState_initial .server someUrl) computed
  exact (all .server someUrl _ _ run).here pacing stalled

end Http2Rtsp.Server
