import Http2Rtsp.Server.Timeouts

/-!
# When events are dispatched

The handling of a timeout never looks at the clock: it takes the head of the queue because the
timeout given to `Select` is over. That timeout is counted from the clock behind the loop over the
descriptors, and from the time of the event before it in the handling of a timeout. No event is
dispatched early as long as the head of the queue is no later than the end of the timeout.

Two things break this. Behind the loop over the descriptors the timeout is set to zero when the
seconds of the difference are negative, which uncarried microseconds of the head can outweigh; and a
filler which pushes while the main thread is in `Select` can put a later event before the head.
-/

namespace Http2Rtsp.Server

open Http2Rtsp.Std Http2Rtsp.Message Http2Rtsp.Pacing Http2Rtsp.Semantics

/-! ## `Select` -/

/-- What the clock is when the main thread goes on to `Select`. -/
def Input.called : Input → Option Clock
  | .timeout now _ => some now
  | .rearm now => some now
  | _ => none

/-- The clock when the main thread has come to `Select` last. -/
def lastCall (called : Option Clock) (trace : List (Entry ServerState Input Output)) :
    Option Clock :=
  trace.foldl (fun called entry => entry.input.called.or called) called

/-- A timeout is not over before it has passed since the call. -/
def WaitsOut (called : Option Clock) (s : ServerState) : Input → Prop
  | .timeout now _ => ∀ timeout ∈ s.timeind, ∀ start ∈ called,
      start.micros + timeout.micros ≤ now.micros
  | _ => True

/-- `select` returns 0 no sooner than its timeout after the call. -/
def SelectWaits : Option Clock → List (Entry ServerState Input Output) → Prop
  | _, [] => True
  | called, entry :: rest =>
      WaitsOut called entry.before entry.input ∧ SelectWaits (entry.input.called.or called) rest

theorem selectWaits_append {called : Option Clock}
    {first second : List (Entry ServerState Input Output)} :
    SelectWaits called (first ++ second) ↔
      SelectWaits called first ∧ SelectWaits (lastCall called first) second := by
  induction first generalizing called with
  | nil => exact (and_iff_right trivial).symm
  | cons entry rest ih =>
      rw [List.cons_append, SelectWaits, SelectWaits, ih, and_assoc]
      rfl

theorem selectWaits_snoc {called : Option Clock} {trace : List (Entry ServerState Input Output)}
    {last : Entry ServerState Input Output} :
    SelectWaits called (trace ++ [last]) ↔
      SelectWaits called trace ∧ WaitsOut (lastCall called trace) last.before last.input := by
  rw [selectWaits_append, SelectWaits, SelectWaits, and_true]

theorem lastCall_snoc {called : Option Clock} {trace : List (Entry ServerState Input Output)}
    {last : Entry ServerState Input Output} :
    lastCall called (trace ++ [last]) = last.input.called.or (lastCall called trace) := by
  rw [lastCall, List.foldl_append]
  rfl

/-! ## The property and the condition -/

/-- The event which a timeout dispatches is not later than the clock. -/
def PullsDue (s : ServerState) : Input → Prop
  | .timeout now _ => s.lock = none → ∀ event ∈ s.queue.head?, event.time.micros ≤ now.micros
  | _ => True

/-- The timeout keeps reaching the head of the queue: it is not set to zero before a head which
overshoots the clock, and what a filler puts before the head during it is not later. -/
def TimeoutReaches (s : ServerState) : Input → Prop
  | .rearm now => ∀ first ∈ s.queue.head?, ¬ first.time.Overshoots now
  | .filler k action => s.pc = .select → s.timeind ≠ none →
      ∀ time ∈ pushTimes s (.filler k action), (∀ queued ∈ s.queue, passesOver time queued = true) →
        ∀ first ∈ s.queue.head?, time.micros ≤ first.time.micros
  | _ => True

instance (called : Option Clock) (s : ServerState) : DecidablePred (WaitsOut called s)
  | .timeout _ _ => inferInstanceAs (Decidable (∀ timeout ∈ _, ∀ start ∈ _, _))
  | .interrupted | .ready _ | .accept _ | .datagram _ | .media _ | .rtsp _ | .rearm _
  | .filler _ _ => .isTrue trivial

instance SelectWaits.decidable : (called : Option Clock) →
    (trace : List (Entry ServerState Input Output)) → Decidable (SelectWaits called trace)
  | _, [] => .isTrue trivial
  | called, entry :: rest =>
      @instDecidableAnd _ _ (inferInstanceAs (Decidable (WaitsOut _ _ _)))
        (SelectWaits.decidable (entry.input.called.or called) rest)

instance (s : ServerState) : DecidablePred (TimeoutReaches s)
  | .rearm _ => inferInstanceAs (Decidable (∀ first ∈ _, ¬ _))
  | .filler _ _ => inferInstanceAs (Decidable (_ → _ → ∀ time ∈ _, _ → ∀ first ∈ _, _))
  | .timeout _ _ | .interrupted | .ready _ | .accept _ | .datagram _ | .media _ | .rtsp _ =>
      .isTrue trivial

/-- The head of the queue is not later than the end of the timeout. -/
def HeadReached (trace : List (Entry ServerState Input Output)) (s : ServerState) : Prop :=
  s.pc = .select → ∀ timeout, s.timeind = some timeout →
    ∃ called ∈ lastCall none trace, ∃ first ∈ s.queue.head?,
      first.time.micros ≤ called.micros + timeout.micros

/-! ## Steps -/

/-- Behind the loop over the descriptors the timeout reaches the head of the queue exactly when the
head does not overshoot the clock. -/
theorem rearm_reaches_iff {s : ServerState} (now : Clock) (free : s.lock = none)
    {first : TimeoutEvent} (head : first ∈ s.queue.head?) :
    (∃ timeout ∈ (s.rearm now).1.timeind, first.time.micros ≤ now.micros + timeout.micros) ↔
      ¬ first.time.Overshoots now := by
  have set : (s.rearm now).1.timeind =
      some (if (calculateDelta now.toTimeval first.time).tvSec < 0 then ⟨0, 0⟩
        else calculateDelta now.toTimeval first.time) := by
    rw [ServerState.rearm, locked_free free]
    exact congrArg (Option.map _) head
  have exact_ := calculateDelta_micros now.toTimeval first.time
  have zero : (⟨0, 0⟩ : Timeval).micros = 0 := rfl
  rw [set]
  simp only [Option.mem_some_iff, exists_eq_left']
  by_cases later : now.micros < first.time.micros
  · rw [← calculateDelta_neg_iff later]
    split
    · rename_i negative
      rw [zero]
      exact iff_of_false (by omega) (not_not.mpr negative)
    · rename_i ahead
      exact iff_of_true (by omega) ahead
  · refine iff_of_true ?_ fun overshoots => later overshoots.2
    split
    · rw [zero]
      omega
    · omega

/-- Behind the handling of an event the timeout is how far the head is behind the event. -/
theorem handleTimeout_reaches (variant : Variant) {s : ServerState} {now : Clock} (wake : Nat)
    (pc : s.pc = .select) (due : PullsDue s (.timeout now wake)) {timeout : Timeval}
    (set : (s.handleTimeout variant now wake).1.timeind = some timeout) :
    ∃ first ∈ (s.handleTimeout variant now wake).1.queue.head?,
      first.time.micros ≤ now.micros + timeout.micros := by
  by_cases idle : s.lock ≠ none ∨ s.queue = []
  · rw [(handleTimeout_idle variant now wake idle).2] at set
    cases set
  · obtain ⟨free, busy⟩ := not_or.mp idle
    rw [not_not] at free
    obtain ⟨event, rest, queued⟩ := List.exists_cons_of_ne_nil busy
    obtain ⟨middle, -, ends⟩ :=
      handleTimeout_pulls variant now wake (running_of_select pc) free queued
    rcases ends with ⟨same, unset⟩ | same
    · rw [same, unset] at set
      cases set
    · rw [same] at set ⊢
      obtain ⟨first, head, rfl⟩ := Option.map_eq_some_iff.mp set
      refine ⟨first, head, ?_⟩
      have past := due free event (queued ▸ rfl)
      rw [calculateDelta_micros]
      omega

/-- A filler pushes one event, or leaves the queue as it is. -/
theorem FillerMove.queue {s after : ServerState} {k : Nat} {filler : Filler}
    {action : FillerAction} (move : FillerMove s k filler action after) :
    after.queue = s.queue ∨
      ∃ event, event.time ∈ s.fillTimes filler action ∧ after.queue = pushed event s.queue := by
  have next_pushed : ∀ basetime next unset, ∃ event : TimeoutEvent,
      event.time = filler.fillTime basetime next unset ∧
        (s.pushNext k filler basetime next unset).queue = pushed event s.queue := by
    intro basetime next unset
    cases next with
    | none => exact ⟨⟨_, .endOfStream⟩, rfl, rfl⟩
    | some frame => exact ⟨⟨_, .frame frame⟩, rfl, rfl⟩
  cases move with
  | wait pc free => exact Or.inl rfl
  | spurious pc => exact Or.inl rfl
  | @resume now next unset pc free room =>
      obtain ⟨event, time, queue⟩ := next_pushed (filler.basetime.getD now) next unset
      refine Or.inr ⟨event, ?_, queue⟩
      rw [ServerState.fillTimes, if_pos room, time]
      exact List.mem_singleton_self _
  | stuck pc free full => exact Or.inl rfl
  | test pc => exact Or.inl rfl
  | @push next unset basetime pc free known =>
      obtain ⟨event, time, queue⟩ := next_pushed basetime next unset
      refine Or.inr ⟨event, ?_, queue⟩
      simp only [ServerState.fillTimes, known, time]
      exact List.mem_singleton_self _
  | unwind pc free => exact Or.inl rfl

/-- What a filler does during a timeout puts no later event first. -/
theorem handleFiller_reaches {s after : ServerState} {k : Nat} {action : FillerAction}
    (taken : s.handleFiller k action = some after) (selects : s.pc = .select)
    (timed : s.timeind ≠ none) (reaches : TimeoutReaches s (.filler k action))
    {first : TimeoutEvent} (head : first ∈ s.queue.head?) :
    ∃ new ∈ after.queue.head?, new.time.micros ≤ first.time.micros := by
  obtain ⟨filler, there, move⟩ := handleFiller_moves taken
  rcases move.queue with same | ⟨event, time, queue⟩
  · exact ⟨first, same ▸ head, le_refl _⟩
  · rw [queue, pushed, head?_scanInsert]
    split
    · rename_i passed
      refine ⟨event, rfl, reaches selects timed event.time ?_ passed first head⟩
      simp only [pushTimes, there]
      exact time
    · exact ⟨first, head, le_refl _⟩

/-- A timeout which reaches the head dispatches nothing early. -/
theorem HeadReached.pullsDue {trace : List (Entry ServerState Input Output)} {variant : Variant}
    {url : List UInt8} {s after : ServerState} {input : Input} {output : List Output}
    (reached : HeadReached trace s) (waits : WaitsOut (lastCall none trace) s input)
    (taken : step variant url s input = .ok (after, output)) : PullsDue s input := by
  cases input with
  | timeout now wake =>
      intro free event head
      obtain ⟨pc, set, -⟩ := step_timeout taken
      obtain ⟨timeout, timed⟩ := Option.ne_none_iff_exists'.mp set
      obtain ⟨called, start, first, there, bound⟩ := reached pc timeout timed
      obtain rfl : first = event := Option.mem_unique there head
      have waited := waits timeout timed called start
      omega
  | _ => trivial

theorem headReached_initial {variant : Variant} {s : ServerState} (initial : Initial variant s) :
    HeadReached [] s := by
  intro _ timeout set
  cases initial.timeind.symm.trans set

/-- A step keeps the head of the queue within the timeout. -/
theorem headReached_kept {variant : Variant} {url : List UInt8}
    {trace : List (Entry ServerState Input Output)} {last : Entry ServerState Input Output}
    {after : ServerState} (waits : SelectWaits none (trace ++ [last]))
    (reached : HeadReached trace last.before) (reaches : TimeoutReaches last.before last.input)
    (taken : step variant url last.before last.input = .ok (after, last.output)) :
    HeadReached (trace ++ [last]) after := by
  intro selects timeout set
  have due := reached.pullsDue (selectWaits_snoc.mp waits).2 taken
  rw [lastCall_snoc]
  by_cases other : NoTimeout last.input
  · rcases (step_selects taken other selects).2 with
      ⟨now, same, -, free, rfl⟩ | ⟨k, action, same, effect⟩
    · rw [same] at reaches ⊢
      have queue : (last.before.rearm now).1.queue = last.before.queue := by
        rw [ServerState.rearm, locked_free free]
      have timed := set
      rw [ServerState.rearm, locked_free free] at timed
      obtain ⟨first, head, -⟩ := Option.map_eq_some_iff.mp timed
      obtain ⟨waited, there, bound⟩ := (rearm_reaches_iff now free head).mpr (reaches first head)
      obtain rfl : waited = timeout := Option.mem_unique there set
      exact ⟨now, rfl, first, queue ▸ head, bound⟩
    · rw [same] at reaches taken ⊢
      obtain ⟨moved, -⟩ := step_filler taken
      obtain ⟨queue, lock, fillers, rfl, -⟩ := effect.only
      obtain ⟨called, start, first, head, bound⟩ := reached selects timeout set
      have timed : last.before.timeind ≠ none := by
        intro unset
        cases unset.symm.trans set
      obtain ⟨new, there, earlier⟩ := handleFiller_reaches moved selects timed reaches head
      exact ⟨called, start, new, there, earlier.trans bound⟩
  · obtain ⟨now, wake, same⟩ := exists_timeout_of_not other
    rw [same] at taken due ⊢
    obtain ⟨pc, -, handled⟩ := step_timeout taken
    have reachesNext := @handleTimeout_reaches variant last.before now wake pc due timeout
    rw [handled] at reachesNext
    exact ⟨now, rfl, reachesNext set⟩

/-- It does when what is pushed is carried and can be compared. -/
theorem WaitInvariant.timeoutReaches {trace : List (Entry ServerState Input Output)}
    {s : ServerState} {input : Input} (inv : WaitInvariant trace s)
    (comparable : PushesComparable s input) : TimeoutReaches s input := by
  cases input with
  | rearm now =>
      intro first head
      exact (inv.timely.carried first (List.mem_of_mem_head? head)).not_overshoots now
  | filler k action =>
      intro _ _ time member passed first head
      have queued := List.mem_of_mem_head? head
      have carried := comparable.carries.carried inv.stamped time member
      have judged := timecmp_carried (inv.timely.carried first queued) carried
        (comparable.near.queued time member first queued)
      exact judged.mp (of_decide_eq_true (passed first queued))
  | _ => trivial

/-! ## Runs -/

/-- In every run in which `select` waits its timeout out and the timeout keeps reaching the head of
the queue, no event is dispatched early. -/
theorem pullsDue_of_timeoutReaches {variant : Variant} {url : List UInt8}
    {trace : List (Entry ServerState Input Output)} {state : ServerState}
    (run : (machine variant url).Runs trace state) (waits : SelectWaits none trace)
    (reaches : Machine.Throughout (fun _ => TimeoutReaches) trace) :
    Machine.Throughout (fun _ => PullsDue) trace := by
  have reached := (run.recorded reaches (SelectWaits none) HeadReached waits
    (fun waits => (selectWaits_snoc.mp waits).1) (fun _ initial => headReached_initial initial)
    headReached_kept).2
  rintro past entry future rfl
  obtain ⟨after, taken⟩ := run.taken (List.mem_append_right past List.mem_cons_self)
  have waited : SelectWaits (lastCall none past) (entry :: future) := (selectWaits_append.mp waits).2
  exact (reached past entry future rfl).pullsDue waited.1 taken

/-- The timeout keeps reaching the head of the queue in every run in which the clock never goes back
and what is pushed is carried and can be compared. -/
theorem timeoutReaches_of_pushesComparable {variant : Variant} {url : List UInt8}
    {trace : List (Entry ServerState Input Output)} {state : ServerState}
    (run : (machine variant url).Runs trace state) (clock : ClockRuns trace)
    (comparable : Machine.Throughout (fun _ => PushesComparable) trace) :
    Machine.Throughout (fun _ => TimeoutReaches) trace := by
  have known := (run.recorded comparable ClockRuns WaitInvariant clock
    (fun clock => clock.snoc.1) (fun _ initial => waitInvariant_initial initial)
    waitInvariant_kept).2
  intro past entry future split
  exact (known past entry future split).timeoutReaches (comparable past entry future split)

/-- In the middle of a second, two timeouts are dispatched, and neither of them early. -/
theorem pullsDue_of_timeoutReaches_playedTwice : ∃ result,
    (machine .server someUrl).exec [] (startState .server) (playedTwice 500000 540000) = .ok result ∧
      (result.1.filter fun entry => entry.input matches .timeout _ _).length = 2 ∧
      Machine.Throughout (fun _ => PullsDue) result.1 := by
  obtain ⟨result, computed, waits, reaches, dispatched⟩ : ∃ result,
      (machine .server someUrl).exec [] (startState .server) (playedTwice 500000 540000) =
          .ok result ∧ SelectWaits none result.1 ∧
        Machine.MeetsAll (fun _ => TimeoutReaches) [] result.1 ∧
        (result.1.filter fun entry => entry.input matches .timeout _ _).length = 2 :=
    ⟨_, rfl, by decide +kernel, by decide +kernel, rfl⟩
  have run := Machine.Runs.of_exec (startState_initial .server someUrl) computed
  exact ⟨result, computed, dispatched,
    pullsDue_of_timeoutReaches run waits (Machine.throughout_of_meetsAll reaches)⟩

/-- A client plays in the last microsecond of a second before the media is there, and the loop over
the descriptors ends in the first one of the next. -/
def playedLate : List Input :=
  connect 6 ++ describe 6 7 someResponse ++ request 6 (RtspIo.line "SETUP") ++
    request 6 (RtspIo.line "SETUP") ++ (playAt 6 999999).dropLast ++
    [.rearm (clockAt 1000000), .timeout (clockAt 1000000) 0]

/-- The event is dispatched a tenth of a second early. -/
theorem playedLate_early : ∃ result,
    (machine .server someUrl).exec [] (startState .server) playedLate = .ok result ∧
      ClockRuns result.1 ∧ SelectWaits none result.1 ∧
      ∃ entry ∈ result.1.getLast?, entry.input = .timeout (clockAt 1000000) 0 ∧
        entry.before.lock = none ∧ entry.before.timeind = some ⟨0, 0⟩ ∧
        entry.before.queue = [⟨⟨1000, 1099999⟩, .checkMediaState⟩] :=
  ⟨_, rfl, by decide +kernel, by decide +kernel, _, rfl, rfl, rfl, rfl, rfl⟩

/-- An event can be dispatched early. -/
theorem pullsDue_not_throughout : ¬ ∀ url trace state, (machine .server url).Runs trace state →
    ClockRuns trace → SelectWaits none trace → Machine.Throughout (fun _ => PullsDue) trace := by
  intro all
  obtain ⟨result, computed, clock, waits, entry, last, input, free, -, queue⟩ := playedLate_early
  have run := Machine.Runs.of_exec (startState_initial .server someUrl) computed
  have split := List.dropLast_append_getLast? entry last
  have due := all someUrl _ _ run clock waits _ entry [] split.symm
  rw [input] at due
  have early := due free ⟨⟨1000, 1099999⟩, .checkMediaState⟩ (by rw [queue]; rfl)
  exact absurd early (by decide)

end Http2Rtsp.Server
