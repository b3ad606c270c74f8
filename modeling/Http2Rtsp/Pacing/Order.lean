import Http2Rtsp.Pacing.Queue
import Http2Rtsp.Semantics.Machine
import Mathlib.Data.Int.Order.Basic

/-!
# Time order of the event queue

The queue under every sequence of its operations, with the events its callers
build. A push keeps the queue sorted exactly when `timecmp` judges the new
event rightly against the queued events which decide where it goes; frame times
always are, the uncarried times of timeouts and of the end of the stream not.
-/

namespace Http2Rtsp.Pacing

open Http2Rtsp.Std Http2Rtsp.Semantics

/-- The operations on the queue, with what the caller builds the pushed event from and the address
it is allocated at. -/
inductive QueueOp where
  | pullEvent
  | pushTimeout (address : Nat) (now : Clock) (timeMs : Nat) (type : EventType)
  | pushFrame (address : Nat) (frame : Rtp.Frame) (basetime : Clock)
  /-- The end of the stream, after a frame with this timestamp. -/
  | pushEndOfStream (address : Nat) (prevTimestamp : UInt32) (basetime : Clock)

/-- The event an operation pushes, and where it is allocated. -/
def QueueOp.event : QueueOp → Option (Nat × TimeoutEvent)
  | .pullEvent => none
  | .pushTimeout address now timeMs type => some (address, ⟨timeoutTime now timeMs, type⟩)
  | .pushFrame address frame basetime =>
      some (address, ⟨setTimeval frame.timestamp basetime, .frame frame⟩)
  | .pushEndOfStream address prevTimestamp basetime =>
      some (address, ⟨endTime (setTimeval prevTimestamp basetime), .endOfStream⟩)

/-- The memory and the queue in it. -/
structure QueueState where
  store : Store TimeoutEvent
  queue : Queue

inductive QueueOutput where
  | pushed (event : TimeoutEvent)
  | pulled (event : Option TimeoutEvent)

inductive QueueStop where
  /-- `malloc` does not return memory in use. -/
  | addressInUse
  | invalidPointer

/-- One operation. A pulled event is freed by the caller. -/
def queueStep (state : QueueState) (op : QueueOp) :
    Except QueueStop (QueueState × List QueueOutput) :=
  match op.event with
  | some (address, event) =>
      if (state.store address).isSome then .error .addressInUse else
        let allocated := Function.update state.store address (some ⟨none, none, event⟩)
        match pushEvent address allocated state.queue with
        | none => .error .invalidPointer
        | some (store, queue) => .ok (⟨store, queue⟩, [.pushed event])
  | none =>
      match pullEvent state.store state.queue with
      | none => .error .invalidPointer
      | some (none, store, queue) => .ok (⟨store, queue⟩, [.pulled none])
      | some (some ret, store, queue) =>
          .ok (⟨Function.update store ret none, queue⟩,
            [.pulled ((state.store ret).map Node.value)])

/-- The queue from its empty state on. -/
def queueMachine : Machine QueueState QueueOp QueueOutput QueueStop where
  Initial state := state.queue = Queue.empty
  step := queueStep

/-- The events met from a pointer along `next`. -/
def Follows (store : Store TimeoutEvent) : Option Nat → List TimeoutEvent → Prop
  | none, events => events = []
  | some _, [] => False
  | some address, event :: rest =>
      ∃ node, store address = some node ∧ node.value = event ∧ Follows store node.next rest

/-- The time events are ordered by. -/
def eventMicros (event : TimeoutEvent) : Int := event.time.micros

/-- The events from `queue->first` along `next` are in time order, and what `pull_event` returns is
the least of them. -/
structure InTimeOrder (state : QueueState) : Prop where
  sorted : ∃ events, Follows state.store state.queue.first events ∧ Ascending eventMicros events
  least : ∀ ret store queue, pullEvent state.store state.queue = some (some ret, store, queue) →
    ∃ node, state.store ret = some node ∧ ∀ events,
      Follows state.store state.queue.first events →
        ∀ event ∈ events, node.value.time.micros ≤ event.time.micros

/-- A new time is judged rightly against the queued events not before it and against the latest of
those before it. -/
def JudgedRightly (new : Timeval) (events : List TimeoutEvent) : Prop :=
  (∀ event ∈ events, new.micros ≤ event.time.micros → ¬ Misjudged event.time new) ∧
    ∀ event, (events.filter fun e => eventMicros e < new.micros).getLast? = some event →
      ¬ Misjudged event.time new

/-- What a push has to meet. -/
def FitsQueue (state : QueueState) (op : QueueOp) : Prop :=
  ∀ address event, op.event = some (address, event) →
    ∀ events, Follows state.store state.queue.first events → JudgedRightly event.time events

/-- The events pushed along a run. -/
def pushedEvents (outputs : List QueueOutput) : List TimeoutEvent :=
  outputs.filterMap fun
    | .pushed event => some event
    | .pulled _ => none

@[simp] theorem pushedEvents_pushed (event : TimeoutEvent) :
    pushedEvents [.pushed event] = [event] := rfl

@[simp] theorem pushedEvents_pulled (event : Option TimeoutEvent) :
    pushedEvents [.pulled event] = [] := rfl

@[simp] theorem pushedEvents_append (first second : List QueueOutput) :
    pushedEvents (first ++ second) = pushedEvents first ++ pushedEvents second := by
  simp [pushedEvents]

/-- All times pushed are within `2^31` seconds of each other. -/
def AllNear (outputs : List QueueOutput) : Prop :=
  ∀ x ∈ pushedEvents outputs, ∀ y ∈ pushedEvents outputs, x.time.Near y.time

theorem AllNear.of_append {past output : List QueueOutput} (near : AllNear (past ++ output)) :
    AllNear past := by
  intro x inX y inY
  apply near <;> simp [inX, inY]

/-! ## Walking the queue -/

/-- The walk along `next` meets one list of events only. -/
theorem Follows.unique {store : Store TimeoutEvent} {pointer : Option Nat}
    {events events' : List TimeoutEvent} (follows : Follows store pointer events)
    (follows' : Follows store pointer events') : events = events' := by
  induction events generalizing pointer events' with
  | nil =>
      cases pointer with
      | none =>
          simp only [Follows] at follows'
          exact follows'.symm
      | some address => exact follows.elim
  | cons event rest ih =>
      cases pointer with
      | none => cases follows
      | some address =>
          cases events' with
          | nil => exact follows'.elim
          | cons event' rest' =>
              obtain ⟨node, here, rfl, later⟩ := follows
              obtain ⟨node', here', rfl, later'⟩ := follows'
              obtain rfl := Option.some.inj (here.symm.trans here')
              rw [ih later later']

/-- Along a chain the walk meets the listed events. -/
theorem Follows.of_linked {store : Store TimeoutEvent} {before : Option Nat}
    {nodes : List (Nat × TimeoutEvent)} (linked : Linked store before nodes none) :
    Follows store (firstOr nodes none) (nodes.map Prod.snd) := by
  induction nodes generalizing before with
  | nil => rfl
  | cons node rest ih => exact ⟨_, linked.1, rfl, ih linked.2⟩

section Represented

variable {state : QueueState} {nodes : List (Nat × TimeoutEvent)}

/-- The walk from the front of a represented queue. -/
theorem Represents.follows_iff (represents : Represents state.store state.queue nodes)
    {events : List TimeoutEvent} :
    Follows state.store state.queue.first events ↔ events = nodes.map Prod.snd := by
  have whole := Follows.of_linked represents.linked
  rw [← represents.first] at whole
  constructor
  · intro follows
    exact follows.unique whole
  · rintro rfl
    exact whole

/-- Time order of a represented queue is time order of its list. -/
theorem inTimeOrder_iff (represents : Represents state.store state.queue nodes) :
    InTimeOrder state ↔ Ascending eventMicros (nodes.map Prod.snd) := by
  constructor
  · rintro ⟨⟨events, follows, sorted⟩, -⟩
    rwa [represents.follows_iff.mp follows] at sorted
  · intro sorted
    refine ⟨⟨_, represents.follows_iff.mpr rfl, sorted⟩, fun ret store queue pulls => ?_⟩
    cases nodes with
    | nil =>
        have first := represents.first
        simp only [firstOr_nil] at first
        simp [pullEvent, first] at pulls
    | cons head rest =>
        obtain ⟨store', queue', computed, -⟩ := pullEvent_represents represents
        obtain rfl : head.1 = ret := by
          have same := computed.symm.trans pulls
          simp only [Option.some.injEq, Prod.mk.injEq] at same
          exact same.1
        obtain ⟨next, prev, here⟩ := represents.linked.mem (List.mem_cons_self : head ∈ head :: rest)
        refine ⟨_, here, fun events follows event member => ?_⟩
        rw [represents.follows_iff.mp follows, List.map_cons, List.mem_cons] at member
        rcases member with rfl | later
        · exact le_refl _
        · exact (List.pairwise_cons.mp sorted).1 event later

end Represented

/-! ## The invariant of a run -/

/-- The queue represents events which were pushed, and the events pushed are as produced. -/
def QueueInvariant (outputs : List QueueOutput) (state : QueueState) : Prop :=
  (∀ event ∈ pushedEvents outputs, event.time.Produced) ∧
    ∃ nodes, Represents state.store state.queue nodes ∧
      (∀ node ∈ nodes, node.2 ∈ pushedEvents outputs)

/-- The times of the events callers build. -/
theorem QueueOp.event_produced {op : QueueOp} {address : Nat} {event : TimeoutEvent}
    (built : op.event = some (address, event)) : event.time.Produced := by
  cases op with
  | pullEvent => cases built
  | pushTimeout _ now timeMs type =>
      cases built
      exact timeoutTime_produced now (Int.natCast_nonneg timeMs)
  | pushFrame _ frame basetime =>
      cases built
      exact setTimeval_produced frame.timestamp basetime
  | pushEndOfStream _ prevTimestamp basetime =>
      cases built
      exact endTime_produced prevTimestamp basetime

/-- An address at which nothing is stored is not in the queue. -/
theorem Represents.fresh {store : Store TimeoutEvent} {queue : Queue}
    {nodes : List (Nat × TimeoutEvent)} (represents : Represents store queue nodes) {address : Nat}
    (unused : store address = none) : address ∉ addresses nodes := by
  intro member
  obtain ⟨node, inNodes, rfl⟩ := List.mem_map.mp member
  obtain ⟨next, prev, here⟩ := represents.linked.mem inNodes
  rw [unused] at here
  cases here

/-- What a push does: the scan's insertion, and nothing else. -/
theorem queueStep_push {state : QueueState} {op : QueueOp} {nodes : List (Nat × TimeoutEvent)}
    {address : Nat} {event : TimeoutEvent} (represents : Represents state.store state.queue nodes)
    (built : op.event = some (address, event)) (unused : state.store address = none) :
    ∃ after, queueStep state op = .ok (after, [.pushed event]) ∧
      Represents after.store after.queue
        (scanInsert (nodePasses event.time) (address, event) nodes) := by
  have fresh := represents.fresh unused
  have allocated : Represents (Function.update state.store address (some ⟨none, none, event⟩))
      state.queue nodes :=
    { represents with linked := represents.linked.frame_update fresh }
  obtain ⟨store, queue, computed, represents'⟩ :=
    pushEvent_represents allocated (Function.update_self ..) fresh
  refine ⟨⟨store, queue⟩, ?_, represents'⟩
  simp [queueStep, built, unused, computed]

/-- What a pull does: the head leaves and is freed, if there is one. -/
theorem queueStep_pull {state : QueueState} {op : QueueOp} {nodes : List (Nat × TimeoutEvent)}
    (represents : Represents state.store state.queue nodes) (pulls : op.event = none) :
    ∃ after, queueStep state op = .ok (after, [.pulled (nodes.head?.map Prod.snd)]) ∧
      Represents after.store after.queue nodes.tail := by
  cases nodes with
  | nil =>
      have first := represents.first
      simp only [firstOr_nil] at first
      exact ⟨state, by simp [queueStep, pulls, pullEvent, first], represents⟩
  | cons head rest =>
      obtain ⟨store, queue, computed, represents'⟩ := pullEvent_represents represents
      obtain ⟨next, prev, here⟩ := represents.linked.mem (List.mem_cons_self : head ∈ head :: rest)
      refine ⟨⟨Function.update store head.1 none, queue⟩, ?_, ?_⟩
      · simp [queueStep, pulls, computed, here]
      · exact { represents' with
          linked := represents'.linked.frame_update (List.nodup_cons.mp represents.distinct).1 }

/-- A step is a push into memory not in use or a pull. -/
theorem queueStep_cases {state after : QueueState} {op : QueueOp} {output : List QueueOutput}
    {nodes : List (Nat × TimeoutEvent)} (represents : Represents state.store state.queue nodes)
    (taken : queueStep state op = .ok (after, output)) :
    (∃ address event, op.event = some (address, event) ∧ output = [.pushed event] ∧
        Represents after.store after.queue
          (scanInsert (nodePasses event.time) (address, event) nodes)) ∨
      (op.event = none ∧ output = [.pulled (nodes.head?.map Prod.snd)] ∧
        Represents after.store after.queue nodes.tail) := by
  cases built : op.event with
  | none =>
      obtain ⟨after', computed, represents'⟩ := queueStep_pull represents built
      obtain ⟨rfl, rfl⟩ := Prod.mk.inj (Except.ok.inj (computed.symm.trans taken))
      exact Or.inr ⟨rfl, rfl, represents'⟩
  | some new =>
      obtain ⟨address, event⟩ := new
      have unused : state.store address = none := by
        by_contra used
        have inUse : (state.store address).isSome = true := Option.isSome_iff_ne_none.mpr used
        simp [queueStep, built, inUse] at taken
      obtain ⟨after', computed, represents'⟩ := queueStep_push represents built unused
      obtain ⟨rfl, rfl⟩ := Prod.mk.inj (Except.ok.inj (computed.symm.trans taken))
      exact Or.inl ⟨address, event, rfl, rfl, represents'⟩

/-- Every operation keeps the invariant. -/
theorem queueInvariant_kept {past output : List QueueOutput} {state after : QueueState}
    {op : QueueOp} (known : QueueInvariant past state)
    (taken : queueStep state op = .ok (after, output)) : QueueInvariant (past ++ output) after := by
  obtain ⟨produced, nodes, represents, members⟩ := known
  rcases queueStep_cases represents taken with
    ⟨address, event, built, rfl, represents'⟩ | ⟨-, rfl, represents'⟩
  · refine ⟨?_, _, represents', ?_⟩
    · intro x member
      rw [pushedEvents_append, List.mem_append] at member
      rcases member with earlier | new
      · exact produced x earlier
      · obtain rfl : x = event := by simpa using new
        exact op.event_produced built
    · intro node member
      rw [pushedEvents_append, List.mem_append]
      rcases mem_scanInsert.mp member with rfl | earlier
      · exact Or.inr (by simp)
      · exact Or.inl (members node earlier)
  · have same : pushedEvents (past ++ [.pulled (nodes.head?.map Prod.snd)]) = pushedEvents past := by
      simp
    rw [QueueInvariant, same]
    exact ⟨produced, _, represents', fun node member => members node (List.mem_of_mem_tail member)⟩

/-- On times as produced and near each other, the scan is right exactly when `timecmp` is. -/
theorem scansRight_iff_judgedRightly {new : TimeoutEvent} {events : List TimeoutEvent}
    (newProduced : new.time.Produced) (produced : ∀ event ∈ events, event.time.Produced)
    (near : ∀ event ∈ events, event.time.Near new.time) :
    ScansRight eventMicros (passesOver new.time) new events ↔ JudgedRightly new.time events := by
  have judged : ∀ event ∈ events, (passesOver new.time event = true ↔
      new.time.micros ≤ event.time.micros) ↔ ¬ Misjudged event.time new.time := fun event member => by
    simpa only [passesOver, decide_eq_true_eq] using
      timecmp_nonpos_iff (produced event member) newProduced (near event member)
  apply and_congr
  · refine forall₂_congr fun event member => imp_congr_right fun later => ?_
    have later : new.time.micros ≤ event.time.micros := later
    simpa [later] using judged event member
  · refine forall₂_congr fun event latest => ?_
    have member := List.mem_of_getLast? latest
    rw [List.mem_filter] at member
    have before : ¬ new.time.micros ≤ event.time.micros :=
      not_le.mpr (of_decide_eq_true member.2)
    simpa [before] using judged event member.1

/-- An operation leaves the queue in time order exactly when it fits. -/
theorem inTimeOrder_step_iff {past output : List QueueOutput} {state after : QueueState}
    {op : QueueOp} (near : AllNear (past ++ output)) (known : QueueInvariant past state)
    (ordered : InTimeOrder state) (taken : queueStep state op = .ok (after, output)) :
    InTimeOrder after ↔ FitsQueue state op := by
  obtain ⟨produced, nodes, represents, members⟩ := known
  have sorted := (inTimeOrder_iff represents).mp ordered
  rcases queueStep_cases represents taken with
    ⟨address, event, built, rfl, represents'⟩ | ⟨pulls, rfl, represents'⟩
  · have queued : ∀ x ∈ nodes.map Prod.snd, x ∈ pushedEvents past := by
      intro x member
      obtain ⟨node, inNodes, rfl⟩ := List.mem_map.mp member
      exact members node inNodes
    have newProduced := op.event_produced built
    have allProduced : ∀ x ∈ nodes.map Prod.snd, x.time.Produced := fun x member =>
      produced x (queued x member)
    have allNear : ∀ x ∈ nodes.map Prod.snd, x.time.Near event.time := by
      intro x member
      apply near <;> simp [queued x member]
    have equal : ∀ x ∈ nodes.map Prod.snd, eventMicros x = eventMicros event →
        passesOver event.time x = true := by
      intro x member same
      have same : x.time.micros = event.time.micros := same
      have rightly : ¬ Misjudged x.time event.time := by
        obtain ⟨low, high⟩ := newProduced
        obtain ⟨low', high'⟩ := allProduced x member
        unfold Timeval.micros at same
        unfold Misjudged
        omega
      have judged := timecmp_nonpos_iff (allProduced x member) newProduced (allNear x member)
      simpa [passesOver, same] using judged.mpr rightly
    have fits : FitsQueue state op ↔ JudgedRightly event.time (nodes.map Prod.snd) := by
      simp [FitsQueue, built, represents.follows_iff]
    rw [inTimeOrder_iff represents', fits]
    have listed := map_scanInsert Prod.snd (passesOver event.time) (address, event) nodes
    rw [show nodePasses event.time = fun node => passesOver event.time node.2 from rfl, listed,
      ascending_scanInsert_iff sorted equal]
    exact scansRight_iff_judgedRightly newProduced allProduced allNear
  · have fits : FitsQueue state op := by simp [FitsQueue, pulls]
    rw [inTimeOrder_iff represents', List.map_tail]
    exact iff_of_true (List.Pairwise.tail sorted) fits

/-- The queue is in time order at every point of a run exactly when every push fits. -/
theorem inTimeOrder_iff_fitsQueue {trace : List (Entry QueueState QueueOp QueueOutput)}
    {state : QueueState} (run : queueMachine.Runs trace state)
    (near : AllNear (Machine.outputs trace)) :
    Machine.Always (fun _ => InTimeOrder) trace state ↔
      Machine.Throughout (fun _ => FitsQueue) trace := by
  apply run.always_iff_throughout AllNear QueueInvariant near AllNear.of_append
  · intro start empty
    have represents : Represents start.store start.queue [] := by
      rw [show start.queue = Queue.empty from empty]
      exact represents_empty start.store
    exact ⟨by simp [pushedEvents], [], represents, by simp⟩
  · intro past before op after output _ known taken _
    exact queueInvariant_kept known taken
  · intro start empty
    have represents : Represents start.store start.queue [] := by
      rw [show start.queue = Queue.empty from empty]
      exact represents_empty start.store
    exact (inTimeOrder_iff represents).mpr List.Pairwise.nil
  · intro past before op after output near known ordered taken
    exact inTimeOrder_step_iff near known ordered taken

/-- A frame of one byte. -/
def tinyFrame : Rtp.Frame := ⟨fun _ => 0, 1, 0, .video⟩

/-- A frame, and a timeout which is half a second later but one second earlier in its seconds. -/
def lateTimeout : List QueueOp :=
  [.pushFrame 0 tinyFrame ⟨⟨1000, 0⟩, by decide, by decide⟩,
    .pushTimeout 1 ⟨⟨999, 600000⟩, by decide, by decide⟩ 900 .checkMediaState]

/-- An empty queue and no memory in use. -/
def emptyState : QueueState := ⟨fun _ => none, Queue.empty⟩

theorem emptyState_initial : queueMachine.Initial emptyState := rfl

/-- The two pushes succeed; their times are near, and the timeout is put in front of the frame. -/
theorem lateTimeout_runs : ∃ result, queueMachine.exec [] emptyState lateTimeout = .ok result ∧
    pushedEvents (Machine.outputs result.1) =
      [⟨⟨1000, 0⟩, .frame tinyFrame⟩, ⟨⟨999, 1500000⟩, .checkMediaState⟩] ∧
    Follows result.2.store result.2.queue.first
      [⟨⟨999, 1500000⟩, .checkMediaState⟩, ⟨⟨1000, 0⟩, .frame tinyFrame⟩] :=
  ⟨_, rfl, rfl, _, rfl, rfl, _, rfl, rfl, rfl⟩

/-- The times of the two pushes are near. -/
theorem lateTimeout_near {outputs : List QueueOutput} (pushes : pushedEvents outputs =
    [⟨⟨1000, 0⟩, .frame tinyFrame⟩, ⟨⟨999, 1500000⟩, .checkMediaState⟩]) : AllNear outputs := by
  rw [AllNear, pushes]
  simp [Timeval.Near, Timeval.micros]

/-- The queue behind them is not in time order. -/
theorem lateTimeout_disordered {state : QueueState} (walk : Follows state.store state.queue.first
    [⟨⟨999, 1500000⟩, .checkMediaState⟩, ⟨⟨1000, 0⟩, .frame tinyFrame⟩]) : ¬ InTimeOrder state := by
  intro ordered
  obtain ⟨events, follows, sorted⟩ := ordered.sorted
  obtain rfl := follows.unique walk
  simp [Ascending, eventMicros, Timeval.micros] at sorted

/-- A frame, and a timeout which is later in its seconds too, uncarried as it is. -/
def timeoutBehind : List QueueOp :=
  [.pushFrame 0 tinyFrame ⟨⟨1000, 0⟩, by decide, by decide⟩,
    .pushTimeout 1 ⟨⟨1000, 600000⟩, by decide, by decide⟩ 900 .checkMediaState]

theorem timeoutBehind_runs : ∃ first second state,
    queueMachine.exec [] emptyState timeoutBehind = .ok ([first, second], state) ∧
    pushedEvents (Machine.outputs [first, second]) =
      [⟨⟨1000, 0⟩, .frame tinyFrame⟩, ⟨⟨1000, 1500000⟩, .checkMediaState⟩] ∧
    Follows first.before.store first.before.queue.first [] ∧
    second.input.event = some (1, ⟨⟨1000, 1500000⟩, .checkMediaState⟩) ∧
    Follows second.before.store second.before.queue.first [⟨⟨1000, 0⟩, .frame tinyFrame⟩] :=
  ⟨_, _, _, rfl, rfl, rfl, rfl, _, rfl, rfl, rfl⟩

/-- That timeout fits, so the queue is in time order; the other one does not. -/
theorem inTimeOrder_iff_fitsQueue_timeoutBehind :
    (∃ result, queueMachine.exec [] emptyState timeoutBehind = .ok result ∧
      Machine.Throughout (fun _ => FitsQueue) result.1 ∧
      Machine.Always (fun _ => InTimeOrder) result.1 result.2) ∧
    ∃ result, queueMachine.exec [] emptyState lateTimeout = .ok result ∧
      ¬ Machine.Throughout (fun _ => FitsQueue) result.1 := by
  constructor
  · obtain ⟨first, second, state, computed, pushes, empty, built, queued⟩ := timeoutBehind_runs
    have near : AllNear (Machine.outputs [first, second]) := by
      rw [AllNear, pushes]
      simp [Timeval.Near, Timeval.micros]
    have fitsFirst : FitsQueue first.before first.input := by
      intro address event _ events walk
      obtain rfl := walk.unique empty
      exact ⟨nofun, nofun⟩
    have fitsSecond : FitsQueue second.before second.input := by
      intro address event same events walk
      obtain rfl := walk.unique queued
      cases built.symm.trans same
      simp [JudgedRightly, eventMicros, Timeval.micros, Misjudged]
    have throughout : Machine.Throughout (fun _ => FitsQueue) [first, second] :=
      Machine.throughout_snoc.mpr
        ⟨Machine.throughout_snoc.mpr ⟨Machine.throughout_nil, fitsFirst⟩, fitsSecond⟩
    have run := Machine.Runs.of_exec emptyState_initial computed
    exact ⟨_, computed, throughout, (inTimeOrder_iff_fitsQueue run near).mpr throughout⟩
  · obtain ⟨result, computed, pushes, walk⟩ := lateTimeout_runs
    have run := Machine.Runs.of_exec emptyState_initial computed
    refine ⟨result, computed, fun fits => lateTimeout_disordered walk ?_⟩
    exact ((inTimeOrder_iff_fitsQueue run (lateTimeout_near pushes)).mpr fits).here

/-- The uncarried timeout is put in front of the frame. -/
theorem inTimeOrder_not_always :
    ¬ ∀ trace state, queueMachine.Runs trace state → AllNear (Machine.outputs trace) →
      Machine.Always (fun _ => InTimeOrder) trace state := by
  intro all
  obtain ⟨result, computed, pushes, walk⟩ := lateTimeout_runs
  have run := Machine.Runs.of_exec emptyState_initial computed
  exact lateTimeout_disordered walk (all _ _ run (lateTimeout_near pushes)).here

end Http2Rtsp.Pacing
