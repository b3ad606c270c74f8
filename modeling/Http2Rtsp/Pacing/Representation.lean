import Http2Rtsp.Pacing.Order

/-!
# The queue as a doubly linked list

Callers allocate an event and hand it to `push_event`, take one back from
`pull_event`, or have `empty_queue` free what is queued. `pending` is what such
a run owes: the events pushed and neither pulled nor emptied. After every
operation the nodes reached through `next`, those reached through `prev`, the
two end pointers and the counter all agree with it.
-/

namespace Http2Rtsp.Pacing

open Http2Rtsp.Semantics Http2Rtsp.Std

/-- `empty_queue`. A frame is freed with the event which points at it. -/
def emptyQueue (store : Store TimeoutEvent) (queue : Queue) :
    Option (Store TimeoutEvent × Queue) := do
  let store ← store.freeFrom queue.size.toNat queue.first
  some (store, Queue.empty)

/-- Emptying a queue frees its nodes, each once, and nothing else. -/
theorem emptyQueue_represents {store : Store TimeoutEvent} {queue : Queue}
    {nodes : List (Nat × TimeoutEvent)} (represents : Represents store queue nodes) :
    ∃ store', emptyQueue store queue = some (store', Queue.empty) ∧
      ∀ address, store' address = if address ∈ addresses nodes then none else store address := by
  have enough : nodes.length ≤ queue.size.toNat := by
    have size := represents.size
    omega
  obtain ⟨store', freed, values⟩ := represents.linked.free represents.distinct enough
  refine ⟨store', ?_, values⟩
  simp [emptyQueue, represents.first, freed]

/-! ## Operations -/

/-- A call of a queue function. The node pushed is the caller's, with whatever its links hold. -/
inductive EventOp where
  | pushEvent (address : Nat) (node : Node TimeoutEvent)
  | pullEvent
  | emptyQueue

/-- What a call did. -/
inductive EventOutput where
  | pushed (address : Nat) (event : TimeoutEvent)
  | pulled (address : Option Nat)
  | emptied

/-- The effect of a call. A pulled event stays allocated: it is the caller's again. -/
def eventStep (state : QueueState) (op : EventOp) :
    Except QueueStop (QueueState × List EventOutput) :=
  match op with
  | .pushEvent address node =>
      match Pacing.pushEvent address (Function.update state.store address (some node))
          state.queue with
      | none => .error .invalidPointer
      | some (store, queue) => .ok (⟨store, queue⟩, [.pushed address node.value])
  | .pullEvent =>
      match Pacing.pullEvent state.store state.queue with
      | none => .error .invalidPointer
      | some (ret, store, queue) => .ok (⟨store, queue⟩, [.pulled ret])
  | .emptyQueue =>
      match Pacing.emptyQueue state.store state.queue with
      | none => .error .invalidPointer
      | some (store, queue) => .ok (⟨store, queue⟩, [.emptied])

/-- The queue functions, called in any order from the empty queue on. -/
def eventMachine : Machine QueueState EventOp EventOutput QueueStop where
  Initial state := state.queue = Queue.empty
  step := eventStep

/-- What one call leaves of the events pending before it. -/
def settle (events : List (Nat × TimeoutEvent)) : EventOutput → List (Nat × TimeoutEvent)
  | .pushed address event => (address, event) :: events
  | .pulled none => events
  | .pulled (some address) => events.filter fun node => node.1 ≠ address
  | .emptied => []

/-- The events pushed and neither pulled nor emptied. -/
def pending (past : List EventOutput) : List (Nat × TimeoutEvent) :=
  past.foldl settle []

@[simp] theorem pending_nil : pending [] = [] := rfl

@[simp] theorem pending_snoc (past : List EventOutput) (output : EventOutput) :
    pending (past ++ [output]) = settle (pending past) output := by
  simp [pending]

/-- An event which is pushed is not one of those pending. -/
def PushesNew (past : List EventOutput) : EventOp → Prop
  | .pushEvent address _ => address ∉ addresses (pending past)
  | .pullEvent => True
  | .emptyQueue => True

instance (past : List EventOutput) : (op : EventOp) → Decidable (PushesNew past op)
  | .pushEvent address _ => inferInstanceAs (Decidable (address ∉ addresses (pending past)))
  | .pullEvent => .isTrue trivial
  | .emptyQueue => .isTrue trivial

/-- The queue is a doubly linked list of the pending events, read off its own pointers. -/
structure ListsPending (past : List EventOutput) (state : QueueState) : Prop where
  /-- Both walks, their ends, the counter and the events met. -/
  walks : ∃ visited : List Nat,
    Visits state.store Node.next state.queue.first visited ∧
    visited.getLast? = state.queue.last ∧
    Visits state.store Node.prev state.queue.last visited.reverse ∧
    state.queue.size = visited.length ∧ visited.Nodup ∧
    ∀ address event, (address, event) ∈ pending past ↔
      address ∈ visited ∧ ∃ next prev, state.store address = some ⟨next, prev, event⟩
  /-- No event is pending twice. -/
  once : (addresses (pending past)).Nodup
  first_null : state.queue.first = none ↔ state.queue.size = 0
  last_null : state.queue.last = none ↔ state.queue.size = 0

/-- A call with a new event, if it pushes one, follows no bad pointer. -/
def NeverStuck (past : List EventOutput) (state : QueueState) : Prop :=
  ∀ op, PushesNew past op → ∃ result, eventStep state op = .ok result

/-! ## The invariant -/

/-- The queue represents the pending events, in some order. -/
def HoldsPending (past : List EventOutput) (state : QueueState) : Prop :=
  ∃ nodes, Represents state.store state.queue nodes ∧ nodes.Perm (pending past)

section Calls

variable {past : List EventOutput} {state : QueueState} {nodes : List (Nat × TimeoutEvent)}

/-- A push of a new event inserts it. -/
theorem eventStep_push {address : Nat} (node : Node TimeoutEvent)
    (represents : Represents state.store state.queue nodes) (fresh : address ∉ addresses nodes) :
    ∃ after, eventStep state (.pushEvent address node) =
        .ok (after, [.pushed address node.value]) ∧
      Represents after.store after.queue
        (scanInsert (nodePasses node.value.time) (address, node.value) nodes) := by
  have allocated : Represents (Function.update state.store address (some node)) state.queue nodes :=
    { represents with linked := represents.linked.frame_update fresh }
  obtain ⟨store, queue, computed, represents'⟩ :=
    pushEvent_represents allocated (Function.update_self ..) fresh
  exact ⟨⟨store, queue⟩, by simp [eventStep, computed], represents'⟩

/-- A pull takes the first node. -/
theorem eventStep_pull (represents : Represents state.store state.queue nodes) :
    ∃ after, eventStep state .pullEvent = .ok (after, [.pulled (nodes.head?.map Prod.fst)]) ∧
      Represents after.store after.queue nodes.tail := by
  cases nodes with
  | nil =>
      have first := represents.first
      simp only [firstOr_nil] at first
      exact ⟨state, by simp [eventStep, pullEvent, first], represents⟩
  | cons head rest =>
      obtain ⟨store, queue, computed, represents'⟩ := pullEvent_represents represents
      exact ⟨⟨store, queue⟩, by simp [eventStep, computed], represents'⟩

/-- Emptying leaves no node. -/
theorem eventStep_empty (represents : Represents state.store state.queue nodes) :
    ∃ after, eventStep state .emptyQueue = .ok (after, [.emptied]) ∧
      Represents after.store after.queue [] := by
  obtain ⟨store, computed, -⟩ := emptyQueue_represents represents
  exact ⟨⟨store, Queue.empty⟩, by simp [eventStep, computed], represents_empty store⟩

/-- The call which takes the first node settles it. -/
theorem settle_head {events : List (Nat × TimeoutEvent)} (same : nodes.Perm events)
    (distinct : (addresses nodes).Nodup) :
    nodes.tail.Perm (settle events (.pulled (nodes.head?.map Prod.fst))) := by
  cases nodes with
  | nil => exact same
  | cons head rest =>
      obtain ⟨new, -⟩ := List.nodup_cons.mp distinct
      have others : rest.filter (fun node => node.1 ≠ head.1) = rest := by
        rw [List.filter_eq_self]
        intro node member
        have away : node.1 ≠ head.1 := fun equal => new (equal ▸ mem_addresses member)
        simpa using away
      have left := same.filter fun node => node.1 ≠ head.1
      rw [List.filter_cons_of_neg (by simp), others] at left
      exact left

/-- Every call with a new event succeeds, and the queue holds what is then pending. -/
theorem holdsPending_step {op : EventOp} (holds : HoldsPending past state)
    (new : PushesNew past op) :
    ∃ after output, eventStep state op = .ok (after, output) ∧
      HoldsPending (past ++ output) after := by
  obtain ⟨nodes, represents, same⟩ := holds
  cases op with
  | pushEvent address node =>
      have fresh : address ∉ addresses nodes := by
        intro member
        exact new ((same.map Prod.fst).mem_iff.mp member)
      obtain ⟨after, computed, represents'⟩ := eventStep_push node represents fresh
      refine ⟨after, _, computed, _, represents', ?_⟩
      rw [pending_snoc]
      exact (scanInsert_perm _ _ _).trans (same.cons _)
  | pullEvent =>
      obtain ⟨after, computed, represents'⟩ := eventStep_pull represents
      refine ⟨after, _, computed, _, represents', ?_⟩
      rw [pending_snoc]
      exact settle_head same represents.distinct
  | emptyQueue =>
      obtain ⟨after, computed, represents'⟩ := eventStep_empty represents
      refine ⟨after, _, computed, _, represents', ?_⟩
      rw [pending_snoc]
      exact .nil

/-- A queue which represents the pending events lists them. -/
theorem HoldsPending.lists (holds : HoldsPending past state) : ListsPending past state := by
  obtain ⟨nodes, represents, same⟩ := holds
  obtain ⟨linked, distinct, first, last, size⟩ := represents
  have sameAddresses : (addresses nodes).Perm (addresses (pending past)) := same.map Prod.fst
  refine ⟨⟨addresses nodes, ?_, ?_, ?_, ?_, distinct, fun address event => ⟨?_, ?_⟩⟩, ?_, ?_, ?_⟩
  · rw [first]
    exact linked.visits_next
  · rw [last, lastOr, addresses, List.getLast?_map, Option.or_none]
  · rw [last]
    exact linked.visits_prev
  · rw [size, addresses, List.length_map]
  · intro member
    have inNodes : (address, event) ∈ nodes := same.mem_iff.mpr member
    exact ⟨mem_addresses inNodes, linked.mem inNodes⟩
  · rintro ⟨member, next, prev, here⟩
    obtain ⟨node, inNodes, rfl⟩ := List.mem_map.mp member
    obtain ⟨next', prev', here'⟩ := linked.mem inNodes
    have equal : node.2 = event := by
      have both := here'.symm.trans here
      simp only [Option.some.injEq, Node.mk.injEq] at both
      exact both.2.2
    exact same.mem_iff.mp (equal ▸ inNodes)
  · exact sameAddresses.nodup_iff.mp distinct
  · rw [first, size]
    cases nodes <;> simp
    omega
  · rw [last, size, lastOr, Option.or_none, Option.map_eq_none_iff, List.getLast?_eq_none_iff]
    simp

end Calls

/-- After every call the queue lists the events pushed and neither pulled nor emptied, and the next
call with a new event succeeds. -/
theorem listsPending_always {trace : List (Entry QueueState EventOp EventOutput)} {state : QueueState}
    (run : eventMachine.Runs trace state)
    (distinct : Machine.Throughout (fun past _ => PushesNew past) trace) :
    Machine.Always (fun past state => ListsPending past state ∧ NeverStuck past state) trace state := by
  have holds : Machine.Always HoldsPending trace state := by
    apply run.always_under distinct
    · intro start empty
      refine ⟨[], ?_, .nil⟩
      rw [show start.queue = Queue.empty from empty]
      exact represents_empty start.store
    · intro past before op after output holds new taken
      obtain ⟨after', output', computed, holds'⟩ := holdsPending_step holds new
      obtain ⟨rfl, rfl⟩ := Prod.mk.inj (Except.ok.inj (computed.symm.trans taken))
      exact holds'
  refine holds.imp fun past state holds => ⟨holds.lists, fun op new => ?_⟩
  obtain ⟨after, output, computed, -⟩ := holdsPending_step holds new
  exact ⟨_, computed⟩

/-- Pushes which end up at the front, behind and between, a pull, a second use of the address pulled,
and a queue emptied. -/
def someCalls : List EventOp :=
  [.pushEvent 0 ⟨some 7, some 9, ⟨⟨1000, 0⟩, .checkMediaState⟩⟩,
    .pushEvent 1 ⟨none, none, ⟨⟨999, 1500000⟩, .frame tinyFrame⟩⟩,
    .pushEvent 2 ⟨none, some 0, ⟨⟨1001, 0⟩, .frame tinyFrame⟩⟩,
    .pushEvent 3 ⟨none, none, ⟨⟨1000, 0⟩, .endOfStream⟩⟩,
    .pullEvent, .pushEvent 3 ⟨some 1, none, ⟨⟨1000, 5⟩, .endOfStream⟩⟩, .emptyQueue, .pullEvent]

/-- Every event pushed in these calls is new. -/
theorem someCalls_run : ∃ result, eventMachine.exec [] emptyState someCalls = .ok result ∧
    Machine.MeetsAll (fun past _ => PushesNew past) [] result.1 :=
  ⟨_, rfl, by decide +kernel⟩

/-- The queue lists what is pending at every point of these calls. -/
theorem listsPending_always_someCalls : ∃ result,
    eventMachine.exec [] emptyState someCalls = .ok result ∧
      Machine.Always (fun past state => ListsPending past state ∧ NeverStuck past state)
        result.1 result.2 := by
  obtain ⟨result, computed, new⟩ := someCalls_run
  exact ⟨result, computed, listsPending_always (Machine.Runs.of_exec emptyState_initial computed)
    (Machine.throughout_of_meetsAll new)⟩

end Http2Rtsp.Pacing
