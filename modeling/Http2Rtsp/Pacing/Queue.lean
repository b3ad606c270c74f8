import Http2Rtsp.Pacing.Timeval
import Http2Rtsp.Rtp.SendFrame
import Http2Rtsp.Std.Linked
import Http2Rtsp.Std.ScanInsert

/-!
# The event queue

`push_event` and `pull_event` of `server.c` on nodes in a store, and what they
are on the list of queued events: an insertion by a backward scan and the
removal of the head. The rest of the development works with the list;
`pushEvent_represents` and `pullEvent_represents` are what entitles it to.
-/

namespace Http2Rtsp.Pacing

open Http2Rtsp.Std

/-- What a queued event is about. Only `FRAME` events point at a frame. -/
inductive EventType where
  | frame (frame : Rtp.Frame)
  | checkMediaState
  | endOfStream

/-- `TimeoutEvent`, less its links. -/
structure TimeoutEvent where
  time : Timeval
  type : EventType

/-- The test under which `push_event` moves on towards the front. -/
def passesOver (new : Timeval) (queued : TimeoutEvent) : Bool :=
  timecmp queued.time new ≤ 0

/-- `push_event` on the list of queued events. -/
def pushed (event : TimeoutEvent) (events : List TimeoutEvent) : List TimeoutEvent :=
  scanInsert (passesOver event.time) event events

/-- `Queue`. -/
structure Queue where
  first : Option Nat
  last : Option Nat
  size : Int

/-- `queue->first = queue->last = NULL`. -/
def Queue.empty : Queue := ⟨none, none, 0⟩

/-- The scan of `push_event`: step back from `stepper` while the test passes. The walk is cut off
after as many steps as the queue has events. -/
def scanBack (store : Store TimeoutEvent) (new : Timeval) :
    Nat → Option Nat → Option (Option Nat)
  | _, none => some none
  | 0, some _ => none
  | steps + 1, some stepper => do
      let node ← store stepper
      if passesOver new node.value then scanBack store new steps node.prev else some (some stepper)

/-- The linking part of `push_event`, for an event whose own links are NULL. -/
def linkEvent (event : Nat) (time : Timeval) (store : Store TimeoutEvent) (queue : Queue) :
    Option (Store TimeoutEvent × Queue) :=
  match queue.last with
  | none => some (store, { queue with first := some event, last := some event })
  | some _ => do
      match ← scanBack store time queue.size.toNat queue.last with
      | none => do
          let first ← queue.first
          let store ← store.update first fun n => { n with prev := some event }
          let store ← store.update event fun n => { n with next := queue.first }
          some (store, { queue with first := some event })
      | some stepper => do
          let store ← store.insque event stepper
          let placed ← store event
          some (store, if placed.next = none then { queue with last := some event } else queue)

/-- `push_event`. -/
def pushEvent (event : Nat) (store : Store TimeoutEvent) (queue : Queue) :
    Option (Store TimeoutEvent × Queue) := do
  let node ← store event
  let store ← store.update event fun n => { n with next := none, prev := none }
  let (store, queue) ← linkEvent event node.value.time store queue
  some (store, { queue with size := queue.size + 1 })

/-- `pull_event`: the event returned, if the queue has one. -/
def pullEvent (store : Store TimeoutEvent) (queue : Queue) :
    Option (Option Nat × Store TimeoutEvent × Queue) :=
  match queue.first with
  | none => some (none, store, queue)
  | some ret => do
      let node ← store ret
      let store ← store.remque ret
      let queue := { queue with first := node.next, size := queue.size - 1 }
      some (some ret, store, if queue.size ≤ 0 then { queue with first := none, last := none } else queue)

/-! ## Queues as lists -/

/-- The queue consists of these nodes, in this order. -/
structure Represents (store : Store TimeoutEvent) (queue : Queue)
    (nodes : List (Nat × TimeoutEvent)) : Prop where
  linked : Linked store none nodes none
  distinct : (addresses nodes).Nodup
  first : queue.first = firstOr nodes none
  last : queue.last = lastOr none nodes
  size : queue.size = nodes.length

/-- The empty queue has no nodes. -/
theorem represents_empty (store : Store TimeoutEvent) : Represents store Queue.empty [] :=
  ⟨trivial, List.nodup_nil, rfl, rfl, rfl⟩

/-- The test on nodes. -/
def nodePasses (new : Timeval) (node : Nat × TimeoutEvent) : Bool := passesOver new node.2

/-- The scan ends at the last node on which the test fails. -/
theorem scanBack_eq {store : Store TimeoutEvent} (new : Timeval) {after : Option Nat}
    {nodes : List (Nat × TimeoutEvent)} (linked : Linked store none nodes after) (steps : Nat)
    (enough : nodes.length ≤ steps) :
    scanBack store new steps (lastOr none nodes) =
      some (lastOr none (nodes.rdropWhile (nodePasses new))) := by
  induction nodes using List.reverseRecOn generalizing after steps with
  | nil => cases steps <;> rfl
  | append_singleton front node ih =>
      obtain ⟨frontLinked, here, -⟩ := linked_append.mp linked
      cases steps with
      | zero => simp at enough
      | succ steps =>
          rw [lastOr_snoc, scanBack, here, List.rdropWhile_concat]
          simp only [Option.bind_eq_bind, Option.bind_some, nodePasses]
          by_cases passes : passesOver new node.2
          · simp only [passes, if_true]
            exact ih frontLinked steps (by simpa using enough)
          · simp [passes]

section Link

variable {store : Store TimeoutEvent} {queue : Queue} {nodes : List (Nat × TimeoutEvent)}
  {address : Nat} {event : TimeoutEvent}

/-- A queue with one more node, before its size is counted up. -/
structure Links (store : Store TimeoutEvent) (queue : Queue) (nodes : List (Nat × TimeoutEvent))
    (size : Int) : Prop where
  linked : Linked store none nodes none
  first : queue.first = firstOr nodes none
  last : queue.last = lastOr none nodes
  size : queue.size = size

/-- A queue with nodes has a last one. -/
theorem exists_last {last : Option Nat} {nodes : List (Nat × TimeoutEvent)}
    (known : last = lastOr none nodes) (nonempty : nodes ≠ []) : ∃ final, last = some final := by
  obtain ⟨node, rest, rfl⟩ := List.exists_cons_of_ne_nil nonempty
  rw [known, ← Option.isSome_iff_exists]
  simp [lastOr, List.getLast?_cons]

/-- The event goes to the front when the scan passes over every node. -/
theorem linkEvent_front (represents : Represents store queue nodes)
    (allocated : store address = some ⟨none, none, event⟩) (fresh : address ∉ addresses nodes)
    (passed : nodes.rdropWhile (nodePasses event.time) = []) (nonempty : nodes ≠ []) :
    ∃ store' queue', linkEvent address event.time store queue = some (store', queue') ∧
      Links store' queue' ((address, event) :: nodes) queue.size := by
  obtain ⟨linked, distinct, first, last, size⟩ := represents
  obtain ⟨node, rest, rfl⟩ := List.exists_cons_of_ne_nil nonempty
  have scanned := scanBack_eq event.time linked queue.size.toNat (by omega)
  obtain ⟨store', relinked, linked', elsewhere⟩ := linked.reprev (some address) distinct
  rw [firstOr_cons, Store.updateAt] at relinked
  have atEvent : store' address = some ⟨none, none, event⟩ := by rw [elsewhere _ fresh, allocated]
  obtain ⟨final, hasLast⟩ := exists_last last (by simp)
  rw [passed, ← last] at scanned
  simp only [linkEvent, hasLast] at scanned ⊢
  rw [← hasLast] at scanned ⊢
  simp only [scanned, first, firstOr_cons, relinked, update_of_node atEvent, Option.bind_eq_bind,
    Option.bind_some, lastOr_nil]
  exact ⟨_, _, rfl, ⟨by simp, linked'.frame_update fresh⟩, rfl, by simp [last], rfl⟩

/-- Otherwise it goes behind the node at which the scan stops. -/
theorem linkEvent_behind (represents : Represents store queue nodes)
    (allocated : store address = some ⟨none, none, event⟩) (fresh : address ∉ addresses nodes)
    {front back : List (Nat × TimeoutEvent)} {pred : Nat × TimeoutEvent}
    (stopped : nodes.rdropWhile (nodePasses event.time) = front ++ [pred])
    (split : nodes = front ++ pred :: back) :
    ∃ store' queue', linkEvent address event.time store queue = some (store', queue') ∧
      Links store' queue' (front ++ pred :: (address, event) :: back) queue.size := by
  obtain ⟨linked, distinct, first, last, size⟩ := represents
  have scanned := scanBack_eq event.time linked queue.size.toNat (by omega)
  subst split
  obtain ⟨store', inserted, linked'⟩ := insque_linked linked allocated distinct fresh
  obtain ⟨-, -, atEvent, -⟩ := linked_append.mp linked'
  obtain ⟨final, hasLast⟩ := exists_last last (by simp)
  rw [stopped, ← last, lastOr_snoc] at scanned
  simp only [linkEvent, hasLast] at scanned ⊢
  rw [← hasLast] at scanned ⊢
  simp only [scanned, inserted, atEvent, Option.bind_eq_bind, Option.bind_some]
  refine ⟨_, _, rfl, linked', ?_, ?_, ?_⟩
  · cases front <;> cases back <;> simp [first]
  · cases back <;> simp [last]
  · cases back <;> simp

/-- `push_event` inserts the event by a backward scan over the queue. -/
theorem pushEvent_represents {next prev : Option Nat} (represents : Represents store queue nodes)
    (allocated : store address = some ⟨next, prev, event⟩) (fresh : address ∉ addresses nodes) :
    ∃ store' queue', pushEvent address store queue = some (store', queue') ∧
      Represents store' queue' (scanInsert (nodePasses event.time) (address, event) nodes) := by
  let cleared := Function.update store address (some ⟨none, none, event⟩)
  have atEvent : cleared address = some ⟨none, none, event⟩ := Function.update_self ..
  have clearedRepresents : Represents cleared queue nodes :=
    { represents with linked := represents.linked.frame_update fresh }
  have linkedUp : ∃ store' queue', linkEvent address event.time cleared queue = some (store', queue') ∧
      Links store' queue' (scanInsert (nodePasses event.time) (address, event) nodes) queue.size := by
    have halves := rdropWhile_append_rtakeWhile (nodePasses event.time) nodes
    by_cases passed : nodes.rdropWhile (nodePasses event.time) = []
    · rw [passed, List.nil_append] at halves
      rw [scanInsert, passed, halves, List.nil_append]
      by_cases empty : nodes = []
      · subst empty
        have last := represents.last
        simp only [lastOr_nil] at last
        exact ⟨cleared, { queue with first := some address, last := some address },
          by simp [linkEvent, last], ⟨by simp [cleared], trivial⟩, rfl, rfl, rfl⟩
      · exact linkEvent_front clearedRepresents atEvent fresh passed empty
    · obtain ⟨front, pred, stopped, -⟩ := rdropWhile_eq_snoc passed
      rw [stopped, List.append_assoc, List.singleton_append] at halves
      rw [scanInsert, stopped, List.append_assoc, List.singleton_append]
      exact linkEvent_behind clearedRepresents atEvent fresh stopped halves.symm
  obtain ⟨store', queue', linkedTo, linked, first, last, size⟩ := linkedUp
  have computed : pushEvent address store queue =
      some (store', { queue' with size := queue'.size + 1 }) := by
    simp only [pushEvent, allocated, update_of_node allocated, Option.bind_eq_bind, Option.bind_some]
    exact congrArg (Option.bind · _) linkedTo
  have addressesPerm : (addresses (scanInsert (nodePasses event.time) (address, event) nodes)).Perm
      (address :: addresses nodes) := (scanInsert_perm _ _ _).map Prod.fst
  refine ⟨_, _, computed, linked, ?_, first, last, ?_⟩
  · exact addressesPerm.nodup_iff.mpr (List.nodup_cons.mpr ⟨fresh, represents.distinct⟩)
  · simp [size, represents.size]

end Link

/-- `pull_event` removes the first node. -/
theorem pullEvent_represents {store : Store TimeoutEvent} {queue : Queue}
    {head : Nat × TimeoutEvent} {rest : List (Nat × TimeoutEvent)}
    (represents : Represents store queue (head :: rest)) :
    ∃ store' queue', pullEvent store queue = some (some head.1, store', queue') ∧
      Represents store' queue' rest := by
  obtain ⟨linked, distinct, first, last, size⟩ := represents
  obtain ⟨store', removed, linked', -⟩ := remque_linked linked distinct
  obtain ⟨-, distinct'⟩ := List.nodup_cons.mp distinct
  simp only [firstOr_cons] at first
  simp only [pullEvent, first, linked.1, Option.bind_eq_bind, Option.bind_some, removed]
  refine ⟨_, _, rfl, ?_⟩
  cases rest with
  | nil => exact ⟨trivial, List.nodup_nil, by simp [size], by simp [size], by simp [size]⟩
  | cons node rest =>
      have more : ¬ queue.size - 1 ≤ 0 := by
        rw [size]
        simp only [List.length_cons]
        omega
      rw [if_neg more]
      exact ⟨linked', distinct', rfl, by simp [last], by simp [size]⟩

end Http2Rtsp.Pacing
