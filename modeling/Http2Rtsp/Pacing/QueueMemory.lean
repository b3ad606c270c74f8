import Http2Rtsp.Pacing.Queue
import Http2Rtsp.Std.Blocks

/-!
# The memory of the queue

The callers of the queue functions allocate the events, the frames and the data
of the frames, and free them when an event was dispatched or the queue is
emptied. Here they work on the nodes themselves: `QueueMemory` is what `malloc`
has handed out and the queue in it, and a pointer to what is not in use has no
result. `Holds` says which list the queue represents, which blocks its events
account for, and which were lost: no pointer leads to them any more.
-/

namespace Http2Rtsp.Pacing

open Http2Rtsp.Std

/-- The queue and the blocks around it. -/
structure QueueMemory where
  past : List MemoryEvent
  store : Store TimeoutEvent
  queue : Queue
  /-- By the address of an event its `frame`, where that is not NULL, and the `data` of the frame. -/
  frames : Nat → Option (Nat × Nat)

/-- Before anything is allocated. -/
def QueueMemory.empty : QueueMemory := ⟨[], fun _ => none, Queue.empty, fun _ => none⟩

namespace QueueMemory

/-! ## Allocation -/

/-- A call of `malloc`. -/
def allocate (malloc : Malloc) (m : QueueMemory) : Nat × QueueMemory :=
  (malloc m.past, { m with past := m.past ++ [.allocated (malloc m.past)] })

/-- `free`. -/
def free (m : QueueMemory) (address : Nat) : Option QueueMemory :=
  if address ∈ liveAddresses m.past then
    some { m with
      past := m.past ++ [.freed address]
      store := Function.update m.store address none }
  else none

/-- `free(event->frame->data); free(event->frame);`. -/
def freeFrame (m : QueueMemory) (event : Nat) : Option QueueMemory := do
  let (frame, data) ← m.frames event
  let m ← m.free data
  m.free frame

/-- An event is allocated, filled and pushed. `push_event` clears the links before it reads them. -/
def push (malloc : Malloc) (m : QueueMemory) (event : TimeoutEvent) (frame : Option (Nat × Nat)) :
    Option QueueMemory := do
  let (address, m) := m.allocate malloc
  let written := Function.update m.store address (some ⟨none, none, event⟩)
  let (store, queue) ← pushEvent address written m.queue
  some { m with store := store, queue := queue, frames := Function.update m.frames address frame }

/-! ## The callers -/

/-- `create_sprop_frame`: the frame and its data. Nothing but the packets which are sent at once is
made of them. -/
def createSpropFrame (malloc : Malloc) (m : QueueMemory) : QueueMemory :=
  ((m.allocate malloc).2.allocate malloc).2

/-- `push_timeout`, with the time computed. -/
def pushTimeout (malloc : Malloc) (m : QueueMemory) (time : Timeval) : Option QueueMemory :=
  m.push malloc ⟨time, .checkMediaState⟩ none

/-- A round of `fill_queue` with a frame. `get_frame` allocates the data, unless the packet belongs to
another stream: then `data` is what the memory of the frame held. -/
def pushFrame (malloc : Malloc) (m : QueueMemory) (time : Timeval) (frame : Rtp.Frame)
    (unfilled : Option Nat) : Option QueueMemory :=
  let (address, m) := m.allocate malloc
  match unfilled with
  | none =>
      let (data, m) := m.allocate malloc
      m.push malloc ⟨time, .frame frame⟩ (some (address, data))
  | some data => m.push malloc ⟨time, .frame frame⟩ (some (address, data))

/-- A round of `fill_queue` at the end of the file. The frame is allocated in front of `get_frame`. -/
def pushEnd (malloc : Malloc) (m : QueueMemory) (time : Timeval) : Option QueueMemory :=
  (m.allocate malloc).2.push malloc ⟨time, .endOfStream⟩ none

/-- The part of a `switch` on the type of an event which frees its frame. -/
def freeByType (m : QueueMemory) (event : Nat) : EventType → Option QueueMemory
  | .frame _ => m.freeFrame event
  | _ => some m

/-- The part of the `switch` which pushes another timeout, if there is to be one. -/
def pushByType (malloc : Malloc) (m : QueueMemory) : EventType → Option Timeval → Option QueueMemory
  | .checkMediaState, some time => m.pushTimeout malloc time
  | _, _ => some m

/-- The handling of a timeout. The event is freed at its end. -/
def dispatch (malloc : Malloc) (m : QueueMemory) (rearmed : Option Timeval) :
    Option QueueMemory := do
  match ← pullEvent m.store m.queue with
  | (none, _, _) => some m
  | (some event, store, queue) =>
      let node ← store event
      let m ← { m with store := store, queue := queue }.freeByType event node.value.type
      let m ← m.pushByType malloc node.value.type rearmed
      m.free event

/-- The same up to the `switch`, in which the behaviour becomes undefined. -/
def pull (m : QueueMemory) : Option QueueMemory := do
  let (_, store, queue) ← pullEvent m.store m.queue
  some { m with store := store, queue := queue }

/-- The loop of `empty_queue`: `next` is read before the event is freed. The walk is cut off after a
number of steps. -/
def freeFrom : Nat → Option Nat → QueueMemory → Option QueueMemory
  | _, none, m => some m
  | 0, some _, _ => none
  | steps + 1, some event, m => do
      let node ← m.store event
      let m ← m.freeByType event node.value.type
      let m ← m.free event
      freeFrom steps node.next m

/-- `empty_queue`. -/
def emptyQueue (m : QueueMemory) : Option QueueMemory := do
  let m ← freeFrom m.queue.size.toNat m.queue.first m
  some { m with queue := Queue.empty }

/-- The event at the head, read through the pointer. -/
def first (m : QueueMemory) : Option (Option TimeoutEvent) :=
  match m.queue.first with
  | none => some none
  | some event => (m.store event).map fun node => some node.value

end QueueMemory

/-- What a thread does with the queue and its memory in one go. -/
inductive QueueMove where
  /-- Two calls of `create_sprop_frame`. -/
  | sprops
  | timeout (time : Timeval)
  | frame (time : Timeval) (media : Rtp.Frame) (unfilled : Option Nat)
  | endOfStream (time : Timeval)
  | dispatch (rearmed : Option Timeval)
  | pull
  | empty

/-- The effect on the memory, if no pointer is bad. -/
def QueueMemory.perform (malloc : Malloc) (m : QueueMemory) : QueueMove → Option QueueMemory
  | .sprops => some ((m.createSpropFrame malloc).createSpropFrame malloc)
  | .timeout time => m.pushTimeout malloc time
  | .frame time media unfilled => m.pushFrame malloc time media unfilled
  | .endOfStream time => m.pushEnd malloc time
  | .dispatch rearmed => m.dispatch malloc rearmed
  | .pull => m.pull
  | .empty => m.emptyQueue

/-- One move after the other. -/
def QueueMemory.performAll (malloc : Malloc) : List QueueMove → QueueMemory → Option QueueMemory
  | [], m => some m
  | move :: rest, m => do
      let m ← m.perform malloc move
      performAll malloc rest m

/-- What a move is on the list of queued events. -/
def QueueMove.onQueue : QueueMove → List TimeoutEvent → List TimeoutEvent
  | .sprops, queue => queue
  | .timeout time, queue => pushed ⟨time, .checkMediaState⟩ queue
  | .frame time media _, queue => pushed ⟨time, .frame media⟩ queue
  | .endOfStream time, queue => pushed ⟨time, .endOfStream⟩ queue
  | .dispatch _, [] => []
  | .dispatch rearmed, event :: rest =>
      match event.type, rearmed with
      | .checkMediaState, some time => pushed ⟨time, .checkMediaState⟩ rest
      | _, _ => rest
  | .pull, queue => queue.tail
  | .empty, _ => []

/-- The number of the blocks of an event. -/
def TimeoutEvent.size (event : TimeoutEvent) : Nat :=
  match event.type with
  | .frame _ => 3
  | _ => 1

/-- The number of the blocks a move loses. -/
def QueueMove.loses : QueueMove → List TimeoutEvent → Nat
  | .sprops, _ => 4
  | .endOfStream _, _ => 1
  | .pull, event :: _ => event.size
  | _, _ => 0

/-- A frame which is pushed was filled. -/
def QueueMove.Filled : QueueMove → Prop
  | .frame _ _ unfilled => unfilled = none
  | _ => True

/-! ## The invariant -/

/-- The blocks an event's `frame` leads to. -/
def frameBlocks : Option (Nat × Nat) → List Nat
  | none => []
  | some (frame, data) => [data, frame]

/-- The blocks of a node. -/
def QueueMemory.blocks (m : QueueMemory) (node : Nat × TimeoutEvent) : List Nat :=
  frameBlocks (m.frames node.1) ++ [node.1]

/-- The `frame` of an event is set when its type says so. -/
def Pointed (frame : Option (Nat × Nat)) (type : EventType) : Prop :=
  frame.isSome = true ↔ ∃ media, type = .frame media

/-- A chain of nodes with blocks of their own; these others are lost. -/
structure Chained (m : QueueMemory) (before : Option Nat) (nodes : List (Nat × TimeoutEvent))
    (lost : List Nat) : Prop where
  linked : Linked m.store before nodes none
  pointed : ∀ node ∈ nodes, Pointed (m.frames node.1) node.2.type
  owns : Owns m.past (nodes.flatMap m.blocks ++ lost)

/-- The queue consists of these nodes, with blocks of their own; these others are lost. -/
structure Holds (m : QueueMemory) (nodes : List (Nat × TimeoutEvent)) (lost : List Nat) : Prop
    extends Chained m none nodes lost where
  first : m.queue.first = firstOr nodes none
  last : m.queue.last = lastOr none nodes
  size : m.queue.size = nodes.length

theorem holds_empty : Holds QueueMemory.empty [] [] where
  linked := trivial
  pointed node member := by cases member
  owns := owns_nil
  first := rfl
  last := rfl
  size := rfl

section Memory

variable {m : QueueMemory} {before : Option Nat} {nodes : List (Nat × TimeoutEvent)}
  {lost : List Nat} {malloc : Malloc}

theorem mem_blocks (m : QueueMemory) (node : Nat × TimeoutEvent) : node.1 ∈ m.blocks node :=
  List.mem_append_right _ List.mem_cons_self

/-- The addresses of the nodes are among their blocks. -/
theorem Chained.addresses_nodup (chained : Chained m before nodes lost) : (addresses nodes).Nodup := by
  have distinct := (List.nodup_append.mp chained.owns.distinct).1
  clear chained
  induction nodes with
  | nil => exact List.nodup_nil
  | cons node rest ih =>
      rw [List.flatMap_cons, List.nodup_append] at distinct
      refine List.nodup_cons.mpr ⟨fun member => ?_, ih distinct.2.1⟩
      obtain ⟨other, there, same⟩ := List.mem_map.mp member
      refine distinct.2.2 _ (mem_blocks m node) other.1 ?_ same.symm
      exact List.mem_flatMap.mpr ⟨other, there, mem_blocks m other⟩

/-- What is away from all blocks is away from the nodes. -/
theorem not_mem_addresses {address : Nat} (away : address ∉ nodes.flatMap m.blocks) :
    address ∉ addresses nodes := by
  intro member
  obtain ⟨node, there, rfl⟩ := List.mem_map.mp member
  exact away (List.mem_flatMap.mpr ⟨node, there, mem_blocks m node⟩)

theorem Holds.represents (holds : Holds m nodes lost) : Represents m.store m.queue nodes :=
  ⟨holds.linked, holds.addresses_nodup, holds.first, holds.last, holds.size⟩

/-- A change which leaves the queue where it is. -/
theorem Holds.keep (holds : Holds m nodes lost) {after : QueueMemory} {others : List Nat}
    (chained : Chained after none nodes others) (same : after.queue = m.queue) :
    Holds after nodes others where
  toChained := chained
  first := by rw [same, holds.first]
  last := by rw [same, holds.last]
  size := by rw [same, holds.size]

/-! ## Allocating and freeing -/

/-- A new block is lost until something points at it. -/
theorem Holds.allocate (holds : Holds m nodes lost) (fresh : malloc.Fresh) :
    Holds (m.allocate malloc).2 nodes ((m.allocate malloc).1 :: lost) := by
  refine holds.keep ⟨holds.linked, holds.pointed, ?_⟩ rfl
  refine (holds.owns.allocate (holds.owns.unused fresh)).perm ?_
  exact List.perm_middle.symm

/-- The memory behind a `free`. -/
def QueueMemory.freed (m : QueueMemory) (address : Nat) : QueueMemory :=
  { m with past := m.past ++ [.freed address], store := Function.update m.store address none }

/-- A lost block which is known may be freed. -/
theorem Chained.free {address : Nat} (chained : Chained m before nodes (address :: lost)) :
    m.free address = some (m.freed address) ∧ Chained (m.freed address) before nodes lost := by
  have owns : Owns m.past (address :: (nodes.flatMap m.blocks ++ lost)) :=
    chained.owns.perm List.perm_middle
  have away : address ∉ nodes.flatMap m.blocks := fun member =>
    (List.nodup_cons.mp owns.distinct).1 (List.mem_append_left _ member)
  refine ⟨if_pos owns.mem, chained.linked.frame_update (not_mem_addresses away), chained.pointed, ?_⟩
  exact owns.free

/-- The first node is taken off the chain; its blocks are known. -/
theorem Chained.detach {node : Nat × TimeoutEvent} (chained : Chained m before (node :: nodes) lost) :
    Chained m (some node.1) nodes (m.blocks node ++ lost) where
  linked := chained.linked.2
  pointed other member := chained.pointed other (List.mem_cons_of_mem _ member)
  owns := by
    refine chained.owns.perm ?_
    rw [List.flatMap_cons, List.append_assoc, ← List.append_assoc, ← List.append_assoc]
    exact List.perm_append_comm.append_right lost

/-- The `switch` on the type frees the frame, if there is one. -/
theorem Chained.freeByType {node : Nat × TimeoutEvent}
    (chained : Chained m before nodes (m.blocks node ++ lost))
    (pointed : Pointed (m.frames node.1) node.2.type) :
    ∃ after, m.freeByType node.1 node.2.type = some after ∧
      Chained after before nodes (node.1 :: lost) ∧ after.frames = m.frames ∧
      after.queue = m.queue := by
  cases known : m.frames node.1 with
  | none =>
      have other : m.freeByType node.1 node.2.type = some m := by
        cases type : node.2.type with
        | frame media => simp [Pointed, known, type] at pointed
        | checkMediaState => rfl
        | endOfStream => rfl
      refine ⟨m, other, ?_, rfl, rfl⟩
      simpa [QueueMemory.blocks, known, frameBlocks] using chained
  | some body =>
      obtain ⟨frame, data⟩ := body
      obtain ⟨media, type⟩ := pointed.mp (by simp [known])
      have both : Chained m before nodes (data :: frame :: node.1 :: lost) := by
        simpa [QueueMemory.blocks, known, frameBlocks] using chained
      obtain ⟨freedData, behindData⟩ := both.free
      obtain ⟨freedFrame, behindFrame⟩ := behindData.free
      refine ⟨_, ?_, behindFrame, rfl, rfl⟩
      simp [type, QueueMemory.freeByType, QueueMemory.freeFrame, known, freedData, freedFrame]

/-! ## Pushing -/

/-- A new event takes over the blocks of its frame. -/
theorem Holds.push {event : TimeoutEvent} {frame : Option (Nat × Nat)}
    (holds : Holds m nodes (frameBlocks frame ++ lost)) (fresh : malloc.Fresh)
    (pointed : Pointed frame event.type) :
    ∃ after nodes', m.push malloc event frame = some after ∧ Holds after nodes' lost ∧
      nodes'.map Prod.snd = pushed event (nodes.map Prod.snd) := by
  let address := malloc m.past
  have unused := holds.owns.unused fresh
  have away : address ∉ addresses nodes :=
    not_mem_addresses fun member => unused (List.mem_append_left _ member)
  let written := Function.update m.store address (some ⟨none, none, event⟩)
  have before : Represents written m.queue nodes :=
    { holds.represents with linked := holds.linked.frame_update away }
  obtain ⟨store, queue, computed, represents⟩ :=
    pushEvent_represents before (Function.update_self ..) away
  let inserted := scanInsert (nodePasses event.time) (address, event) nodes
  let after : QueueMemory :=
    ⟨m.past ++ [.allocated address], store, queue, Function.update m.frames address frame⟩
  have done : m.push malloc event frame = some after := by
    simp only [QueueMemory.push, QueueMemory.allocate, Option.bind_eq_bind]
    exact congrArg (Option.bind · _) computed
  have old : ∀ node ∈ nodes, after.frames node.1 = m.frames node.1 := by
    intro node member
    refine Function.update_of_ne ?_ _ _
    rintro same
    exact away (same ▸ mem_addresses member)
  have new : after.frames address = frame := Function.update_self ..
  refine ⟨after, inserted, done, ⟨⟨represents.linked, ?_, ?_⟩, represents.first, represents.last,
    represents.size⟩, map_scanInsert Prod.snd (passesOver event.time) (address, event) nodes⟩
  · intro node member
    rcases mem_scanInsert.mp member with rfl | member
    · rw [new]
      exact pointed
    · rw [old node member]
      exact holds.pointed node member
  · refine (holds.owns.allocate unused).perm ?_
    have blocks : (inserted.flatMap after.blocks).Perm
        (frameBlocks frame ++ address :: nodes.flatMap m.blocks) := by
      refine ((scanInsert_perm _ _ _).flatMap_right _).trans ?_
      have same : nodes.flatMap after.blocks = nodes.flatMap m.blocks :=
        List.flatMap_congr fun node member => by rw [QueueMemory.blocks, old node member]; rfl
      rw [List.flatMap_cons, same, QueueMemory.blocks, new, List.append_assoc, List.singleton_append]
    refine List.Perm.trans ?_ (blocks.append_right lost).symm
    rw [List.append_assoc, List.cons_append]
    refine List.Perm.trans ?_ List.perm_middle.symm
    refine List.Perm.cons address ?_
    rw [← List.append_assoc, ← List.append_assoc]
    exact List.perm_append_comm.append_right lost

theorem pointed_none {type : EventType} (other : ∀ media, type ≠ .frame media) :
    Pointed none type := by
  constructor
  · intro impossible
    cases impossible
  · rintro ⟨media, same⟩
    exact absurd same (other media)

theorem Holds.pushTimeout (holds : Holds m nodes lost) (fresh : malloc.Fresh) (time : Timeval) :
    ∃ after nodes', m.pushTimeout malloc time = some after ∧ Holds after nodes' lost ∧
      nodes'.map Prod.snd = pushed ⟨time, .checkMediaState⟩ (nodes.map Prod.snd) :=
  @Holds.push m nodes lost malloc ⟨time, .checkMediaState⟩ none holds fresh
    (pointed_none fun media same => by cases same)

/-- A frame which was filled has two blocks. -/
theorem Holds.pushFrame (holds : Holds m nodes lost) (fresh : malloc.Fresh) (time : Timeval)
    (media : Rtp.Frame) :
    ∃ after nodes', m.pushFrame malloc time media none = some after ∧ Holds after nodes' lost ∧
      nodes'.map Prod.snd = pushed ⟨time, .frame media⟩ (nodes.map Prod.snd) := by
  have allocated := (holds.allocate fresh).allocate fresh
  exact @Holds.push _ nodes lost malloc ⟨time, .frame media⟩ (some (_, _)) allocated fresh
    ⟨fun _ => ⟨media, rfl⟩, fun _ => rfl⟩

/-- At the end of the file a frame is lost. -/
theorem Holds.pushEnd (holds : Holds m nodes lost) (fresh : malloc.Fresh) (time : Timeval) :
    ∃ after nodes', m.pushEnd malloc time = some after ∧
      Holds after nodes' ((m.allocate malloc).1 :: lost) ∧
      nodes'.map Prod.snd = pushed ⟨time, .endOfStream⟩ (nodes.map Prod.snd) :=
  @Holds.push _ nodes _ malloc ⟨time, .endOfStream⟩ none (holds.allocate fresh) fresh
    (pointed_none fun media same => by cases same)

/-! ## Pulling -/

/-- A pull takes the head off the queue; it is still there, and its blocks are known. -/
theorem Holds.pull {node : Nat × TimeoutEvent} (holds : Holds m (node :: nodes) lost) :
    ∃ store queue found, pullEvent m.store m.queue = some (some node.1, store, queue) ∧
      store node.1 = some found ∧ found.value = node.2 ∧
      Holds { m with store := store, queue := queue } nodes (m.blocks node ++ lost) := by
  obtain ⟨store, queue, computed, represents⟩ := pullEvent_represents holds.represents
  obtain ⟨store', removed, linked, elsewhere⟩ := remque_linked holds.linked holds.addresses_nodup
  have first : m.queue.first = some node.1 := by rw [holds.first, firstOr_cons]
  have same : store' = store := by
    have here := holds.linked.1
    simp only [pullEvent, first, here, removed, Option.bind_eq_bind, Option.bind_some,
      Option.some.injEq, Prod.mk.injEq] at computed
    exact computed.2.1
  have away : node.1 ∉ addresses nodes := (List.nodup_cons.mp holds.addresses_nodup).1
  have kept : store node.1 = m.store node.1 := by rw [← same, elsewhere node.1 away]
  refine ⟨store, queue, _, computed, kept.trans holds.linked.1, rfl, ?_⟩
  have detached := holds.detach
  exact ⟨⟨represents.linked, detached.pointed, detached.owns⟩, represents.first, represents.last,
    represents.size⟩

/-- The queue is empty when its pointers say so. -/
theorem Holds.pull_nil (holds : Holds m [] lost) :
    pullEvent m.store m.queue = some (none, m.store, m.queue) := by
  have first := holds.first
  simp only [firstOr_nil] at first
  simp [pullEvent, first]

/-- A pulled event is freed once it was handled. -/
theorem Holds.free {address : Nat} (holds : Holds m nodes (address :: lost)) :
    m.free address = some (m.freed address) ∧ Holds (m.freed address) nodes lost := by
  obtain ⟨computed, chained⟩ := holds.toChained.free
  exact ⟨computed, holds.keep chained rfl⟩

/-- The `switch` on the type may push a timeout. -/
theorem Holds.pushByType (holds : Holds m nodes lost) (fresh : malloc.Fresh) (event : TimeoutEvent)
    (rearmed : Option Timeval) :
    ∃ after nodes', m.pushByType malloc event.type rearmed = some after ∧ Holds after nodes' lost ∧
      nodes'.map Prod.snd = (QueueMove.dispatch rearmed).onQueue (event :: nodes.map Prod.snd) := by
  unfold QueueMove.onQueue
  cases type : event.type with
  | checkMediaState =>
      cases rearmed with
      | none => exact ⟨m, nodes, rfl, holds, by simp [type]⟩
      | some time =>
          obtain ⟨after, nodes', computed, holds', order⟩ := holds.pushTimeout fresh time
          exact ⟨after, nodes', computed, holds', by simp [type, order]⟩
  | frame media => exact ⟨m, nodes, rfl, holds, by simp [type]⟩
  | endOfStream => exact ⟨m, nodes, rfl, holds, by simp [type]⟩

/-- The handling of a timeout with an event at the head frees the blocks of the event. -/
theorem Holds.dispatch_cons {node : Nat × TimeoutEvent} (holds : Holds m (node :: nodes) lost)
    (fresh : malloc.Fresh) (rearmed : Option Timeval) :
    ∃ after nodes', m.dispatch malloc rearmed = some after ∧ Holds after nodes' lost ∧
      nodes'.map Prod.snd =
        (QueueMove.dispatch rearmed).onQueue (node.2 :: nodes.map Prod.snd) := by
  obtain ⟨store, queue, found, pulled, here, value, detached⟩ := holds.pull
  have pointed := holds.pointed node List.mem_cons_self
  obtain ⟨middle, freed, chained, -, same⟩ := detached.toChained.freeByType pointed
  have held := detached.keep chained same
  obtain ⟨last, nodes', computed, holds', order⟩ := held.pushByType fresh node.2 rearmed
  obtain ⟨released, done⟩ := holds'.free
  refine ⟨_, nodes', ?_, done, order⟩
  simp only [QueueMemory.dispatch, pulled, here, value, Option.bind_eq_bind, Option.bind_some, freed,
    computed, released]

theorem Holds.dispatch_nil (holds : Holds m [] lost) (rearmed : Option Timeval) :
    m.dispatch malloc rearmed = some m := by
  simp [QueueMemory.dispatch, holds.pull_nil]

/-! ## Emptying -/

/-- The loop of `empty_queue` frees the blocks of the nodes and nothing else. -/
theorem Chained.freeFrom (chained : Chained m before nodes lost) (steps : Nat)
    (enough : nodes.length ≤ steps) :
    ∃ after, QueueMemory.freeFrom steps (firstOr nodes none) m = some after ∧
      Chained after none [] lost := by
  induction nodes generalizing m before steps with
  | nil =>
      refine ⟨m, by cases steps <;> rfl, trivial, chained.pointed, chained.owns⟩
  | cons node rest ih =>
      obtain ⟨steps, rfl⟩ : ∃ n, steps = n + 1 := ⟨steps - 1, by simp at enough; omega⟩
      have here := chained.linked.1
      obtain ⟨middle, freed, behind, -, -⟩ :=
        chained.detach.freeByType (chained.pointed node List.mem_cons_self)
      obtain ⟨released, behind⟩ := behind.free
      obtain ⟨after, done, chained'⟩ := ih behind steps (by simpa using enough)
      refine ⟨after, ?_, chained'⟩
      simp only [firstOr_cons, QueueMemory.freeFrom, here, Option.bind_eq_bind, Option.bind_some, freed,
        released]
      exact done

theorem Holds.emptyQueue (holds : Holds m nodes lost) :
    ∃ after, m.emptyQueue = some after ∧ Holds after [] lost := by
  have enough : nodes.length ≤ m.queue.size.toNat := by
    have size := holds.size
    omega
  obtain ⟨after, freed, chained⟩ := holds.toChained.freeFrom _ enough
  rw [← holds.first] at freed
  refine ⟨{ after with queue := Queue.empty }, ?_,
    ⟨chained.linked, chained.pointed, chained.owns⟩, rfl, rfl, rfl⟩
  simp [QueueMemory.emptyQueue, freed]

/-! ## Moves -/

/-- The number of the blocks of a node is that of its event. -/
theorem Holds.length_blocks {node : Nat × TimeoutEvent} (holds : Holds m nodes lost)
    (member : node ∈ nodes) : (m.blocks node).length = node.2.size := by
  have pointed := holds.pointed node member
  unfold QueueMemory.blocks TimeoutEvent.size
  cases known : m.frames node.1 with
  | none =>
      split
      · rename_i media type
        simp [Pointed, known, type] at pointed
      · rfl
  | some body =>
      obtain ⟨media, type⟩ := pointed.mp (by simp [known])
      simp [type, frameBlocks]

/-- Every move with filled frames keeps the invariant, follows no bad pointer, and loses what it is
said to lose. -/
theorem Holds.perform (holds : Holds m nodes lost) (fresh : malloc.Fresh) {move : QueueMove}
    (filled : move.Filled) :
    ∃ after nodes' lost', m.perform malloc move = some after ∧ Holds after nodes' lost' ∧
      nodes'.map Prod.snd = move.onQueue (nodes.map Prod.snd) ∧
      lost'.length = lost.length + move.loses (nodes.map Prod.snd) := by
  cases move with
  | sprops =>
      have first := (holds.allocate fresh).allocate fresh
      exact ⟨_, nodes, _, rfl, (first.allocate fresh).allocate fresh, rfl, rfl⟩
  | timeout time =>
      obtain ⟨after, nodes', computed, holds', order⟩ := holds.pushTimeout fresh time
      exact ⟨after, nodes', lost, computed, holds', order, rfl⟩
  | frame time media unfilled =>
      cases filled
      obtain ⟨after, nodes', computed, holds', order⟩ := holds.pushFrame fresh time media
      exact ⟨after, nodes', lost, computed, holds', order, rfl⟩
  | endOfStream time =>
      obtain ⟨after, nodes', computed, holds', order⟩ := holds.pushEnd fresh time
      exact ⟨after, nodes', _, computed, holds', order, rfl⟩
  | dispatch rearmed =>
      cases nodes with
      | nil => exact ⟨m, [], lost, holds.dispatch_nil rearmed, holds, rfl, rfl⟩
      | cons node rest =>
          obtain ⟨after, nodes', computed, holds', order⟩ := holds.dispatch_cons fresh rearmed
          exact ⟨after, nodes', lost, computed, holds', order, rfl⟩
  | pull =>
      cases nodes with
      | nil =>
          exact ⟨m, [], lost, by simp [QueueMemory.perform, QueueMemory.pull, holds.pull_nil], holds,
            rfl, rfl⟩
      | cons node rest =>
          obtain ⟨store, queue, found, pulled, -, -, detached⟩ := holds.pull
          refine ⟨_, rest, _, ?_, detached, rfl, ?_⟩
          · simp [QueueMemory.perform, QueueMemory.pull, pulled]
          · rw [List.length_append, holds.length_blocks List.mem_cons_self, Nat.add_comm]
            rfl
  | empty =>
      obtain ⟨after, computed, holds'⟩ := holds.emptyQueue
      exact ⟨after, [], lost, computed, holds', rfl, rfl⟩

end Memory

/-- The list of queued events behind these moves. -/
def onQueueAll (moves : List QueueMove) (queue : List TimeoutEvent) : List TimeoutEvent :=
  moves.foldl (fun queue move => move.onQueue queue) queue

/-- The number of the blocks these moves lose. -/
def losesAll : List QueueMove → List TimeoutEvent → Nat
  | [], _ => 0
  | move :: rest, queue => move.loses queue + losesAll rest (move.onQueue queue)

/-- The same for moves one after the other. -/
theorem Holds.performAll {m : QueueMemory} {nodes : List (Nat × TimeoutEvent)} {lost : List Nat}
    {malloc : Malloc} (holds : Holds m nodes lost) (fresh : malloc.Fresh) {moves : List QueueMove}
    (filled : ∀ move ∈ moves, move.Filled) :
    ∃ after nodes' lost', QueueMemory.performAll malloc moves m = some after ∧
      Holds after nodes' lost' ∧ nodes'.map Prod.snd = onQueueAll moves (nodes.map Prod.snd) ∧
      lost'.length = lost.length + losesAll moves (nodes.map Prod.snd) := by
  induction moves generalizing m nodes lost with
  | nil => exact ⟨m, nodes, lost, rfl, holds, rfl, rfl⟩
  | cons move rest ih =>
      obtain ⟨middle, nodes', lost', computed, holds', order, loses⟩ :=
        holds.perform fresh (filled move List.mem_cons_self)
      obtain ⟨after, nodes'', lost'', computed', holds'', order', loses'⟩ :=
        ih holds' fun later member => filled later (List.mem_cons_of_mem _ member)
      refine ⟨after, nodes'', lost'', ?_, holds'', ?_, ?_⟩
      · simp only [QueueMemory.performAll, computed, Option.bind_eq_bind, Option.bind_some, computed']
      · rw [order', order]
        rfl
      · rw [loses', loses, order, losesAll, Nat.add_assoc]

/-- The event at the head is read through a good pointer. -/
theorem Holds.first_eq {m : QueueMemory} {nodes : List (Nat × TimeoutEvent)} {lost : List Nat}
    (holds : Holds m nodes lost) : m.first = some (nodes.map Prod.snd).head? := by
  have first := holds.first
  cases nodes with
  | nil =>
      simp only [firstOr_nil] at first
      simp [QueueMemory.first, first]
  | cons node rest =>
      simp only [firstOr_cons] at first
      simp [QueueMemory.first, first, holds.linked.1]

end Http2Rtsp.Pacing
