import Http2Rtsp.Pacing.Representation
import Http2Rtsp.Pacing.Waits

/-!
# Events with equal times

The scan of `push_event` passes over queued events which have the time of the new one, so that
among equal times the event pushed last stands first. `pending` lists the newest event first; along
every run in which `timecmp` judges rightly, the queue is in time order and equal times stand in
the order of `pending`. An event is then pulled before an older one of its time exactly when more
than one event has the earliest time.
-/

namespace Http2Rtsp.Pacing

open Http2Rtsp.Semantics Http2Rtsp.Std

/-- A push is of an event which is not queued, with a carried time near those queued. -/
def PushesTimely (past : List EventOutput) (_ : QueueState) : EventOp → Prop
  | .pushEvent address node => address ∉ addresses (pending past) ∧ node.value.time.Carried ∧
      ∀ queued ∈ pending past, queued.2.time.Near node.value.time
  | .pullEvent => True
  | .emptyQueue => True

instance (time : Timeval) : Decidable time.Carried := inferInstanceAs (Decidable (_ ∧ _))

instance (past : List EventOutput) (state : QueueState) :
    (op : EventOp) → Decidable (PushesTimely past state op)
  | .pushEvent _ _ => inferInstanceAs (Decidable (_ ∧ _ ∧ _))
  | .pullEvent => .isTrue trivial
  | .emptyQueue => .isTrue trivial

/-- No event is pulled while an older one of the same time is queued. -/
def PullsOldest (past : List EventOutput) (state : QueueState) (op : EventOp) : Prop :=
  ∀ after address, eventStep state op = .ok (after, [.pulled (some address)]) →
    ∀ newer event older, pending past = newer ++ (address, event) :: older →
      ∀ other ∈ older, other.2.time ≠ event.time

/-- When an event is pulled, the earliest time is that of one event only. -/
def PullsSole (past : List EventOutput) (_ : QueueState) : EventOp → Prop
  | .pullEvent => ∀ event ∈ pending past,
      (∀ other ∈ pending past, event.2.time.micros ≤ other.2.time.micros) →
        ∀ other ∈ pending past, other.2.time = event.2.time → other = event
  | .pushEvent _ _ => True
  | .emptyQueue => True

/-! ## Order -/

/-- The time of a node. -/
def nodeMicros (node : Nat × TimeoutEvent) : Int := node.2.time.micros

/-- One node stands before another: by its time, or as the newer one of two. -/
def Precedes (events : List (Nat × TimeoutEvent)) (node other : Nat × TimeoutEvent) : Prop :=
  nodeMicros node < nodeMicros other ∨
    (nodeMicros node = nodeMicros other ∧ [node, other].Sublist events)

/-- Carried times are equal when they stand for the same time. -/
theorem Timeval.Carried.eq_of_micros {first second : Timeval} (firstCarried : first.Carried)
    (secondCarried : second.Carried) (same : first.micros = second.micros) : first = second := by
  obtain ⟨sec, usec⟩ := first
  obtain ⟨sec', usec'⟩ := second
  obtain ⟨low, high⟩ := firstCarried
  obtain ⟨low', high'⟩ := secondCarried
  simp only [Timeval.micros] at low high low' high' same
  have seconds : sec = sec' := by omega
  have micros : usec = usec' := by omega
  rw [seconds, micros]

/-- The queue represents the pending events in time order, the newer of equal times first. -/
structure NewestFirst (past : List EventOutput) (nodes : List (Nat × TimeoutEvent)) : Prop where
  same : nodes.Perm (pending past)
  carried : ∀ node ∈ nodes, node.2.time.Carried
  ordered : nodes.Pairwise (Precedes (pending past))

section Insertion

variable {past : List EventOutput} {nodes : List (Nat × TimeoutEvent)} {address : Nat}
  {event : TimeoutEvent}

/-- Nodes in this order are in time order. -/
theorem NewestFirst.ascending (newest : NewestFirst past nodes) : Ascending nodeMicros nodes :=
  newest.ordered.imp fun precedes => precedes.elim le_of_lt fun equal => equal.1.le

/-- A new event with a carried time is put behind all earlier times, before the equal ones. -/
theorem NewestFirst.push (newest : NewestFirst past nodes) (carried : event.time.Carried)
    (near : ∀ queued ∈ pending past, queued.2.time.Near event.time) :
    NewestFirst (past ++ [.pushed address event])
      (scanInsert (nodePasses event.time) (address, event) nodes) := by
  have judged : ∀ queued ∈ nodes, (nodePasses event.time queued = true ↔
      event.time.micros ≤ nodeMicros queued) := fun queued member => by
    rw [nodePasses, passesOver, decide_eq_true_iff]
    exact timecmp_carried (newest.carried queued member) carried
      (near queued (newest.same.mem_iff.mp member))
  have right : ScansRight nodeMicros (nodePasses event.time) (address, event) nodes :=
    .of_iff judged
  have older : ∀ {first second}, Precedes (pending past) first second →
      Precedes ((address, event) :: pending past) first second := fun precedes =>
    precedes.imp_right fun equal => ⟨equal.1, equal.2.cons _⟩
  have whole : (nodes.rdropWhile (nodePasses event.time) ++
      nodes.rtakeWhile (nodePasses event.time)).Pairwise (Precedes (pending past)) := by
    rw [rdropWhile_append_rtakeWhile]
    exact newest.ordered
  obtain ⟨front, back, across⟩ := List.pairwise_append.mp whole
  refine ⟨?_, ?_, ?_⟩
  · rw [pending_snoc]
    exact (scanInsert_perm _ _ _).trans (newest.same.cons _)
  · intro node member
    rcases mem_scanInsert.mp member with rfl | old
    · exact carried
    · exact newest.carried node old
  · rw [pending_snoc]
    refine List.pairwise_append.mpr ⟨front.imp older, List.pairwise_cons.mpr
      ⟨fun queued passed => ?_, back.imp older⟩, fun queued kept other member => ?_⟩
    · have later := right.le_passed queued passed
      have inside : queued ∈ pending past := newest.same.mem_iff.mp (by
        rw [← rdropWhile_append_rtakeWhile (nodePasses event.time) nodes]
        exact List.mem_append_right _ passed)
      rcases later.lt_or_eq with before | equal
      · exact Or.inl before
      · exact Or.inr ⟨equal, (List.singleton_sublist.mpr inside).cons_cons _⟩
    · rcases List.mem_cons.mp member with rfl | behind
      · exact Or.inl (right.kept_lt newest.ascending queued kept)
      · exact older (across queued kept other behind)

/-- Pulling the first node keeps the order of the others. -/
theorem NewestFirst.pull (newest : NewestFirst past nodes) (distinct : (addresses nodes).Nodup) :
    NewestFirst (past ++ [.pulled (nodes.head?.map Prod.fst)]) nodes.tail := by
  cases nodes with
  | nil =>
      refine ⟨?_, newest.carried, .nil⟩
      rw [pending_snoc]
      exact newest.same
  | cons head rest =>
      obtain ⟨-, later⟩ := List.pairwise_cons.mp newest.ordered
      obtain ⟨new, -⟩ := List.nodup_cons.mp distinct
      refine ⟨?_, fun node member => newest.carried node (List.mem_cons_of_mem _ member), ?_⟩
      · rw [pending_snoc]
        exact settle_head newest.same distinct
      · rw [pending_snoc]
        refine later.imp_of_mem fun {first second} inFirst inSecond precedes =>
          precedes.imp_right fun equal => ⟨equal.1, ?_⟩
        have away : ∀ node ∈ rest, node.1 ≠ head.1 := fun node member same =>
          new (same ▸ mem_addresses member)
        have whole : [first, second].filter (fun node => node.1 ≠ head.1) = [first, second] := by
          rw [List.filter_eq_self]
          intro node member
          rcases List.mem_pair.mp member with rfl | rfl
          · exact decide_eq_true (away _ inFirst)
          · exact decide_eq_true (away _ inSecond)
        have both := equal.2.filter fun node => node.1 ≠ head.1
        rwa [whole] at both

/-- The first node is pulled before an older one of its time exactly when its time is not its
own. -/
theorem NewestFirst.oldest_iff {head : Nat × TimeoutEvent} {rest : List (Nat × TimeoutEvent)}
    (newest : NewestFirst past (head :: rest)) (distinct : (addresses (pending past)).Nodup) :
    (∀ newer event older, pending past = newer ++ (head.1, event) :: older →
      ∀ other ∈ older, other.2.time ≠ event.time) ↔
    ∀ other ∈ pending past, other.2.time = head.2.time → other = head := by
  have first : head ∈ pending past := newest.same.mem_iff.mp List.mem_cons_self
  have events : (pending past).Nodup := List.Nodup.of_map Prod.fst distinct
  constructor
  · intro oldest other member equal
    by_contra different
    have behind : other ∈ rest := by
      rcases List.mem_cons.mp (newest.same.mem_iff.mpr member) with same | behind
      · exact absurd same different
      · exact behind
    have micros : nodeMicros head = nodeMicros other := congrArg Timeval.micros equal.symm
    rcases (List.pairwise_cons.mp newest.ordered).1 other behind with before | ⟨-, newer⟩
    · omega
    · obtain ⟨front, back, split, inFront, inBack⟩ := List.cons_sublist_iff.mp newer
      obtain ⟨newer, between, rfl⟩ := List.append_of_mem inFront
      refine oldest newer head.2 (between ++ back) (by rw [split]; simp) other ?_ equal
      exact List.mem_append_right _ (List.singleton_sublist.mp inBack)
  · intro sole newer event older split other member equal
    have here : (head.1, event) ∈ pending past := by simp [split]
    have same : (head.1, event) = head := by
      exact List.inj_on_of_nodup_map distinct here first rfl
    have other_ : other = head := by
      refine sole other ?_ (equal.trans (congrArg (fun node : Nat × TimeoutEvent => node.2.time) same))
      rw [split]
      exact List.mem_append_right _ (List.mem_cons_of_mem _ member)
    rw [split] at events
    have apart := (List.nodup_append.mp events).2.1
    rw [same, ← other_] at apart
    exact (List.nodup_cons.mp apart).1 member

/-- The first node alone has the earliest time exactly when no other has its time. -/
theorem NewestFirst.sole_iff {head : Nat × TimeoutEvent} {rest : List (Nat × TimeoutEvent)}
    (newest : NewestFirst past (head :: rest)) :
    (∀ event ∈ pending past,
      (∀ other ∈ pending past, event.2.time.micros ≤ other.2.time.micros) →
        ∀ other ∈ pending past, other.2.time = event.2.time → other = event) ↔
    ∀ other ∈ pending past, other.2.time = head.2.time → other = head := by
  have earliest : ∀ other ∈ pending past, head.2.time.micros ≤ other.2.time.micros := by
    intro other member
    rcases List.mem_cons.mp (newest.same.mem_iff.mpr member) with rfl | behind
    · exact le_rfl
    · exact (List.pairwise_cons.mp newest.ascending).1 other behind
  have first : head ∈ pending past := newest.same.mem_iff.mp List.mem_cons_self
  have carried : ∀ node ∈ pending past, node.2.time.Carried := fun node member =>
    newest.carried node (newest.same.mem_iff.mpr member)
  constructor
  · intro sole
    exact sole head first earliest
  · intro sole event member least other inside equal
    have time : event.2.time = head.2.time :=
      (carried event member).eq_of_micros (carried head first)
        (le_antisymm (least head first) (earliest event member))
    rw [sole event member time]
    exact sole other inside (equal.trans time)

end Insertion

/-! ## Runs -/

/-- The queue holds the pending events in this order. -/
def HoldsNewestFirst (past : List EventOutput) (state : QueueState) : Prop :=
  ∃ nodes, Represents state.store state.queue nodes ∧ NewestFirst past nodes

section Calls

variable {past output : List EventOutput} {state after : QueueState} {op : EventOp}

/-- Every timely call keeps the order. -/
theorem holdsNewestFirst_step (holds : HoldsNewestFirst past state)
    (timely : PushesTimely past state op) (taken : eventStep state op = .ok (after, output)) :
    HoldsNewestFirst (past ++ output) after := by
  obtain ⟨nodes, represents, newest⟩ := holds
  cases op with
  | pushEvent address node =>
      obtain ⟨new, carried, near⟩ := timely
      have fresh : address ∉ addresses nodes := fun member =>
        new ((newest.same.map Prod.fst).mem_iff.mp member)
      obtain ⟨after', computed, represents'⟩ := eventStep_push node represents fresh
      obtain ⟨rfl, rfl⟩ := Prod.mk.inj (Except.ok.inj (computed.symm.trans taken))
      exact ⟨_, represents', newest.push carried near⟩
  | pullEvent =>
      obtain ⟨after', computed, represents'⟩ := eventStep_pull represents
      obtain ⟨rfl, rfl⟩ := Prod.mk.inj (Except.ok.inj (computed.symm.trans taken))
      exact ⟨_, represents', newest.pull represents.distinct⟩
  | emptyQueue =>
      obtain ⟨after', computed, represents'⟩ := eventStep_empty represents
      obtain ⟨rfl, rfl⟩ := Prod.mk.inj (Except.ok.inj (computed.symm.trans taken))
      refine ⟨[], represents', ?_, nofun, .nil⟩
      rw [pending_snoc]
      exact .nil

/-- A call pulls in order exactly when the time of what it pulls is that of one event only. -/
theorem pullsOldest_iff (holds : HoldsNewestFirst past state) :
    PullsOldest past state op ↔ PullsSole past state op := by
  obtain ⟨nodes, represents, newest⟩ := holds
  have distinct : (addresses (pending past)).Nodup :=
    (newest.same.map Prod.fst).nodup_iff.mp represents.distinct
  cases op with
  | pushEvent address node =>
      refine iff_of_true (fun after address' pulled => ?_) trivial
      simp only [eventStep] at pulled
      split at pulled
      · cases pulled
      · cases pulled
  | emptyQueue =>
      refine iff_of_true (fun after address pulled => ?_) trivial
      simp only [eventStep] at pulled
      split at pulled
      · cases pulled
      · cases pulled
  | pullEvent =>
      obtain ⟨after, computed, -⟩ := eventStep_pull represents
      cases nodes with
      | nil =>
          have none_ : pending past = [] := newest.same.nil_eq.symm
          refine iff_of_true (fun after' address pulled => ?_) fun event member => ?_
          · rw [computed] at pulled
            cases pulled
          · rw [none_] at member
            cases member
      | cons head rest =>
          have pulled : PullsOldest past state .pullEvent ↔
              ∀ newer event older, pending past = newer ++ (head.1, event) :: older →
                ∀ other ∈ older, other.2.time ≠ event.time := by
            constructor
            · intro oldest
              exact oldest after head.1 computed
            · intro oldest after' address taken
              rw [computed] at taken
              cases taken
              exact oldest
          rw [pulled, newest.oldest_iff distinct, ← newest.sole_iff]
          rfl

end Calls

/-- In a run whose pushes are timely, events of equal times are pulled in the order in which they
were pushed exactly when every pull finds the earliest time on one event only. -/
theorem pullsOldest_throughout_iff {trace : List (Entry QueueState EventOp EventOutput)}
    {state : QueueState} (run : eventMachine.Runs trace state)
    (timely : Machine.Throughout PushesTimely trace) :
    Machine.Throughout PullsOldest trace ↔ Machine.Throughout PullsSole trace := by
  have holds : Machine.Always HoldsNewestFirst trace state := by
    apply run.always_under timely
    · intro start empty
      refine ⟨[], ?_, .nil, nofun, .nil⟩
      rw [show start.queue = Queue.empty from empty]
      exact represents_empty start.store
    · intro past before op after output holds here taken
      exact holdsNewestFirst_step holds here taken
  constructor
  · intro oldest past entry future split
    exact (pullsOldest_iff (holds.2 past entry future split)).mp (oldest past entry future split)
  · intro sole past entry future split
    exact (pullsOldest_iff (holds.2 past entry future split)).mpr (sole past entry future split)

/-- An event which holds nothing but its time. -/
def timeoutAt (tvSec tvUsec : Int) : Node TimeoutEvent :=
  ⟨none, none, ⟨⟨tvSec, tvUsec⟩, .checkMediaState⟩⟩

/-- Events of different times, pulled in time order. -/
def spacedCalls : List EventOp :=
  [.pushEvent 0 (timeoutAt 1000 500), .pushEvent 1 (timeoutAt 1000 400), .pullEvent, .pullEvent]

/-- With different times every event is the only one of its time. -/
theorem pullsSole_of_nodup {past : List EventOutput} {state : QueueState}
    (apart : ((pending past).map fun queued => queued.2.time).Nodup) (op : EventOp) :
    PullsSole past state op := by
  cases op with
  | pullEvent =>
      intro event member _ other inside same
      exact List.inj_on_of_nodup_map apart inside member same
  | pushEvent address node => trivial
  | emptyQueue => trivial

theorem spacedCalls_run : ∃ result, eventMachine.exec [] emptyState spacedCalls = .ok result ∧
    Machine.MeetsAll PushesTimely [] result.1 ∧
    Machine.MeetsAll (fun past _ _ => ((pending past).map fun queued => queued.2.time).Nodup) []
      result.1 :=
  ⟨_, rfl, by decide +kernel, by decide +kernel⟩

/-- They are pulled in the order they should be. -/
theorem pullsOldest_throughout_iff_spaced : ∃ result,
    eventMachine.exec [] emptyState spacedCalls = .ok result ∧
      Machine.Throughout PullsSole result.1 ∧ Machine.Throughout PullsOldest result.1 := by
  obtain ⟨result, computed, timely, apart⟩ := spacedCalls_run
  have run := Machine.Runs.of_exec (rfl : eventMachine.Initial emptyState) computed
  have sole : Machine.Throughout PullsSole result.1 := fun past entry future split =>
    pullsSole_of_nodup (Machine.throughout_of_meetsAll apart past entry future split) entry.input
  exact ⟨result, computed, sole,
    (pullsOldest_throughout_iff run (Machine.throughout_of_meetsAll timely)).mpr sole⟩

/-- Two events of one time, of which one is pulled. -/
def equalCalls : List EventOp :=
  [.pushEvent 0 (timeoutAt 1000 0), .pushEvent 1 (timeoutAt 1000 0), .pullEvent]

theorem equalCalls_run : ∃ first second third state after,
    eventMachine.exec [] emptyState equalCalls = .ok ([first, second, third], state) ∧
      Machine.MeetsAll PushesTimely [] [first, second, third] ∧
      pending (Machine.outputs [first, second]) =
        [(1, (timeoutAt 1000 0).value), (0, (timeoutAt 1000 0).value)] ∧
      eventStep third.before third.input = .ok (after, [.pulled (some 1)]) :=
  ⟨_, _, _, _, _, rfl, by decide +kernel, rfl, rfl⟩

/-- The one pushed last leaves first. -/
theorem pullsOldest_not_always : ¬ ∀ trace state, eventMachine.Runs trace state →
    Machine.Throughout PushesTimely trace → Machine.Throughout PullsOldest trace := by
  intro always
  obtain ⟨first, second, third, state, after, computed, timely, queued, pulled⟩ := equalCalls_run
  have run : eventMachine.Runs [first, second, third] state :=
    Machine.Runs.of_exec (rfl : eventMachine.Initial emptyState) computed
  have oldest := always _ state run (Machine.throughout_of_meetsAll timely) [first, second] third []
    rfl
  exact oldest after 1 pulled [] _ _ queued _ List.mem_cons_self rfl

end Http2Rtsp.Pacing
