import Http2Rtsp.Server.LockDiscipline

/-!
# What a cancelled filler leaves behind

The TEARDOWN block cancels the filler while it holds `queuelock` itself. A filler
which waits for the condition then takes the lock once more, and terminates with
it. At every other point of `fill_queue` the filler owns nothing, so the lock is
left to those who are alive.
-/

namespace Http2Rtsp.Server

open Http2Rtsp.Std Http2Rtsp.Message Http2Rtsp.Semantics

/-- `queuelock` is not owned by a thread which has terminated. -/
def LockUsable (s : ServerState) : Prop :=
  ∀ k, s.lock = some k → ∃ filler, s.fillers[k]? = some filler ∧ filler.Live

/-- The filler which a TEARDOWN block cancels is not in `pthread_cond_wait`. -/
def CancelsOutsideWait (s : ServerState) (input : Input) : Prop :=
  RunsTeardown s input → s.lock = none → ∀ thread tinfo, s.Armed thread tinfo →
    ∀ filler, s.fillers[thread]? = some filler → filler.pc ≠ .waiting ∧ filler.pc ≠ .woken

instance (s : ServerState) (input : Input) : Decidable (CancelsOutsideWait s input) :=
  decidable_of_iff (¬ (RunsTeardown s input ∧ s.lock = none) ∨
      ∀ thread ∈ s.threadid, ∀ tinfo ∈ s.tinfo, tinfo ∈ s.freed ∨
        ∀ filler ∈ s.fillers[thread]?, filler.pc ≠ .waiting ∧ filler.pc ≠ .woken) <| by
    constructor
    · rintro (apart | outside) runs free thread tinfo ⟨named, points, fresh⟩
      · exact absurd ⟨runs, free⟩ apart
      · exact (outside thread named tinfo points).resolve_left fresh
    · intro outside
      by_cases runs : RunsTeardown s input ∧ s.lock = none
      · refine Or.inr fun thread named tinfo points => ?_
        by_cases dead : tinfo ∈ s.freed
        · exact Or.inl dead
        · exact Or.inr (outside runs.1 runs.2 thread tinfo ⟨named, points, dead⟩)
      · exact Or.inl runs

instance (s : ServerState) : (input : Input) → Decidable (WakesWithRoom s input)
  | .filler k (.resume now next unset) => decidable_of_iff (s.queue.length < queueSize) <| by
      constructor
      · rintro room _ _ _ _ ⟨⟩
        exact room
      · exact fun room => room k now next unset rfl
  | .filler _ .wait | .filler _ .spurious | .filler _ .test | .filler _ (.push ..)
  | .filler _ .unwind | .timeout .. | .interrupted | .ready _ | .accept _ | .datagram _ | .media _
  | .rtsp _ | .rearm _ => isTrue <| by simp [WakesWithRoom]

/-! ## Fillers which own the lock -/

/-- No filler is cancelled in its wait, and one which locks what it owns stays where it is. -/
structure Settled (before after : List Filler) : Prop where
  stuck : ∀ (k : Nat) (filler : Filler), before[k]? = some filler → filler.pc = .stuck →
    ∃ later : Filler, after[k]? = some later ∧ later.pc = .stuck
  unwinding : (∀ filler ∈ before, filler.pc ≠ .unwinding) → ∀ filler ∈ after, filler.pc ≠ .unwinding

theorem Settled.refl (fillers : List Filler) : Settled fillers fillers :=
  ⟨fun _ filler there pc => ⟨filler, there, pc⟩, id⟩

theorem Settled.trans {first second third : List Filler} (one : Settled first second)
    (two : Settled second third) : Settled first third := by
  refine ⟨fun k filler there pc => ?_, fun calm => two.unwinding (one.unwinding calm)⟩
  obtain ⟨later, found, stuck⟩ := one.stuck k filler there pc
  exact two.stuck k later found stuck

/-- A filler is replaced which was not stuck, by one which is not cancelled in its wait. -/
theorem settled_set {fillers : List Filler} {k : Nat} {old new : Filler}
    (there : fillers[k]? = some old) (moves : old.pc ≠ .stuck) (calm : new.pc ≠ .unwinding) :
    Settled fillers (fillers.set k new) := by
  constructor
  · intro j filler found stuck
    by_cases same : k = j
    · subst same
      obtain rfl := Option.some.inj (there.symm.trans found)
      exact absurd stuck moves
    · exact ⟨filler, by rw [List.getElem?_set_ne same, found], stuck⟩
  · intro before filler member
    rcases List.mem_or_eq_of_mem_set member with earlier | rfl
    · exact before filler earlier
    · exact calm

/-- A new filler is at its start. -/
theorem settled_append (fillers : List Filler) (tinfo : Nat) :
    Settled fillers (fillers ++ [⟨.start, tinfo, none, none⟩]) := by
  constructor
  · intro k filler there stuck
    obtain ⟨bound, -⟩ := List.getElem?_eq_some_iff.mp there
    exact ⟨filler, by rw [List.getElem?_append_left bound, there], stuck⟩
  · intro calm filler member
    rcases List.mem_append.mp member with earlier | last
    · exact calm filler earlier
    · obtain rfl := List.mem_singleton.mp last
      exact FillerPc.noConfusion

theorem settled_wakeFirst (fillers : List Filler) : Settled fillers (wakeFirst fillers) := by
  induction fillers with
  | nil => exact .refl []
  | cons filler rest ih =>
      unfold wakeFirst
      split
      · rename_i waiting
        apply @settled_set (filler :: rest) 0 filler _ rfl
        · simp [waiting]
        · simp
      · constructor
        · intro k found there stuck
          cases k with
          | zero => exact ⟨found, there, stuck⟩
          | succ k => exact ih.stuck k found there stuck
        · intro calm found member
          rcases List.mem_cons.mp member with rfl | later
          · exact calm found List.mem_cons_self
          · exact ih.unwinding (fun old member => calm old (List.mem_cons_of_mem filler member)) found
              later

/-- `pthread_cond_signal` moves none but a waiting filler. -/
theorem settled_signal (wake : Nat) (fillers : List Filler) : Settled fillers (signal wake fillers) := by
  unfold signal
  split
  · rename_i waiting
    cases there : fillers[wake]? with
    | none => simp [there] at waiting
    | some filler =>
        have pc : filler.pc = .waiting := by simpa [there] using waiting
        rw [List.modify_eq_set_getElem?, there]
        apply settled_set there
        · simp [pc]
        · simp
  · exact settled_wakeFirst fillers

/-- `pthread_cancel` of a filler which is not in its wait. -/
theorem calm_cancel {fillers : List Filler} {k : Nat}
    (calm : ∀ filler ∈ fillers, filler.pc ≠ .unwinding)
    (outside : ∀ filler, fillers[k]? = some filler → filler.pc ≠ .waiting ∧ filler.pc ≠ .woken) :
    ∀ filler ∈ fillers.modify k Filler.cancel, filler.pc ≠ .unwinding := by
  intro filler member
  obtain ⟨j, there⟩ := List.mem_iff_getElem?.mp member
  rw [List.getElem?_modify] at there
  obtain ⟨old, found, rfl⟩ := Option.map_eq_some_iff.mp there
  have before := calm old (List.mem_of_getElem? found)
  by_cases same : k = j
  · subst same
    obtain ⟨waiting, woken⟩ := outside old found
    rw [if_pos rfl]
    unfold Filler.cancel
    split
    · exact before
    · rename_i pc
      exact absurd pc waiting
    · rename_i pc
      exact absurd pc woken
    · rename_i pc
      exact absurd pc before
    · exact FillerPc.noConfusion
  · rwa [if_neg same]

/-! ## Steps -/

/-- The main thread gives back what it takes, and cancels nobody. -/
structure KeepsLock (s after : ServerState) : Prop where
  lock : after.lock = s.lock
  fillers : Settled s.fillers after.fillers

/-- The fillers are left alone. -/
theorem KeepsLock.same {s after : ServerState} (lock : after.lock = s.lock)
    (fillers : after.fillers = s.fillers) : KeepsLock s after :=
  ⟨lock, fillers ▸ .refl _⟩

/-- What a handler of a descriptor keeps. -/
theorem KeepsLock.dispatched {s after : ServerState} {pc : MainPc}
    (keeps : KeepsLock { s with pc := pc } after) : KeepsLock s after :=
  ⟨keeps.lock, keeps.fillers⟩

theorem KeepsLock.trans {s middle after : ServerState} (one : KeepsLock s middle)
    (two : KeepsLock middle after) : KeepsLock s after :=
  ⟨two.lock.trans one.lock, one.fillers.trans two.fillers⟩

theorem TimeoutEffect.keepsLock {s after : ServerState} {wake : Nat} {output : List Output}
    (effect : TimeoutEffect s wake after output) : KeepsLock s after := by
  cases effect with
  | locked taken => exact .same rfl rfl
  | idle free empty => exact .same rfl rfl
  | failed free queued last => exact .same rfl rfl
  | @handled event rest middle output free queued effect =>
      have same : middle.lock = s.lock := by cases effect <;> rfl
      have fillers : middle.fillers = s.fillers := effect.threads.1
      refine ⟨same, ?_⟩
      unfold ServerState.finishTimeout
      split
      · exact fillers ▸ settled_signal wake middle.fillers
      · exact fillers ▸ .refl _

theorem MediaEffect.keepsLock {s after : ServerState} {i : Int} {io : MediaIo} {output : List Output}
    (effect : MediaEffect s i io after output) : KeepsLock s after := by
  cases effect with
  | ignored other => exact .same rfl rfl
  | failed reason reads => exact .same rfl rfl
  | header getsent opened found parsed => exact .same rfl rfl
  | stored recvtcp opened more =>
      obtain ⟨kernel, masterfds, stored⟩ := storeMedia_eq s i io
      rw [stored]
      exact .same rfl rfl
  | completed recvtcp opened last effect =>
      obtain ⟨kernel, masterfds, stored⟩ := storeMedia_eq s i io
      rw [stored] at effect
      cases effect with
      | exited unopened => exact .same rfl rfl
      | failed unopened => exact ⟨rfl, settled_append s.fillers s.allocated⟩
      | locked opened taken => exact ⟨rfl, settled_append s.fillers s.allocated⟩
      | launched opened free => exact ⟨rfl, settled_append s.fillers s.allocated⟩

theorem SwitchEffect.keepsLock {variant : Variant} {s after : ServerState} {i : Int} {io : RtspIo}
    {output : List Output} (effect : SwitchEffect variant s i io after output) :
    KeepsLock s after := by
  cases effect with
  | ignored other => exact .same rfl rfl
  | failed reason output handled before => exact .same rfl rfl
  | options state type => exact .same rfl rfl
  | described state type downloaded => exact .same rfl rfl
  | fetched state type absent fetch => exact .same rfl rfl
  | @setup rtp rtcp session text state type sockets =>
      obtain ⟨kernel, opened⟩ := openUdp_eq s rtp rtcp
      rw [opened]
      exact .same rfl rfl
  | played state type absent free => exact .same rfl rfl
  | unopened state type downloaded unopened => exact ⟨rfl, settled_append s.fillers s.allocated⟩
  | launched state type downloaded opened => exact ⟨rfl, settled_append s.fillers s.allocated⟩

theorem ReceiveEffect.keepsLock {s after : ServerState} {i : Int} {received : List UInt8}
    {output : List Output} (effect : ReceiveEffect s i received after output) :
    KeepsLock s after := by
  cases effect with
  | closed opened empty => exact .same rfl rfl
  | message opened nonempty terminated parsed => exact .same rfl rfl

/-- What a step does to the lock and to those who own it. -/
inductive LockEffect (s : ServerState) (input : Input) (after : ServerState) : Prop where
  | kept (keeps : KeepsLock s after)
  | cancelled {thread tinfo} (runs : RunsTeardown s input) (free : s.lock = none)
      (armed : s.Armed thread tinfo) (lock : after.lock = none)
      (fillers : Settled (s.fillers.modify thread Filler.cancel) after.fillers)
  | moved {k action} (filler : input = .filler k action)
      (moves : s.handleFiller k action = some after)

theorem RtspEffect.lock {variant : Variant} {s after : ServerState} {i : Int} {io : RtspIo}
    {rest : List Int} {output : List Output} (pc : s.pc = .dispatch (i :: rest))
    (effect : RtspEffect variant { s with pc := .dispatch rest } i io after output) :
    LockEffect s (.rtsp io) after := by
  cases effect with
  | failed reason unread => exact .kept (.same rfl rfl)
  | switched receive type effect =>
      exact .kept (receive.keepsLock.trans effect.keepsLock).dispatched
  | @teardown received after prior output receive type effect =>
      have front : KeepsLock s received := receive.keepsLock.dispatched
      cases effect with
      | locked taken => exact .kept (front.trans (.same rfl rfl))
      | dangling free dead => exact .kept (front.trans (.same rfl rfl))
      | @done thread tinfo free armed =>
          have same : received.fillers = s.fillers ∧ (received.Armed thread tinfo ↔
              s.Armed thread tinfo) := by
            cases receive <;> exact ⟨rfl, Iff.rfl⟩
          obtain ⟨opened, left, parsed⟩ := receive.leaves_iff.mpr type
          refine .cancelled ⟨io, i, rest, rfl, pc, opened, left, parsed⟩ (front.lock.symm.trans free)
            (same.2.mp armed) free ?_
          rw [← same.1]
          cases variant with
          | server => exact settled_signal io.wake _
          | mt => exact .refl _

theorem step_lock {variant : Variant} {url : List UInt8} {s after : ServerState} {input : Input}
    {output : List Output} (taken : step variant url s input = .ok (after, output)) :
    LockEffect s input after := by
  cases step_cases taken with
  | timeout pc set effect => exact .kept effect.keepsLock
  | interrupted pc => exact .kept (.same rfl rfl)
  | ready pc members => exact .kept (.same rfl rfl)
  | accept pc branch possible effect =>
      cases effect with
      | halted reason => exact .kept (.same rfl rfl)
      | rejected busy => exact .kept (.same rfl rfl)
      | accepted accepted free => exact .kept (.same rfl rfl)
  | datagram pc branch effect =>
      cases effect with
      | only halts answers => exact .kept (.same rfl rfl)
  | media pc branch possible effect =>
      exact .kept effect.keepsLock.dispatched
  | rtsp pc branch possible effect => exact effect.lock pc
  | rearmed pc free =>
      rw [ServerState.rearm, locked_free free]
      exact .kept (.same rfl rfl)
  | rearmLocked pc owned => exact .kept (.same rfl rfl)
  | @filler k action after effect => exact .moved rfl (step_filler taken).1

/-! ## The invariant -/

/-- Nobody is cancelled in a wait, and who owns the lock is stuck in `fill_queue`. -/
structure OwnersStuck (s : ServerState) : Prop where
  calm : ∀ filler ∈ s.fillers, filler.pc ≠ .unwinding
  owner : ∀ k, s.lock = some k → ∃ filler, s.fillers[k]? = some filler ∧ filler.pc = .stuck

theorem OwnersStuck.usable {s : ServerState} (owners : OwnersStuck s) : LockUsable s := by
  intro k owned
  obtain ⟨filler, there, pc⟩ := owners.owner k owned
  exact ⟨filler, there, by simp [Filler.Live, pc]⟩

theorem ownersStuck_initial {variant : Variant} {s : ServerState} (initial : Initial variant s) :
    OwnersStuck s where
  calm := by simp [initial.fillers]
  owner k owned := by
    rw [initial.lock] at owned
    cases owned

theorem OwnersStuck.keeps {s after : ServerState} (owners : OwnersStuck s)
    (lock : after.lock = s.lock) (fillers : Settled s.fillers after.fillers) : OwnersStuck after where
  calm := fillers.unwinding owners.calm
  owner k owned := by
    obtain ⟨filler, there, pc⟩ := owners.owner k (lock ▸ owned)
    exact fillers.stuck k filler there pc

/-- A filler which moves on owns nothing. -/
theorem Advances.pcs {queue : List Pacing.TimeoutEvent} {pc next : FillerPc}
    (advances : Advances queue pc next) : pc ≠ .stuck ∧ next ≠ .unwinding := by
  cases advances <;> simp

theorem FillerEffect.ownersStuck {s after : ServerState} {k : Nat} (effect : FillerEffect s k after)
    (owners : OwnersStuck s) : OwnersStuck after := by
  cases effect with
  | advanced there advances =>
      exact owners.keeps rfl (settled_set there advances.pcs.1 advances.pcs.2)
  | @pushed filler basetime next unset there free pc =>
      have moves : filler.pc ≠ .stuck := by rcases pc with pc | pc <;> simp [pc]
      cases next with
      | none => exact owners.keeps rfl (settled_set there moves FillerPc.noConfusion)
      | some frame => exact owners.keeps rfl (settled_set there moves FillerPc.noConfusion)
  | @stuck filler basetime there free pc =>
      have settled : Settled s.fillers
          (s.fillers.set k { filler with basetime := some basetime, pc := .stuck }) :=
        settled_set there (by simp [pc]) (by simp)
      refine ⟨settled.unwinding owners.calm, ?_⟩
      rintro owner ⟨⟩
      have bound : k < s.fillers.length := (List.getElem?_eq_some_iff.mp there).1
      exact ⟨_, List.getElem?_set_self bound, rfl⟩
  | unwound there free pc => exact absurd pc (owners.calm _ (List.mem_of_getElem? there))

theorem ownersStuck_kept {variant : Variant} {url : List UInt8} {s after : ServerState}
    {input : Input} {output : List Output} (owners : OwnersStuck s)
    (outside : CancelsOutsideWait s input)
    (taken : step variant url s input = .ok (after, output)) : OwnersStuck after := by
  cases step_lock taken with
  | kept keeps => exact owners.keeps keeps.lock keeps.fillers
  | cancelled runs free armed lock fillers =>
      have calm := calm_cancel owners.calm (outside runs free _ _ armed)
      refine ⟨fillers.unwinding calm, fun k owned => ?_⟩
      cases lock.symm.trans owned
  | moved filler moves => exact (handleFiller_cases moves).ownersStuck owners

/-- A filler whose wait is over and which finds room pushes an event, and leaves the lock free. -/
theorem handleFiller_woken {s after : ServerState} {k : Nat} {action : FillerAction} {filler : Filler}
    (moves : s.handleFiller k action = some after) (there : s.fillers[k]? = some filler)
    (pc : filler.pc = .woken)
    (room : ∀ now next unset, action = .resume now next unset → s.queue.length < queueSize) :
    after.lock = s.lock := by
  obtain ⟨other, found, move⟩ := handleFiller_moves moves
  obtain rfl := Option.some.inj (there.symm.trans found)
  cases move with
  | @resume now next unset _ free space =>
      exact (pushNext_guarded s k filler (filler.basetime.getD now) next unset).1
  | @stuck now next unset _ free full => exact absurd (room now next unset rfl) full
  | wait start => cases pc.symm.trans start
  | spurious waiting => cases pc.symm.trans waiting
  | test slept => cases pc.symm.trans slept
  | push tested => cases pc.symm.trans tested
  | unwind unwinding => cases pc.symm.trans unwinding

/-- When nobody is cancelled in a wait or wakes to a full queue, the lock stays free. -/
theorem free_kept {variant : Variant} {url : List UInt8} {s after : ServerState} {input : Input}
    {output : List Output} (owners : OwnersStuck s) (free : s.lock = none)
    (room : WakesWithRoom s input)
    (taken : step variant url s input = .ok (after, output)) : after.lock = none := by
  cases step_lock taken with
  | kept keeps => exact keeps.lock.trans free
  | cancelled runs free armed lock fillers => exact lock
  | @moved k action moved moves =>
      cases handleFiller_cases moves with
      | advanced there advances => exact free
      | @pushed filler basetime next unset there _ pc =>
          exact (pushNext_guarded s k filler basetime next unset).1.trans free
      | unwound there _ pc => exact absurd pc (owners.calm _ (List.mem_of_getElem? there))
      | stuck there _ pc =>
          have space : ∀ now next unset, action = .resume now next unset →
              s.queue.length < queueSize := by
            rintro now next unset rfl
            exact room k now next unset moved
          exact (handleFiller_woken moves there pc space).trans free

/-! ## Runs -/

/-- In every run of either server whose TEARDOWN blocks cancel no filler in its wait, no thread which
has terminated owns `queuelock`. If moreover no filler wakes to a full queue, `queuelock` is free
between the steps, and the next `lock_mutex` succeeds. -/
theorem lockUsable_of_cancelsOutsideWait {variant : Variant} {url : List UInt8}
    {trace : List (Entry ServerState Input Output)} {state : ServerState}
    (run : (machine variant url).Runs trace state)
    (outside : Machine.Throughout (fun _ => CancelsOutsideWait) trace) :
    Machine.Always (fun _ => LockUsable) trace state ∧
      (Machine.Throughout (fun _ => WakesWithRoom) trace →
        Machine.Always (fun _ s => s.lock = none) trace state) := by
  constructor
  · have owners : Machine.Always (fun _ => OwnersStuck) trace state := by
      apply run.always_under outside
      · intro start initial
        exact ownersStuck_initial initial
      · intro past before input after output owners met taken
        exact ownersStuck_kept owners met taken
    exact owners.imp fun _ _ owners => owners.usable
  · intro room
    have both : Machine.Throughout (fun _ s input => CancelsOutsideWait s input ∧ WakesWithRoom s input)
        trace :=
      fun past entry future split => ⟨outside past entry future split, room past entry future split⟩
    have free : Machine.Always (fun _ s => OwnersStuck s ∧ s.lock = none) trace state := by
      apply run.always_under both
      · intro start initial
        exact ⟨ownersStuck_initial initial, initial.lock⟩
      · intro past before input after output fact met taken
        exact ⟨ownersStuck_kept fact.1 met.1 taken, free_kept fact.1 fact.2 met.2 taken⟩
    exact free.imp fun _ _ fact => fact.2

/-- The media is downloaded for a client. -/
def downloaded : List Input :=
  connect 6 ++ describe 6 7 someResponse ++ media 7 someResponse someHeader ++ media 7 [] [7]

/-- The filler is cancelled before it waits. -/
def cancelledAtStart : List Input := downloaded ++ request 6 (RtspIo.line "TEARDOWN")

/-- The filler is cancelled while it waits. -/
def cancelledInWait : List Input :=
  downloaded ++ [.filler 0 .wait] ++ request 6 (RtspIo.line "TEARDOWN") ++ [.filler 0 .unwind]

/-- A filler cancelled outside its wait leaves the lock free. -/
theorem lockUsable_of_cancelsOutsideWait_atStart : ∃ result,
    (machine .server someUrl).exec [] (startState .server) cancelledAtStart = .ok result ∧
      Machine.Always (fun _ => LockUsable) result.1 result.2 ∧
      Machine.Always (fun _ s => s.lock = none) result.1 result.2 := by
  obtain ⟨result, computed, outside, room⟩ : ∃ result,
      (machine .server someUrl).exec [] (startState .server) cancelledAtStart = .ok result ∧
        Machine.MeetsAll (fun _ => CancelsOutsideWait) [] result.1 ∧
        Machine.MeetsAll (fun _ => WakesWithRoom) [] result.1 :=
    ⟨_, rfl, of_decide_eq_true rfl, of_decide_eq_true rfl⟩
  have run := Machine.Runs.of_exec (startState_initial .server someUrl) computed
  obtain ⟨usable, free⟩ :=
    lockUsable_of_cancelsOutsideWait run (Machine.throughout_of_meetsAll outside)
  exact ⟨result, computed, usable, free (Machine.throughout_of_meetsAll room)⟩

theorem cancelledInWait_runs (variant : Variant) : ∃ result,
    (machine variant someUrl).exec [] (startState variant) cancelledInWait = .ok result ∧
      result.2.lock = some 0 ∧ result.2.fillers = [⟨.cancelled, 0, none, none⟩] := by
  cases variant with
  | server => exact ⟨_, rfl, rfl, rfl⟩
  | mt => exact ⟨_, rfl, rfl, rfl⟩

/-- A filler cancelled in its wait terminates as the owner of the lock. -/
theorem lockUsable_not_always : ¬ ∀ variant url trace state,
    (machine variant url).Runs trace state → Machine.Always (fun _ => LockUsable) trace state := by
  intro all
  obtain ⟨result, computed, owned, fillers⟩ := cancelledInWait_runs .server
  have run := Machine.Runs.of_exec (startState_initial .server someUrl) computed
  have usable : LockUsable result.2 := (all .server someUrl _ _ run).here
  obtain ⟨filler, there, live⟩ := usable 0 owned
  rw [fillers] at there
  obtain rfl := Option.some.inj there
  exact live.2.1 rfl

end Http2Rtsp.Server
