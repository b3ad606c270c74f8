import Http2Rtsp.Server.Threads

/-!
# What TEARDOWN touches

The TEARDOWN block cancels `threadid` and frees `tinfo` without asking whether
there is anything to tear down. It finds a thread and a live `ThreadInfo` exactly
when a filler was created since the last time the block was run.
-/

namespace Http2Rtsp.Server

open Http2Rtsp.Std Http2Rtsp.Message Http2Rtsp.Semantics

/-! ## The history of the threads -/

/-- Whether a filler was created since the last `ThreadInfo` was freed, one output later. -/
def markLaunch (launched : Bool) : Output → Bool
  | .launched _ => true
  | .freed _ => false
  | _ => launched

/-- A filler was created since the last `ThreadInfo` was freed. -/
def launchedSince (outputs : List Output) : Bool := outputs.foldl markLaunch false

/-- The `ThreadInfo`s freed, in order. -/
def freedIds (outputs : List Output) : List Nat :=
  outputs.filterMap fun | .freed tinfo => some tinfo | _ => none

/-- The `ThreadInfo`s whose context was closed, in order. -/
def closedIds (outputs : List Output) : List Nat :=
  outputs.filterMap fun | .contextClosed tinfo => some tinfo | _ => none

/-- Only the events of the threads count. -/
theorem launchedSince_append (past output : List Output) :
    launchedSince (past ++ output) = (threadEvents output).foldl markLaunch (launchedSince past) := by
  rw [launchedSince, List.foldl_append, threadEvents, List.foldl_filter]
  congr 1
  funext launched o
  cases o <;> rfl

theorem freedIds_append (past output : List Output) :
    freedIds (past ++ output) = freedIds past ++ freedIds (threadEvents output) := by
  rw [freedIds, List.filterMap_append, freedIds, freedIds, threadEvents, List.filterMap_filter]
  congr 2
  funext o
  cases o <;> rfl

theorem closedIds_append (past output : List Output) :
    closedIds (past ++ output) = closedIds past ++ closedIds (threadEvents output) := by
  rw [closedIds, List.filterMap_append, closedIds, closedIds, threadEvents, List.filterMap_filter]
  congr 2
  funext o
  cases o <;> rfl

/-- How the variables agree with the history. -/
structure Ledger (past : List Output) (s : ServerState) : Prop where
  armed : (∃ thread tinfo, s.Armed thread tinfo) ↔ launchedSince past = true
  created : ∀ thread, s.threadid = some thread → thread < s.fillers.length
  known : ∀ tinfo, s.tinfo = some tinfo → tinfo < s.allocated
  allocated : ∀ tinfo ∈ s.freed, tinfo < s.allocated
  freed : freedIds past = s.freed.reverse
  closed : closedIds past = s.freed.reverse
  once : s.freed.Nodup

theorem ledger_initial {variant : Variant} {s : ServerState} (initial : Initial variant s) :
    Ledger [] s where
  armed := by simp [ServerState.Armed, initial.threadid, launchedSince]
  created thread named := by simp [initial.threadid] at named
  known tinfo points := by simp [initial.tinfo] at points
  allocated tinfo member := by simp [initial.freed] at member
  freed := by simp [initial.freed, freedIds]
  closed := by simp [initial.freed, closedIds]
  once := by simp [initial.freed]

theorem ledger_kept {variant : Variant} {url : List UInt8} {past : List Output}
    {s after : ServerState} {input : Input} {output : List Output} (ledger : Ledger past s)
    (taken : step variant url s input = .ok (after, output)) : Ledger (past ++ output) after := by
  cases step_threads taken with
  | faded fades same events =>
      simp only [ServerState.ledger, Prod.mk.injEq] at same
      obtain ⟨threadid, known, allocated, freed⟩ := same
      constructor
      · simp only [ServerState.Armed, threadid, known, freed, launchedSince_append, events]
        exact ledger.armed
      · intro thread named
        rw [fades.1]
        exact ledger.created thread (threadid ▸ named)
      · rw [known, allocated]
        exact ledger.known
      · rw [freed, allocated]
        exact ledger.allocated
      · rw [freedIds_append, events, freed, ledger.freed]
        simp [freedIds]
      · rw [closedIds_append, events, freed, ledger.closed]
        simp [closedIds]
      · exact freed ▸ ledger.once
  | launched cause fillers same events =>
      simp only [ServerState.ledger, Prod.mk.injEq] at same
      obtain ⟨threadid, known, allocated, freed⟩ := same
      constructor
      · refine iff_of_true ⟨_, _, threadid, known, fun dead => ?_⟩ ?_
        · have old := ledger.allocated _ (freed ▸ dead)
          omega
        · rw [launchedSince_append, events]
          rfl
      · intro thread named
        obtain rfl := Option.some.inj (threadid.symm.trans named)
        simp [fillers]
      · intro tinfo points
        obtain rfl := Option.some.inj (known.symm.trans points)
        omega
      · intro tinfo member
        have old := ledger.allocated tinfo (freed ▸ member)
        omega
      · rw [freedIds_append, events, freed, ledger.freed]
        simp [freedIds]
      · rw [closedIds_append, events, freed, ledger.closed]
        simp [closedIds]
      · exact freed ▸ ledger.once
  | @tornDown thread tinfo cause free armed fades gone same events =>
      simp only [ServerState.ledger, Prod.mk.injEq] at same
      obtain ⟨threadid, known, allocated, freed⟩ := same
      obtain ⟨named, points, fresh⟩ := armed
      constructor
      · refine iff_of_false ?_ ?_
        · rintro ⟨thread', tinfo', -, points', fresh'⟩
          obtain rfl := Option.some.inj ((known.trans points).symm.trans points')
          exact fresh' (freed ▸ List.mem_cons_self)
        · rw [launchedSince_append, events]
          simp [markLaunch]
      · intro thread' named'
        rw [fades.1]
        exact ledger.created thread' (threadid ▸ named')
      · rw [known, allocated]
        exact ledger.known
      · intro tinfo' member
        rw [freed] at member
        rw [allocated]
        rcases List.mem_cons.mp member with rfl | member
        · exact ledger.known _ points
        · exact ledger.allocated tinfo' member
      · rw [freedIds_append, events, freed, ledger.freed]
        simp [freedIds]
      · rw [closedIds_append, events, freed, ledger.closed]
        simp [closedIds]
      · exact freed ▸ List.nodup_cons.mpr ⟨fresh, ledger.once⟩

/-! ## Runs -/

/-- A TEARDOWN block which gets the mutex finds `threadid` set by a `pthread_create`, and `tinfo`
pointing to a `ThreadInfo` which was allocated, was not freed, and is freed now. -/
def TeardownSound (s : ServerState) (input : Input) (_after : ServerState) (output : List Output) :
    Prop :=
  RunsTeardown s input → s.lock = none → ∃ thread tinfo,
    s.threadid = some thread ∧ thread < s.fillers.length ∧
    s.tinfo = some tinfo ∧ tinfo < s.allocated ∧ tinfo ∉ s.freed ∧ .freed tinfo ∈ output

/-- When a TEARDOWN block gets the mutex, a filler was created since the last one. -/
def LaunchedBefore (past : List Output) (s : ServerState) (input : Input) : Prop :=
  RunsTeardown s input → s.lock = none → launchedSince past = true

instance (past : List Output) (s : ServerState) (input : Input) :
    Decidable (LaunchedBefore past s input) := inferInstanceAs (Decidable (_ → _ → _))

theorem teardownSound_step_iff {variant : Variant} {url : List UInt8} {past : List Output}
    {s after : ServerState} {input : Input} {output : List Output} (ledger : Ledger past s)
    (taken : step variant url s input = .ok (after, output)) :
    TeardownSound s input after output ↔ LaunchedBefore past s input := by
  refine forall_congr' fun runs => forall_congr' fun free => ?_
  rw [← ledger.armed]
  constructor
  · rintro ⟨thread, tinfo, named, -, points, -, fresh, -⟩
    exact ⟨thread, tinfo, named, points, fresh⟩
  · intro armed
    rcases runs.outcome free taken with ⟨thread, tinfo, ⟨named, points, fresh⟩, frees⟩ | ⟨dead, -⟩
    · exact ⟨thread, tinfo, named, ledger.created thread named, points, ledger.known tinfo points,
        fresh, frees⟩
    · obtain ⟨thread, tinfo, alive⟩ := armed
      exact absurd alive (dead thread tinfo)

/-- In every run of either server the TEARDOWN blocks touch only live resources, and each once,
exactly when each of them follows the creation of a filler. -/
theorem teardownSound_iff_launchedBefore {variant : Variant} {url : List UInt8}
    {trace : List (Entry ServerState Input Output)} {state : ServerState}
    (run : (machine variant url).Runs trace state) :
    ((machine variant url).EveryStep TeardownSound trace ∧
        (freedIds (Machine.outputs trace)).Nodup ∧ (closedIds (Machine.outputs trace)).Nodup) ↔
      Machine.Throughout LaunchedBefore trace := by
  have ledger : Machine.Always Ledger trace state := by
    apply run.always
    · intro start initial
      exact ledger_initial initial
    · intro past before input after output ledger taken
      exact ledger_kept ledger taken
  have exact_ : ∀ past entry future, trace = past ++ entry :: future →
      ∀ after, step variant url entry.before entry.input = .ok (after, entry.output) →
        (TeardownSound entry.before entry.input after entry.output ↔
          LaunchedBefore (Machine.outputs past) entry.before entry.input) :=
    fun past entry future split after taken =>
      teardownSound_step_iff (ledger.2 past entry future split) taken
  constructor
  · rintro ⟨sound, -, -⟩ past entry future split
    have member : entry ∈ trace := by simp [split]
    obtain ⟨after, taken⟩ := run.taken member
    exact (exact_ past entry future split after taken).mp (sound entry member after taken)
  · intro launched
    refine ⟨fun entry member after taken => ?_, ?_, ?_⟩
    · obtain ⟨past, future, split⟩ := List.append_of_mem member
      exact (exact_ past entry future split after taken).mpr (launched past entry future split)
    · rw [ledger.here.freed]
      exact List.nodup_reverse.mpr ledger.here.once
    · rw [ledger.here.closed]
      exact List.nodup_reverse.mpr ledger.here.once

/-- A client connects and sends a TEARDOWN. -/
def teardownFirst : List Input := connect 6 ++ [.ready [6], .rtsp (RtspIo.line "TEARDOWN")]

/-- The script ends in the TEARDOWN block, with no thread to cancel. -/
theorem teardownFirst_runs : ∃ result entry after,
    (machine .server someUrl).exec [] (startState .server) teardownFirst = .ok result ∧
    entry ∈ result.1 ∧ entry.input = .rtsp (RtspIo.line "TEARDOWN") ∧
    entry.before.pc = .dispatch [6] ∧ entry.before.kernel 6 = some .peer ∧
    entry.before.lock = none ∧ entry.before.threadid = none ∧
    (machine .server someUrl).step entry.before entry.input = .ok (after, entry.output) :=
  ⟨_, _, _, rfl, .tail _ (.tail _ (.tail _ (.tail _ (.head _)))), rfl, rfl, rfl, rfl, rfl, rfl⟩

/-- The download creates a filler, and a TEARDOWN ends it. -/
def teardownLaunched : List Input :=
  connect 6 ++ describe 6 7 someResponse ++ media 7 someResponse someHeader ++ media 7 [] [7] ++
    request 6 (RtspIo.line "TEARDOWN")

/-- That TEARDOWN frees the `ThreadInfo` of the filler. -/
theorem teardownSound_iff_launchedBefore_teardownLaunched : ∃ result,
    (machine .server someUrl).exec [] (startState .server) teardownLaunched = .ok result ∧
      freedIds (Machine.outputs result.1) = [0] ∧ Machine.Throughout LaunchedBefore result.1 ∧
      (machine .server someUrl).EveryStep TeardownSound result.1 := by
  obtain ⟨result, computed, frees, launched⟩ : ∃ result,
      (machine .server someUrl).exec [] (startState .server) teardownLaunched = .ok result ∧
      freedIds (Machine.outputs result.1) = [0] ∧ Machine.MeetsAll LaunchedBefore [] result.1 :=
    ⟨_, rfl, rfl, of_decide_eq_true rfl⟩
  have run := Machine.Runs.of_exec (startState_initial .server someUrl) computed
  have throughout := Machine.throughout_of_meetsAll launched
  exact ⟨result, computed, frees, throughout, ((teardownSound_iff_launchedBefore run).mpr throughout).1⟩

/-- A TEARDOWN before any filler exists cancels a thread and frees a `ThreadInfo` which are none. -/
theorem teardownSound_not_always : ¬ ∀ variant url trace state,
    (machine variant url).Runs trace state →
      ((machine variant url).EveryStep TeardownSound trace ∧
        (freedIds (Machine.outputs trace)).Nodup ∧ (closedIds (Machine.outputs trace)).Nodup) := by
  intro all
  obtain ⟨result, entry, after, computed, member, input, pc, opened, free, unset, taken⟩ :=
    teardownFirst_runs
  have run := Machine.Runs.of_exec (startState_initial .server someUrl) computed
  have sound := (all .server someUrl _ _ run).1 entry member after taken
  have parsed : HasType (RtspIo.line "TEARDOWN").received .teardown := ⟨_, _, _, rfl, rfl, rfl⟩
  have leaves : Leaves entry.before 6 (RtspIo.line "TEARDOWN").received .teardown :=
    ⟨by simp [opened], fun empty => absurd empty (by decide), fun _ => parsed⟩
  have runs : RunsTeardown entry.before entry.input :=
    ⟨RtspIo.line "TEARDOWN", 6, [], input, pc, leaves⟩
  obtain ⟨thread, tinfo, named, -⟩ := sound runs free
  cases unset.symm.trans named

end Http2Rtsp.Server
