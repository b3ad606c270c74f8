import Mathlib.Data.List.Chain
import Mathlib.Data.List.Induction

/-!
# Recorded runs of a partial step function

A `Machine` is a step function that may refuse an input. `Runs` records, for
every step taken, the state before it, the input and what was put out, so that
a property of a run can speak about each step together with its past.

`Always` and `Throughout` are the two ways to quantify over a run: over the
points it reaches and over the steps it takes. The rules below derive the first
from the second by one induction over the run; nothing here knows what the
machine is about.
-/

namespace Http2Rtsp.Semantics

universe u

/-- A partial step function with its initial states. A refused input carries the
reason for the refusal. -/
structure Machine (σ ι ο ε : Type u) where
  Initial : σ → Prop
  step : σ → ι → Except ε (σ × List ο)

/-- One step of a run as it is recorded. -/
structure Entry (σ ι ο : Type u) where
  before : σ
  input : ι
  output : List ο

namespace Machine

variable {σ ι ο ε : Type u} {machine : Machine σ ι ο ε}

/-- Finite runs from an initial state, with the record of their steps. -/
inductive Runs (machine : Machine σ ι ο ε) : List (Entry σ ι ο) → σ → Prop where
  | initial {state} (valid : machine.Initial state) : Runs machine [] state
  | step {trace state input next output} (prior : Runs machine trace state)
      (taken : machine.step state input = .ok (next, output)) :
      Runs machine (trace ++ [⟨state, input, output⟩]) next

/-- Everything put out along a recorded run, in order. -/
def outputs (trace : List (Entry σ ι ο)) : List ο :=
  trace.flatMap Entry.output

@[simp] theorem outputs_nil : outputs ([] : List (Entry σ ι ο)) = [] := rfl

@[simp] theorem outputs_cons (entry : Entry σ ι ο) (rest : List (Entry σ ι ο)) :
    outputs (entry :: rest) = entry.output ++ outputs rest :=
  rfl

@[simp] theorem outputs_append (first second : List (Entry σ ι ο)) :
    outputs (first ++ second) = outputs first ++ outputs second := by
  simp [outputs]

theorem outputs_singleton (entry : Entry σ ι ο) : outputs [entry] = entry.output := by
  simp

/-- A property of past output and state holds at every point the run reaches. -/
def Always (holds : List ο → σ → Prop) (trace : List (Entry σ ι ο)) (state : σ) : Prop :=
  holds (outputs trace) state ∧
    ∀ past entry future, trace = past ++ entry :: future → holds (outputs past) entry.before

/-- A condition on past output, state and input is met by every step of the run. -/
def Throughout (met : List ο → σ → ι → Prop) (trace : List (Entry σ ι ο)) : Prop :=
  ∀ past entry future, trace = past ++ entry :: future →
    met (outputs past) entry.before entry.input

/-- A split of an extended run is either a split of the run or the new step. -/
theorem snoc_split {α : Type u} {trace past future : List α} {last entry : α} :
    trace ++ [last] = past ++ entry :: future ↔
      (future = [] ∧ past = trace ∧ entry = last) ∨
        ∃ rest, future = rest ++ [last] ∧ trace = past ++ entry :: rest := by
  constructor
  · intro split
    rcases List.eq_nil_or_concat future with rfl | ⟨rest, final, rfl⟩
    · obtain ⟨rfl, same⟩ := List.append_inj' split rfl
      exact Or.inl ⟨rfl, rfl, (List.singleton_inj.mp same).symm⟩
    · rw [List.concat_eq_append, ← List.cons_append, ← List.append_assoc] at split
      obtain ⟨rfl, same⟩ := List.append_inj' split rfl
      exact Or.inr ⟨rest, by rw [List.concat_eq_append, same], rfl⟩
  · rintro (⟨rfl, rfl, rfl⟩ | ⟨rest, rfl, rfl⟩)
    · rfl
    · simp

/-- `Always` of an extended run: the run as it was, and the new point. -/
theorem always_snoc {holds : List ο → σ → Prop} {trace : List (Entry σ ι ο)} {last : Entry σ ι ο}
    {state : σ} :
    Always holds (trace ++ [last]) state ↔
      Always holds trace last.before ∧ holds (outputs trace ++ last.output) state := by
  simp only [Always, outputs_append, outputs_singleton]
  constructor
  · rintro ⟨here, earlier⟩
    refine ⟨⟨earlier trace last [] rfl, fun past entry future split => ?_⟩, here⟩
    exact earlier past entry (future ++ [last]) (by simp [split])
  · rintro ⟨⟨atLast, earlier⟩, here⟩
    refine ⟨here, fun past entry future split => ?_⟩
    rcases snoc_split.mp split with ⟨-, rfl, rfl⟩ | ⟨rest, -, shorter⟩
    · exact atLast
    · exact earlier past entry rest shorter

/-- `Throughout` of an extended run: the run as it was, and the new step. -/
theorem throughout_snoc {met : List ο → σ → ι → Prop} {trace : List (Entry σ ι ο)}
    {last : Entry σ ι ο} :
    Throughout met (trace ++ [last]) ↔
      Throughout met trace ∧ met (outputs trace) last.before last.input := by
  constructor
  · intro all
    refine ⟨fun past entry future split => ?_, all trace last [] rfl⟩
    exact all past entry (future ++ [last]) (by simp [split])
  · rintro ⟨earlier, here⟩ past entry future split
    rcases snoc_split.mp split with ⟨-, rfl, rfl⟩ | ⟨rest, -, shorter⟩
    · exact here
    · exact earlier past entry rest shorter

@[simp] theorem always_nil {holds : List ο → σ → Prop} {state : σ} :
    Always holds ([] : List (Entry σ ι ο)) state ↔ holds [] state := by
  simp [Always]

@[simp] theorem throughout_nil {met : List ο → σ → ι → Prop} :
    Throughout met ([] : List (Entry σ ι ο)) := by
  simp [Throughout]

/-- The current point of a run is one of the points it reaches. -/
theorem Always.here {holds : List ο → σ → Prop} {trace : List (Entry σ ι ο)} {state : σ}
    (all : Always holds trace state) : holds (outputs trace) state :=
  all.1

/-- What follows at every point holds at every point. -/
theorem Always.imp {holds weaker : List ο → σ → Prop} {trace : List (Entry σ ι ο)} {state : σ}
    (all : Always holds trace state) (follows : ∀ past state, holds past state → weaker past state) :
    Always weaker trace state :=
  ⟨follows _ _ all.1, fun past entry future split => follows _ _ (all.2 past entry future split)⟩

/-- A property that holds initially and is kept by every step holds of every state reached. -/
theorem Runs.invariant {holds : σ → Prop} {trace : List (Entry σ ι ο)} {state : σ}
    (run : machine.Runs trace state)
    (initial : ∀ start, machine.Initial start → holds start)
    (kept : ∀ {before input after output}, holds before →
      machine.step before input = .ok (after, output) → holds after) : holds state := by
  induction run with
  | initial valid => exact initial _ valid
  | step _ taken ih => exact kept ih taken

/-- A property of past output and state that holds initially and is kept by every step which
meets the condition holds at the end of every run whose steps all meet it. -/
theorem Runs.under {met : List ο → σ → ι → Prop} {holds : List ο → σ → Prop}
    {trace : List (Entry σ ι ο)} {state : σ}
    (run : machine.Runs trace state) (condition : Throughout met trace)
    (initial : ∀ start, machine.Initial start → holds [] start)
    (kept : ∀ {past before input after output}, holds past before → met past before input →
      machine.step before input = .ok (after, output) → holds (past ++ output) after) :
    holds (outputs trace) state := by
  induction run with
  | initial valid => exact initial _ valid
  | step _ taken ih =>
      obtain ⟨earlier, here⟩ := throughout_snoc.mp condition
      simpa using kept (ih earlier) here taken

/-- The same at every point of the run. -/
theorem Runs.always_under {met : List ο → σ → ι → Prop} {holds : List ο → σ → Prop}
    {trace : List (Entry σ ι ο)} {state : σ}
    (run : machine.Runs trace state) (condition : Throughout met trace)
    (initial : ∀ start, machine.Initial start → holds [] start)
    (kept : ∀ {past before input after output}, holds past before → met past before input →
      machine.step before input = .ok (after, output) → holds (past ++ output) after) :
    Always holds trace state := by
  induction run with
  | initial valid => exact always_nil.mpr (initial _ valid)
  | step _ taken ih =>
      obtain ⟨earlier, here⟩ := throughout_snoc.mp condition
      have before := ih earlier
      exact always_snoc.mpr ⟨before, kept before.here here taken⟩

/-- A property of past output and state that holds initially and is kept by every step holds at
every point of every run. -/
theorem Runs.always {holds : List ο → σ → Prop} {trace : List (Entry σ ι ο)} {state : σ}
    (run : machine.Runs trace state) (initial : ∀ start, machine.Initial start → holds [] start)
    (kept : ∀ {past before input after output}, holds past before →
      machine.step before input = .ok (after, output) → holds (past ++ output) after) :
    Always holds trace state := by
  have unconditional : Throughout (fun _ _ _ => True) trace := fun _ _ _ _ => trivial
  exact run.always_under unconditional initial fun before _ taken => kept before taken

/-- A fact about the record so far which holds initially and is kept by every step which meets the
condition, under an assumption about the record, is known at the end of a run and before each of its
steps. -/
theorem Runs.recorded {met : List ο → σ → ι → Prop} {trace : List (Entry σ ι ο)} {state : σ}
    (run : machine.Runs trace state) (condition : Throughout met trace)
    (given : List (Entry σ ι ο) → Prop) (fact : List (Entry σ ι ο) → σ → Prop)
    (assumed : given trace) (earlier : ∀ {trace last}, given (trace ++ [last]) → given trace)
    (initial : ∀ start, machine.Initial start → fact [] start)
    (kept : ∀ {trace last after}, given (trace ++ [last]) → fact trace last.before →
      met (outputs trace) last.before last.input →
      machine.step last.before last.input = .ok (after, last.output) →
        fact (trace ++ [last]) after) :
    fact trace state ∧
      ∀ past entry future, trace = past ++ entry :: future → fact past entry.before := by
  induction run with
  | initial valid =>
      refine ⟨initial _ valid, fun past entry future split => ?_⟩
      cases past <;> cases split
  | step _ taken ih =>
      obtain ⟨met, here⟩ := throughout_snoc.mp condition
      obtain ⟨before, within⟩ := ih met (earlier assumed)
      refine ⟨kept assumed before here taken, fun past entry future split => ?_⟩
      rcases snoc_split.mp split with ⟨-, rfl, rfl⟩ | ⟨rest, -, shorter⟩
      · exact before
      · exact within past entry rest shorter

/-- A property which follows from such a fact holds at every point of the run. -/
theorem Runs.always_recorded {met : List ο → σ → ι → Prop} {holds : List ο → σ → Prop}
    {trace : List (Entry σ ι ο)} {state : σ} (run : machine.Runs trace state)
    (condition : Throughout met trace) (given : List (Entry σ ι ο) → Prop)
    (fact : List (Entry σ ι ο) → σ → Prop) (assumed : given trace)
    (earlier : ∀ {trace last}, given (trace ++ [last]) → given trace)
    (initial : ∀ start, machine.Initial start → fact [] start)
    (kept : ∀ {trace last after}, given (trace ++ [last]) → fact trace last.before →
      met (outputs trace) last.before last.input →
      machine.step last.before last.input = .ok (after, last.output) → fact (trace ++ [last]) after)
    (follows : ∀ {trace state}, fact trace state → holds (outputs trace) state) :
    Always holds trace state := by
  obtain ⟨here, within⟩ := run.recorded condition given fact assumed earlier initial kept
  exact ⟨follows here, fun past entry future split => follows (within past entry future split)⟩

/-- Exact conditions. `given` is an assumption about the whole run, `fact` an invariant of the good
part of a run under it; given both, a step from a good point reaches a good point exactly when it
meets the condition. Then a run is good at every point exactly when every step meets the condition. -/
theorem Runs.always_iff_throughout {met : List ο → σ → ι → Prop} {holds : List ο → σ → Prop}
    {trace : List (Entry σ ι ο)} {state : σ} (run : machine.Runs trace state)
    (given : List ο → Prop) (fact : List ο → σ → Prop) (assumed : given (outputs trace))
    (earlier : ∀ {past output}, given (past ++ output) → given past)
    (factInitial : ∀ start, machine.Initial start → fact [] start)
    (factKept : ∀ {past before input after output}, given (past ++ output) → fact past before →
      machine.step before input = .ok (after, output) → holds (past ++ output) after →
        fact (past ++ output) after)
    (initial : ∀ start, machine.Initial start → holds [] start)
    (exact_step : ∀ {past before input after output}, given (past ++ output) → fact past before →
      holds past before → machine.step before input = .ok (after, output) →
        (holds (past ++ output) after ↔ met past before input)) :
    Always holds trace state ↔ Throughout met trace := by
  have known : (Always holds trace state → fact (outputs trace) state) ∧
      (Always holds trace state ↔ Throughout met trace) := by
    induction run with
    | initial valid => exact ⟨fun _ => factInitial _ valid, by simp [initial _ valid]⟩
    | step _ taken ih =>
        rw [outputs_append, outputs_singleton] at assumed ⊢
        obtain ⟨factBefore, same⟩ := ih (earlier assumed)
        constructor
        · intro always
          obtain ⟨before, here⟩ := always_snoc.mp always
          exact factKept assumed (factBefore before) taken here
        · rw [always_snoc, throughout_snoc, ← same]
          refine and_congr_right fun before => ?_
          exact exact_step assumed (factBefore before) before.here taken
  exact known.2

/-- Exact conditions for the runs whose steps all lie in a domain. -/
theorem Runs.always_iff_throughout_within {dom met : List ο → σ → ι → Prop}
    {holds : List ο → σ → Prop} {trace : List (Entry σ ι ο)} {state : σ}
    (run : machine.Runs trace state) (within : Throughout dom trace) (fact : List ο → σ → Prop)
    (factInitial : ∀ start, machine.Initial start → fact [] start)
    (factKept : ∀ {past before input after output}, dom past before input → fact past before →
      machine.step before input = .ok (after, output) → holds (past ++ output) after →
        fact (past ++ output) after)
    (initial : ∀ start, machine.Initial start → holds [] start)
    (exact_step : ∀ {past before input after output}, dom past before input → fact past before →
      holds past before → machine.step before input = .ok (after, output) →
        (holds (past ++ output) after ↔ met past before input)) :
    Always holds trace state ↔ Throughout met trace := by
  have known : (Always holds trace state → fact (outputs trace) state) ∧
      (Always holds trace state ↔ Throughout met trace) := by
    induction run with
    | initial valid => exact ⟨fun _ => factInitial _ valid, by simp [initial _ valid]⟩
    | step _ taken ih =>
        obtain ⟨earlier, here⟩ := throughout_snoc.mp within
        obtain ⟨factBefore, same⟩ := ih earlier
        constructor
        · intro always
          obtain ⟨before, now⟩ := always_snoc.mp always
          rw [outputs_append, outputs_singleton]
          exact factKept here (factBefore before) taken now
        · rw [always_snoc, throughout_snoc, ← same]
          refine and_congr_right fun before => ?_
          exact exact_step here (factBefore before) before.here taken
  exact known.2

/-- A relation between a state, an input, the next state and what is put out holds of every step of
the run. -/
def EveryStep (machine : Machine σ ι ο ε) (good : σ → ι → σ → List ο → Prop)
    (trace : List (Entry σ ι ο)) : Prop :=
  ∀ entry ∈ trace, ∀ after, machine.step entry.before entry.input = .ok (after, entry.output) →
    good entry.before entry.input after entry.output

/-- Every entry of a record is a step from a state in which every invariant holds. -/
theorem Runs.entry {holds : σ → Prop} {trace : List (Entry σ ι ο)} {state : σ}
    (run : machine.Runs trace state)
    (initial : ∀ start, machine.Initial start → holds start)
    (kept : ∀ {before input after output}, holds before →
      machine.step before input = .ok (after, output) → holds after)
    {entry : Entry σ ι ο} (member : entry ∈ trace) :
    holds entry.before ∧
      ∃ after, machine.step entry.before entry.input = .ok (after, entry.output) := by
  induction run with
  | initial valid => cases member
  | step prior taken ih =>
      rcases List.mem_append.mp member with earlier | last
      · exact ih earlier
      · obtain rfl := List.mem_singleton.mp last
        exact ⟨prior.invariant initial kept, _, taken⟩

/-- Every entry of a record is a step. -/
theorem Runs.taken {trace : List (Entry σ ι ο)} {state : σ} (run : machine.Runs trace state)
    {entry : Entry σ ι ο} (member : entry ∈ trace) :
    ∃ after, machine.step entry.before entry.input = .ok (after, entry.output) := by
  have anything : ∀ start, machine.Initial start → (fun _ => True) start := fun _ _ => trivial
  exact (run.entry anything (fun _ _ => trivial) member).2

/-- One entry of a record leads to the next. -/
def LeadsTo (machine : Machine σ ι ο ε) (entry next : Entry σ ι ο) : Prop :=
  machine.step entry.before entry.input = .ok (next.before, entry.output)

/-- The entries of a record lead from one to the next, and the last one to where the run ends. -/
theorem Runs.chain {trace : List (Entry σ ι ο)} {state : σ} (run : machine.Runs trace state) :
    trace.IsChain machine.LeadsTo ∧
      ∀ last ∈ trace.getLast?, machine.step last.before last.input = .ok (state, last.output) := by
  induction run with
  | initial valid => exact ⟨.nil, fun last member => by cases member⟩
  | step prior taken ih =>
      obtain ⟨chain, ends⟩ := ih
      constructor
      · refine List.isChain_append.mpr ⟨chain, .singleton _, fun last member next first => ?_⟩
        obtain rfl : _ = next := by simpa using first
        exact ends last member
      · intro last member
        obtain rfl : _ = last := by simpa using member
        exact taken

/-- A run which ends with a step is a run up to it, and the step. -/
theorem runs_snoc {trace : List (Entry σ ι ο)} {last : Entry σ ι ο} {state : σ} :
    machine.Runs (trace ++ [last]) state ↔
      machine.Runs trace last.before ∧
        machine.step last.before last.input = .ok (state, last.output) := by
  constructor
  · intro run
    generalize whole : trace ++ [last] = entries at run
    cases run with
    | initial valid => simp at whole
    | step prior taken =>
        obtain ⟨rfl, same⟩ := List.append_inj' whole rfl
        obtain rfl := List.singleton_inj.mp same
        exact ⟨prior, taken⟩
  · rintro ⟨prior, taken⟩
    exact prior.step taken

/-- What one step of a run establishes and every step keeps holds at its end. -/
theorem Runs.since {holds : List ο → σ → Prop} {past later : List (Entry σ ι ο)}
    {first : Entry σ ι ο} {state : σ} (run : machine.Runs (past ++ first :: later) state)
    (start : ∀ next, machine.step first.before first.input = .ok (next, first.output) →
      holds (outputs past ++ first.output) next)
    (kept : ∀ {past before input after output}, holds past before →
      machine.step before input = .ok (after, output) → holds (past ++ output) after) :
    holds (outputs (past ++ first :: later)) state := by
  induction later using List.reverseRecOn generalizing state with
  | nil =>
      rw [outputs_append, outputs_singleton]
      exact start _ (runs_snoc.mp run).2
  | append_singleton front last ih =>
      rw [← List.cons_append, ← List.append_assoc] at run ⊢
      obtain ⟨prior, taken⟩ := runs_snoc.mp run
      rw [outputs_append, outputs_singleton]
      exact kept (ih prior) taken

/-- What the step behind one entry establishes and the steps in between keep holds before a later
one. -/
theorem Runs.carry {holds : σ → Prop} {past between future : List (Entry σ ι ο)}
    {first last : Entry σ ι ο} {state : σ}
    (run : machine.Runs (past ++ first :: (between ++ last :: future)) state)
    (start : ∀ next, machine.step first.before first.input = .ok (next, first.output) → holds next)
    (kept : ∀ entry ∈ between, ∀ next, holds entry.before →
      machine.step entry.before entry.input = .ok (next, entry.output) → holds next) :
    holds last.before := by
  induction between generalizing past first with
  | nil =>
      have chain := (List.isChain_append.mp run.chain.1).2.1
      exact start _ (List.isChain_cons_cons.mp chain).1
  | cons entry rest ih =>
      have chain := (List.isChain_append.mp run.chain.1).2.1
      have before : holds entry.before := start _ (List.isChain_cons_cons.mp chain).1
      have shifted : machine.Runs ((past ++ [first]) ++ entry :: (rest ++ last :: future)) state := by
        simpa using run
      refine ih shifted (fun next taken => ?_) fun other member => ?_
      · exact kept entry List.mem_cons_self next before taken
      · exact kept other (List.mem_cons_of_mem entry member)

/-- Given an invariant under which a step is good exactly when its input meets a condition: every
step of a run is good exactly when every input meets the condition. -/
theorem Runs.everyStep_iff {good : σ → ι → σ → List ο → Prop} {met : σ → ι → Prop}
    {trace : List (Entry σ ι ο)} {state : σ} (run : machine.Runs trace state) (fact : σ → Prop)
    (factInitial : ∀ start, machine.Initial start → fact start)
    (factKept : ∀ {before input after output}, fact before →
      machine.step before input = .ok (after, output) → fact after)
    (exact_step : ∀ {before input after output}, fact before →
      machine.step before input = .ok (after, output) →
        (good before input after output ↔ met before input)) :
    machine.EveryStep good trace ↔ ∀ entry ∈ trace, met entry.before entry.input := by
  constructor
  · intro all entry member
    obtain ⟨known, after, taken⟩ := run.entry factInitial factKept member
    exact (exact_step known taken).mp (all entry member after taken)
  · intro all entry member after taken
    have known := (run.entry factInitial factKept member).1
    exact (exact_step known taken).mpr (all entry member)

/-- A condition checked along a record, from some past on. -/
def MeetsAll (met : List ο → σ → ι → Prop) : List ο → List (Entry σ ι ο) → Prop
  | _, [] => True
  | past, entry :: rest =>
      met past entry.before entry.input ∧ MeetsAll met (past ++ entry.output) rest

instance MeetsAll.decidable {met : List ο → σ → ι → Prop}
    [each : ∀ past state input, Decidable (met past state input)] :
    (past : List ο) → (trace : List (Entry σ ι ο)) → Decidable (MeetsAll met past trace)
  | _, [] => .isTrue trivial
  | past, entry :: rest =>
      @instDecidableAnd _ _ (each past entry.before entry.input)
        (MeetsAll.decidable (past ++ entry.output) rest)

theorem meetsAll_append {met : List ο → σ → ι → Prop} {past : List ο}
    {first second : List (Entry σ ι ο)} :
    MeetsAll met past (first ++ second) ↔
      MeetsAll met past first ∧ MeetsAll met (past ++ outputs first) second := by
  induction first generalizing past with
  | nil => simp [MeetsAll]
  | cons entry rest ih => simp [MeetsAll, ih, and_assoc, outputs, List.append_assoc]

/-- What is checked along a record is met throughout it. -/
theorem throughout_of_meetsAll {met : List ο → σ → ι → Prop} {trace : List (Entry σ ι ο)}
    (meets : MeetsAll met [] trace) : Throughout met trace := by
  rintro past entry future rfl
  exact (meetsAll_append.mp meets).2.1

/-- Run a list of inputs and keep the record. -/
def exec (machine : Machine σ ι ο ε) :
    List (Entry σ ι ο) → σ → List ι → Except ε (List (Entry σ ι ο) × σ)
  | trace, state, [] => .ok (trace, state)
  | trace, state, input :: inputs =>
      match machine.step state input with
      | .error reason => .error reason
      | .ok (next, output) => machine.exec (trace ++ [⟨state, input, output⟩]) next inputs

/-- What `exec` computes from a run is a run. -/
theorem Runs.exec {trace trace' : List (Entry σ ι ο)} {state state' : σ} {inputs : List ι}
    (run : machine.Runs trace state)
    (computed : machine.exec trace state inputs = .ok (trace', state')) :
    machine.Runs trace' state' := by
  induction inputs generalizing trace state with
  | nil =>
      obtain ⟨rfl, rfl⟩ : trace = trace' ∧ state = state' := by simpa [Machine.exec] using computed
      exact run
  | cons input inputs ih =>
      simp only [Machine.exec] at computed
      split at computed
      · cases computed
      · rename_i next output taken
        exact ih (run.step taken) computed

/-- The inputs are recorded as they were given. -/
theorem exec_inputs {trace trace' : List (Entry σ ι ο)} {state state' : σ} {inputs : List ι}
    (computed : machine.exec trace state inputs = .ok (trace', state')) :
    trace'.map Entry.input = trace.map Entry.input ++ inputs := by
  induction inputs generalizing trace state with
  | nil =>
      obtain ⟨rfl, rfl⟩ : trace = trace' ∧ state = state' := by simpa [Machine.exec] using computed
      simp
  | cons input inputs ih =>
      simp only [Machine.exec] at computed
      split at computed
      · cases computed
      · simpa using ih computed

/-- What is computed from an initial state is a run. -/
theorem Runs.of_exec {start : σ} {inputs : List ι} {result : List (Entry σ ι ο) × σ}
    (valid : machine.Initial start) (computed : machine.exec [] start inputs = .ok result) :
    machine.Runs result.1 result.2 :=
  (Runs.initial valid).exec computed

end Machine
end Http2Rtsp.Semantics
