import Mathlib.Data.List.DropRight
import Http2Rtsp.Semantics.Machine

/-!
# What goes through a machine

Items come into a machine, stay inside for a while and go out of it; some steps
reset it, and nothing is inside then. If every other step keeps the account, then
behind the last reset what has come in is what has gone out and what is inside:
as a whole, and in its order as well when the machine is a queue.
-/

namespace Http2Rtsp.Semantics.Machine

universe u v

variable {σ ι ο ε : Type u} {α : Type v} {machine : Machine σ ι ο ε}

/-- The steps of a record behind the last one which resets. -/
def sinceReset (resets : Entry σ ι ο → Bool) (trace : List (Entry σ ι ο)) : List (Entry σ ι ο) :=
  trace.rtakeWhile fun entry => !resets entry

section Snoc

variable {resets : Entry σ ι ο → Bool} {trace : List (Entry σ ι ο)} {last : Entry σ ι ο}

@[simp] theorem sinceReset_nil : sinceReset resets [] = [] := rfl

/-- Behind a reset there is no step yet. -/
theorem sinceReset_reset (reset : resets last = true) : sinceReset resets (trace ++ [last]) = [] :=
  List.rtakeWhile_concat_neg _ _ _ (by simp [reset])

/-- Any other step is one more. -/
theorem sinceReset_step (goesOn : resets last = false) :
    sinceReset resets (trace ++ [last]) = sinceReset resets trace ++ [last] :=
  List.rtakeWhile_concat_pos _ _ _ (by simp [goesOn])

end Snoc

/-- What comes in and what goes out in a step, what is inside, and the steps which reset. -/
structure Flow (σ ι ο : Type u) (α : Type v) where
  comes : Entry σ ι ο → List α
  goes : Entry σ ι ο → List α
  inside : σ → List α
  resets : Entry σ ι ο → Bool

namespace Flow

variable (flow : Flow σ ι ο α)

/-- What has come in since the last reset. -/
def come (trace : List (Entry σ ι ο)) : List α := (sinceReset flow.resets trace).flatMap flow.comes

/-- What has gone out since then. -/
def gone (trace : List (Entry σ ι ο)) : List α := (sinceReset flow.resets trace).flatMap flow.goes

/-- A step keeps the account: nothing gets lost, doubled or made up. -/
structure Keeps (entry : Entry σ ι ο) (after : σ) : Prop where
  empty : flow.resets entry = true → flow.inside after = []
  balance : flow.resets entry = false →
    (flow.inside entry.before ++ flow.comes entry).Perm (flow.goes entry ++ flow.inside after)

/-- A step is one of a queue: what comes in goes to the end, and what goes out was in front. -/
structure Queues (entry : Entry σ ι ο) (after : σ) : Prop where
  empty : flow.resets entry = true → flow.inside after = []
  order : flow.resets entry = false →
    flow.inside entry.before ++ flow.comes entry = flow.goes entry ++ flow.inside after

variable {flow}

theorem conserved_snoc {trace : List (Entry σ ι ο)} {last : Entry σ ι ο} {after : σ}
    (before : (flow.come trace).Perm (flow.gone trace ++ flow.inside last.before))
    (keeps : flow.Keeps last after) :
    (flow.come (trace ++ [last])).Perm (flow.gone (trace ++ [last]) ++ flow.inside after) := by
  by_cases reset : flow.resets last = true
  · simp [come, gone, sinceReset_reset reset, keeps.empty reset]
  · rw [Bool.not_eq_true] at reset
    simp only [come, gone] at before
    simp only [come, gone, sinceReset_step reset, List.flatMap_append, List.flatMap_singleton]
    refine (before.append_right _).trans ?_
    rw [List.append_assoc, List.append_assoc]
    exact (keeps.balance reset).append_left _

theorem ordered_snoc {trace : List (Entry σ ι ο)} {last : Entry σ ι ο} {after : σ}
    (before : flow.come trace = flow.gone trace ++ flow.inside last.before)
    (queues : flow.Queues last after) :
    flow.come (trace ++ [last]) = flow.gone (trace ++ [last]) ++ flow.inside after := by
  by_cases reset : flow.resets last = true
  · simp [come, gone, sinceReset_reset reset, queues.empty reset]
  · rw [Bool.not_eq_true] at reset
    simp only [come, gone] at before
    simp only [come, gone, sinceReset_step reset, List.flatMap_append, List.flatMap_singleton]
    rw [before, List.append_assoc, queues.order reset, List.append_assoc]

end Flow

/-- What has come in since the last reset is what has gone out and what is inside. -/
theorem Runs.conserved {flow : Flow σ ι ο α} {trace : List (Entry σ ι ο)} {state : σ}
    (run : machine.Runs trace state)
    (initial : ∀ start, machine.Initial start → flow.inside start = [])
    (keeps : ∀ {last : Entry σ ι ο} {after : σ},
      machine.step last.before last.input = .ok (after, last.output) → flow.Keeps last after) :
    (flow.come trace).Perm (flow.gone trace ++ flow.inside state) := by
  induction run with
  | initial valid => simp [Flow.come, Flow.gone, initial _ valid]
  | step _ taken ih => exact Flow.conserved_snoc ih (keeps taken)

/-- It is so in order, when under a condition, with the help of an invariant, every step is one of a
queue. -/
theorem Runs.inOrder {flow : Flow σ ι ο α} {met : List ο → σ → ι → Prop}
    {trace : List (Entry σ ι ο)} {state : σ} (run : machine.Runs trace state)
    (condition : Throughout met trace) (fact : σ → Prop)
    (initial : ∀ start, machine.Initial start → flow.inside start = [] ∧ fact start)
    (kept : ∀ {past : List ο} {last : Entry σ ι ο} {after : σ}, fact last.before →
      met past last.before last.input →
      machine.step last.before last.input = .ok (after, last.output) →
        flow.Queues last after ∧ fact after) :
    flow.come trace = flow.gone trace ++ flow.inside state := by
  have known := run.recorded condition (fun _ => True)
    (fun trace s => flow.come trace = flow.gone trace ++ flow.inside s ∧ fact s) trivial
    (fun _ => trivial)
    (fun start valid => ⟨by simp [Flow.come, Flow.gone, (initial start valid).1],
      (initial start valid).2⟩)
    fun _ ⟨ordered, fact⟩ here taken => by
      obtain ⟨queues, factAfter⟩ := kept fact here taken
      exact ⟨Flow.ordered_snoc ordered queues, factAfter⟩
  exact known.1.1

end Http2Rtsp.Semantics.Machine
