import Mathlib.Logic.Relation
import Http2Rtsp.Semantics.Machine

/-!
# Machines which follow each other

A coarse machine follows a fine one when each of its steps is some steps of the fine one,
between states which belong together. What holds wherever the fine machine gets to then holds, through
the relation, at every point of the coarse one's runs. Where it matters what the steps put out, the
records are matched as well, part by part.
-/

namespace Http2Rtsp.Semantics.Machine

universe u v

variable {σ ι ο ε : Type u} {τ κ π δ : Type v}

/-- Some input takes the machine from one state to another. -/
def Moves (machine : Machine σ ι ο ε) (before after : σ) : Prop :=
  ∃ input output, machine.step before input = .ok (after, output)

/-- Any number of moves. -/
def Reaches (machine : Machine σ ι ο ε) : σ → σ → Prop := Relation.ReflTransGen machine.Moves

/-- A run goes on with any moves. -/
theorem Runs.reaches {machine : Machine σ ι ο ε} {trace : List (Entry σ ι ο)} {state after : σ}
    (run : machine.Runs trace state) (reaches : machine.Reaches state after) :
    ∃ trace', machine.Runs trace' after := by
  induction reaches with
  | refl => exact ⟨trace, run⟩
  | tail _ moves ih =>
      obtain ⟨trace', prior⟩ := ih
      obtain ⟨input, output, taken⟩ := moves
      exact ⟨_, prior.step taken⟩

/-- Under a condition on its steps, the coarse machine follows the fine one through a relation. -/
structure Follows (coarse : Machine σ ι ο ε) (fine : Machine τ κ π δ)
    (met : List ο → σ → ι → Prop) (relation : σ → τ → Prop) : Prop where
  initial : ∀ start, coarse.Initial start → ∃ first, fine.Initial first ∧ relation start first
  step : ∀ {past before input after output model}, relation before model → met past before input →
    coarse.step before input = .ok (after, output) →
      ∃ next, fine.Reaches model next ∧ relation after next

section Follows

variable {coarse : Machine σ ι ο ε} {fine : Machine τ κ π δ} {met : List ο → σ → ι → Prop}
  {relation : σ → τ → Prop} {trace : List (Entry σ ι ο)} {state : σ}

/-- At every point of a coarse run there is a fine one which has got to a related state. -/
theorem Follows.runs (follows : Follows coarse fine met relation) (run : coarse.Runs trace state)
    (condition : Throughout met trace) :
    Always (fun _ s => ∃ trace' model, fine.Runs trace' model ∧ relation s model) trace state := by
  apply run.always_under condition
  · intro start initial
    obtain ⟨first, valid, related⟩ := follows.initial start initial
    exact ⟨[], first, .initial valid, related⟩
  · rintro past before input after output ⟨trace', model, prior, related⟩ here taken
    obtain ⟨next, reaches, relatedNext⟩ := follows.step related here taken
    obtain ⟨trace'', later⟩ := prior.reaches reaches
    exact ⟨trace'', next, later, relatedNext⟩

/-- What is known wherever the fine machine gets to holds at every point of a coarse run. -/
theorem Follows.always (follows : Follows coarse fine met relation) (run : coarse.Runs trace state)
    (condition : Throughout met trace) {known : τ → Prop} {good : σ → Prop}
    (safe : ∀ {trace' model}, fine.Runs trace' model → known model)
    (shown : ∀ {s model}, relation s model → known model → good s) :
    Always (fun _ => good) trace state := by
  refine (follows.runs run condition).imp fun past s reached => ?_
  obtain ⟨trace', model, prior, related⟩ := reached
  exact shown related (safe prior)

end Follows

/-! ## Matching the record -/

/-- What a step cannot bring about holds of a whole run if it holds at its end. -/
theorem Runs.always_of_end {machine : Machine σ ι ο ε} {trace : List (Entry σ ι ο)} {state : σ}
    {holds : σ → Prop} (run : machine.Runs trace state)
    (back : ∀ {before input after output}, machine.step before input = .ok (after, output) →
      holds after → holds before) (last : holds state) : Always (fun _ => holds) trace state := by
  induction run with
  | initial valid => simpa using last
  | step prior taken ih => exact always_snoc.mpr ⟨ih (back taken last), last⟩

/-- Steps from a state on, with their record. -/
inductive Steps (machine : Machine σ ι ο ε) (state : σ) : List (Entry σ ι ο) → σ → Prop where
  | refl : Steps machine state [] state
  | step {trace current input next output} (prior : Steps machine state trace current)
      (taken : machine.step current input = .ok (next, output)) :
      Steps machine state (trace ++ [⟨current, input, output⟩]) next

/-- A run goes on with any steps. -/
theorem Runs.steps {machine : Machine σ ι ο ε} {trace more : List (Entry σ ι ο)} {state after : σ}
    (run : machine.Runs trace state) (steps : machine.Steps state more after) :
    machine.Runs (trace ++ more) after := by
  induction steps with
  | refl => rwa [List.append_nil]
  | step _ taken ih =>
      rw [← List.append_assoc]
      exact ih.step taken

/-- The fine record can be cut into parts, one for each step of the coarse one. -/
def Matched (fits : Entry σ ι ο → List (Entry τ κ π) → Prop) (trace : List (Entry σ ι ο))
    (trace' : List (Entry τ κ π)) : Prop :=
  ∃ parts : List (List (Entry τ κ π)), parts.flatten = trace' ∧ List.Forall₂ fits trace parts

section Matched

variable {fits : Entry σ ι ο → List (Entry τ κ π) → Prop} {trace : List (Entry σ ι ο)}
  {trace' : List (Entry τ κ π)}

theorem Matched.nil : Matched fits [] [] := ⟨[], rfl, .nil⟩

theorem Matched.snoc {last : Entry σ ι ο} {more : List (Entry τ κ π)} (matched : Matched fits trace trace')
    (here : fits last more) : Matched fits (trace ++ [last]) (trace' ++ more) := by
  obtain ⟨parts, rfl, each⟩ := matched
  refine ⟨parts ++ [more], by simp, ?_⟩
  exact List.rel_append each (.cons here .nil)

/-- What is read off each step and off its part alike is read off both records alike. -/
theorem Matched.flatMap {β : Type*} {f : Entry σ ι ο → List β} {g : Entry τ κ π → List β}
    (matched : Matched fits trace trace')
    (same : ∀ entry part, fits entry part → part.flatMap g = f entry) :
    trace'.flatMap g = trace.flatMap f := by
  obtain ⟨parts, rfl, each⟩ := matched
  induction each with
  | nil => rfl
  | cons here _ ih =>
      rw [List.flatten_cons, List.flatMap_append, same _ _ here, ih, List.flatMap_cons]

/-- What holds of the entries of each part holds of all of them. -/
theorem Matched.forall {good : Entry τ κ π → Prop} (matched : Matched fits trace trace')
    (each : ∀ entry part, fits entry part → ∀ other ∈ part, good other) : ∀ other ∈ trace', good other := by
  obtain ⟨parts, rfl, all⟩ := matched
  induction all with
  | nil => simp
  | cons here _ ih =>
      intro other member
      rcases List.mem_append.mp member with first | later
      · exact each _ _ here other first
      · exact ih other later

end Matched

/-- Where nothing but `ok` states is met, each step of the coarse machine is matched by some steps of
the fine one between states which are related by then. -/
structure Simulates (coarse : Machine σ ι ο ε) (fine : Machine τ κ π δ) (ok : σ → Prop)
    (met : List ο → σ → ι → Prop) (relation : List (Entry σ ι ο) → σ → τ → Prop)
    (fits : Entry σ ι ο → List (Entry τ κ π) → Prop) : Prop where
  initial : ∀ start, coarse.Initial start → ok start →
    ∃ first, fine.Initial first ∧ relation [] start first
  step : ∀ {trace trace' before input after output model}, fine.Runs trace' model →
    relation trace before model → ok before → ok after → met (outputs trace) before input →
      coarse.step before input = .ok (after, output) →
        ∃ more next, fine.Steps model more next ∧
          relation (trace ++ [⟨before, input, output⟩]) after next ∧ fits ⟨before, input, output⟩ more

/-- A run of the coarse machine is matched by one of the fine machine. -/
theorem Simulates.runs {coarse : Machine σ ι ο ε} {fine : Machine τ κ π δ} {ok : σ → Prop}
    {met : List ο → σ → ι → Prop} {relation : List (Entry σ ι ο) → σ → τ → Prop}
    {fits : Entry σ ι ο → List (Entry τ κ π) → Prop} {trace : List (Entry σ ι ο)} {state : σ}
    (simulates : Simulates coarse fine ok met relation fits) (run : coarse.Runs trace state)
    (all : Always (fun _ => ok) trace state) (condition : Throughout met trace) :
    ∃ trace' model, fine.Runs trace' model ∧ relation trace state model ∧
      Matched fits trace trace' := by
  induction run with
  | initial valid =>
      obtain ⟨first, started, related⟩ := simulates.initial _ valid all.here
      exact ⟨[], first, .initial started, related, .nil⟩
  | step prior taken ih =>
      obtain ⟨before, here⟩ := always_snoc.mp all
      obtain ⟨earlier, now⟩ := throughout_snoc.mp condition
      obtain ⟨trace', model, matching, related, matched⟩ := ih before earlier
      obtain ⟨more, next, steps, relatedNext, fit⟩ := simulates.step matching related before.here here now taken
      exact ⟨trace' ++ more, next, matching.steps steps, relatedNext, matched.snoc fit⟩

end Http2Rtsp.Semantics.Machine
