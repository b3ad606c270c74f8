import Mathlib.Data.List.Basic
import Mathlib.Data.List.Infix

/-!
# Transfers in several calls

A loop hands over a list by calls which take a part of what they are offered. It goes on with the
rest, tries again or gives up, as it reacts to the answer of a call. The answers are an endless
schedule, so a run is cut off after a number of steps; it ends on its own when from some call on the
loop never tries again.
-/

namespace Http2Rtsp.Std

universe u v

/-- What a loop makes of an answer. -/
inductive Reaction where
  /-- `take n` goes on behind `n + 1` elements, or at the end when fewer were offered. -/
  | take (n : Nat)
  | again
  | stop
deriving DecidableEq

/-- One call: what it was offered and its answer. -/
structure Call (α : Type u) (ι : Type v) where
  offered : List α
  answer : ι

variable {α : Type u} {ι : Type v}

/-- How many elements are taken of an offer which is long enough. -/
def Reaction.demand : Reaction → Nat
  | .take n => n + 1
  | .again | .stop => 0

/-- All that was taken along the calls. -/
def delivered (react : ι → Reaction) (calls : List (Call α ι)) : List α :=
  calls.flatMap fun call => call.offered.take (react call.answer).demand

/-- The loop: its calls, and whether it got to the end of the list. -/
def transfer (react : ι → Reaction) :
    Nat → (Nat → ι) → List α → Option (List (Call α ι) × Bool)
  | 0, _, _ => none
  | _ + 1, _, [] => some ([], true)
  | steps + 1, answers, first :: rest =>
      let call : Call α ι := ⟨first :: rest, answers 0⟩
      if react (answers 0) = .stop then some ([call], false) else
        (transfer react steps (fun k => answers (k + 1))
          ((first :: rest).drop (react (answers 0)).demand)).map fun later =>
            (call :: later.1, later.2)

/-- From some call on the loop does not try again. -/
def Settles (react : ι → Reaction) (answers : Nat → ι) : Prop :=
  ∃ bound, ∀ k, bound ≤ k → react (answers k) ≠ .again

/-- What the calls in front of the `k`-th take, when they are offered enough. -/
def demandBefore (react : ι → Reaction) (answers : Nat → ι) : Nat → Nat
  | 0 => 0
  | k + 1 => demandBefore react answers k + (react (answers k)).demand

/-- The loop gives up at a call which is made before everything is taken. -/
def GivesUp (react : ι → Reaction) (answers : Nat → ι) (length : Nat) : Prop :=
  ∃ k, react (answers k) = .stop ∧ demandBefore react answers k < length

variable {react : ι → Reaction}

/-! ## Schedules -/

theorem demandBefore_succ (answers : Nat → ι) (k : Nat) : demandBefore react answers (k + 1) =
    (react (answers 0)).demand + demandBefore react (fun k => answers (k + 1)) k := by
  induction k with
  | zero => exact Nat.add_comm 0 _
  | succ k ih => rw [demandBefore, ih, demandBefore, Nat.add_assoc]

/-- The first answer, and then the others. -/
theorem givesUp_first_iff (answers : Nat → ι) {length : Nat} : GivesUp react answers length ↔
    (react (answers 0) = .stop ∧ 0 < length) ∨
      GivesUp react (fun k => answers (k + 1)) (length - (react (answers 0)).demand) := by
  constructor
  · rintro ⟨k, stops, short⟩
    cases k with
    | zero => exact Or.inl ⟨stops, short⟩
    | succ k =>
        rw [demandBefore_succ] at short
        exact Or.inr ⟨k, stops, by omega⟩
  · rintro (⟨stops, positive⟩ | ⟨k, stops, short⟩)
    · exact ⟨0, stops, positive⟩
    · refine ⟨k + 1, stops, ?_⟩
      rw [demandBefore_succ]
      omega

/-- Nothing is given up of an empty list. -/
theorem not_givesUp_zero (answers : Nat → ι) : ¬ GivesUp react answers 0 := by
  rintro ⟨k, -, short⟩
  exact Nat.not_lt_zero _ short

/-! ## Runs -/

/-- A step in front of the end of the list. -/
theorem transfer_of_ne_nil {list : List α} (nonempty : list ≠ []) (steps : Nat)
    (answers : Nat → ι) : transfer react (steps + 1) answers list =
      if react (answers 0) = .stop then some ([⟨list, answers 0⟩], false) else
        (transfer react steps (fun k => answers (k + 1))
          (list.drop (react (answers 0)).demand)).map fun later =>
            (⟨list, answers 0⟩ :: later.1, later.2) := by
  obtain ⟨first, rest, rfl⟩ := List.exists_cons_of_ne_nil nonempty
  rfl

@[simp] theorem delivered_nil : delivered react ([] : List (Call α ι)) = [] := rfl

@[simp] theorem delivered_cons (call : Call α ι) (calls : List (Call α ι)) :
    delivered react (call :: calls) =
      call.offered.take (react call.answer).demand ++ delivered react calls := rfl

/-- What a run records: what was taken begins the list, and is all of it exactly when the loop got to
the end; else a call made it give up, as the schedule says. -/
structure Transferred (react : ι → Reaction) (answers : Nat → ι) (list : List α)
    (calls : List (Call α ι)) (whole : Bool) : Prop where
  inOrder : delivered react calls <+: list
  whole_iff : whole = true ↔ delivered react calls = list
  stopped_iff : whole = false ↔ ∃ call ∈ calls, react call.answer = .stop
  givesUp_iff : whole = false ↔ GivesUp react answers list.length

section Runs

variable {answers : Nat → ι} {list : List α} {calls : List (Call α ι)} {whole : Bool}

/-- Nothing is left. -/
theorem Transferred.nil (answers : Nat → ι) :
    Transferred react answers ([] : List α) [] true where
  inOrder := List.nil_prefix
  whole_iff := by simp
  stopped_iff := by simp
  givesUp_iff := iff_of_false (by simp) (not_givesUp_zero answers)

/-- The loop gives up at its first call. -/
theorem Transferred.stop (nonempty : list ≠ []) (stops : react (answers 0) = .stop) :
    Transferred react answers list [⟨list, answers 0⟩] false where
  inOrder := by simp [stops, Reaction.demand]
  whole_iff := by simpa [stops, Reaction.demand] using nonempty.symm
  stopped_iff := by simp [stops]
  givesUp_iff := by
    have positive := List.length_pos_iff.mpr nonempty
    exact iff_of_true rfl ((givesUp_first_iff answers).mpr (Or.inl ⟨stops, positive⟩))

/-- The first call takes something or is tried again, and the loop goes on with the rest. -/
theorem Transferred.onward (goes : react (answers 0) ≠ .stop)
    (later : Transferred react (fun k => answers (k + 1))
      (list.drop (react (answers 0)).demand) calls whole) :
    Transferred react answers list (⟨list, answers 0⟩ :: calls) whole where
  inOrder := by
    rw [delivered_cons]
    obtain ⟨rest, same⟩ := later.inOrder
    refine ⟨rest, ?_⟩
    rw [List.append_assoc, same, List.take_append_drop]
  whole_iff := by
    rw [delivered_cons, later.whole_iff]
    constructor
    · intro same
      rw [same, List.take_append_drop]
    · intro same
      exact List.append_cancel_left (same.trans (List.take_append_drop _ list).symm)
  stopped_iff := by
    rw [later.stopped_iff]
    simp [goes]
  givesUp_iff := by
    rw [later.givesUp_iff, givesUp_first_iff answers, List.length_drop]
    simp [goes]

/-- Every run which ends is such a transfer. -/
theorem transfer_transferred {steps : Nat}
    (ran : transfer react steps answers list = some (calls, whole)) :
    Transferred react answers list calls whole := by
  induction steps generalizing answers list calls with
  | zero => cases ran
  | succ steps ih =>
      cases list with
      | nil =>
          cases ran
          exact .nil answers
      | cons first rest =>
          rw [transfer] at ran
          split at ran
          · rename_i stops
            cases ran
            exact .stop (List.cons_ne_nil first rest) stops
          · rename_i goes
            obtain ⟨⟨later, _⟩, computed, same⟩ := Option.map_eq_some_iff.mp ran
            cases same
            exact .onward goes (ih computed)

end Runs

/-- A loop which settles ends: each step takes something, or one try less is left. -/
theorem transfer_ends {answers : Nat → ι} (settles : Settles react answers) (list : List α) :
    ∃ steps result, transfer react steps answers list = some result := by
  obtain ⟨bound, settled⟩ := settles
  suffices ends : ∀ steps, bound + list.length < steps →
      ∃ result, transfer react steps answers list = some result by
    obtain ⟨result, computed⟩ := ends _ (Nat.lt_succ_self _)
    exact ⟨_, result, computed⟩
  intro steps enough
  induction steps generalizing answers list bound with
  | zero => omega
  | succ steps ih =>
      cases list with
      | nil => exact ⟨_, rfl⟩
      | cons first rest =>
          rw [transfer]
          split
          · exact ⟨_, rfl⟩
          · rename_i goes
            have shorter : bound - 1 + ((first :: rest).drop (react (answers 0)).demand).length <
                steps := by
              rw [List.length_drop]
              rw [List.length_cons] at enough ⊢
              cases reaction : react (answers 0) with
              | stop => exact absurd reaction goes
              | take n =>
                  simp only [Reaction.demand]
                  omega
              | again =>
                  have positive : 0 < bound := by
                    by_contra zero
                    exact settled 0 (by omega) reaction
                  simp only [Reaction.demand]
                  omega
            obtain ⟨result, computed⟩ := ih _ (bound - 1)
              (fun k from_ => settled (k + 1) (by omega)) shorter
            rw [computed]
            exact ⟨_, rfl⟩

end Http2Rtsp.Std
