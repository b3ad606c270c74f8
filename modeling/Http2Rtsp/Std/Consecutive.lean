import Mathlib.Data.List.Chain

/-!
# Consecutive numbers

`Counts first numbers next` says that the numbers count up from `first` on and
that `next` is the one to go on with, so that two such lists can be joined where
one of them ends. Nothing is asked of the numbers but a successor: a counter
which wraps around counts as well.
-/

namespace Http2Rtsp.Std

variable {α : Type*} [Add α] [One α]

/-- Every number but the first is the successor of the one in front of it. -/
def Consecutive (numbers : List α) : Prop :=
  numbers.IsChain fun number next => next = number + 1

instance [DecidableEq α] (numbers : List α) : Decidable (Consecutive numbers) :=
  inferInstanceAs (Decidable (List.IsChain _ _))

/-- The numbers from `first` on, in order; `next` is the one behind them. -/
inductive Counts : α → List α → α → Prop where
  | done {first} : Counts first [] first
  | more {first rest next} (later : Counts (first + 1) rest next) :
      Counts first (first :: rest) next

/-- One number. -/
theorem Counts.one (number : α) : Counts number [number] (number + 1) := .more .done

/-- The next numbers are counted on. -/
theorem Counts.append {first middle last : α} {numbers more : List α}
    (counts : Counts first numbers middle) (continued : Counts middle more last) :
    Counts first (numbers ++ more) last := by
  induction counts with
  | done => exact continued
  | more _ ih => exact .more (ih continued)

/-- Numbers which are counted up follow each other, from the first one on. -/
theorem Counts.consecutive {first next : α} {numbers : List α} (counts : Counts first numbers next) :
    Consecutive numbers := by
  induction counts with
  | done => exact .nil
  | more later ih =>
      cases later with
      | done => exact .singleton _
      | more _ => exact .cons_cons rfl ih

end Http2Rtsp.Std
