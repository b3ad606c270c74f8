import Mathlib.Data.List.Basic

/-!
# Which elements of a list have a property

Exactly the first, and exactly the last: what a framing says of the flags which
open and close a message that is sent in parts.
-/

namespace Http2Rtsp.Std

variable {α : Type} {p : α → Prop} {head : α} {tail : List α}

/-- The property holds of the first element and of no other. -/
def OnlyFirst (p : α → Prop) (l : List α) : Prop :=
  ∀ index (inside : index < l.length), p l[index] ↔ index = 0

/-- The property holds of the last element and of no other. -/
def OnlyLast (p : α → Prop) (l : List α) : Prop :=
  ∀ index (inside : index < l.length), p l[index] ↔ index + 1 = l.length

/-- A head with the property and a tail without. -/
theorem onlyFirst_cons : OnlyFirst p (head :: tail) ↔ p head ∧ ∀ element ∈ tail, ¬ p element := by
  constructor
  · intro only
    refine ⟨(only 0 (by simp)).mpr rfl, fun element member holds => ?_⟩
    obtain ⟨index, inside, rfl⟩ := List.getElem_of_mem member
    have first := (only (index + 1) (by simpa using inside)).mp holds
    omega
  · rintro ⟨first, others⟩ index inside
    cases index with
    | zero => simp [first]
    | succ index => simpa using others _ (List.getElem_mem (by simpa using inside))

/-- A single element is the last one. -/
theorem onlyLast_singleton : OnlyLast p [head] ↔ p head := by
  constructor
  · intro only
    exact (only 0 (by simp)).mpr rfl
  · intro holds index inside
    obtain rfl : index = 0 := by simpa using inside
    simp [holds]

/-- In front of other elements, the head is not the last one. -/
theorem onlyLast_cons (more : tail ≠ []) :
    OnlyLast p (head :: tail) ↔ ¬ p head ∧ OnlyLast p tail := by
  have positive : tail.length ≠ 0 := by simpa using more
  constructor
  · intro only
    refine ⟨fun holds => ?_, fun index inside => ?_⟩
    · have last := (only 0 (by simp)).mp holds
      simp only [List.length_cons] at last
      omega
    · have shifted := only (index + 1) (by simpa using inside)
      simpa using shifted
  · rintro ⟨head_not, only⟩ index inside
    cases index with
    | zero =>
        simp only [List.getElem_cons_zero, List.length_cons]
        exact iff_of_false head_not (by omega)
    | succ index => simpa using only index (by simpa using inside)

/-- A list has one element with the property: wherever one is found, it is that one. -/
theorem split_unique {before later front back : List α} {found only : α}
    (same : before ++ found :: later = front ++ only :: back) (holds : p found)
    (front_not : ∀ element ∈ front, ¬ p element) (back_not : ∀ element ∈ back, ¬ p element) :
    before = front ∧ found = only ∧ later = back := by
  rcases List.append_eq_append_iff.mp same with ⟨between, rfl, rest⟩ | ⟨between, rfl, rest⟩
  · cases between with
    | nil =>
        obtain ⟨rfl, rfl⟩ := List.cons.inj rest
        simp
    | cons first between =>
        obtain ⟨rfl, -⟩ := List.cons.inj rest
        exact absurd holds (front_not _ (List.mem_append_right _ List.mem_cons_self))
  · cases between with
    | nil =>
        obtain ⟨rfl, rfl⟩ := List.cons.inj rest
        simp
    | cons first between =>
        obtain ⟨-, rfl⟩ := List.cons.inj rest
        exact absurd holds (back_not _ (List.mem_append_right _ List.mem_cons_self))

end Http2Rtsp.Std
