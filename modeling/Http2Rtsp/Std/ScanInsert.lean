import Mathlib.Data.List.DropRight
import Mathlib.Order.Lattice

/-!
# Insertion by a backward scan

A new element is put behind the last element of a list which a test does not
pass over. The test is an arbitrary predicate, so the results say exactly how
far it has to agree with an order for the list to stay sorted.
-/

namespace Http2Rtsp.Std

variable {α β : Type*}

/-- Insert `new` behind the last element of the list on which `pass` fails. -/
def scanInsert (pass : α → Bool) (new : α) (list : List α) : List α :=
  list.rdropWhile pass ++ new :: list.rtakeWhile pass

/-- What the scan keeps and what it passes over make up the list. -/
theorem rdropWhile_append_rtakeWhile (pass : α → Bool) (list : List α) :
    list.rdropWhile pass ++ list.rtakeWhile pass = list := by
  rw [List.rdropWhile, List.rtakeWhile, ← List.reverse_append, List.takeWhile_append_dropWhile,
    List.reverse_reverse]

/-- Insertion adds exactly the new element. -/
theorem scanInsert_perm (pass : α → Bool) (new : α) (list : List α) :
    (scanInsert pass new list).Perm (new :: list) := by
  have moved : (scanInsert pass new list).Perm
      (new :: (list.rdropWhile pass ++ list.rtakeWhile pass)) := List.perm_middle
  rwa [rdropWhile_append_rtakeWhile] at moved

@[simp] theorem mem_scanInsert {pass : α → Bool} {new x : α} {list : List α} :
    x ∈ scanInsert pass new list ↔ x = new ∨ x ∈ list := by
  rw [(scanInsert_perm pass new list).mem_iff, List.mem_cons]

@[simp] theorem length_scanInsert (pass : α → Bool) (new : α) (list : List α) :
    (scanInsert pass new list).length = list.length + 1 :=
  (scanInsert_perm pass new list).length_eq

/-- The scan stops at an element on which the test fails. -/
theorem rdropWhile_eq_snoc {pass : α → Bool} {list : List α} (kept : list.rdropWhile pass ≠ []) :
    ∃ front last, list.rdropWhile pass = front ++ [last] ∧ pass last = false := by
  refine ⟨_, _, (List.dropLast_concat_getLast kept).symm, ?_⟩
  simpa using List.rdropWhile_last_not pass list kept

/-- Insertion commutes with a map which respects the test. -/
theorem map_scanInsert {γ : Type*} (f : α → γ) (pass : γ → Bool) (new : α) (list : List α) :
    (scanInsert (fun x => pass (f x)) new list).map f = scanInsert pass (f new) (list.map f) := by
  have commute : (fun x => pass (f x)) = pass ∘ f := rfl
  simp only [scanInsert, List.rdropWhile, List.rtakeWhile, List.map_append, List.map_cons,
    commute, ← List.map_reverse, List.dropWhile_map, List.takeWhile_map]

/-- The new element comes first when all others are passed over; otherwise the first one stays. -/
theorem head?_scanInsert (pass : α → Bool) (new : α) (list : List α) :
    (scanInsert pass new list).head? =
      if ∀ x ∈ list, pass x = true then some new else list.head? := by
  by_cases all : ∀ x ∈ list, pass x = true
  · rw [if_pos all, scanInsert, List.rdropWhile_eq_nil_iff.mpr all]
    rfl
  · have kept : list.rdropWhile pass ≠ [] := fun none => all (List.rdropWhile_eq_nil_iff.mp none)
    obtain ⟨first, rest, split⟩ := List.exists_cons_of_ne_nil kept
    have whole := rdropWhile_append_rtakeWhile pass list
    rw [split, List.cons_append] at whole
    rw [if_neg all, scanInsert, split, ← whole]
    rfl

section Selected

variable {γ : Type*} {f : α → Option γ} {pass : α → Bool} {new : α} {list : List α}

/-- A new element which is not selected leaves the selected ones as they are. -/
theorem filterMap_scanInsert_none (other : f new = none) :
    (scanInsert pass new list).filterMap f = list.filterMap f := by
  rw [scanInsert, List.filterMap_append, List.filterMap_cons_none other, ← List.filterMap_append,
    rdropWhile_append_rtakeWhile]

/-- One which is selected goes behind the selected ones, when the scan passes over none of them. -/
theorem filterMap_scanInsert_behind {item : γ} (selected : f new = some item)
    (stops : ∀ x ∈ list, f x ≠ none → pass x = false) :
    (scanInsert pass new list).filterMap f = list.filterMap f ++ [item] := by
  have passed : (list.rtakeWhile pass).filterMap f = [] := by
    refine List.filterMap_eq_nil_iff.mpr fun x member => ?_
    by_contra some_
    have inList : x ∈ list := (List.rtakeWhile_suffix pass list).subset member
    cases (stops x inList some_).symm.trans (List.mem_rtakeWhile_imp member)
  have kept : (list.rdropWhile pass).filterMap f = list.filterMap f := by
    rw [← List.append_nil (List.filterMap f (list.rdropWhile pass)), ← passed,
      ← List.filterMap_append, rdropWhile_append_rtakeWhile]
  rw [scanInsert, List.filterMap_append, List.filterMap_cons_some selected, passed, kept]

end Selected

section Sorted

variable [LinearOrder β] (key : α → β)

/-- Ascending keys. -/
def Ascending (list : List α) : Prop := list.Pairwise fun x y => key x ≤ key y

variable {key} {pass : α → Bool} {new : α} {list : List α}

/-- The scan is right about `list` when it passes over everything not before the new element and
stops at the latest element before it. -/
def ScansRight (key : α → β) (pass : α → Bool) (new : α) (list : List α) : Prop :=
  (∀ x ∈ list, key new ≤ key x → pass x = true) ∧
    ∀ x, (list.filter fun y => key y < key new).getLast? = some x → pass x = false

/-- A test which agrees with the order is right. -/
theorem ScansRight.of_iff (judged : ∀ x ∈ list, (pass x = true ↔ key new ≤ key x)) :
    ScansRight key pass new list := by
  constructor
  · intro x member later
    exact (judged x member).mpr later
  · intro x latest
    obtain ⟨member, before⟩ := List.mem_filter.mp (List.mem_of_getLast? latest)
    rw [← Bool.not_eq_true, judged x member]
    exact not_le.mpr (of_decide_eq_true before)

/-- Everything the scan keeps is before the new element, in a sorted list it is right about. -/
theorem ScansRight.kept_lt (right : ScansRight key pass new list) (sorted : Ascending key list) :
    ∀ x ∈ list.rdropWhile pass, key x < key new := by
  intro x member
  by_contra later
  have nonempty : list.rdropWhile pass ≠ [] := List.ne_nil_of_mem member
  obtain ⟨front, last, split, stopped⟩ := rdropWhile_eq_snoc nonempty
  have keptSorted : Ascending key (front ++ [last]) := by
    rw [← split]
    exact sorted.sublist (List.rdropWhile_prefix pass list).sublist
  have below : key x ≤ key last := by
    rw [split, List.mem_append, List.mem_singleton] at member
    rcases member with inFront | rfl
    · exact (List.pairwise_append.mp keptSorted).2.2 x inFront last (by simp)
    · exact le_rfl
  have inList : last ∈ list := (List.rdropWhile_prefix pass list).subset (by simp [split])
  have passed := right.1 last inList ((not_lt.mp later).trans below)
  rw [stopped] at passed
  cases passed

/-- Everything the scan passes over is not before the new element. -/
theorem ScansRight.le_passed (right : ScansRight key pass new list) :
    ∀ x ∈ list.rtakeWhile pass, key new ≤ key x := by
  intro x member
  by_contra earlier
  have before : x ∈ (list.rtakeWhile pass).filter fun y => key y < key new := by
    simpa [member] using earlier
  have nonempty := List.ne_nil_of_mem before
  have latest := List.getLast?_eq_some_getLast nonempty
  have stopped := right.2 _ (by
    rw [← rdropWhile_append_rtakeWhile pass list, List.filter_append, List.getLast?_append, latest]
    rfl)
  have passed := List.mem_rtakeWhile_imp (List.mem_of_mem_filter (List.getLast_mem nonempty))
  rw [stopped] at passed
  cases passed

/-- A sorted list stays sorted exactly when the scan is right about it, for a test which passes
over equal keys. -/
theorem ascending_scanInsert_iff (sorted : Ascending key list)
    (equal : ∀ x ∈ list, key x = key new → pass x = true) :
    Ascending key (scanInsert pass new list) ↔ ScansRight key pass new list := by
  have whole : Ascending key (list.rdropWhile pass ++ list.rtakeWhile pass) := by
    rwa [rdropWhile_append_rtakeWhile]
  have kept : ∀ x ∈ list.rdropWhile pass, x ∈ list := fun x member =>
    (List.rdropWhile_prefix pass list).subset member
  constructor
  · intro result
    obtain ⟨-, back, below⟩ := List.pairwise_append.mp result
    have above := (List.pairwise_cons.mp back).1
    constructor
    · intro x member later
      rw [← rdropWhile_append_rtakeWhile pass list, List.mem_append] at member
      rcases member with inFront | inBack
      · exact equal x (kept x inFront) (le_antisymm (below x inFront new (by simp)) later)
      · exact List.mem_rtakeWhile_imp inBack
    · intro x latest
      have backEmpty : (list.rtakeWhile pass).filter (fun y => key y < key new) = [] := by
        rw [List.filter_eq_nil_iff]
        intro y member
        simpa using above y member
      rw [← rdropWhile_append_rtakeWhile pass list, List.filter_append, backEmpty,
        List.append_nil] at latest
      have nonempty : list.rdropWhile pass ≠ [] := by
        rintro empty
        simp [empty] at latest
      obtain ⟨front, last, split, stopped⟩ := rdropWhile_eq_snoc nonempty
      have inFront : last ∈ list.rdropWhile pass := by simp [split]
      have strictly : key last < key new := by
        refine lt_of_le_of_ne (below last inFront new (by simp)) fun same => ?_
        have passed := equal last (kept last inFront) same
        rw [stopped] at passed
        cases passed
      rw [split, List.filter_append] at latest
      simp only [strictly, decide_true, List.filter_cons_of_pos, List.filter_nil,
        List.getLast?_append, List.getLast?_singleton, Option.some_or, Option.some.injEq] at latest
      rwa [← latest]
  · intro right
    obtain ⟨frontSorted, backSorted, across⟩ := List.pairwise_append.mp whole
    refine List.pairwise_append.mpr
      ⟨frontSorted, List.pairwise_cons.mpr ⟨right.le_passed, backSorted⟩, fun x inFront y inBack => ?_⟩
    rcases List.mem_cons.mp inBack with rfl | inBack
    · exact (right.kept_lt sorted x inFront).le
    · exact across x inFront y inBack

/-- In a sorted list, for a test which everything behind a passing element passes, the scan stops at
once exactly when nothing passes. -/
theorem rtakeWhile_eq_nil_iff (sorted : Ascending key list)
    (upward : ∀ x ∈ list, ∀ y ∈ list, key x ≤ key y → pass x = true → pass y = true) :
    list.rtakeWhile pass = [] ↔ ∀ x ∈ list, pass x = false := by
  rcases List.eq_nil_or_concat list with rfl | ⟨front, last, rfl⟩
  · simp [List.rtakeWhile]
  · rw [List.concat_eq_append] at sorted upward ⊢
    have latest : ∀ x ∈ front ++ [last], key x ≤ key last := by
      intro x member
      rcases List.mem_append.mp member with inFront | isLast
      · exact (List.pairwise_append.mp sorted).2.2 x inFront last (by simp)
      · rw [List.mem_singleton.mp isLast]
    constructor
    · intro stops x member
      by_contra passes
      have lastPasses := upward x member last (by simp) (latest x member) (by simpa using passes)
      simp [List.rtakeWhile, lastPasses] at stops
    · intro fails
      simp [List.rtakeWhile, fails last (by simp)]

end Sorted

end Http2Rtsp.Std
