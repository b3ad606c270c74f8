import Mathlib.Data.List.Infix

/-!
# Searches along a list

A loop walks along a linked list until an element is good enough. At each element it stops, moves on or
stays where it is. A loop which never stays sees a tail of the list once and ends at the first good
one; a loop which stays does so for ever, since nothing changes in between.
-/

namespace Http2Rtsp.Std

universe u v

/-- What a search makes of an element. -/
inductive Verdict where
  | found
  | next
  /-- The pointer is not moved. -/
  | again
deriving DecidableEq

variable {α : Type u}

/-- The search: the tails at which its body is entered, and the one it ends at. -/
def search (verdict : α → Verdict) : Nat → List α → Option (List (List α) × List α)
  | 0, _ => none
  | _ + 1, [] => some ([], [])
  | steps + 1, element :: rest =>
      let onward later := (search verdict steps later).map fun run => ((element :: rest) :: run.1, run.2)
      match verdict element with
      | .found => some ([element :: rest], element :: rest)
      | .next => onward rest
      | .again => onward (element :: rest)

/-- A loop which takes the same steps and makes something of them is that search. -/
theorem eq_search {β : Type v} {verdict : α → Verdict} {loop : Nat → List α → Option β}
    {made : List (List α) × List α → β} {entered : List α → β → β}
    (stops : ∀ list, loop 0 list = none) (ends : ∀ steps, loop (steps + 1) [] = some (made ([], [])))
    (enters : ∀ list run, entered list (made run) = made (list :: run.1, run.2))
    (onward : ∀ steps element rest, loop (steps + 1) (element :: rest) =
      match verdict element with
      | .found => some (made ([element :: rest], element :: rest))
      | .next => (loop steps rest).map (entered (element :: rest))
      | .again => (loop steps (element :: rest)).map (entered (element :: rest)))
    (steps : Nat) (list : List α) : loop steps list = (search verdict steps list).map made := by
  induction steps generalizing list with
  | zero => exact stops list
  | succ steps ih =>
      cases list with
      | nil => exact ends steps
      | cons element rest =>
          have recorded : entered (element :: rest) ∘ made =
              made ∘ fun run => ((element :: rest) :: run.1, run.2) :=
            funext (enters (element :: rest))
          rw [onward, search]
          cases verdict element with
          | found => rfl
          | next => simp only [ih, Option.map_map, recorded]
          | again => simp only [ih, Option.map_map, recorded]

/-- The elements in front of the first good one, or all of them. -/
def passedOver (verdict : α → Verdict) (list : List α) : List α :=
  list.takeWhile fun element => verdict element ≠ .found

/-- The first good element with the list behind it; empty when there is none. -/
def fromFound (verdict : α → Verdict) (list : List α) : List α :=
  list.dropWhile fun element => verdict element ≠ .found

section Elements

variable {verdict : α → Verdict} {element : α} {rest : List α}

theorem passedOver_found (found : verdict element = .found) :
    passedOver verdict (element :: rest) = [] :=
  List.takeWhile_cons_of_neg (by simp [found])

theorem passedOver_cons (onward : verdict element ≠ .found) :
    passedOver verdict (element :: rest) = element :: passedOver verdict rest :=
  List.takeWhile_cons_of_pos (by simp [onward])

theorem fromFound_found (found : verdict element = .found) :
    fromFound verdict (element :: rest) = element :: rest :=
  List.dropWhile_cons_of_neg (by simp [found])

theorem fromFound_cons (onward : verdict element ≠ .found) :
    fromFound verdict (element :: rest) = fromFound verdict rest :=
  List.dropWhile_cons_of_pos (by simp [onward])

end Elements

/-- The tails of a list are different places. -/
theorem nodup_tails (list : List α) : list.tails.Nodup := by
  induction list with
  | nil => simp
  | cons element rest ih =>
      rw [List.tails_cons, List.nodup_cons]
      refine ⟨fun member => ?_, ih⟩
      have shorter := ((List.mem_tails _ _).mp member).length_le
      rw [List.length_cons] at shorter
      omega

/-- What a search which ends has done. -/
structure Searched (verdict : α → Verdict) (list : List α) (visited : List (List α))
    (stop : List α) : Prop where
  inOrder : visited <+: list.tails
  stop_eq : stop = fromFound verdict list
  elements : visited.flatMap (List.take 1) = passedOver verdict list ++ stop.take 1
  moved : ∀ element ∈ passedOver verdict list, verdict element = .next

variable {verdict : α → Verdict} {list : List α}

/-- A search which ends sees each place at most once. -/
theorem Searched.nodup {visited : List (List α)} {stop : List α}
    (searched : Searched verdict list visited stop) : visited.Nodup :=
  searched.inOrder.sublist.nodup (nodup_tails list)

/-- At an element where it stays, a search stays for ever. -/
theorem search_again {element : α} (stays : verdict element = .again) (rest : List α) (steps : Nat) :
    search verdict steps (element :: rest) = none := by
  induction steps with
  | zero => rfl
  | succ steps ih =>
      rw [search, stays]
      simp only [ih, Option.map_none]

/-- What is known of every search which ends, by the element it stands at. -/
theorem search_searched {steps : Nat} {visited : List (List α)} {stop : List α}
    (ran : search verdict steps list = some (visited, stop)) :
    Searched verdict list visited stop := by
  induction list generalizing steps visited with
  | nil =>
      cases steps with
      | zero => cases ran
      | succ steps =>
          cases ran
          exact ⟨List.nil_prefix, rfl, rfl, nofun⟩
  | cons element rest ih =>
      cases steps with
      | zero => cases ran
      | succ steps =>
          cases judged : verdict element with
          | found =>
              rw [search, judged] at ran
              cases ran
              refine ⟨?_, (fromFound_found judged).symm, ?_, ?_⟩
              · rw [List.tails_cons]
                exact List.prefix_append [_] _
              · rw [passedOver_found judged]
                rfl
              · rw [passedOver_found judged]
                nofun
          | next =>
              rw [search, judged] at ran
              obtain ⟨⟨later, _⟩, computed, same⟩ := Option.map_eq_some_iff.mp ran
              cases same
              have searched := ih computed
              have onward : verdict element ≠ .found := by rw [judged]; nofun
              refine ⟨?_, ?_, ?_, ?_⟩
              · rw [List.tails_cons]
                exact (List.prefix_cons_inj _).mpr searched.inOrder
              · rw [fromFound_cons onward]
                exact searched.stop_eq
              · rw [passedOver_cons onward, List.flatMap_cons, searched.elements]
                rfl
              · rw [passedOver_cons onward]
                exact List.forall_mem_cons.mpr ⟨judged, searched.moved⟩
          | again =>
              rw [search_again judged] at ran
              cases ran

/-- A search which moves on over all it passes ends. -/
theorem search_ends (moves : ∀ element ∈ passedOver verdict list, verdict element = .next) :
    ∃ steps run, search verdict steps list = some run := by
  induction list with
  | nil => exact ⟨1, _, rfl⟩
  | cons element rest ih =>
      by_cases found : verdict element = .found
      · exact ⟨1, ([element :: rest], element :: rest), by rw [search, found]⟩
      · rw [passedOver_cons found] at moves
        obtain ⟨judged, later⟩ := List.forall_mem_cons.mp moves
        obtain ⟨steps, run, computed⟩ := ih later
        refine ⟨steps + 1, ((element :: rest) :: run.1, run.2), ?_⟩
        rw [search, judged]
        simp only [computed, Option.map_some]

end Http2Rtsp.Std
