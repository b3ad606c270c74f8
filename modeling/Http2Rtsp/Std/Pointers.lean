import Mathlib.Data.List.Nodup
import Mathlib.Logic.Function.Basic

/-!
# Tables of pointers

A table whose places hold NULL or a pointer to allocated memory. `Owned` is the
discipline under which nothing is lost and nothing is freed twice: the addresses
allocated and not yet freed are those in the table, each at one place. Storing
new memory at a free place, a change through a pointer, and freeing what a
pointer leads to keep it; `view` is the table with the pointers followed.
-/

namespace Http2Rtsp.Std

/-- What happens to memory. -/
inductive MemoryEvent where
  | allocated (address : Nat)
  | freed (address : Nat)

/-- What one event makes of the addresses in use. -/
def trackAddress (live : List Nat) : MemoryEvent → List Nat
  | .allocated address => address :: live
  | .freed address => live.erase address

/-- The addresses allocated and not yet freed. -/
def liveAddresses (past : List MemoryEvent) : List Nat := past.foldl trackAddress []

@[simp] theorem liveAddresses_nil : liveAddresses [] = [] := rfl

@[simp] theorem liveAddresses_snoc (past : List MemoryEvent) (event : MemoryEvent) :
    liveAddresses (past ++ [event]) = trackAddress (liveAddresses past) event := by
  simp [liveAddresses]

/-- Whatever is freed is in use then; so nothing is freed twice without having been allocated again. -/
def FreesLive (past : List MemoryEvent) : Prop :=
  ∀ earlier address later, past = earlier ++ .freed address :: later →
    address ∈ liveAddresses earlier

theorem freesLive_nil : FreesLive [] := by
  intro earlier address later split
  simp at split

/-- An event keeps the discipline if it frees nothing, or something in use. -/
theorem FreesLive.snoc {past : List MemoryEvent} (frees : FreesLive past) {event : MemoryEvent}
    (live : ∀ address, event = .freed address → address ∈ liveAddresses past) :
    FreesLive (past ++ [event]) := by
  intro earlier address later split
  rcases List.eq_nil_or_concat later with rfl | ⟨rest, last, rfl⟩
  · obtain ⟨rfl, same⟩ := List.append_inj' split rfl
    exact live address (List.singleton_inj.mp same)
  · rw [List.concat_eq_append, ← List.cons_append, ← List.append_assoc] at split
    exact frees earlier address rest (List.append_inj' split rfl).1

/-- Memory, and a table of pointers into it. -/
structure Pointers (ι α : Type*) where
  memory : Nat → Option α
  table : ι → Option Nat

namespace Pointers

variable {ι α : Type*} {heap : Pointers ι α} {past : List MemoryEvent}

/-- The table with the pointers followed. -/
def view (heap : Pointers ι α) (i : ι) : Option α := (heap.table i).bind heap.memory

/-- The first of these places whose memory passes a test. A pointer to nothing has no result. -/
def search (heap : Pointers ι α) (test : α → Bool) : List ι → Option (Option (ι × Nat × α))
  | [] => some none
  | i :: rest =>
      match heap.table i with
      | none => heap.search test rest
      | some address =>
          match heap.memory address with
          | none => none
          | some value =>
              if test value then some (some (i, address, value)) else heap.search test rest

variable [DecidableEq ι]

/-- New memory with a value, stored at a place. -/
def enter (heap : Pointers ι α) (i : ι) (address : Nat) (value : α) : Pointers ι α where
  memory := Function.update heap.memory address (some value)
  table := Function.update heap.table i (some address)

/-- A change of the memory at an address. -/
def assign (heap : Pointers ι α) (address : Nat) (value : α) : Pointers ι α :=
  { heap with memory := Function.update heap.memory address (some value) }

/-- Freed memory, and NULL at its place. -/
def remove (heap : Pointers ι α) (i : ι) (address : Nat) : Pointers ι α where
  memory := Function.update heap.memory address none
  table := Function.update heap.table i none

/-- What is allocated and not yet freed is at exactly one place each, and every pointer leads there. -/
structure Owned (past : List MemoryEvent) (heap : Pointers ι α) : Prop where
  live : ∀ address, (heap.memory address).isSome ↔ address ∈ liveAddresses past
  stored : ∀ address ∈ liveAddresses past, ∃! i, heap.table i = some address
  valid : ∀ i address, heap.table i = some address → address ∈ liveAddresses past
  distinct : (liveAddresses past).Nodup
  frees : FreesLive past

omit [DecidableEq ι] in
theorem owned_empty (memory : ∀ address, heap.memory address = none)
    (table : ∀ i, heap.table i = none) : Owned [] heap where
  live address := by simp [memory]
  stored address member := by cases member
  valid i address there := by
    rw [table] at there
    cases there
  distinct := List.nodup_nil
  frees := freesLive_nil

section Owned

variable (owned : Owned past heap)
include owned

omit [DecidableEq ι] in
/-- One pointer leads to an address. -/
theorem Owned.unique {i j : ι} {address : Nat} (first : heap.table i = some address)
    (second : heap.table j = some address) : i = j :=
  (owned.stored address (owned.valid i address first)).unique first second

omit [DecidableEq ι] in
/-- There is something behind a pointer. -/
theorem Owned.follow {i : ι} {address : Nat} (there : heap.table i = some address) :
    ∃ value, heap.memory address = some value ∧ heap.view i = some value := by
  obtain ⟨value, here⟩ := Option.isSome_iff_exists.mp
    ((owned.live address).mpr (owned.valid i address there))
  exact ⟨value, here, by simp [view, there, here]⟩

omit [DecidableEq ι] in
/-- A place is free when nothing is seen there. -/
theorem Owned.view_eq_none {i : ι} : heap.view i = none ↔ heap.table i = none := by
  constructor
  · intro nothing
    cases there : heap.table i with
    | none => rfl
    | some address =>
        obtain ⟨value, -, seen⟩ := owned.follow there
        cases nothing.symm.trans seen
  · intro free
    simp [view, free]

omit [DecidableEq ι] in
/-- The search through the pointers is a search of the view. -/
theorem Owned.search_eq (test : α → Bool) (places : List ι) :
    (heap.search test places = some none ∧ ∀ i ∈ places, ∀ value, heap.view i = some value →
        test value = false) ∨
      ∃ i address value, heap.search test places = some (some (i, address, value)) ∧
        heap.table i = some address ∧ heap.memory address = some value ∧
        places.find? (fun i => (heap.view i).any test) = some i := by
  induction places with
  | nil => exact Or.inl ⟨rfl, fun i member => by cases member⟩
  | cons i rest ih =>
      cases there : heap.table i with
      | none =>
          have free : heap.view i = none := owned.view_eq_none.mpr there
          have skipped : heap.search test (i :: rest) = heap.search test rest := by
            simp [search, there]
          rw [skipped, List.find?_cons_of_neg (by simp [free])]
          refine ih.imp_left fun ⟨absent, fails⟩ => ⟨absent, fun j member value seen => ?_⟩
          rcases List.mem_cons.mp member with rfl | later
          · cases free.symm.trans seen
          · exact fails j later value seen
      | some address =>
          obtain ⟨value, here, seen⟩ := owned.follow there
          by_cases passes : test value
          · refine Or.inr ⟨i, address, value, by simp [search, there, here, passes], there, here, ?_⟩
            rw [List.find?_cons_of_pos (by simp [seen, passes])]
          · have skipped : heap.search test (i :: rest) = heap.search test rest := by
              simp [search, there, here, passes]
            rw [skipped, List.find?_cons_of_neg (by simp [seen, passes])]
            refine ih.imp_left fun ⟨absent, fails⟩ => ⟨absent, fun j member other seen' => ?_⟩
            rcases List.mem_cons.mp member with rfl | later
            · obtain rfl := Option.some.inj (seen.symm.trans seen')
              simpa using passes
            · exact fails j later other seen'

/-- New memory at a free place. -/
theorem Owned.enter {i : ι} {address : Nat} {value : α} (new : heap.memory address = none)
    (free : heap.table i = none) :
    Owned (past ++ [.allocated address]) (heap.enter i address value) := by
  have unused : address ∉ liveAddresses past := by
    rw [← owned.live, new]
    simp
  constructor
  · intro other
    by_cases same : other = address
    · simp [Pointers.enter, trackAddress, same]
    · simp [Pointers.enter, trackAddress, same, owned.live]
  · intro other member
    rw [liveAddresses_snoc] at member
    rcases List.mem_cons.mp member with rfl | old
    · refine ⟨i, by simp [Pointers.enter], fun j there => ?_⟩
      by_contra differs
      simp only [Pointers.enter, Function.update_of_ne differs] at there
      exact unused (owned.valid j _ there)
    · obtain ⟨j, there, only⟩ := owned.stored other old
      have differs : j ≠ i := by
        rintro rfl
        cases free.symm.trans there
      refine ⟨j, by simp [Pointers.enter, Function.update_of_ne differs, there], fun l there' => ?_⟩
      by_cases same : l = i
      · subst same
        simp only [Pointers.enter, Function.update_self, Option.some.injEq] at there'
        exact absurd (there' ▸ old) unused
      · simp only [Pointers.enter, Function.update_of_ne same] at there'
        exact only l there'
  · intro j other there
    rw [liveAddresses_snoc]
    by_cases same : j = i
    · subst same
      simp only [Pointers.enter, Function.update_self, Option.some.injEq] at there
      exact there ▸ List.mem_cons_self
    · simp only [Pointers.enter, Function.update_of_ne same] at there
      exact List.mem_cons_of_mem _ (owned.valid j other there)
  · rw [liveAddresses_snoc]
    exact List.nodup_cons.mpr ⟨unused, owned.distinct⟩
  · exact owned.frees.snoc fun _ same => by cases same

omit [DecidableEq ι] in
/-- A change of memory in use. -/
theorem Owned.assign {i : ι} {address : Nat} {value : α} (there : heap.table i = some address) :
    Owned past (heap.assign address value) := by
  refine ⟨fun other => ?_, owned.stored, owned.valid, owned.distinct, owned.frees⟩
  by_cases same : other = address
  · subst same
    simpa [Pointers.assign] using owned.valid i _ there
  · simp [Pointers.assign, same, owned.live]

/-- Freeing what a pointer leads to, and clearing the pointer. -/
theorem Owned.remove {i : ι} {address : Nat} (there : heap.table i = some address) :
    Owned (past ++ [.freed address]) (heap.remove i address) := by
  have remaining : ∀ other, other ∈ liveAddresses (past ++ [.freed address]) ↔
      other ≠ address ∧ other ∈ liveAddresses past := by
    intro other
    rw [liveAddresses_snoc, trackAddress, owned.distinct.mem_erase_iff]
  have kept : ∀ j other, other ≠ address →
      ((heap.remove i address).table j = some other ↔ heap.table j = some other) := by
    intro j other differs
    by_cases same : j = i
    · subst same
      simpa [Pointers.remove, there] using Ne.symm differs
    · simp [Pointers.remove, Function.update_of_ne same]
  constructor
  · intro other
    rw [remaining]
    by_cases same : other = address
    · simp [Pointers.remove, same]
    · simp [Pointers.remove, same, owned.live]
  · intro other member
    obtain ⟨differs, old⟩ := (remaining other).mp member
    simp only [kept _ other differs]
    exact owned.stored other old
  · intro j other there'
    have differs : other ≠ address := by
      rintro rfl
      by_cases same : j = i
      · simp [Pointers.remove, same] at there'
      · simp only [Pointers.remove, Function.update_of_ne same] at there'
        exact same (owned.unique there' there)
    exact (remaining other).mpr ⟨differs, owned.valid j other ((kept j other differs).mp there')⟩
  · rw [liveAddresses_snoc]
    exact owned.distinct.erase address
  · refine owned.frees.snoc fun other same => ?_
    cases same
    exact owned.valid i address there

/-- What is seen behind new memory at a free place. -/
theorem Owned.view_enter {i : ι} {address : Nat} {value : α} (new : heap.memory address = none) :
    (heap.enter i address value).view = Function.update heap.view i (some value) := by
  funext j
  by_cases same : j = i
  · subst same
    simp [view, Pointers.enter]
  · have away : heap.table j ≠ some address := by
      intro there
      obtain ⟨old, here, -⟩ := owned.follow there
      cases new.symm.trans here
    cases there : heap.table j with
    | none => simp [view, Pointers.enter, same, there]
    | some other =>
        have differs : other ≠ address := fun equal => away (equal ▸ there)
        simp [view, Pointers.enter, same, there, differs]

/-- What is seen behind a change. -/
theorem Owned.view_assign {i : ι} {address : Nat} {value : α} (there : heap.table i = some address) :
    (heap.assign address value).view = Function.update heap.view i (some value) := by
  funext j
  by_cases same : j = i
  · subst same
    simp [view, Pointers.assign, there]
  · cases other : heap.table j with
    | none => simp [view, Pointers.assign, same, other]
    | some otherAddress =>
        have differs : otherAddress ≠ address := fun equal =>
          same (owned.unique (equal ▸ other) there)
        simp [view, Pointers.assign, same, other, differs]

/-- What is seen when a place was cleared. -/
theorem Owned.view_remove {i : ι} {address : Nat} (there : heap.table i = some address) :
    (heap.remove i address).view = Function.update heap.view i none := by
  funext j
  by_cases same : j = i
  · subst same
    simp [view, Pointers.remove]
  · cases other : heap.table j with
    | none => simp [view, Pointers.remove, same, other]
    | some otherAddress =>
        have differs : otherAddress ≠ address := fun equal =>
          same (owned.unique (equal ▸ other) there)
        simp [view, Pointers.remove, same, other, differs]

end Owned

end Pointers

end Http2Rtsp.Std
