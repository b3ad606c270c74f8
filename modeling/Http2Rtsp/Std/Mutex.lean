import Mathlib.Data.List.Basic

/-!
# A mutex and what it guards

Threads lock and unlock a mutex, wait for a condition with it, and use what it
guards. The calls are recorded in the order in which they happen. `ownerAfter`
follows who owns the mutex, whether or not the calls are right; a record is
`Disciplined` when each of them is.
-/

namespace Http2Rtsp.Std

universe u v

/-- What a thread does with a mutex. `β` are the operations on what it guards. -/
inductive MutexAct (β : Type v) where
  | lock
  | unlock
  /-- A wait for a condition begins; the mutex is given up for it. -/
  | wait
  /-- A wait ends with the mutex. -/
  | reacquire
  | use (operation : β)

/-- One call, and the thread which makes it. -/
structure MutexCall (α : Type u) (β : Type v) where
  thread : α
  act : MutexAct β

variable {α : Type u} {β : Type v} [DecidableEq α]

/-- The owner behind a call. A thread which locks a mutex that is taken does not get it. -/
def MutexCall.next (owner : Option α) (call : MutexCall α β) : Option α :=
  match call.act with
  | .lock | .reacquire => if owner = none then some call.thread else owner
  | .unlock | .wait => if owner = some call.thread then none else owner
  | .use _ => owner

/-- A thread locks what it does not own, and unlocks and uses what it owns. -/
def MutexCall.Allowed (owner : Option α) (call : MutexCall α β) : Prop :=
  match call.act with
  | .lock => owner ≠ some call.thread
  | .unlock | .use _ => owner = some call.thread
  | .wait | .reacquire => True

/-- The owner behind a record. -/
def ownerAfter (owner : Option α) (calls : List (MutexCall α β)) : Option α :=
  calls.foldl MutexCall.next owner

/-- Every call of the record is allowed where it is made. -/
def Disciplined : Option α → List (MutexCall α β) → Prop
  | _, [] => True
  | owner, call :: rest => call.Allowed owner ∧ Disciplined (call.next owner) rest

instance (owner : Option α) (call : MutexCall α β) : Decidable (call.Allowed owner) := by
  unfold MutexCall.Allowed
  cases call.act <;> infer_instance

instance Disciplined.decidable :
    (owner : Option α) → (calls : List (MutexCall α β)) → Decidable (Disciplined owner calls)
  | _, [] => .isTrue trivial
  | owner, call :: rest =>
      @instDecidableAnd _ _ inferInstance (Disciplined.decidable (call.next owner) rest)

@[simp] theorem ownerAfter_nil (owner : Option α) :
    ownerAfter owner ([] : List (MutexCall α β)) = owner := rfl

@[simp] theorem ownerAfter_cons (owner : Option α) (call : MutexCall α β)
    (rest : List (MutexCall α β)) :
    ownerAfter owner (call :: rest) = ownerAfter (call.next owner) rest := rfl

theorem ownerAfter_append (owner : Option α) (first second : List (MutexCall α β)) :
    ownerAfter owner (first ++ second) = ownerAfter (ownerAfter owner first) second :=
  List.foldl_append

@[simp] theorem disciplined_nil (owner : Option α) :
    Disciplined owner ([] : List (MutexCall α β)) := trivial

/-- Two parts of a record. -/
theorem disciplined_append {owner : Option α} {first second : List (MutexCall α β)} :
    Disciplined owner (first ++ second) ↔
      Disciplined owner first ∧ Disciplined (ownerAfter owner first) second := by
  induction first generalizing owner with
  | nil => simp
  | cons call rest ih => simp only [List.cons_append, Disciplined, ownerAfter_cons, ih, and_assoc]

/-! ## Critical sections -/

/-- A thread's operations on what the mutex guards. -/
def uses (thread : α) (operations : List β) : List (MutexCall α β) :=
  operations.map fun operation => ⟨thread, .use operation⟩

/-- The same, up to an unlock. -/
def leaving (thread : α) (operations : List β) : List (MutexCall α β) :=
  uses thread operations ++ [⟨thread, .unlock⟩]

/-- The same between a lock and an unlock. -/
def critical (thread : α) (operations : List β) : List (MutexCall α β) :=
  ⟨thread, .lock⟩ :: leaving thread operations

@[simp] theorem ownerAfter_uses (owner : Option α) (thread : α) (operations : List β) :
    ownerAfter owner (uses thread operations) = owner := by
  induction operations with
  | nil => rfl
  | cons operation rest ih => exact ih

/-- Nobody but the owner may use what the mutex guards. -/
theorem disciplined_uses {owner : Option α} {thread : α} {operations : List β} :
    Disciplined owner (uses thread operations) ↔ operations = [] ∨ owner = some thread := by
  induction operations with
  | nil => simp [uses]
  | cons operation rest ih =>
      have first : Disciplined owner (uses thread (operation :: rest)) ↔
          owner = some thread ∧ Disciplined owner (uses thread rest) := Iff.rfl
      rw [first, ih]
      constructor
      · rintro ⟨owns, -⟩
        exact Or.inr owns
      · rintro (empty | owns)
        · cases empty
        · exact ⟨owns, Or.inr owns⟩

/-- The owner leaves the mutex free. -/
@[simp] theorem ownerAfter_leaving (thread : α) (operations : List β) :
    ownerAfter (some thread) (leaving thread operations) = none := by
  rw [leaving, ownerAfter_append, ownerAfter_uses]
  simp [MutexCall.next]

theorem disciplined_leaving (thread : α) (operations : List β) :
    Disciplined (some thread) (leaving thread operations) := by
  apply disciplined_append.mpr
  constructor
  · exact disciplined_uses.mpr (Or.inr rfl)
  · simp [Disciplined, MutexCall.Allowed]

/-- A critical section leaves a free mutex free. -/
@[simp] theorem ownerAfter_critical (thread : α) (operations : List β) :
    ownerAfter none (critical thread operations) = none :=
  ownerAfter_leaving thread operations

theorem disciplined_critical (thread : α) (operations : List β) :
    Disciplined none (critical thread operations) := by
  constructor
  · exact (Option.some_ne_none thread).symm
  · exact disciplined_leaving thread operations

end Http2Rtsp.Std
