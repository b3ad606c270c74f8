import Http2Rtsp.Std.Pointers

/-!
# Accounts of memory

Which blocks are in use, as a list that its owners divide among them. What was
allocated and freed so far is the history; `Owns` says that the blocks of the
list, each named once, are those in use, and that every `free` was of a block in
use. An allocation puts a block on the list, a `free` takes one off.
-/

namespace Http2Rtsp.Std

/-- `malloc`, which may depend on everything that was allocated and freed before. -/
abbrev Malloc := List MemoryEvent → Nat

/-- What it returns is not in use. -/
def Malloc.Fresh (malloc : Malloc) : Prop := ∀ past, malloc past ∉ liveAddresses past

/-- The memory behind everything which is in use is free. -/
def mallocBehind : Malloc := fun past => (liveAddresses past).foldr max 0 + 1

theorem mallocBehind_fresh : mallocBehind.Fresh := by
  intro past member
  have bounded : ∀ {addresses : List Nat} {address : Nat}, address ∈ addresses →
      address ≤ addresses.foldr max 0 := by
    intro addresses address member
    induction addresses with
    | nil => cases member
    | cons first rest ih =>
        rcases List.mem_cons.mp member with rfl | later
        · exact Nat.le_max_left ..
        · exact Nat.le_trans (ih later) (Nat.le_max_right ..)
  exact Nat.not_succ_le_self _ (bounded member)

/-- These blocks are in use, each named once, and only blocks in use were freed. -/
structure Owns (past : List MemoryEvent) (blocks : List Nat) : Prop where
  live : (liveAddresses past).Perm blocks
  distinct : blocks.Nodup
  frees : FreesLive past

/-- At first no block is in use. -/
theorem owns_nil : Owns [] [] := ⟨.nil, List.nodup_nil, freesLive_nil⟩

section Owns

variable {past : List MemoryEvent} {blocks : List Nat} {address : Nat}

/-- The order of the list does not matter. -/
theorem Owns.perm (owns : Owns past blocks) {others : List Nat} (same : blocks.Perm others) :
    Owns past others where
  live := owns.live.trans same
  distinct := same.nodup_iff.mp owns.distinct
  frees := owns.frees

/-- A new block is not on the list. -/
theorem Owns.unused (owns : Owns past blocks) {malloc : Malloc} (fresh : malloc.Fresh) :
    malloc past ∉ blocks := fun member => fresh past (owns.live.mem_iff.mpr member)

/-- An allocation puts a block on the list. -/
theorem Owns.allocate (owns : Owns past blocks) (new : address ∉ blocks) :
    Owns (past ++ [.allocated address]) (address :: blocks) where
  live := by
    rw [liveAddresses_snoc]
    exact owns.live.cons address
  distinct := List.nodup_cons.mpr ⟨new, owns.distinct⟩
  frees := owns.frees.snoc fun other same => by cases same

/-- What is on the list may be freed. -/
theorem Owns.mem (owns : Owns past (address :: blocks)) : address ∈ liveAddresses past :=
  owns.live.mem_iff.mpr List.mem_cons_self

/-- A `free` takes a block off the list. -/
theorem Owns.free (owns : Owns past (address :: blocks)) :
    Owns (past ++ [.freed address]) blocks where
  live := by
    rw [liveAddresses_snoc]
    simpa [trackAddress] using owns.live.erase address
  distinct := (List.nodup_cons.mp owns.distinct).2
  frees := owns.frees.snoc fun other same => by
    cases same
    exact owns.mem

end Owns

end Http2Rtsp.Std
