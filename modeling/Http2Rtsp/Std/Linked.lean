import Mathlib.Data.List.Induction
import Mathlib.Data.List.Nodup
import Mathlib.Logic.Function.Basic

/-!
# Doubly linked lists in a store

Nodes live at numbered addresses and point at each other through `next` and
`prev`; `none` is NULL, and an access to an address that holds no node has no
result. `Linked` relates such a chain to the list of its addresses and values;
`insque_linked` and `remque_linked` are the two edits of `search.h` seen
through it.
-/

namespace Http2Rtsp.Std

variable {α : Type*}

/-- A node with its links and what it carries. -/
structure Node (α : Type*) where
  next : Option Nat
  prev : Option Nat
  value : α

/-- The nodes which exist, by address. -/
abbrev Store (α : Type*) := Nat → Option (Node α)

namespace Store

/-- Change the node at an address; there has to be one. -/
def update (store : Store α) (address : Nat) (change : Node α → Node α) : Option (Store α) :=
  (store address).map fun node => Function.update store address (some (change node))

/-- The same through a pointer, where NULL asks for nothing. -/
def updateAt (store : Store α) (pointer : Option Nat) (change : Node α → Node α) :
    Option (Store α) :=
  match pointer with
  | none => some store
  | some address => store.update address change

/-- `insque(element, pred)` for a non-NULL predecessor. -/
def insque (store : Store α) (element pred : Nat) : Option (Store α) := do
  let node ← store pred
  let store ← store.update pred fun n => { n with next := some element }
  let store ← store.update element fun n => { n with next := node.next, prev := some pred }
  store.updateAt node.next fun n => { n with prev := some element }

/-- `remque(element)`. -/
def remque (store : Store α) (element : Nat) : Option (Store α) := do
  let node ← store element
  let store ← store.updateAt node.next fun n => { n with prev := node.prev }
  store.updateAt node.prev fun n => { n with next := node.next }

/-- Free every node from a pointer along `next`, which is read while the node is there. The walk is
cut off after a number of steps. -/
def freeFrom : Nat → Option Nat → Store α → Option (Store α)
  | _, none, store => some store
  | 0, some _, _ => none
  | steps + 1, some address, store => do
      let node ← store address
      freeFrom steps node.next (Function.update store address none)

end Store

/-- The address a list of nodes starts at, or where it leads when it is empty. -/
def firstOr (nodes : List (Nat × α)) (after : Option Nat) : Option Nat :=
  (nodes.head?.map Prod.fst).or after

/-- The address a list of nodes ends at, or where it comes from when it is empty. -/
def lastOr (before : Option Nat) (nodes : List (Nat × α)) : Option Nat :=
  (nodes.getLast?.map Prod.fst).or before

/-- The store holds these nodes, linked in this order between `before` and `after`. -/
def Linked (store : Store α) (before : Option Nat) : List (Nat × α) → Option Nat → Prop
  | [], _ => True
  | (address, value) :: rest, after =>
      store address = some ⟨firstOr rest after, before, value⟩ ∧
        Linked store (some address) rest after

section Lists

variable {store store' : Store α} {before after : Option Nat} {nodes front back : List (Nat × α)}

@[simp] theorem firstOr_nil (after : Option Nat) : firstOr ([] : List (Nat × α)) after = after := rfl

@[simp] theorem firstOr_cons (node : Nat × α) (rest : List (Nat × α)) (after : Option Nat) :
    firstOr (node :: rest) after = some node.1 := rfl

@[simp] theorem firstOr_append (front back : List (Nat × α)) (after : Option Nat) :
    firstOr (front ++ back) after = firstOr front (firstOr back after) := by
  cases front <;> simp [firstOr]

@[simp] theorem lastOr_nil (before : Option Nat) : lastOr before ([] : List (Nat × α)) = before := rfl

@[simp] theorem lastOr_cons (before : Option Nat) (node : Nat × α) (rest : List (Nat × α)) :
    lastOr before (node :: rest) = lastOr (some node.1) rest := by
  cases rest <;> simp [lastOr, List.getLast?_cons]

@[simp] theorem lastOr_append (before : Option Nat) (front back : List (Nat × α)) :
    lastOr before (front ++ back) = lastOr (lastOr before front) back := by
  induction front generalizing before with
  | nil => rfl
  | cons node rest ih => simp [ih]

theorem lastOr_snoc (before : Option Nat) (front : List (Nat × α)) (node : Nat × α) :
    lastOr before (front ++ [node]) = some node.1 := by
  simp

/-- A chain is its two halves, linked to each other. -/
theorem linked_append :
    Linked store before (front ++ back) after ↔
      Linked store before front (firstOr back after) ∧
        Linked store (lastOr before front) back after := by
  induction front generalizing before with
  | nil => simp [Linked]
  | cons node rest ih => simp [Linked, ih, and_assoc]

/-- A chain depends on the store at its own addresses only. -/
theorem Linked.frame (linked : Linked store before nodes after)
    (same : ∀ node ∈ nodes, store' node.1 = store node.1) : Linked store' before nodes after := by
  induction nodes generalizing before with
  | nil => trivial
  | cons node rest ih =>
      obtain ⟨here, later⟩ := linked
      refine ⟨by rw [same node List.mem_cons_self, here], ih later fun other member => ?_⟩
      exact same other (List.mem_cons_of_mem node member)

/-- An address of the chain holds the value listed for it. -/
theorem Linked.mem (linked : Linked store before nodes after) {node : Nat × α}
    (member : node ∈ nodes) : ∃ next prev, store node.1 = some ⟨next, prev, node.2⟩ := by
  induction nodes generalizing before with
  | nil => cases member
  | cons head rest ih =>
      obtain ⟨here, later⟩ := linked
      rcases List.mem_cons.mp member with rfl | member
      · exact ⟨_, _, here⟩
      · exact ih later member

/-- The addresses of a list of nodes. -/
def addresses (nodes : List (Nat × α)) : List Nat := nodes.map Prod.fst

@[simp] theorem addresses_cons (node : Nat × α) (rest : List (Nat × α)) :
    addresses (node :: rest) = node.1 :: addresses rest := rfl

@[simp] theorem addresses_append (front back : List (Nat × α)) :
    addresses (front ++ back) = addresses front ++ addresses back := by
  simp [addresses]

theorem mem_addresses {node : Nat × α} (member : node ∈ nodes) : node.1 ∈ addresses nodes :=
  List.mem_map_of_mem member

/-- The result of an update at an address which holds a node. -/
theorem update_of_node {address : Nat} {node : Node α} {change : Node α → Node α}
    (here : store address = some node) :
    store.update address change = some (Function.update store address (some (change node))) := by
  rw [Store.update, here, Option.map_some]

/-- A chain is unaffected by an update away from it. -/
theorem Linked.frame_update (linked : Linked store before nodes after) {address : Nat}
    {node : Option (Node α)} (away : address ∉ addresses nodes) :
    Linked (Function.update store address node) before nodes after := by
  refine linked.frame fun other member => Function.update_of_ne ?_ _ _
  rintro rfl
  exact away (mem_addresses member)

/-- Redirecting the first `prev` of a chain links it to another predecessor. -/
theorem Linked.reprev (linked : Linked store before nodes after) (newBefore : Option Nat)
    (distinct : (addresses nodes).Nodup) :
    ∃ store', store.updateAt (firstOr nodes none) (fun n => { n with prev := newBefore }) =
        some store' ∧ Linked store' newBefore nodes after ∧
      ∀ other, other ∉ addresses nodes → store' other = store other := by
  cases nodes with
  | nil => exact ⟨store, rfl, trivial, fun _ _ => rfl⟩
  | cons node rest =>
      obtain ⟨here, later⟩ := linked
      obtain ⟨new, -⟩ := List.nodup_cons.mp distinct
      refine ⟨_, update_of_node here, ⟨by simp, later.frame_update new⟩, fun other away => ?_⟩
      simp only [addresses_cons, List.mem_cons, not_or] at away
      exact Function.update_of_ne away.1 _ _

/-- Freeing a chain from its first node frees its nodes, each once, and nothing else. -/
theorem Linked.free (linked : Linked store before nodes none) (distinct : (addresses nodes).Nodup)
    {steps : Nat} (enough : nodes.length ≤ steps) :
    ∃ store', Store.freeFrom steps (firstOr nodes none) store = some store' ∧
      ∀ address, store' address = if address ∈ addresses nodes then none else store address := by
  induction nodes generalizing store before steps with
  | nil => exact ⟨store, by cases steps <;> rfl, fun address => by simp [addresses]⟩
  | cons node rest ih =>
      obtain ⟨here, later⟩ := linked
      obtain ⟨new, restDistinct⟩ := List.nodup_cons.mp distinct
      obtain ⟨steps, rfl⟩ : ∃ n, steps = n + 1 := ⟨steps - 1, by simp at enough; omega⟩
      obtain ⟨store', freed, values⟩ :=
        ih (@Linked.frame_update _ _ _ _ _ later _ none new) restDistinct (by simpa using enough)
      refine ⟨store', ?_, fun address => ?_⟩
      · simp only [firstOr_cons, Store.freeFrom, here, Option.bind_eq_bind, Option.bind_some]
        exact freed
      · rw [values address, addresses_cons]
        by_cases same : address = node.1
        · subst same
          simp
        · simp [same]

/-! ## Walks -/

/-- Following `link` from a pointer visits these addresses and ends at NULL. -/
def Visits (store : Store α) (link : Node α → Option Nat) : Option Nat → List Nat → Prop
  | pointer, [] => pointer = none
  | pointer, address :: rest =>
      pointer = some address ∧
        ∃ node, store address = some node ∧ Visits store link (link node) rest

/-- Following `next` from the first node of a chain visits its nodes. -/
theorem Linked.visits_next (linked : Linked store before nodes none) :
    Visits store Node.next (firstOr nodes none) (addresses nodes) := by
  induction nodes generalizing before with
  | nil => rfl
  | cons node rest ih =>
      obtain ⟨here, later⟩ := linked
      exact ⟨rfl, _, here, ih later⟩

/-- Following `prev` from the last node visits them in reverse. -/
theorem Linked.visits_prev (linked : Linked store none nodes after) :
    Visits store Node.prev (lastOr none nodes) (addresses nodes).reverse := by
  induction nodes using List.reverseRecOn generalizing after with
  | nil => rfl
  | append_singleton front node ih =>
      obtain ⟨frontLinked, here, -⟩ := linked_append.mp linked
      have reversed : (addresses (front ++ [node])).reverse = node.1 :: (addresses front).reverse := by
        simp [addresses]
      rw [reversed, lastOr_snoc]
      exact ⟨rfl, _, here, ih frontLinked⟩

/-- `insque` puts a node behind its predecessor and changes nothing off the chain. -/
theorem insque_linked {element pred : Nat} {value new : α} {next prev : Option Nat}
    (linked : Linked store before (front ++ (pred, value) :: back) none)
    (unlinked : store element = some ⟨next, prev, new⟩)
    (distinct : (addresses (front ++ (pred, value) :: back)).Nodup)
    (fresh : element ∉ addresses (front ++ (pred, value) :: back)) :
    ∃ store', store.insque element pred = some store' ∧
      Linked store' before (front ++ (pred, value) :: (element, new) :: back) none := by
  obtain ⟨frontLinked, atPred, backLinked⟩ := linked_append.mp linked
  simp only [addresses_append, addresses_cons, List.mem_append, List.mem_cons, not_or] at fresh
  obtain ⟨notFront, notPred, notBack⟩ := fresh
  simp only [addresses_append, addresses_cons] at distinct
  obtain ⟨frontDistinct, tailDistinct, apart⟩ := List.nodup_append.mp distinct
  obtain ⟨predNew, backDistinct⟩ := List.nodup_cons.mp tailDistinct
  have predNotFront : pred ∉ addresses front := fun member => apart pred member pred (by simp) rfl
  -- The predecessor and the new node are relinked, then the node which follows.
  let relinked := Function.update (Function.update store pred
    (some ⟨some element, lastOr before front, value⟩)) element
      (some ⟨firstOr back none, some pred, new⟩)
  have frontRelinked : Linked relinked before front (some pred) :=
    (frontLinked.frame_update predNotFront).frame_update notFront
  have backRelinked : Linked relinked (some pred) back none :=
    (backLinked.frame_update predNew).frame_update notBack
  obtain ⟨store', last, backDone, elsewhere⟩ := backRelinked.reprev (some element) backDistinct
  have computed : store.insque element pred = some store' := by
    have second : Function.update store pred (some ⟨some element, lastOr before front, value⟩)
        element = some ⟨next, prev, new⟩ := by
      rw [Function.update_of_ne notPred, unlinked]
    simp only [Store.insque, atPred, update_of_node atPred, update_of_node second, Option.bind_eq_bind,
      Option.bind_some]
    exact last
  refine ⟨store', computed, linked_append.mpr ⟨?_, ?_, ?_, backDone⟩⟩
  · refine frontRelinked.frame fun node member => ?_
    exact elsewhere node.1 fun both => apart _ (mem_addresses member) _ (by simp [both]) rfl
  · rw [elsewhere pred predNew]
    simp [relinked, Function.update_of_ne (Ne.symm notPred)]
  · rw [elsewhere element notBack]
    simp [relinked]

/-- `remque` of the first node leaves the rest linked. -/
theorem remque_linked {element : Nat} {value : α}
    (linked : Linked store none ((element, value) :: back) none)
    (distinct : (addresses ((element, value) :: back)).Nodup) :
    ∃ store', store.remque element = some store' ∧ Linked store' none back none ∧
      ∀ other, other ∉ addresses back → store' other = store other := by
  obtain ⟨here, backLinked⟩ := linked
  obtain ⟨-, backDistinct⟩ := List.nodup_cons.mp distinct
  obtain ⟨store', relinked, backDone, elsewhere⟩ := backLinked.reprev none backDistinct
  refine ⟨store', ?_, backDone, elsewhere⟩
  simp only [Store.remque, here, Option.bind_eq_bind, Option.bind_some]
  rw [relinked]
  rfl

end Lists

end Http2Rtsp.Std
