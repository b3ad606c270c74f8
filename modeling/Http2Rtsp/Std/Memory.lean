import Http2Rtsp.Std.Bytes

/-!
# Memory

The bytes from an address on, without the boundaries of the objects which lie there: a write
changes the bytes it reaches, whichever array they belong to. A string is read up to its NUL,
wherever that is.
-/

namespace Http2Rtsp.Std

/-- The bytes from an address on. -/
abbrev Memory := Nat → UInt8

namespace Memory

/-- `count` bytes from an offset on. -/
def read (memory : Memory) (offset count : Nat) : List UInt8 :=
  (List.range count).map fun index => memory (offset + index)

/-- `memcpy(memory + offset, bytes, …)`. -/
def write (memory : Memory) (offset : Nat) (bytes : List UInt8) : Memory := fun index =>
  if offset ≤ index then bytes.getD (index - offset) (memory index) else memory index

/-- `bzero`. -/
def clear (memory : Memory) (offset count : Nat) : Memory :=
  memory.write offset (List.replicate count 0)

/-- `strcpy`, and `sprintf` of a text. -/
def strcpy (memory : Memory) (offset : Nat) (text : List UInt8) : Memory :=
  memory.write offset (text ++ [0])

/-- The four bytes of an integer, least significant byte first. -/
def intBytes (value : BitVec 32) : List UInt8 :=
  [⟨value.setWidth 8⟩, ⟨(value >>> 8).setWidth 8⟩, ⟨(value >>> 16).setWidth 8⟩,
    ⟨(value >>> 24).setWidth 8⟩]

/-- The integer four bytes stand for. -/
def ofIntBytes (bytes : List UInt8) : BitVec 32 :=
  bytes.foldr (fun byte value => value <<< 8 ||| byte.toBitVec.setWidth 32) 0

/-- The integer at an offset. -/
def int (memory : Memory) (offset : Nat) : BitVec 32 := ofIntBytes (memory.read offset 4)

/-- The string at an offset, when its NUL stands before `limit`. -/
def string (memory : Memory) (limit offset : Nat) : Option (List UInt8) :=
  cString (limit - offset) (memory.read offset (limit - offset))

@[simp] theorem length_read (memory : Memory) (offset count : Nat) :
    (memory.read offset count).length = count := by
  simp [read]

/-- Adjacent reads join. -/
theorem read_add (memory : Memory) (offset first second : Nat) :
    memory.read offset (first + second) =
      memory.read offset first ++ memory.read (offset + first) second := by
  simp [read, List.range_add, Function.comp_def, Nat.add_assoc]

/-- A write is read back. -/
theorem read_write (memory : Memory) (offset : Nat) (bytes : List UInt8) :
    (memory.write offset bytes).read offset bytes.length = bytes := by
  apply List.ext_getElem
  · simp
  · intro index _ inside
    simp [read, write, inside]

/-- A write leaves what it does not reach. -/
theorem read_write_of_disjoint (memory : Memory) {offset start count : Nat} {bytes : List UInt8}
    (disjoint : offset + bytes.length ≤ start ∨ start + count ≤ offset) :
    (memory.write offset bytes).read start count = memory.read start count := by
  apply List.map_congr_left
  intro index member
  have inside := List.mem_range.mp member
  simp only [write]
  split
  · rw [List.getD_eq_getElem?_getD, List.getElem?_eq_none (by omega), Option.getD_none]
  · rfl

/-- The memory at an offset begins with a text and its NUL. -/
structure Holds (memory : Memory) (offset : Nat) (text : List UInt8) : Prop where
  bytes : memory.read offset (text.length + 1) = text ++ [0]
  noNul : 0 ∉ text

/-- A copied string is held. -/
theorem holds_strcpy (memory : Memory) (offset : Nat) {text : List UInt8} (noNul : 0 ∉ text) :
    (memory.strcpy offset text).Holds offset text where
  bytes := by
    have copied := read_write memory offset (text ++ [0])
    rwa [List.length_append, List.length_singleton] at copied
  noNul := noNul

/-- A write elsewhere keeps a string. -/
theorem Holds.write {memory : Memory} {start : Nat} {text : List UInt8}
    (holds : memory.Holds start text) {offset : Nat} {bytes : List UInt8}
    (disjoint : offset + bytes.length ≤ start ∨ start + (text.length + 1) ≤ offset) :
    (memory.write offset bytes).Holds start text where
  bytes := by rw [read_write_of_disjoint memory disjoint, holds.bytes]
  noNul := holds.noNul

/-- So does a copy elsewhere. -/
theorem Holds.strcpy {memory : Memory} {start : Nat} {text : List UInt8}
    (holds : memory.Holds start text) {offset : Nat} {other : List UInt8}
    (disjoint : offset + (other.length + 1) ≤ start ∨ start + (text.length + 1) ≤ offset) :
    (memory.strcpy offset other).Holds start text :=
  holds.write (by simpa using disjoint)

/-- The end of a string is held where it begins. -/
theorem Holds.drop {memory : Memory} {offset : Nat} {text : List UInt8}
    (holds : memory.Holds offset text) {count : Nat} (inside : count ≤ text.length) :
    memory.Holds (offset + count) (text.drop count) where
  bytes := by
    have whole := holds.bytes
    have split : text.length + 1 = count + (text.length - count + 1) := by omega
    rw [split, read_add] at whole
    have back := congrArg (List.drop count) whole
    rw [List.drop_left' (length_read ..), List.drop_append_of_le_length inside] at back
    rw [List.length_drop, back]
  noNul := fun nul => holds.noNul (List.mem_of_mem_drop nul)

/-- A held string is read, whatever stands behind it. -/
theorem Holds.string {memory : Memory} {offset : Nat} {text : List UInt8}
    (holds : memory.Holds offset text) {limit : Nat} (room : offset + text.length < limit) :
    memory.string limit offset = some text := by
  have split : limit - offset = (text.length + 1) + (limit - offset - (text.length + 1)) := by omega
  have nonzero : ∀ byte ∈ text, (byte ≠ 0 : Bool) = true := by
    intro byte member
    have different : byte ≠ 0 := fun zero => holds.noNul (zero ▸ member)
    simp [different]
  rw [Memory.string, split, read_add, holds.bytes, cString, if_pos (Or.inl (by simp)),
    List.append_assoc, List.takeWhile_append_of_pos nonzero]
  simp

/-- The four bytes of an integer stand for it. -/
theorem ofIntBytes_intBytes (value : BitVec 32) : ofIntBytes (intBytes value) = value := by
  ext index inside
  -- A bit of the result is the bit of the byte which has been shifted to its place.
  simp only [ofIntBytes, intBytes, List.foldr_cons, List.foldr_nil, BitVec.ofNat_eq_ofNat,
    BitVec.zero_shiftLeft, BitVec.zero_or, BitVec.getElem_or, BitVec.getElem_shiftLeft,
    BitVec.getElem_setWidth, BitVec.getLsbD_setWidth, BitVec.getLsbD_ushiftRight]
  grind

/-- An integer is read back. -/
theorem int_write_intBytes (memory : Memory) (offset : Nat) (value : BitVec 32) :
    (memory.write offset (intBytes value)).int offset = value := by
  have copied := read_write memory offset (intBytes value)
  exact (congrArg ofIntBytes copied).trans (ofIntBytes_intBytes value)

/-- Cleared memory holds zero. -/
theorem int_clear (memory : Memory) {offset count start : Nat} (low : offset ≤ start)
    (high : start + 4 ≤ offset + count) : (memory.clear offset count).int start = 0 := by
  have zeros : (memory.clear offset count).read start 4 = List.replicate 4 0 := by
    apply List.ext_getElem
    · simp
    · intro index inside _
      have before : start + index - offset < count := by simp at inside; omega
      have behind : offset ≤ start + index := by omega
      rw [List.getElem_replicate]
      simp [read, clear, write, before, behind]
  rw [int, zeros]
  rfl

/-- A write elsewhere keeps an integer. -/
theorem int_write_of_disjoint (memory : Memory) {offset start : Nat} {bytes : List UInt8}
    (disjoint : offset + bytes.length ≤ start ∨ start + 4 ≤ offset) :
    (memory.write offset bytes).int start = memory.int start := by
  rw [int, read_write_of_disjoint memory disjoint, int]

end Memory

end Http2Rtsp.Std
