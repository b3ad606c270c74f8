import Mathlib.Algebra.Order.Ring.Int
import Mathlib.Data.List.Infix
import Mathlib.Data.List.TakeWhile

/-!
# C integers and C strings

The conversions and the parts of `string.h` and `sscanf` that message code
needs, over byte lists. A C string is represented by the bytes before its NUL;
a suffix of that list plays the part of a pointer into it.
-/

namespace Http2Rtsp.Std

/-- Ways in which a C program loses its meaning. -/
inductive Undefined where
  /-- A string does not fit the array it is written to. -/
  | overflow
  | nullPointer
  /-- A string function reads past an array without NUL. -/
  | unterminated
  /-- A descriptor which is no index of an `fd_set`. -/
  | badDescriptor
  /-- Memory or a thread which was never created or is gone. -/
  | dangling
  /-- A variable which was not assigned. -/
  | unset
deriving DecidableEq

/-- Conversion of an integer to a 32-bit `int`. -/
def toInt32 (value : Int) : Int := value.bmod (2 ^ 32)

/-- Conversion to `int` keeps what an `int` can hold. -/
theorem toInt32_of_bounds {value : Int} (low : -2 ^ 31 ≤ value) (high : value < 2 ^ 31) :
    toInt32 value = value := by
  unfold toInt32
  rw [Int.bmod_eq_of_le] <;> omega

/-- The bytes of a literal. -/
def ascii (text : String) : List UInt8 := text.toList.map fun char => char.toNat.toUInt8

/-- What `sprintf` writes for `%d`. -/
def decimal (value : Int) : List UInt8 :=
  (if value < 0 then [45] else []) ++
    (Nat.toDigits 10 value.natAbs).map fun digit => digit.toNat.toUInt8

/-- The line end. -/
def crlf : List UInt8 := ascii "\r\n"

/-- The blank line which ends a header block. -/
def crlfcrlf : List UInt8 := ascii "\r\n\r\n"

/-- `isspace` in the C locale. -/
def isSpace (byte : UInt8) : Bool := byte = 32 || (9 ≤ byte && byte ≤ 13)

/-- The set `[0-9]`. -/
def isDigit (byte : UInt8) : Bool := 48 ≤ byte && byte ≤ 57

/-- `strncmp(text, literal, strlen(literal)) == 0`, for a literal without NUL. -/
def startsWith (literal text : List UInt8) : Bool := literal.isPrefixOf text

/-- The string from the first occurrence of `needle` on, or NULL. -/
def strstr : List UInt8 → List UInt8 → Option (List UInt8)
  | [], needle => if needle = [] then some [] else none
  | byte :: rest, needle =>
      if startsWith needle (byte :: rest) then some (byte :: rest) else strstr rest needle

/-- The C string which begins an array of `size` bytes, zeroed and then filled with `bytes` from
its start. There is none when the array holds no NUL. -/
def cString (size : Nat) (bytes : List UInt8) : Option (List UInt8) :=
  if 0 ∈ bytes ∨ bytes.length < size then some (bytes.takeWhile (· ≠ 0)) else none

/-! ## Conversions of `sscanf` -/

/-- Input from the end of a literal of the format on, when the input begins with it. -/
def afterLiteral (literal text : List UInt8) : Option (List UInt8) :=
  if startsWith literal text then some (text.drop literal.length) else none

/-- White space in the format, and before `%d` and `%s`. -/
def skipSpace (text : List UInt8) : List UInt8 := text.dropWhile isSpace

/-- The value of a run of digits. -/
def digitsValue (digits : List UInt8) : Nat :=
  digits.foldl (fun value digit => value * 10 + (digit.toNat - 48)) 0

/-- A conversion which takes the longest run of bytes in a set and fails on an empty one. -/
def scanSet (accepts : UInt8 → Bool) (text : List UInt8) : Option (List UInt8) :=
  if text.takeWhile accepts = [] then none else some (text.takeWhile accepts)

/-- `%s`. -/
def scanWord (text : List UInt8) : Option (List UInt8) :=
  scanSet (fun byte => !isSpace byte) (skipSpace text)

/-- The optional sign in front of an integer. -/
def signOf : List UInt8 → Int × List UInt8
  | 45 :: rest => (-1, rest)
  | 43 :: rest => (1, rest)
  | text => (1, text)

/-- The value `strtol` returns for a mathematical integer: 64 bits, saturating. -/
def clampLong (value : Int) : Int := max (-2 ^ 63) (min value (2 ^ 63 - 1))

/-- `%d`: the library reads a `long` and stores it into the `int`. -/
def scanInt (text : List UInt8) : Option Int :=
  let signed := signOf (skipSpace text)
  (scanSet isDigit signed.2).map fun digits =>
    toInt32 (clampLong (signed.1 * digitsValue digits))

/-- An array of `size` bytes after a string conversion of `sscanf`, which leaves it as it was when
it fails. -/
def storeString (size : Nat) (old : List UInt8) :
    Option (List UInt8) → Except Undefined (List UInt8)
  | none => .ok old
  | some string => if string.length < size then .ok string else .error .overflow

/-! ## Storing -/

/-- A step which succeeds, and the next one. -/
theorem bind_eq_ok_iff {ε α β : Type} {first : Except ε α} {next : α → Except ε β} {result : β} :
    (first >>= next) = .ok result ↔ ∃ value, first = .ok value ∧ next value = .ok result := by
  cases first with
  | error reason => simp [bind, Except.bind]
  | ok value => simp [bind, Except.bind]

/-- A string is stored exactly when it fits. -/
theorem storeString_eq_ok_iff {size : Nat} {old stored : List UInt8}
    {scanned : Option (List UInt8)} : storeString size old scanned = .ok stored ↔
      (∀ string, scanned = some string → string.length < size) ∧ stored = scanned.getD old := by
  cases scanned with
  | none => simp [storeString, eq_comm]
  | some string =>
      by_cases fits : string.length < size
      · simp [storeString, fits, eq_comm]
      · simp [storeString, fits]

/-! ## Searching -/

@[simp] theorem startsWith_iff {literal text : List UInt8} :
    startsWith literal text = true ↔ literal <+: text := by
  simp [startsWith]

/-- A search fails exactly when the needle occurs nowhere. -/
theorem strstr_eq_none_iff {text needle : List UInt8} :
    strstr text needle = none ↔ ¬ needle <:+: text := by
  induction text with
  | nil => simp [strstr]
  | cons byte rest ih =>
      simp only [strstr, startsWith_iff, List.infix_cons_iff, not_or]
      split
      · rename_i found
        simp [found]
      · rename_i absent
        simp [ih, absent]

/-- A successful search returns a suffix which begins with the needle. -/
theorem strstr_some {text needle found : List UInt8} (hit : strstr text needle = some found) :
    found <:+ text ∧ needle <+: found := by
  induction text with
  | nil =>
      simp only [strstr] at hit
      split at hit
      · rename_i empty
        obtain rfl := Option.some.inj hit
        simp [empty]
      · cases hit
  | cons byte rest ih =>
      simp only [strstr] at hit
      split at hit
      · rename_i here
        obtain rfl := Option.some.inj hit
        exact ⟨List.suffix_refl _, startsWith_iff.mp here⟩
      · obtain ⟨suffix, begins⟩ := ih hit
        exact ⟨suffix.trans (List.suffix_cons _ _), begins⟩

/-- A needle which ends a text and occurs nowhere before is what a search finds in every
continuation of the text. -/
theorem strstr_append_of_first {text needle : List UInt8} (rest : List UInt8)
    (nonempty : needle ≠ []) (ends : needle <:+ text) (first : ¬ needle <:+: text.dropLast) :
    strstr (text ++ rest) needle = some (needle ++ rest) := by
  obtain ⟨front, rfl⟩ := ends
  induction front with
  | nil =>
      cases needle with
      | nil => exact absurd rfl nonempty
      | cons byte tail => simp [strstr, startsWith]
  | cons byte front ih =>
      have tailNonempty : front ++ needle ≠ [] := by simp [nonempty]
      have dropLast : (byte :: front ++ needle).dropLast = byte :: (front ++ needle).dropLast := by
        rw [List.cons_append, List.dropLast_cons_of_ne_nil tailNonempty]
      rw [dropLast, List.infix_cons_iff, not_or] at first
      have notHere : ¬ needle <+: byte :: (front ++ needle ++ rest) := by
        intro here
        apply first.1
        -- The needle is no longer than the text without its last byte.
        have short : needle.length ≤ (byte :: (front ++ needle).dropLast).length := by
          simp
          omega
        have whole : byte :: (front ++ needle).dropLast <+: byte :: (front ++ needle ++ rest) :=
          List.cons_prefix_cons.mpr
            ⟨rfl, (List.dropLast_prefix _).trans (List.prefix_append _ _)⟩
        exact List.prefix_of_prefix_length_le here whole short
      have step : strstr (byte :: (front ++ needle ++ rest)) needle =
          strstr (front ++ needle ++ rest) needle := by
        rw [strstr, if_neg (by simpa using notHere)]
      simpa using step.trans (ih first.2)

/-- A needle which lacks a byte occurs on one side of it. -/
theorem infix_around {needle front back : List UInt8} {byte : UInt8} (free : byte ∉ needle)
    (occurs : needle <:+: front ++ byte :: back) : needle <:+: front ∨ needle <:+: back := by
  induction front with
  | nil =>
      rcases List.infix_cons_iff.mp occurs with here | later
      · cases needle with
        | nil => exact Or.inl (List.infix_refl _)
        | cons first tail =>
            obtain ⟨rfl, -⟩ := List.cons_prefix_cons.mp here
            exact absurd List.mem_cons_self free
      · exact Or.inr later
  | cons first front ih =>
      rcases List.infix_cons_iff.mp occurs with here | later
      · have side : first :: front <+: first :: front ++ byte :: back := List.prefix_append _ _
        by_cases short : needle.length ≤ (first :: front).length
        · exact Or.inl (List.prefix_of_prefix_length_le here side short).isInfix
        · have marked : first :: front ++ [byte] <+: first :: front ++ byte :: back :=
            (List.prefix_append_right_inj _).mpr ⟨back, rfl⟩
          have within : first :: front ++ [byte] <+: needle := by
            refine List.prefix_of_prefix_length_le marked here ?_
            rw [List.length_append, List.length_singleton]
            omega
          exact absurd (within.subset (by simp)) free
      · exact (ih later).imp_left fun found => List.infix_cons_iff.mpr (Or.inr found)

/-- A search finds a needle which begins a line, when it does not occur in the lines before. -/
theorem strstr_line {before needle : List UInt8} {lineEnd : UInt8} (rest : List UInt8)
    (nonempty : needle ≠ []) (free : lineEnd ∉ needle) (line : before = [] ∨ [lineEnd] <:+ before)
    (earlier : ¬ needle <:+: before) :
    strstr (before ++ needle ++ rest) needle = some (needle ++ rest) := by
  refine strstr_append_of_first rest nonempty (List.suffix_append _ _) fun occurs => ?_
  have cut : ¬ needle <:+: needle.dropLast := fun inside => by
    have short := inside.length_le
    have positive := List.length_pos_iff.mpr nonempty
    rw [List.length_dropLast] at short
    omega
  rw [List.dropLast_append_of_ne_nil nonempty] at occurs
  rcases line with rfl | ⟨front, rfl⟩
  · exact cut occurs
  · rw [List.append_assoc] at occurs
    rcases infix_around free occurs with inFront | inNeedle
    · exact earlier (inFront.trans (List.prefix_append _ _).isInfix)
    · exact cut inNeedle

/-- Bytes without a NUL, put into a larger array, are its string. -/
theorem cString_of_lt {size : Nat} {bytes : List UInt8} (room : bytes.length < size)
    (noNul : 0 ∉ bytes) : cString size bytes = some bytes := by
  have whole : bytes.takeWhile (· ≠ 0) = bytes := by
    rw [List.takeWhile_eq_self_iff]
    intro byte member
    have nonzero : byte ≠ 0 := fun zero => noNul (zero ▸ member)
    simp [nonzero]
  rw [cString, if_pos (Or.inr room), whole]

/-- The string of an array begins the bytes the array was filled with. -/
theorem cString_begins {size : Nat} {bytes text : List UInt8}
    (terminated : cString size bytes = some text) : text <+: bytes := by
  unfold cString at terminated
  split at terminated
  · obtain rfl := Option.some.inj terminated
    exact List.takeWhile_prefix _
  · cases terminated

/-- A string holds no NUL. -/
theorem cString_noNul {size : Nat} {bytes text : List UInt8}
    (terminated : cString size bytes = some text) : 0 ∉ text := by
  unfold cString at terminated
  split at terminated
  · obtain rfl := Option.some.inj terminated
    intro member
    have nonzero := List.mem_takeWhile_imp member
    simp at nonzero
  · cases terminated

end Http2Rtsp.Std
