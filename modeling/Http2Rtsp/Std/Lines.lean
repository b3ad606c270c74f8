import Http2Rtsp.Std.Bytes

/-!
# Lines and header blocks

A header block is a list of lines which are not empty, each ended by CRLF. The
block itself is ended by an empty line. A search for the end of the block finds
what the list of lines says, a text has at most one such reading, and reading it
gives the lines back.
-/

namespace Http2Rtsp.Std

/-- A line which is not empty, without the line end. -/
structure Line where
  bytes : List UInt8
  nonempty : bytes ≠ []
  whole : ¬ crlf <:+: bytes

/-- The bytes are all there is to a line. -/
@[ext] theorem Line.ext {line other : Line} (bytes : line.bytes = other.bytes) : line = other := by
  cases line
  cases other
  cases bytes
  rfl

/-- The lines with their ends. -/
def block (lines : List Line) : List UInt8 := lines.flatMap fun line => line.bytes ++ crlf

@[simp] theorem block_nil : block [] = [] := rfl

@[simp] theorem block_cons (line : Line) (lines : List Line) :
    block (line :: lines) = line.bytes ++ crlf ++ block lines := rfl

@[simp] theorem block_append (first second : List Line) :
    block (first ++ second) = block first ++ block second := by
  simp [block]

/-- Texts which are not empty and hold no line ends are lines. -/
theorem exists_lines {texts : List (List UInt8)}
    (proper : ∀ text ∈ texts, text ≠ [] ∧ ¬ crlf <:+: text) :
    ∃ lines : List Line, lines.map Line.bytes = texts := by
  induction texts with
  | nil => exact ⟨[], rfl⟩
  | cons text texts ih =>
      obtain ⟨nonempty, whole⟩ := proper text List.mem_cons_self
      obtain ⟨lines, rfl⟩ := ih fun other member => proper other (List.mem_cons_of_mem _ member)
      exact ⟨⟨text, nonempty, whole⟩ :: lines, rfl⟩

/-- The bytes of a block. -/
theorem block_eq (lines : List Line) :
    block lines = (lines.map Line.bytes).flatMap fun bytes => bytes ++ crlf := by
  rw [List.flatMap_map]
  rfl

/-- A header block, the empty line and what follows it. -/
def framed (lines : List Line) (body : List UInt8) : List UInt8 := block lines ++ crlf ++ body

theorem framed_nil (body : List UInt8) : framed [] body = crlf ++ body := rfl

theorem framed_cons (line : Line) (lines : List Line) (body : List UInt8) :
    framed (line :: lines) body = line.bytes ++ crlf ++ framed lines body := by
  simp [framed]

/-! ## Searching -/

/-- What lacks a byte begins a text in front of it. -/
theorem prefix_before {needle front back : List UInt8} {byte : UInt8} (free : byte ∉ needle) :
    needle <+: front ++ byte :: back ↔ needle <+: front := by
  refine ⟨fun begins => ?_, fun begins => begins.trans (List.prefix_append _ _)⟩
  induction front generalizing needle with
  | nil =>
      cases needle with
      | nil => exact List.nil_prefix
      | cons first tail =>
          obtain ⟨rfl, -⟩ := List.cons_prefix_cons.mp begins
          exact absurd List.mem_cons_self free
  | cons first front ih =>
      cases needle with
      | nil => exact List.nil_prefix
      | cons head tail =>
          obtain ⟨rfl, later⟩ := List.cons_prefix_cons.mp begins
          have tailFree : byte ∉ tail := fun member => free (List.mem_cons_of_mem _ member)
          exact List.cons_prefix_cons.mpr ⟨rfl, ih tailFree later⟩

/-- Whether a line begins with a literal is decided within the line. -/
theorem startsWith_line {literal : List UInt8} (free : 13 ∉ literal) (bytes rest : List UInt8) :
    startsWith literal (bytes ++ crlf ++ rest) = startsWith literal bytes := by
  apply Bool.eq_iff_iff.mpr
  rw [startsWith_iff, startsWith_iff, List.append_assoc]
  exact prefix_before free

/-- A search stops where the needle begins the text. -/
theorem strstr_here (needle rest : List UInt8) :
    strstr (needle ++ rest) needle = some (needle ++ rest) := by
  cases whole : needle ++ rest with
  | nil =>
      obtain ⟨rfl, -⟩ := List.append_eq_nil_iff.mp whole
      rfl
  | cons byte tail =>
      have begins : startsWith needle (byte :: tail) = true := by
        rw [startsWith_iff, ← whole]
        exact List.prefix_append _ _
      rw [strstr, if_pos begins]

/-- A search goes on when the text is continued. -/
theorem strstr_append {text needle found : List UInt8} (rest : List UInt8)
    (hit : strstr text needle = some found) : strstr (text ++ rest) needle = some (found ++ rest) := by
  induction text with
  | nil =>
      simp only [strstr] at hit
      split at hit
      · rename_i empty
        obtain rfl := Option.some.inj hit
        subst empty
        exact strstr_here [] rest
      · cases hit
  | cons byte text ih =>
      simp only [strstr] at hit
      rw [List.cons_append, strstr]
      split at hit
      · rename_i here
        obtain rfl := Option.some.inj hit
        have begins : startsWith needle (byte :: (text ++ rest)) = true :=
          startsWith_iff.mpr ((startsWith_iff.mp here).trans (List.prefix_append (byte :: text) rest))
        rw [if_pos begins]
        rfl
      · rename_i notHere
        obtain ⟨suffix, begins⟩ := strstr_some hit
        have long : needle.length ≤ (byte :: text).length :=
          (begins.length_le.trans suffix.length_le).trans (Nat.le_succ _)
        have still : ¬ startsWith needle (byte :: (text ++ rest)) = true := fun here => notHere
          (startsWith_iff.mpr (List.prefix_of_prefix_length_le (startsWith_iff.mp here)
            (List.prefix_append (byte :: text) rest) long))
        rw [if_neg still]
        exact ih hit

/-- A search finds the first occurrence of the needle. -/
theorem strstr_split {text needle found : List UInt8} (hit : strstr text needle = some found) :
    ∃ front rest, text = front ++ needle ++ rest ∧ found = needle ++ rest ∧
      (needle ≠ [] → ¬ needle <:+: front) := by
  induction text with
  | nil =>
      simp only [strstr] at hit
      split at hit
      · rename_i empty
        obtain rfl := Option.some.inj hit
        exact ⟨[], [], by simp [empty], by simp [empty], fun nonempty => absurd empty nonempty⟩
      · cases hit
  | cons byte text ih =>
      simp only [strstr] at hit
      split at hit
      · rename_i here
        obtain rfl := Option.some.inj hit
        obtain ⟨rest, same⟩ := startsWith_iff.mp here
        exact ⟨[], rest, by simp [same], same.symm, fun nonempty => by simpa using nonempty⟩
      · rename_i notHere
        obtain ⟨front, rest, rfl, rfl, first⟩ := ih hit
        refine ⟨byte :: front, rest, rfl, rfl, fun nonempty occurs => ?_⟩
        rcases List.infix_cons_iff.mp occurs with here | later
        · rw [startsWith_iff] at notHere
          refine notHere (here.trans ?_)
          rw [List.append_assoc]
          exact List.prefix_append (byte :: front) _
        · exact first nonempty later

/-- A literal is read off the text behind it. -/
theorem afterLiteral_self (literal value : List UInt8) :
    afterLiteral literal (literal ++ value) = some value := by
  rw [afterLiteral, if_pos (startsWith_iff.mpr (List.prefix_append _ _)), List.drop_left]

/-- Two literals one of which is no beginning of the other do not begin the same text. -/
theorem startsWith_apart {first second text : List UInt8} (begins : startsWith first text = true)
    (apart : startsWith first second = false ∧ startsWith second first = false) :
    startsWith second text = false := by
  rw [← Bool.not_eq_true, startsWith_iff]
  intro other
  rcases List.prefix_or_prefix_of_prefix (startsWith_iff.mp begins) other with inside | inside
  · exact Bool.false_ne_true (apart.1.symm.trans (startsWith_iff.mpr inside))
  · exact Bool.false_ne_true (apart.2.symm.trans (startsWith_iff.mpr inside))

/-- Such a literal is not read off the text behind the other one. -/
theorem afterLiteral_apart {first second : List UInt8} (value : List UInt8)
    (apart : startsWith first second = false ∧ startsWith second first = false) :
    afterLiteral second (first ++ value) = none := by
  have begins : startsWith first (first ++ value) = true :=
    startsWith_iff.mpr (List.prefix_append _ _)
  rw [afterLiteral, startsWith_apart begins apart, if_neg Bool.false_ne_true]

/-- A line end is not found in front of the end of the line. -/
theorem strstr_crlf {bytes : List UInt8} (whole : ¬ crlf <:+: bytes) (rest : List UInt8) :
    strstr (bytes ++ crlf ++ rest) crlf = some (crlf ++ rest) := by
  refine strstr_append_of_first rest (by simp [crlf, ascii]) (List.suffix_append _ _) ?_
  rw [List.dropLast_append_of_ne_nil (by simp [crlf, ascii])]
  intro occurs
  have cut : bytes ++ crlf.dropLast = bytes ++ [13] := rfl
  rw [cut, List.infix_concat_iff] at occurs
  rcases occurs with atEnd | earlier
  · obtain ⟨front, same⟩ := atEnd
    have last := congrArg List.getLast? same
    simp [crlf, ascii] at last
  · exact whole earlier

/-- A line does not begin with its own end. -/
theorem Line.begins (line : Line) (rest : List UInt8) : ¬ crlf <+: line.bytes ++ crlf ++ rest := by
  intro here
  have found := strstr_crlf line.whole rest
  obtain ⟨tail, same⟩ := here
  rw [← same, strstr_here, Option.some_inj, same] at found
  have length := congrArg List.length found
  have positive := List.length_pos_iff.mpr line.nonempty
  simp only [List.length_append] at length
  omega

/-- No blank line begins in a line, nor at its end unless an empty line follows. -/
theorem no_blank_in_line {bytes rest : List UInt8} (whole : ¬ crlf <:+: bytes)
    (next : ¬ crlf <+: rest) (later : ¬ crlfcrlf <:+: rest) :
    ¬ crlfcrlf <:+: bytes ++ crlf ++ rest := by
  induction bytes with
  | nil =>
      intro occurs
      have shape : [] ++ crlf ++ rest = 13 :: 10 :: rest := rfl
      rw [shape, List.infix_cons_iff, List.infix_cons_iff] at occurs
      rcases occurs with here | atFeed | after
      · exact next (List.cons_prefix_cons.mp (List.cons_prefix_cons.mp here).2).2
      · cases (List.cons_prefix_cons.mp atFeed).1
      · exact later after
  | cons byte bytes ih =>
      intro occurs
      rw [List.cons_append, List.cons_append, List.infix_cons_iff] at occurs
      rcases occurs with here | after
      · obtain ⟨rfl, next⟩ := List.cons_prefix_cons.mp here
        cases bytes with
        | nil => cases (List.cons_prefix_cons.mp next).1
        | cons second bytes =>
            obtain ⟨rfl, -⟩ := List.cons_prefix_cons.mp next
            exact whole (List.IsPrefix.isInfix ⟨bytes, rfl⟩)
      · refine ih (fun inside => whole ?_) after
        exact List.infix_cons_iff.mpr (Or.inr inside)

/-- A block in front of a text is not the end of a block. -/
theorem no_blank_in_block (lines : List Line) :
    ¬ crlf <+: block lines ++ [13] ∧ ¬ crlfcrlf <:+: block lines ++ [13] := by
  induction lines with
  | nil => exact ⟨of_decide_eq_false rfl, of_decide_eq_false rfl⟩
  | cons line lines ih =>
      rw [block_cons, List.append_assoc]
      exact ⟨line.begins _, no_blank_in_line line.whole ih.1 ih.2⟩

/-- The end of a block is found where it is. -/
theorem strstr_blank {lines : List Line} (some_ : lines ≠ []) (body : List UInt8) :
    strstr (framed lines body) crlfcrlf = some (crlfcrlf ++ body) := by
  refine strstr_append_of_first body (by simp [crlfcrlf, ascii]) ?_ ?_
  · obtain ⟨front, last, rfl⟩ := (List.eq_nil_or_concat lines).resolve_left some_
    refine ⟨block front ++ last.bytes, ?_⟩
    have twice : crlfcrlf = crlf ++ crlf := rfl
    simp [twice]
  · rw [List.dropLast_append_of_ne_nil (by simp [crlf, ascii])]
    exact (no_blank_in_block lines).2

/-! ## Reading -/

/-- The lines of a header block; none when the block is not ended. -/
def linesOf : Nat → List UInt8 → Option (List (List UInt8))
  | 0, _ => none
  | steps + 1, text =>
      match strstr text crlf with
      | none => none
      | some rest =>
          let line := text.take (text.length - rest.length)
          if line = [] then some [] else (linesOf steps (rest.drop 2)).map fun lines => line :: lines

/-- The header block a text begins with. -/
def headerBlock (text : List UInt8) : Option (List (List UInt8)) := linesOf text.length text

/-- The values of the headers of a text with this name. -/
def headers (name : String) (text : List UInt8) : List (List UInt8) :=
  ((headerBlock text).getD []).filterMap (afterLiteral (ascii name))

theorem linesOf_framed {lines : List Line} {body : List UInt8} {steps : Nat}
    (enough : lines.length < steps) :
    linesOf steps (framed lines body) = some (lines.map Line.bytes) := by
  induction lines generalizing steps with
  | nil =>
      obtain ⟨steps, rfl⟩ : ∃ n, steps = n + 1 := ⟨steps - 1, by simp at enough; omega⟩
      have found : strstr (crlf ++ body) crlf = some (crlf ++ body) := strstr_here crlf body
      simp [linesOf, framed_nil, found]
  | cons line lines ih =>
      obtain ⟨steps, rfl⟩ : ∃ n, steps = n + 1 := ⟨steps - 1, by simp at enough; omega⟩
      have found := strstr_crlf line.whole (framed lines body)
      have front : (line.bytes ++ crlf ++ framed lines body).take
          ((line.bytes ++ crlf ++ framed lines body).length - (crlf ++ framed lines body).length) =
          line.bytes := by
        rw [List.append_assoc, List.length_append, Nat.add_sub_cancel, List.take_left]
      have behind : (crlf ++ framed lines body).drop 2 = framed lines body := rfl
      rw [framed_cons, linesOf]
      simp only [found, front, if_neg line.nonempty, behind]
      rw [ih (Nat.lt_of_succ_lt_succ enough), Option.map_some, List.map_cons]

/-- A framed text has enough bytes for its lines. -/
theorem length_framed (lines : List Line) (body : List UInt8) :
    lines.length < (framed lines body).length := by
  induction lines with
  | nil => simp [framed_nil, crlf, ascii]
  | cons line lines ih =>
      have positive := List.length_pos_iff.mpr line.nonempty
      rw [framed_cons]
      simp only [List.length_cons, List.length_append]
      omega

theorem headerBlock_framed (lines : List Line) (body : List UInt8) :
    headerBlock (framed lines body) = some (lines.map Line.bytes) :=
  linesOf_framed (length_framed lines body)

theorem headers_framed (name : String) (lines : List Line) (body : List UInt8) :
    headers name (framed lines body) =
      (lines.map Line.bytes).filterMap (afterLiteral (ascii name)) := by
  rw [headers, headerBlock_framed, Option.getD_some]

/-- A text has one reading. -/
theorem framed_injective {lines lines' : List Line} {body body' : List UInt8}
    (same : framed lines body = framed lines' body') : lines = lines' ∧ body = body' := by
  have read := headerBlock_framed lines body
  rw [same, headerBlock_framed, Option.some_inj] at read
  have lines_ : lines = lines' := by
    apply List.map_injective_iff.mpr (fun line other bytes => Line.ext bytes)
    exact read.symm
  subst lines_
  exact ⟨rfl, List.append_cancel_left same⟩

/-- A text with a blank line in it has a reading. -/
theorem framed_of_blank {text : List UInt8} (blank : crlfcrlf <:+: text) :
    ∃ lines body, text = framed lines body := by
  have ended : crlf <:+: text := List.IsInfix.trans ⟨[], crlf, rfl⟩ blank
  obtain ⟨found, hit⟩ := Option.ne_none_iff_exists'.mp fun none =>
    strstr_eq_none_iff.mp none ended
  obtain ⟨front, rest, rfl, -, first⟩ := strstr_split hit
  have whole : ¬ crlf <:+: front := first (by simp [crlf, ascii])
  by_cases empty : front = []
  · exact ⟨[], rest, by simp [empty, framed_nil]⟩
  · let line : Line := ⟨front, empty, whole⟩
    by_cases next : crlf <+: rest
    · obtain ⟨body, rfl⟩ := next
      exact ⟨[line], body, by rw [framed_cons, framed_nil]⟩
    · have later : crlfcrlf <:+: rest := by
        by_contra absent
        exact no_blank_in_line whole next absent blank
      have shorter : rest.length < (front ++ crlf ++ rest).length := by
        have two : crlf.length = 2 := rfl
        simp only [List.length_append, two]
        omega
      obtain ⟨lines, body, rfl⟩ := framed_of_blank later
      exact ⟨line :: lines, body, by rw [framed_cons]⟩
termination_by text.length

theorem framed_of_linesOf {steps : Nat} {text : List UInt8} {lines : List (List UInt8)}
    (read : linesOf steps text = some lines) : ∃ block body, text = framed block body := by
  induction steps generalizing text lines with
  | zero => cases read
  | succ steps ih =>
      simp only [linesOf] at read
      split at read
      · cases read
      · rename_i found hit
        obtain ⟨front, rest, rfl, rfl, first⟩ := strstr_split hit
        have front_ : (front ++ crlf ++ rest).take
            ((front ++ crlf ++ rest).length - (crlf ++ rest).length) = front := by
          rw [List.append_assoc, List.length_append, Nat.add_sub_cancel, List.take_left]
        rw [front_] at read
        split at read
        · rename_i empty
          exact ⟨[], rest, by simp [empty, framed_nil]⟩
        · rename_i nonempty
          obtain ⟨later, readLater, -⟩ := Option.map_eq_some_iff.mp read
          obtain ⟨block, body, rfl⟩ := @ih rest _ readLater
          have whole : ¬ crlf <:+: front := first (by simp [crlf, ascii])
          exact ⟨⟨front, nonempty, whole⟩ :: block, body, by rw [framed_cons]⟩

/-- Only a text with a reading has headers. -/
theorem framed_of_mem_headers {name : String} {text value : List UInt8}
    (member : value ∈ headers name text) :
    ∃ lines body, text = framed lines body ∧ lines ≠ [] := by
  cases read : headerBlock text with
  | none => simp [headers, read] at member
  | some lines =>
      obtain ⟨block, body, rfl⟩ := framed_of_linesOf read
      refine ⟨block, body, rfl, fun empty => ?_⟩
      rw [headers_framed, empty] at member
      cases member

end Http2Rtsp.Std
