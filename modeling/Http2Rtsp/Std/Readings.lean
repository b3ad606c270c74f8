import Http2Rtsp.Std.Lines

/-!
# Values read at the lines of a block

A reading scans a value at every line which carries it, and the last value scanned stays. The scan
is given the text from the line on, so it may read past the end of its line. Where a line has a
value of its own, a scan which is local finds that one; what is left at the end of the block is
then the own value of the last line, unless that line has none and another text was read for it.
-/

namespace Http2Rtsp.Std

/-- A value and the lines it is scanned at. -/
structure Reading (α : Type) where
  carries : List UInt8 → Bool
  scan : List UInt8 → Option α

namespace Reading

variable {α : Type} (r : Reading α)

/-- What is read where a line begins. -/
def readHere (text : List UInt8) : Option α := if r.carries text then r.scan text else none

/-- The values read at the lines of a block, one after the other. -/
def values : List Line → List UInt8 → List α
  | [], _ => []
  | line :: lines, body => (r.readHere (framed (line :: lines) body)).toList ++ values lines body

/-- The last line which carries the value. -/
def lastLine (lines : List (List UInt8)) : Option (List UInt8) := (lines.filter r.carries).getLast?

/-- The value of that line, looked at alone. -/
def own (lines : List (List UInt8)) : Option α := (r.lastLine lines).bind r.scan

/-- A line which carries the value does so in any text, and its own value is what is scanned. -/
structure Local : Prop where
  carries : ∀ line rest, r.carries (line ++ crlf ++ rest) = r.carries line
  scan : ∀ line rest value, r.carries line = true → r.scan line = some value →
    r.scan (line ++ crlf ++ rest) = some value

/-- The last line has a value of its own, or what was read before and behind is the default. -/
def FromItsLine (default : α) (lines : List Line) (body : List UInt8) : Prop :=
  ∀ line, r.lastLine (lines.map Line.bytes) = some line → r.scan line = none →
    (r.values lines body).getLastD default = default

variable {r}

/-- A value which is kept until the next one is read. -/
theorem getLastD_values_cons (line : Line) (lines : List Line) (body : List UInt8) (old : α) :
    (r.values (line :: lines) body).getLastD old =
      (r.values lines body).getLastD ((r.readHere (framed (line :: lines) body)).getD old) := by
  rw [values]
  cases r.readHere (framed (line :: lines) body) with
  | none => rfl
  | some value => exact List.getLastD_cons ..

/-- What is read was scanned somewhere. -/
theorem scan_of_mem_values {lines : List Line} {body : List UInt8} {value : α}
    (member : value ∈ r.values lines body) : ∃ text, r.scan text = some value := by
  induction lines with
  | nil => cases member
  | cons line lines ih =>
      rw [values, List.mem_append, Option.mem_toList] at member
      rcases member with here | later
      · rw [readHere] at here
        split at here
        · exact ⟨_, here⟩
        · cases here
      · exact ih later

/-- The last line of a longer block. -/
theorem lastLine_cons (line : List UInt8) (lines : List (List UInt8)) :
    r.lastLine (line :: lines) =
      (r.lastLine lines).or (if r.carries line then some line else none) := by
  unfold lastLine
  by_cases carries : r.carries line = true
  · rw [List.filter_cons_of_pos carries, List.getLast?_cons, if_pos carries]
    cases (lines.filter r.carries).getLast? <;> rfl
  · rw [List.filter_cons_of_neg carries, if_neg carries, Option.or_none]

/-- There is none when no line carries the value. -/
theorem lastLine_eq_none {lines : List (List UInt8)}
    (absent : ∀ line ∈ lines, ¬ r.carries line = true) : r.lastLine lines = none := by
  rw [lastLine, List.filter_eq_nil_iff.mpr absent, List.getLast?_nil]

section
variable (within : r.Local)
include within

/-- Without a line which carries it no value is read. -/
theorem values_of_lastLine_none {lines : List Line} (body : List UInt8)
    (absent : r.lastLine (lines.map Line.bytes) = none) : r.values lines body = [] := by
  induction lines with
  | nil => rfl
  | cons line lines ih =>
      rw [List.map_cons, lastLine_cons, Option.or_eq_none_iff] at absent
      obtain ⟨later, here⟩ := absent
      have other : ¬ r.carries line.bytes = true := by
        intro carries
        rw [if_pos carries] at here
        cases here
      rw [values, ih later, readHere, framed_cons, within.carries, if_neg other]
      rfl

/-- The own value of the last line is the last one read. -/
theorem getLastD_values_of_own {lines : List Line} {line : List UInt8} {value : α}
    (body : List UInt8) (default : α) (last : r.lastLine (lines.map Line.bytes) = some line)
    (scanned : r.scan line = some value) :
    (r.values lines body).getLastD default = value := by
  -- Along the block: the last line stands behind the first one, or is the first one.
  induction lines generalizing default with
  | nil => cases last
  | cons first lines ih =>
      rw [List.map_cons, lastLine_cons] at last
      rw [getLastD_values_cons]
      cases later : r.lastLine (lines.map Line.bytes) with
      | some line' =>
          rw [later, Option.some_or] at last
          exact ih _ (later.trans last)
      | none =>
          rw [later, Option.none_or] at last
          split at last
          · rename_i carries
            obtain rfl := Option.some.inj last
            rw [values_of_lastLine_none within body later, readHere, framed_cons, within.carries,
              if_pos carries, within.scan _ _ _ carries scanned]
            rfl
          · cases last

/-- What is left is the own value of the last line exactly when it came from that line. -/
theorem getLastD_values_eq_own_iff (default : α) (lines : List Line) (body : List UInt8) :
    (r.values lines body).getLastD default = (r.own (lines.map Line.bytes)).getD default ↔
      r.FromItsLine default lines body := by
  cases last : r.lastLine (lines.map Line.bytes) with
  | none =>
      have unread : r.own (lines.map Line.bytes) = none := by rw [own, last, Option.bind_none]
      rw [values_of_lastLine_none within body last, unread]
      exact iff_of_true rfl fun line found => by rw [last] at found; cases found
  | some line =>
      have own_ : r.own (lines.map Line.bytes) = r.scan line := by rw [own, last, Option.bind_some]
      rw [own_]
      cases scanned : r.scan line with
      | some value =>
          refine iff_of_true (getLastD_values_of_own within body default last scanned) ?_
          intro line' found empty
          rw [last, Option.some_inj] at found
          rw [← found, scanned] at empty
          cases empty
      | none =>
          constructor
          · intro left _ _ _
            exact left
          · intro fromLine
            exact fromLine line last scanned

end

end Reading

/-! ## Lines one after the other -/

/-- Every end of a list which is not empty: the whole, and those of its tail. -/
theorem forall_suffix_cons {α : Type*} {holds : α → List α → Prop} {first : α} {later : List α} :
    (∀ x rest, x :: rest <:+ first :: later → holds x rest) ↔
      holds first later ∧ ∀ x rest, x :: rest <:+ later → holds x rest := by
  constructor
  · intro all
    refine ⟨all first later (List.suffix_refl _), fun x rest suffix => ?_⟩
    exact all x rest (suffix.trans (List.suffix_cons _ _))
  · rintro ⟨whole, tail⟩ x rest suffix
    rcases List.suffix_cons_iff.mp suffix with same | behind
    · obtain ⟨rfl, rfl⟩ := List.cons.inj same
      exact whole
    · exact tail x rest behind

section
variable {σ ε : Type} {step : σ → List UInt8 → Except ε σ}
  {run : List Line → List UInt8 → σ → Except ε σ} {good : List UInt8 → Prop}
  {next : σ → List UInt8 → σ} {whole : List Line → List UInt8 → σ → σ}

/-- A block is read line by line. When a line is read exactly if its text is good, so is the block,
and what is made of it is what the lines make of it one after the other. -/
theorem lines_eq_ok_iff (runNil : ∀ body s, run [] body s = .ok s)
    (runCons : ∀ line lines body s,
      run (line :: lines) body s = step s (framed (line :: lines) body) >>= run lines body)
    (wholeNil : ∀ body s, whole [] body s = s)
    (wholeCons : ∀ line lines body s,
      whole (line :: lines) body s = whole lines body (next s (framed (line :: lines) body)))
    (each : ∀ {s text after}, step s text = .ok after ↔ good text ∧ after = next s text)
    {lines : List Line} {body : List UInt8} {s after : σ} :
    run lines body s = .ok after ↔
      (∀ line rest, line :: rest <:+ lines → good (framed (line :: rest) body)) ∧
        after = whole lines body s := by
  induction lines generalizing s with
  | nil =>
      rw [runNil, wholeNil, Except.ok.injEq, eq_comm, iff_and_self]
      intro _ line rest suffix
      cases List.suffix_nil.mp suffix
  | cons line lines ih =>
      rw [runCons, bind_eq_ok_iff, wholeCons, forall_suffix_cons]
      constructor
      · rintro ⟨middle, read, ran⟩
        obtain ⟨first, rfl⟩ := each.mp read
        obtain ⟨later, rfl⟩ := ih.mp ran
        exact ⟨⟨first, later⟩, rfl⟩
      · rintro ⟨⟨first, later⟩, rfl⟩
        exact ⟨_, each.mpr ⟨first, rfl⟩, ih.mpr ⟨later, rfl⟩⟩

end

/-! ## Names -/

/-- Names none of which begins another one. -/
structure Names (ι : Type) where
  bytes : ι → List UInt8
  all : List ι
  complete : ∀ name, name ∈ all
  apart : ∀ name other, name ≠ other → startsWith (bytes name) (bytes other) = false

namespace Names

variable {ι : Type} (names : Names ι)

/-- The name a text begins with. -/
def beginning (text : List UInt8) : Option ι :=
  names.all.find? fun name => startsWith (names.bytes name) text

/-- There is one at most, so the order of the comparisons does not matter. -/
theorem beginning_eq_some_iff {name : ι} {text : List UInt8} :
    names.beginning text = some name ↔ startsWith (names.bytes name) text = true := by
  have carried : ∀ {found : ι}, names.beginning text = some found →
      startsWith (names.bytes found) text = true := fun {found} hit =>
    @List.find?_some _ (fun name => startsWith (names.bytes name) text) found _ hit
  constructor
  · exact carried
  · intro begins
    cases found : names.beginning text with
    | none => exact absurd begins (List.find?_eq_none.mp found name (names.complete name))
    | some other =>
        by_contra different
        have distinct : other ≠ name := fun same => different (congrArg some same)
        have no := startsWith_apart (carried found)
          ⟨names.apart other name distinct, names.apart name other distinct.symm⟩
        exact Bool.false_ne_true (no.symm.trans begins)

/-- The comparison with one name is one with the name of the text. -/
theorem startsWith_eq [DecidableEq ι] (name : ι) (text : List UInt8) :
    startsWith (names.bytes name) text = decide (names.beginning text = some name) := by
  apply Bool.eq_iff_iff.mpr
  rw [decide_eq_true_iff, beginning_eq_some_iff]

end Names

/-! ## Headers -/

/-- A header whose value is scanned behind its name. -/
def headerReading {α : Type} (name : String) (scan : List UInt8 → Option α) : Reading α where
  carries := startsWith (ascii name)
  scan text := scan (text.drop name.length)

/-- The name of a header is found within its line, and so is a value which is found there. -/
theorem headerReading_local {α : Type} {name : String} {scan : List UInt8 → Option α}
    (free : 13 ∉ ascii name)
    (within : ∀ text rest value, scan text = some value → scan (text ++ crlf ++ rest) = some value) :
    (headerReading name scan).Local where
  carries line rest := startsWith_line free line rest
  scan line rest value begins scanned := by
    have size : (ascii name).length = name.length := by
      rw [ascii, List.length_map, String.length_toList]
    have long : name.length ≤ line.length := by
      rw [← size]
      exact (startsWith_iff.mp begins).length_le
    have behind : (line ++ crlf ++ rest).drop name.length =
        line.drop name.length ++ crlf ++ rest := by
      rw [List.append_assoc, List.drop_append_of_le_length long, List.append_assoc]
    exact (congrArg scan behind).trans (within _ _ _ scanned)

/-! ## Texts behind a header -/

/-- Nothing but white space. -/
def Blank (text : List UInt8) : Prop := ∀ byte ∈ text, isSpace byte = true

/-- A scan which finds something exactly where there is anything but white space. -/
structure FindsText (scan : List UInt8 → Option (List UInt8)) : Prop where
  none_iff : ∀ text, scan text = none ↔ Blank text
  nonempty : ∀ text, scan text ≠ some []

/-- If the last line with a header is blank behind the name, so is everything behind the name in each
line with the header, up to the end of the text. -/
def TextFromItsLine (name : String) (lines : List Line) (body : List UInt8) : Prop :=
  ∀ last, ((lines.map Line.bytes).filter (startsWith (ascii name))).getLast? = some last →
    Blank (last.drop name.length) →
      ∀ line later, line :: later <:+ lines → startsWith (ascii name) line.bytes = true →
        Blank ((framed (line :: later) body).drop name.length)

/-- A run behind white space is found in just these texts, when only white space can end it. -/
theorem scanSet_skipSpace_findsText {accepts : UInt8 → Bool}
    (all : ∀ byte, isSpace byte = false → accepts byte = true) :
    FindsText fun text => scanSet accepts (skipSpace text) where
  none_iff text := by
    cases skipped : skipSpace text with
    | nil => exact iff_of_true rfl (List.dropWhile_eq_nil_iff.mp skipped)
    | cons first rest =>
        have plain : isSpace first = false := by
          have head := List.head?_dropWhile_not isSpace text
          rw [← skipSpace, skipped] at head
          simpa using head
        refine iff_of_false ?_ fun blank => ?_
        · rw [scanSet, List.takeWhile_cons_of_pos (all first plain), if_neg (List.cons_ne_nil _ _)]
          exact Option.some_ne_none _
        · exact absurd (skipped.symm.trans (List.dropWhile_eq_nil_iff.mpr blank)) (List.cons_ne_nil _ _)
  nonempty text := by
    unfold scanSet
    split
    · exact (Option.some_ne_none _).symm
    · rename_i some_
      exact fun same => some_ (Option.some.inj same)

/-- Nothing is read in a block whose lines with the header are blank behind the name. -/
theorem values_eq_nil_iff {name : String} {scan : List UInt8 → Option (List UInt8)}
    (within : (headerReading name scan).Local) (finds : FindsText scan) {lines : List Line}
    {body : List UInt8} : (headerReading name scan).values lines body = [] ↔
      ∀ line later, line :: later <:+ lines → startsWith (ascii name) line.bytes = true →
        Blank ((framed (line :: later) body).drop name.length) := by
  induction lines with
  | nil => exact iff_of_true rfl fun line later suffix =>
      absurd (List.suffix_nil.mp suffix) (List.cons_ne_nil line later)
  | cons first lines ih =>
      have carries : (headerReading name scan).carries (framed (first :: lines) body) =
          startsWith (ascii name) first.bytes := by
        rw [framed_cons]
        exact within.carries _ _
      rw [Reading.values, List.append_eq_nil_iff, Option.toList_eq_nil_iff, ih, Reading.readHere,
        carries, ite_eq_right_iff]
      exact (and_congr_left fun _ => imp_congr_right fun _ => finds.none_iff _).trans
        (@forall_suffix_cons _ (fun line later => startsWith (ascii name) line.bytes = true →
          Blank ((framed (line :: later) body).drop name.length)) first lines).symm

/-- For a text the condition can be said of the lines. -/
theorem fromItsLine_text_iff {name : String} {scan : List UInt8 → Option (List UInt8)}
    (within : (headerReading name scan).Local) (finds : FindsText scan) {lines : List Line}
    {body : List UInt8} :
    (headerReading name scan).FromItsLine [] lines body ↔ TextFromItsLine name lines body := by
  refine forall_congr' fun last => imp_congr_right fun _ =>
    imp_congr (finds.none_iff _) (Iff.trans ?_ (values_eq_nil_iff within finds))
  -- What is read is not empty, so nothing is left only if nothing was read.
  constructor
  · intro left
    by_contra some_
    have member := List.getLast_mem some_
    rw [List.getLastD_eq_getLast?, List.getLast?_eq_some_getLast some_, Option.getD_some] at left
    rw [left] at member
    obtain ⟨text, scanned⟩ := Reading.scan_of_mem_values member
    exact finds.nonempty _ scanned
  · intro none
    rw [none]
    rfl

/-! ## Scans which stay in their line -/

/-- A run which excludes the carriage return ends with its line. -/
theorem scanSet_line {accepts : UInt8 → Bool} (excluded : accepts 13 = false)
    (text rest : List UInt8) : scanSet accepts (text ++ crlf ++ rest) = scanSet accepts text := by
  have run : (text ++ crlf ++ rest).takeWhile accepts = text.takeWhile accepts := by
    have stops : (crlf ++ rest).takeWhile accepts = [] := by simp [crlf, ascii, excluded]
    rw [List.append_assoc, List.takeWhile_append, stops]
    split
    · rename_i whole
      rw [List.append_nil]
      exact ((List.takeWhile_prefix _).eq_of_length whole).symm
    · rfl
  rw [scanSet, scanSet, run]

/-- White space ends within a line which has anything else. -/
theorem skipSpace_line {text : List UInt8} (plain : skipSpace text ≠ []) (rest : List UInt8) :
    skipSpace (text ++ crlf ++ rest) = skipSpace text ++ crlf ++ rest := by
  have kept : ¬ (text.dropWhile isSpace).isEmpty = true := by
    rwa [List.isEmpty_iff]
  rw [skipSpace, List.append_assoc, List.dropWhile_append, if_neg kept, ← List.append_assoc,
    skipSpace]

/-- A word in a line is read there. -/
theorem scanWord_of_line {text word : List UInt8} (rest : List UInt8)
    (scanned : scanWord text = some word) : scanWord (text ++ crlf ++ rest) = some word := by
  have plain : skipSpace text ≠ [] := by
    intro blank
    rw [scanWord, blank] at scanned
    cases scanned
  rw [scanWord, skipSpace_line plain, scanSet_line rfl]
  exact scanned

/-- A sign is read off the first byte. -/
theorem signOf_cons (first : UInt8) (tail : List UInt8) : signOf (first :: tail) =
    if first = 45 then (-1, tail) else if first = 43 then (1, tail) else (1, first :: tail) := by
  by_cases minus : first = 45
  · subst minus
    rfl
  · by_cases plus : first = 43
    · subst plus
      rfl
    · rw [if_neg minus, if_neg plus]
      unfold signOf
      split
      · rename_i same
        exact absurd (List.cons.inj same).1 minus
      · rename_i same
        exact absurd (List.cons.inj same).1 plus
      · rfl

/-- A sign in a text which is continued. -/
theorem signOf_append {text : List UInt8} (nonempty : text ≠ []) (rest : List UInt8) :
    signOf (text ++ rest) = ((signOf text).1, (signOf text).2 ++ rest) := by
  obtain ⟨first, tail, rfl⟩ := List.exists_cons_of_ne_nil nonempty
  rw [List.cons_append, signOf_cons, signOf_cons]
  split_ifs <;> rfl

/-- A number in a line is read there. -/
theorem scanInt_of_line {text : List UInt8} {value : Int} (rest : List UInt8)
    (scanned : scanInt text = some value) : scanInt (text ++ crlf ++ rest) = some value := by
  have plain : skipSpace text ≠ [] := by
    intro blank
    rw [scanInt, blank] at scanned
    cases scanned
  rw [scanInt, skipSpace_line plain, List.append_assoc, signOf_append plain, ← List.append_assoc,
    scanSet_line rfl]
  exact scanned

end Http2Rtsp.Std
