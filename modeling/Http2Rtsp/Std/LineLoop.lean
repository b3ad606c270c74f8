import Http2Rtsp.Std.Lines

/-!
# Loops over the lines of a header block

A loop walks from line end to line end while it is in front of the first blank line of its text. The
two searches are not for the same string, and what keeps them together is that a line end is never
found behind the blank line, nor the blank line's own first line end in front of a further line. The
record of a loop is the list of the places at which its body was entered, and how it ended.
-/

namespace Http2Rtsp.Std

/-- How a loop ends. -/
inductive LoopEnd (σ : Type) where
  /-- Its condition fails at this place. -/
  | finished (state : σ) (temp : List UInt8)
  /-- The first line is rejected. -/
  | rejected (state : σ)
  /-- The body loses its meaning at a header. -/
  | failed (reason : Undefined)
  /-- There is no line end to step over. -/
  | noLineEnd
  /-- The steps run out in front of the blank line. -/
  | outOfSteps (state : σ) (temp : List UInt8)

/-- The body of a loop: what is made of the first line, and of each line as a header. -/
structure LineLoop (σ : Type) where
  start : List UInt8 → σ → Option σ
  header : σ → List UInt8 → Except Undefined σ

variable {σ : Type}

/-- The loop in front of `stop`, with the places at which its body is entered. -/
def LineLoop.run (loop : LineLoop σ) (stop : List UInt8) :
    Nat → List UInt8 → Bool → σ → List (List UInt8) × LoopEnd σ
  | 0, temp, _, state =>
      ([], if stop.length < temp.length then .outOfSteps state temp else .finished state temp)
  | steps + 1, temp, typeflag, state =>
      if stop.length < temp.length then
        match (if typeflag then some state else loop.start temp state) with
        | none => ([temp], .rejected state)
        | some state =>
            match loop.header state temp with
            | .error reason => ([temp], .failed reason)
            | .ok state =>
                match strstr temp crlf with
                | none => ([temp], .noLineEnd)
                | some next =>
                    let later := loop.run stop steps (next.drop 2) true state
                    (temp :: later.1, later.2)
      else ([], .finished state temp)

/-- The loop over a text, which is not entered when there is no blank line. -/
def LineLoop.over (loop : LineLoop σ) (text : List UInt8) (state : σ) : List (List UInt8) × LoopEnd σ :=
  match strstr text crlfcrlf with
  | none => ([], .finished state text)
  | some stop => loop.run stop text.length text false state

/-- A function with the steps of a loop is what follows from how the loop ends. Running out of steps
counts as an end. -/
theorem LineLoop.eq_run {ρ : Type} (loop : LineLoop σ) (stop : List UInt8)
    {lines : Nat → List UInt8 → Bool → σ → Except Undefined ρ} {result : LoopEnd σ → Except Undefined ρ}
    (fails : ∀ reason, result (.failed reason) = .error reason)
    (suspends : ∀ state temp, result (.outOfSteps state temp) = result (.finished state temp))
    (ends : ∀ temp typeflag state, lines 0 temp typeflag state = result (.finished state temp))
    (onward : ∀ steps temp typeflag state, lines (steps + 1) temp typeflag state =
      if stop.length < temp.length then
        match (if typeflag then some state else loop.start temp state) with
        | none => result (.rejected state)
        | some state => do
            let state ← loop.header state temp
            match strstr temp crlf with
            | none => result .noLineEnd
            | some next => lines steps (next.drop 2) true state
      else result (.finished state temp))
    (steps : Nat) (temp : List UInt8) (typeflag : Bool) (state : σ) :
    lines steps temp typeflag state = result (loop.run stop steps temp typeflag state).2 := by
  induction steps generalizing temp typeflag state with
  | zero =>
      rw [ends, LineLoop.run]
      split
      · exact (suspends state temp).symm
      · rfl
  | succ steps ih =>
      rw [onward, LineLoop.run]
      split
      · cases (if typeflag then some state else loop.start temp state) with
        | none => rfl
        | some started =>
            simp only
            cases loop.header started temp with
            | error reason => exact (fails reason).symm
            | ok after =>
                simp only
                cases strstr temp crlf with
                | none => rfl
                | some next => exact ih (next.drop 2) true after
      · rfl

/-! ## Lines -/

/-- The places behind the line ends of a text, in order. -/
def behindLineEnds : List UInt8 → List (List UInt8)
  | [] => []
  | byte :: rest =>
      if startsWith crlf (byte :: rest) then rest.drop 1 :: behindLineEnds rest
      else behindLineEnds rest

/-- Of a text with these bytes from its blank line on, the starts of the lines in front. -/
def startsBefore (stop text : List UInt8) : List (List UInt8) :=
  (text :: behindLineEnds text).filter fun start => stop.length < start.length

/-- The starts of the lines in front of the first blank line, in order. -/
def lineStarts (text : List UInt8) : List (List UInt8) :=
  match strstr text crlfcrlf with
  | none => []
  | some stop => startsBefore stop text

/-- Where a walk over these lines ends: two bytes behind the start of the blank line, unless there is
none or the text begins with it. -/
def behindLines (text : List UInt8) : List UInt8 :=
  match strstr text crlfcrlf with
  | none => text
  | some stop => if stop = text then text else stop.drop 2

/-- A loop enters its body at the start of each line in order, going forward, and ends behind the
lines. Only the first line is visited when it is rejected; a header without meaning ends the loop
where it is. -/
structure VisitsLines (text : List UInt8) (heads : List (List UInt8)) (ended : LoopEnd σ) :
    Prop where
  inOrder : heads <+: lineStarts text
  forward : heads.Pairwise fun earlier later => later.length < earlier.length
  terminates : ∀ state temp, ended ≠ .outOfSteps state temp
  lineEnds : ended ≠ .noLineEnd
  rejected : ∀ state, ended = .rejected state → heads = [text]
  finished : ∀ state temp, ended = .finished state temp →
    heads = lineStarts text ∧ temp = behindLines text ∧
      ∀ head ∈ heads, temp.length < head.length

/-! ## Starts -/

/-- There is no line end in what has none. -/
theorem behindLineEnds_append {front : List UInt8} (whole : ¬ crlf <:+: front)
    (rest : List UInt8) : behindLineEnds (front ++ crlf ++ rest) = rest :: behindLineEnds rest := by
  induction front with
  | nil =>
      have shape : [] ++ crlf ++ rest = 13 :: 10 :: rest := rfl
      have here : startsWith crlf (13 :: 10 :: rest) = true := rfl
      have feed : startsWith crlf (10 :: rest) = false := rfl
      rw [shape, behindLineEnds, if_pos here, behindLineEnds, feed, if_neg Bool.false_ne_true]
      rfl
  | cons byte front ih =>
      have tail : ¬ crlf <:+: front := fun inside => whole (List.infix_cons_iff.mpr (Or.inr inside))
      have notHere : ¬ startsWith crlf (byte :: (front ++ crlf ++ rest)) = true := by
        rw [startsWith_iff]
        intro here
        obtain ⟨rfl, next⟩ := List.cons_prefix_cons.mp here
        cases front with
        | nil => cases (List.cons_prefix_cons.mp next).1
        | cons second front =>
            obtain ⟨rfl, -⟩ := List.cons_prefix_cons.mp next
            exact whole ⟨[], front, rfl⟩
      rw [List.cons_append, List.cons_append, behindLineEnds, if_neg notHere]
      exact ih tail

/-- All of them are shorter than the text. -/
theorem length_behindLineEnds {text start : List UInt8} (member : start ∈ behindLineEnds text) :
    start.length < text.length := by
  induction text with
  | nil => cases member
  | cons byte rest ih =>
      rw [behindLineEnds] at member
      split at member
      · rcases List.mem_cons.mp member with rfl | later
        · rw [List.length_drop, List.length_cons]
          omega
        · exact (ih later).trans (Nat.lt_succ_self _)
      · exact (ih member).trans (Nat.lt_succ_self _)

/-- They get shorter. -/
theorem behindLineEnds_forward (text : List UInt8) :
    (behindLineEnds text).Pairwise fun earlier later => later.length < earlier.length := by
  induction text with
  | nil => exact .nil
  | cons byte rest ih =>
      rw [behindLineEnds]
      split
      · rename_i here
        obtain ⟨tail, same⟩ := startsWith_iff.mp here
        obtain ⟨rfl, rfl⟩ : 13 = byte ∧ 10 :: tail = rest := List.cons.inj same
        have feed : startsWith crlf (10 :: tail) = false := rfl
        refine List.pairwise_cons.mpr ⟨fun later member => ?_, ih⟩
        rw [behindLineEnds, feed, if_neg Bool.false_ne_true] at member
        exact length_behindLineEnds member
      · exact ih

/-- So do the starts of lines. -/
theorem startsBefore_forward (stop text : List UInt8) :
    (startsBefore stop text).Pairwise fun earlier later => later.length < earlier.length :=
  (List.pairwise_cons.mpr ⟨fun _ member => length_behindLineEnds member,
    behindLineEnds_forward text⟩).filter _

/-- In front of the blank line there is a line, and behind it the other starts. -/
theorem startsBefore_cons {stop front rest : List UInt8} (whole : ¬ crlf <:+: front)
    (before : stop.length < (front ++ crlf ++ rest).length) :
    startsBefore stop (front ++ crlf ++ rest) =
      (front ++ crlf ++ rest) :: startsBefore stop rest := by
  rw [startsBefore, List.filter_cons_of_pos (by simpa using before), behindLineEnds_append whole]
  rfl

/-- No line starts at the blank line or behind it. -/
theorem startsBefore_nil {stop text : List UInt8} (behind : text.length ≤ stop.length) :
    startsBefore stop text = [] := by
  refine List.filter_eq_nil_iff.mpr fun start member => ?_
  have short : start.length ≤ text.length := by
    rcases List.mem_cons.mp member with rfl | later
    · exact le_rfl
    · exact (length_behindLineEnds later).le
  simp only [decide_eq_true_eq, not_lt]
  omega

/-! ## One line -/

/-- A search from further on, in front of what was found, finds it too. -/
theorem strstr_of_suffix {text needle found rest : List UInt8}
    (hit : strstr text needle = some found) (suffix : rest <:+ text)
    (long : found.length ≤ rest.length) : strstr rest needle = some found := by
  induction text with
  | nil =>
      obtain rfl := List.suffix_nil.mp suffix
      exact hit
  | cons byte text ih =>
      rcases List.suffix_cons_iff.mp suffix with rfl | later
      · exact hit
      · rw [strstr] at hit
        split at hit
        · obtain rfl := Option.some.inj hit
          have short := later.length_le
          rw [List.length_cons] at long
          omega
        · exact ih hit later

/-- What a search finds is the longest end of the text which begins with the needle. -/
theorem strstr_longest {text needle found : List UInt8} (hit : strstr text needle = some found)
    {other : List UInt8} (suffix : other <:+ text) (begins : needle <+: other) :
    other.length ≤ found.length := by
  by_contra longer
  have behind := strstr_of_suffix hit suffix (by omega)
  obtain ⟨rest, rfl⟩ := begins
  rw [strstr_here, Option.some_inj] at behind
  rw [behind] at longer
  exact longer le_rfl

/-- The first line end in front of a blank line belongs to it, or the blank line is still ahead behind
that line end. -/
theorem next_line {temp stop : List UInt8} (blank : strstr temp crlfcrlf = some stop) :
    ∃ front rest, temp = front ++ crlf ++ rest ∧ ¬ crlf <:+: front ∧
      (rest = stop.drop 2 ∨ (strstr rest crlfcrlf = some stop ∧ stop.length < rest.length)) := by
  obtain ⟨suffix, body, rfl⟩ := strstr_some blank
  have ended : crlf <:+: temp := by
    have twice : crlf <+: crlfcrlf ++ body := ⟨crlf ++ body, rfl⟩
    exact twice.isInfix.trans suffix.isInfix
  obtain ⟨found, hit⟩ := Option.ne_none_iff_exists'.mp fun none => strstr_eq_none_iff.mp none ended
  obtain ⟨front, rest, rfl, rfl, first⟩ := strstr_split hit
  refine ⟨front, rest, rfl, first (by simp [crlf, ascii]), ?_⟩
  have behind : crlf ++ rest <:+ front ++ crlf ++ rest := ⟨front, by rw [List.append_assoc]⟩
  have size : (crlfcrlf ++ body).length ≤ (crlf ++ rest).length :=
    strstr_longest hit suffix ⟨crlf ++ body, rfl⟩
  have within := List.suffix_of_suffix_length_le suffix behind size
  have shape : crlf ++ rest = 13 :: 10 :: rest := rfl
  rw [shape] at within
  -- The blank line starts at the line end, or behind it; not in between, and not right behind it.
  rcases List.suffix_cons_iff.mp within with same | atFeed
  · left
    exact ((List.cons.inj (List.cons.inj same).2).2).symm
  · rcases List.suffix_cons_iff.mp atFeed with same | later
    · cases (List.cons.inj same).1
    · right
      have longer : (crlfcrlf ++ body).length < rest.length := by
        refine lt_of_le_of_ne later.length_le fun equal => ?_
        obtain rfl := later.eq_of_length equal
        have earlier := strstr_longest blank behind ⟨crlf ++ body, rfl⟩
        have size : (crlf ++ (crlfcrlf ++ body)).length = (crlfcrlf ++ body).length + 2 := rfl
        omega
      refine ⟨strstr_of_suffix blank ?_ longer.le, longer⟩
      exact (List.suffix_append crlf rest).trans behind

/-! ## The walk -/

/-- What a run from the start of a line records. -/
structure Walks (stop temp : List UInt8) (heads : List (List UInt8)) (ended : LoopEnd σ) :
    Prop where
  inOrder : heads <+: startsBefore stop temp
  terminates : ∀ state place, ended ≠ .outOfSteps state place
  lineEnds : ended ≠ .noLineEnd
  accepted : ∀ state, ended ≠ .rejected state
  finished : ∀ state place, ended = .finished state place →
    heads = startsBefore stop temp ∧ place = stop.drop 2

variable {loop : LineLoop σ}

/-- At the blank line or behind it the loop ends. -/
theorem LineLoop.run_behind {stop temp : List UInt8} (steps : Nat) (typeflag : Bool) (state : σ)
    (behind : temp.length ≤ stop.length) :
    loop.run stop steps temp typeflag state = ([], .finished state temp) := by
  have notBefore : ¬ stop.length < temp.length := by omega
  cases steps with
  | zero => rw [LineLoop.run, if_neg notBefore]
  | succ steps => rw [LineLoop.run, if_neg notBefore]

/-- The first line is rejected, or the loop goes on with it as with any other. -/
theorem LineLoop.run_first {stop temp : List UInt8} {steps : Nat} {state : σ}
    (before : stop.length < temp.length) :
    loop.run stop (steps + 1) temp false state =
      match loop.start temp state with
      | none => ([temp], .rejected state)
      | some started => loop.run stop (steps + 1) temp true started := by
  cases started : loop.start temp state with
  | none => simp only [LineLoop.run, if_pos before, started, Bool.false_eq_true, if_false]
  | some next => simp only [LineLoop.run, if_pos before, started, Bool.false_eq_true, if_false, if_true]

/-- The walk goes on from line to line, and behind the first one nothing is rejected. -/
theorem LineLoop.walks (loop : LineLoop σ) {stop temp : List UInt8} {steps : Nat} (state : σ)
    (blank : strstr temp crlfcrlf = some stop) (before : stop.length < temp.length)
    (enough : temp.length ≤ steps) :
    Walks stop temp (loop.run stop steps temp true state).1 (loop.run stop steps temp true state).2 := by
  induction steps generalizing temp state with
  | zero => omega
  | succ steps ih =>
      obtain ⟨front, rest, rfl, whole, next⟩ := next_line blank
      have starts := startsBefore_cons whole before
      have behind : (crlf ++ rest).drop 2 = rest := rfl
      rw [LineLoop.run, if_pos before]
      simp only [if_true]
      cases header : loop.header state (front ++ crlf ++ rest) with
      | error reason =>
          refine ⟨?_, nofun, nofun, nofun, nofun⟩
          rw [starts]
          exact ⟨_, rfl⟩
      | ok after =>
          simp only [strstr_crlf whole rest, behind]
          rcases next with rfl | ⟨ahead, further⟩
          · have last : startsBefore stop (stop.drop 2) = [] :=
              startsBefore_nil (by rw [List.length_drop]; omega)
            rw [LineLoop.run_behind steps true after (by rw [List.length_drop]; omega)]
            rw [last] at starts
            refine ⟨by rw [starts], nofun, nofun, nofun, fun state place ended => ?_⟩
            cases ended
            exact ⟨starts.symm, rfl⟩
          · have shorter : rest.length ≤ steps := by
              have two : crlf.length = 2 := rfl
              simp only [List.length_append, two] at enough
              omega
            have later := ih after ahead further shorter
            refine ⟨?_, later.terminates, later.lineEnds, later.accepted, fun state place ended => ?_⟩
            · rw [starts]
              exact List.cons_prefix_cons.mpr ⟨rfl, later.inOrder⟩
            · obtain ⟨heads, placed⟩ := later.finished state place ended
              rw [starts, heads]
              exact ⟨rfl, placed⟩

/-- Every loop over the lines of a text visits them so. -/
theorem LineLoop.visits (loop : LineLoop σ) (text : List UInt8) (state : σ) :
    VisitsLines text (loop.over text state).1 (loop.over text state).2 := by
  unfold LineLoop.over
  cases blank : strstr text crlfcrlf with
  | none =>
      refine ⟨List.nil_prefix, .nil, nofun, nofun, nofun, fun state' temp ended => ?_⟩
      cases ended
      simp [lineStarts, behindLines, blank]
  | some stop =>
      have suffix := (strstr_some blank).1
      have starts : lineStarts text = startsBefore stop text := by simp only [lineStarts, blank]
      simp only
      rcases suffix.length_le.lt_or_eq with before | same
      · have notHere : stop ≠ text := fun here => by
          rw [here] at before
          exact lt_irrefl _ before
        have place : behindLines text = stop.drop 2 := by
          simp only [behindLines, blank, if_neg notHere]
        obtain ⟨steps, size⟩ : ∃ n, text.length = n + 1 := ⟨text.length - 1, by omega⟩
        rw [size, LineLoop.run_first before]
        cases loop.start text state with
        | none =>
            refine ⟨?_, List.pairwise_singleton _ _, nofun, nofun, fun _ _ => rfl, nofun⟩
            have here : startsBefore stop text =
                text :: (behindLineEnds text).filter fun start => stop.length < start.length :=
              List.filter_cons_of_pos (by simpa using before)
            rw [starts, here]
            exact ⟨_, rfl⟩
        | some started =>
            have walks := loop.walks started blank before size.le
            have forward := (startsBefore_forward stop text).sublist walks.inOrder.sublist
            refine ⟨starts ▸ walks.inOrder, forward, walks.terminates, walks.lineEnds,
              fun state' ended => absurd ended (walks.accepted state'), fun state' temp ended => ?_⟩
            obtain ⟨heads, rfl⟩ := walks.finished state' temp ended
            refine ⟨heads.trans starts.symm, place.symm, fun head member => ?_⟩
            have inside := (List.mem_filter.mp (walks.inOrder.subset member)).2
            rw [decide_eq_true_iff] at inside
            rw [List.length_drop]
            omega
      · obtain rfl := suffix.eq_of_length same
        have here : startsBefore stop stop = [] := startsBefore_nil le_rfl
        rw [LineLoop.run_behind _ _ _ le_rfl]
        refine ⟨List.nil_prefix, .nil, nofun, nofun, nofun, fun state' temp ended => ?_⟩
        cases ended
        simp [starts, here, behindLines, blank]

end Http2Rtsp.Std
