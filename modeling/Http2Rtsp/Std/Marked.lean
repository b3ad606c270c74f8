import Http2Rtsp.Std.Positions

/-!
# Messages in a stream of parts

Messages are sent in parts, one message behind the other, and the last part of
each is marked. The stream splits into the messages again, whatever they are.
-/

namespace Http2Rtsp.Std

variable {α : Type} (p : α → Prop) [DecidablePred p]

/-- The messages of a stream which have ended, and the parts of one which has not. -/
def messages : List α → List (List α) × List α
  | [] => ([], [])
  | part :: rest =>
      if p part then ([part] :: (messages rest).1, (messages rest).2)
      else
        match messages rest with
        | ([], begun) => ([], part :: begun)
        | (first :: others, begun) => ((part :: first) :: others, begun)

variable {p}

/-- A whole message in front of a stream is its first message. -/
theorem messages_append {message rest : List α} (some_ : message ≠ []) (last : OnlyLast p message) :
    messages p (message ++ rest) = (message :: (messages p rest).1, (messages p rest).2) := by
  induction message with
  | nil => exact absurd rfl some_
  | cons part parts ih =>
      by_cases more : parts = []
      · subst more
        rw [List.singleton_append, messages, if_pos (onlyLast_singleton.mp last)]
      · obtain ⟨unmarked, last⟩ := (onlyLast_cons more).mp last
        rw [List.cons_append, messages, if_neg unmarked, ih more last]

omit [DecidablePred p] in
/-- Where the last part stands does not depend on what the parts are mapped to. -/
theorem onlyLast_map {β : Type} {f : β → α} {l : List β} :
    OnlyLast p (l.map f) ↔ OnlyLast (fun element => p (f element)) l := by
  simp [OnlyLast]

end Http2Rtsp.Std
