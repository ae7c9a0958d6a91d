import TcpSim.Lib.Splitting

/-! Messages put one behind the other and split again at a separator of one symbol: what is
lost when one of them lacks its end. -/

set_option autoImplicit false

namespace Splitting

variable {α : Type} [DecidableEq α]

section Single

variable {sep : Separator α} {a : α} (single : sep.symbols = [a])

include single

omit [DecidableEq α] in
theorem single_isPrefix_iff {x : α} {xs : List α} : sep.symbols <+: x :: xs ↔ a = x := by
  rw [single]
  constructor
  · intro ⟨rest, whole⟩
    exact (List.cons.inj whole).1
  · rintro rfl
    exact ⟨xs, rfl⟩

theorem cut?_of_absent {xs : List α} (absent : a ∉ xs) : cut? sep xs = none := by
  induction xs with
  | nil => rfl
  | cons x xs ih =>
      obtain ⟨differs, later⟩ := not_or.mp (List.mem_cons.not.mp absent)
      rw [cut?_cons_of_not_isPrefix sep (by rwa [single_isPrefix_iff single]), ih later]
      rfl

theorem cut?_of_single {body : List α} (absent : a ∉ body) (rest : List α) :
    cut? sep (body ++ a :: rest) = some (body, rest) := by
  induction body with
  | nil =>
      rw [List.nil_append, cut?_cons_of_isPrefix sep ((single_isPrefix_iff single).mpr rfl), single]
      rfl
  | cons x body ih =>
      have differs : ¬a = x := fun same => absent (same ▸ List.mem_cons_self)
      rw [List.cons_append, cut?_cons_of_not_isPrefix sep (by rwa [single_isPrefix_iff single]),
        ih fun later => absent (List.mem_cons_of_mem x later)]
      rfl

theorem records_of_absent {xs : List α} (absent : a ∉ xs) :
    records sep xs = if xs = [] then [] else [xs] :=
  records_of_none (cut?_of_absent single absent)

theorem records_of_body {body : List α} (absent : a ∉ body) (rest : List α) :
    records sep (body ++ a :: rest) = body :: records sep rest :=
  records_of_some (cut?_of_single single absent rest)

end Single

theorem record_length_le {sep : Separator α} {xs piece : List α} (member : piece ∈ records sep xs) :
    piece.length ≤ xs.length := by
  rcases List.mem_append.mp member with terminated | tail
  · have within := (List.sublist_flatten_of_mem terminated).length_le
    have whole := pieces_length_le sep xs
    omega
  · split at tail
    · cases tail
    · rw [List.mem_singleton.mp tail]
      exact tail_length_le sep xs

/-- A message is one record, with the separator behind it or, if not empty, without. -/
inductive Message (a : α) : List α → Prop where
  | ended {body : List α} (absent : a ∉ body) : Message a (body ++ [a])
  | bare {body : List α} (absent : a ∉ body) (filled : body ≠ []) : Message a body

def Ends (a : α) (message : List α) : Prop := message.getLast? = some a

instance (a : α) (message : List α) : Decidable (Ends a message) :=
  inferInstanceAs (Decidable (message.getLast? = some a))

def record (a : α) (message : List α) : List α :=
  if Ends a message then message.dropLast else message

theorem record_of_ended {a : α} (body : List α) : record a (body ++ [a]) = body := by
  simp [record, Ends]

theorem record_of_bare {a : α} {body : List α} (absent : a ∉ body) : record a body = body :=
  if_neg fun ends => absent (List.mem_of_getLast? ends)

section Messages

variable {sep : Separator α} {a : α} (single : sep.symbols = [a])

include single

/-- There are at most as many records as messages, even if the first of them swallows
something that was held back. -/
theorem records_flatten_length_le {messages : List (List α)} (shaped : ∀ m ∈ messages, Message a m)
    {held : List α} (absent : a ∉ held) (some_ : held = [] ∨ messages ≠ []) :
    (records sep (held ++ messages.flatten)).length ≤ messages.length := by
  induction messages generalizing held with
  | nil =>
      rcases some_ with rfl | none_
      · simp
      · cases none_ rfl
  | cons message rest ih =>
      have others : ∀ m ∈ rest, Message a m := fun m member =>
        shaped m (List.mem_cons_of_mem message member)
      cases shaped message List.mem_cons_self with
      | @ended body bodyAbsent =>
          have joined : a ∉ held ++ body := by simp [absent, bodyAbsent]
          have fewer := @ih others [] (by simp) (.inl rfl)
          have shape : held ++ ((body ++ [a]) :: rest).flatten =
              (held ++ body) ++ a :: rest.flatten := by simp
          rw [shape, records_of_body single joined]
          exact Nat.succ_le_succ fewer
      | bare bodyAbsent filled =>
          have joined : a ∉ held ++ message := by simp [absent, bodyAbsent]
          have shape : held ++ (message :: rest).flatten = (held ++ message) ++ rest.flatten := by simp
          rw [shape]
          by_cases last : rest = []
          · rw [last, List.flatten_nil, List.append_nil, records_of_absent single joined]
            split <;> simp
          · exact (ih others joined (.inr last)).trans (Nat.le_succ _)

/-- The records are the messages exactly when every message but the last ends in the
separator. -/
theorem records_flatten_iff {messages : List (List α)} (shaped : ∀ m ∈ messages, Message a m) :
    records sep messages.flatten = messages.map (record a) ↔
      messages.Pairwise fun earlier _ => Ends a earlier := by
  induction messages with
  | nil => simp
  | cons message rest ih =>
      have others : ∀ m ∈ rest, Message a m := fun m member =>
        shaped m (List.mem_cons_of_mem message member)
      cases shaped message List.mem_cons_self with
      | @ended body absent =>
          have shape : ((body ++ [a]) :: rest).flatten = body ++ a :: rest.flatten := by simp
          have ends : Ends a (body ++ [a]) := List.getLast?_concat
          rw [shape, records_of_body single absent, List.map_cons, record_of_ended, List.pairwise_cons]
          constructor
          · intro same
            exact ⟨fun _ _ => ends, (ih others).mp (List.cons.inj same).2⟩
          · intro later
            rw [(ih others).mpr later.2]
      | bare absent filled =>
          rw [List.flatten_cons, List.map_cons, record_of_bare absent]
          by_cases last : rest = []
          · simp [last, records_of_absent single absent, filled]
          · apply iff_of_false
            · intro same
              have fewer := records_flatten_length_le single others absent (.inr last)
              have lengths := congrArg List.length same
              rw [List.length_cons, List.length_map] at lengths
              omega
            · intro ordered
              obtain ⟨next, member⟩ := List.exists_mem_of_ne_nil rest last
              exact absent (List.mem_of_getLast? ((List.pairwise_cons.mp ordered).1 next member))

end Messages

end Splitting
