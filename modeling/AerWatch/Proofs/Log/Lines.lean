import AerWatch.Log.Tail
import Mathlib.Data.List.Infix
import Mathlib.Data.List.TakeWhile

/-!
# Complete lines

What the line breaks of a byte string tell: the lines that are complete and the place where the last
of them ends. Both add up when bytes are appended, because a byte string whose last line is complete
can be cut off in front.
-/

namespace AerWatch.Log

section Break

/-- The lines that a line break ends, decoded lossily and without the carriage returns at their
ends. -/
def completeLines (bytes : List UInt8) : List String :=
  (bytes.splitOn newline).dropLast.map fun line =>
    String.ofList (dropReturns (Utf8.decodeLossy line))

/-- Byte strings that end with a line break, or are empty. -/
def IsComplete (bytes : List UInt8) : Prop := ∀ b ∈ bytes.getLast?, b = newline

/-- `n` is the place behind the last line break, or the start if there is none. -/
structure EndsLines (bytes : List UInt8) (n : Nat) : Prop where
  le : n ≤ bytes.length
  complete : IsComplete (bytes.take n)
  rest : newline ∉ bytes.drop n

theorem completeLines_eq (bytes : List UInt8) :
    completeLines bytes = (bytes.splitOn newline).dropLast.map lineText := rfl

@[simp] theorem completeLength_nil : completeLength [] = 0 := rfl

@[simp] theorem completeLines_nil : completeLines [] = [] := rfl

theorem isComplete_nil : IsComplete [] := fun _ h => absurd h (by simp)

theorem isComplete_iff {bytes : List UInt8} :
    IsComplete bytes ↔ bytes = [] ∨ ∃ body, bytes = body ++ [newline] := by
  cases bytes using List.reverseRecOn with
  | nil => simp [isComplete_nil]
  | append_singleton body b => simp [IsComplete]

end Break

section Tail

variable (bytes : List UInt8)

/-- What stands behind the last line break. -/
def openTail : List UInt8 := (bytes.reverse.takeWhile (· != newline)).reverse

/-- What stands up to the last line break. -/
def completePart : List UInt8 := (bytes.reverse.dropWhile (· != newline)).reverse

theorem completePart_append_openTail : completePart bytes ++ openTail bytes = bytes := by
  rw [completePart, openTail, ← List.reverse_append, List.takeWhile_append_dropWhile,
    List.reverse_reverse]

theorem completeLength_eq : completeLength bytes = (completePart bytes).length := by
  have h := congrArg List.length (completePart_append_openTail bytes)
  simp only [openTail, List.length_append, List.length_reverse] at h
  simp only [completeLength]
  omega

theorem take_completeLength : bytes.take (completeLength bytes) = completePart bytes := by
  have h := @List.take_left _ (completePart bytes) (openTail bytes)
  rwa [completePart_append_openTail, ← completeLength_eq] at h

theorem drop_completeLength : bytes.drop (completeLength bytes) = openTail bytes := by
  have h := @List.drop_left _ (completePart bytes) (openTail bytes)
  rwa [completePart_append_openTail, ← completeLength_eq] at h

theorem newline_notMem_openTail : newline ∉ openTail bytes := by
  intro h
  have := List.mem_takeWhile_imp (List.mem_reverse.mp h)
  simp at this

theorem isComplete_completePart : IsComplete (completePart bytes) := by
  intro b hb
  rw [completePart, List.getLast?_reverse] at hb
  have := List.head?_dropWhile_not (· != newline) bytes.reverse
  rw [hb] at this
  simpa using this

theorem endsLines_completeLength : EndsLines bytes (completeLength bytes) where
  le := Nat.sub_le ..
  complete := take_completeLength bytes ▸ isComplete_completePart bytes
  rest := drop_completeLength bytes ▸ newline_notMem_openTail bytes

end Tail

section Append

theorem completeLength_append {body : List UInt8} (h : IsComplete body) (more : List UInt8) :
    completeLength (body ++ more) = body.length + completeLength more := by
  have hle : ((more.reverse).takeWhile (· != newline)).length ≤ more.length := by
    simpa using (List.takeWhile_prefix (· != newline) (l := more.reverse)).length_le
  simp only [completeLength, List.reverse_append, List.length_append, List.takeWhile_append]
  split
  · rename_i hall
    rw [List.length_reverse] at hall
    rcases isComplete_iff.mp h with rfl | ⟨front, rfl⟩
    · simp [hall]
    · simp [hall]
  · omega

theorem completeLines_append {body : List UInt8} (h : IsComplete body) (more : List UInt8) :
    completeLines (body ++ more) = completeLines body ++ completeLines more := by
  rcases isComplete_iff.mp h with rfl | ⟨front, rfl⟩
  · simp
  · simp only [completeLines_eq, List.append_assoc, List.singleton_append,
      List.splitOn_append_cons_self, List.splitOn_nil, List.dropLast_concat]
    rw [List.dropLast_append_of_ne_nil (List.splitOn_ne_nil _ _), List.map_append]

theorem completeLines_of_notMem {bytes : List UInt8} (h : newline ∉ bytes) :
    completeLines bytes = [] := by
  simp [completeLines, List.splitOn_eq_singleton h]

theorem completeLength_of_notMem {bytes : List UInt8} (h : newline ∉ bytes) :
    completeLength bytes = 0 := by
  have hall : bytes.reverse.takeWhile (· != newline) = bytes.reverse :=
    List.takeWhile_eq_self_iff.mpr fun b hb => by
      simpa using fun hb' : b = newline => h (hb' ▸ List.mem_reverse.mp hb)
  simp [completeLength, hall]

theorem completeLines_completePart (bytes : List UInt8) :
    completeLines (completePart bytes) = completeLines bytes := by
  have h := completeLines_append (isComplete_completePart bytes) (openTail bytes)
  rw [completePart_append_openTail, completeLines_of_notMem (newline_notMem_openTail bytes),
    List.append_nil] at h
  exact h.symm

/-- The pieces between the line breaks of complete lines are these lines and an empty piece. -/
theorem lines_take_completeLength (bytes : List UInt8) :
    lines (bytes.take (completeLength bytes)) = completeLines bytes ++ [""] := by
  rw [take_completeLength, ← completeLines_completePart]
  rcases isComplete_iff.mp (isComplete_completePart bytes) with hp | ⟨front, hp⟩
  · rw [hp]
    rfl
  · rw [hp]
    simp only [lines, completeLines_eq, List.splitOn_append_cons_self, List.splitOn_nil,
      List.dropLast_concat, List.map_append]
    rfl

/-- When bytes are appended, the lines that become complete are those behind the last line break. -/
theorem completeLines_of_grown {seen bytes : List UInt8} (h : seen <+: bytes) :
    completeLines bytes = completeLines seen ++ completeLines (bytes.drop (completeLength seen)) ∧
      completeLength bytes =
        completeLength seen + completeLength (bytes.drop (completeLength seen)) := by
  obtain ⟨more, rfl⟩ := h
  have hdrop : (seen ++ more).drop (completeLength seen) = openTail seen ++ more := by
    rw [List.drop_append_of_le_length (endsLines_completeLength seen).le, drop_completeLength]
  have hbytes : seen ++ more = completePart seen ++ (openTail seen ++ more) := by
    rw [← List.append_assoc, completePart_append_openTail]
  rw [hdrop, ← completeLines_completePart seen, completeLength_eq seen, hbytes]
  exact ⟨completeLines_append (isComplete_completePart seen) _,
    completeLength_append (isComplete_completePart seen) _⟩

end Append

end AerWatch.Log
