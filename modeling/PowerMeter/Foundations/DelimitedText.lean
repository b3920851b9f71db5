import Mathlib.Data.List.TakeWhile
import Mathlib.Data.Int.Notation

/-!
# Delimited text

Text files of records: one record a line, its fields separated by a character. Lines are read with
universal newlines, so a carriage return ends a line too, and fields are split at the first few
separators only. A text that is written as one line but holds line breaks is read as its first line
and a remainder made of the characters after it.
-/

namespace DelimitedText

/-- A character that ends a line when it is read. -/
def isBreak (char : Char) : Bool := char = '\n' || char = '\r'

/-- The text has no line break. -/
def Unbroken (text : List Char) : Prop := ∀ char ∈ text, isBreak char = false

instance (text : List Char) : Decidable (Unbroken text) :=
  decidable_of_iff (text.all (!isBreak ·) = true) (by simp [Unbroken])

/-- The text up to its first line break. -/
def firstLine (text : List Char) : List Char := text.takeWhile (!isBreak ·)

/-- The lines of a file, without what ends them. A carriage return and a line feed end a line
together; a last line may be unterminated. -/
def lines : List Char → List (List Char)
  | [] => [[]]
  | char :: rest =>
      if char = '\n' ∨ char = '\r' ∧ rest.head? ≠ some '\n' then [] :: lines rest
      else if char = '\r' then lines rest
      else (lines rest).modifyHead (char :: ·)

/-- The fields of a line, split at most `splits` times. -/
def fields (separator : Char) : ℕ → List Char → List (List Char)
  | 0, line => [line]
  | splits + 1, line =>
      match line.dropWhile (· ≠ separator) with
      | [] => [line]
      | _ :: rest => line.takeWhile (· ≠ separator) :: fields separator splits rest

theorem firstLine_cons (char : Char) (text : List Char) :
    firstLine (char :: text) = if isBreak char then [] else char :: firstLine text := by
  rw [firstLine, List.takeWhile_cons]
  cases isBreak char <;> rfl

theorem Unbroken.append {front back : List Char} (front_unbroken : Unbroken front)
    (back_unbroken : Unbroken back) : Unbroken (front ++ back) := by
  intro char member
  rcases List.mem_append.mp member with member | member
  · exact front_unbroken char member
  · exact back_unbroken char member

theorem firstLine_append {front : List Char} (unbroken : Unbroken front) (text : List Char) :
    firstLine (front ++ text) = front ++ firstLine text := by
  apply List.takeWhile_append_of_pos
  intro char member
  simp [unbroken char member]

/-- A text written as one line is read as its first line and a remainder. -/
theorem lines_terminated (text rest : List Char) :
    ∃ remainder, lines (text ++ '\n' :: rest) = firstLine text :: (remainder ++ lines rest) ∧
      ∀ line ∈ remainder, line ⊆ text.dropWhile (!isBreak ·) := by
  induction text with
  | nil => exact ⟨[], by simp [lines, firstLine], by simp⟩
  | cons char text induction =>
      obtain ⟨remainder, read, within⟩ := induction
      have later : ∀ line ∈ remainder, line ⊆ char :: text := by
        intro line member
        have inside := List.Subset.trans (within line member) (List.dropWhile_subset _)
        exact List.subset_cons_of_subset char inside
      rw [List.cons_append, lines, firstLine_cons, List.dropWhile_cons]
      split
      next ends =>
        have breaks : isBreak char = true := by
          rcases ends with rfl | ⟨rfl, -⟩ <;> rfl
        refine ⟨firstLine text :: remainder, by rw [read, if_pos breaks]; rfl, ?_⟩
        rw [if_neg (by simp [breaks])]
        intro line member
        rcases List.mem_cons.mp member with rfl | member
        · exact List.subset_cons_of_subset char (List.takeWhile_subset _)
        · exact later line member
      next goes_on =>
        obtain ⟨unfed, followed⟩ := not_or.mp goes_on
        by_cases returns : char = '\r'
        · -- The line feed of "\r\n" ends the line, be it part of the text or its terminator.
          have fed : firstLine text = [] := by
            cases text with
            | nil => rfl
            | cons next text =>
                obtain rfl : next = '\n' := by simpa [returns] using followed
                rfl
          have breaks : isBreak char = true := by rw [returns]; rfl
          rw [if_pos returns, if_pos breaks, if_neg (by simp [breaks])]
          exact ⟨remainder, by rw [read, fed], later⟩
        · have kept : ¬ isBreak char = true := by simp [isBreak, unfed, returns]
          have passed : (!isBreak char) = true := by simpa using kept
          rw [if_neg returns, if_pos passed, if_neg kept]
          exact ⟨remainder, by rw [read]; rfl, within⟩

theorem lines_of_unbroken {text : List Char} (unbroken : Unbroken text) (rest : List Char) :
    lines (text ++ '\n' :: rest) = text :: lines rest := by
  induction text with
  | nil => simp [lines]
  | cons char text induction =>
      have kept : isBreak char = false := unbroken char List.mem_cons_self
      have read := induction fun other member => unbroken other (List.mem_cons_of_mem _ member)
      obtain ⟨unfed, unreturned⟩ : char ≠ '\n' ∧ char ≠ '\r' := by simpa [isBreak] using kept
      rw [List.cons_append, lines, if_neg (by simp [unfed, unreturned]), if_neg unreturned, read]
      rfl

theorem fields_cons {separator : Char} {field : List Char} (inside : separator ∉ field)
    (splits : ℕ) (rest : List Char) :
    fields separator (splits + 1) (field ++ separator :: rest) =
      field :: fields separator splits rest := by
  have passed : ∀ char ∈ field, decide (char ≠ separator) = true := by
    rintro char member
    simpa using ne_of_mem_of_not_mem member inside
  rw [fields, List.dropWhile_append_of_pos passed, List.takeWhile_append_of_pos passed]
  simp

theorem fields_of_not_mem {separator : Char} {line : List Char} (inside : separator ∉ line)
    (splits : ℕ) : fields separator splits line = [line] := by
  cases splits with
  | zero => rfl
  | succ splits =>
      have passed : line.dropWhile (· ≠ separator) = [] := by
        rw [List.dropWhile_eq_nil_iff]
        intro char member
        simpa using ne_of_mem_of_not_mem member inside
      rw [fields, passed]

theorem fields_ne_nil (separator : Char) (splits : ℕ) (line : List Char) :
    fields separator splits line ≠ [] := by
  cases splits with
  | zero => simp [fields]
  | succ splits =>
      rw [fields]
      split <;> simp

/-- No field but the last holds a separator. -/
theorem not_mem_of_mem_dropLast {separator : Char} {splits : ℕ} {line field : List Char}
    (member : field ∈ (fields separator splits line).dropLast) : separator ∉ field := by
  induction splits generalizing line with
  | zero => simp [fields] at member
  | succ splits induction =>
      rw [fields] at member
      split at member
      next => simp at member
      next char rest split_eq =>
        rw [List.dropLast_cons_of_ne_nil (fields_ne_nil separator splits rest)] at member
        rcases List.mem_cons.mp member with rfl | member
        · intro held
          simpa using List.mem_takeWhile_imp held
        · exact induction member

theorem subset_of_mem_fields {separator : Char} {splits : ℕ} {line field : List Char}
    (member : field ∈ fields separator splits line) : field ⊆ line := by
  induction splits generalizing line with
  | zero =>
      obtain rfl : field = line := by simpa [fields] using member
      exact List.Subset.refl _
  | succ splits induction =>
      rw [fields] at member
      split at member
      next =>
        obtain rfl : field = line := by simpa using member
        exact List.Subset.refl _
      next char rest split_eq =>
        rcases List.mem_cons.mp member with rfl | member
        · exact List.takeWhile_subset _
        · have within : rest ⊆ line := by
            intro other held
            apply List.dropWhile_subset (· ≠ separator)
            rw [split_eq]
            exact List.mem_cons_of_mem _ held
          exact List.Subset.trans (induction member) within

theorem unbroken_of_mem_lines {text line : List Char} (member : line ∈ lines text) :
    Unbroken line := by
  induction text generalizing line with
  | nil =>
      obtain rfl : line = [] := by simpa [lines] using member
      simp [Unbroken]
  | cons char text induction =>
      rw [lines] at member
      split at member
      next =>
        rcases List.mem_cons.mp member with rfl | member
        · simp [Unbroken]
        · exact induction member
      next goes_on =>
        obtain ⟨unfed, -⟩ := not_or.mp goes_on
        by_cases returns : char = '\r'
        · rw [if_pos returns] at member
          exact induction member
        · rw [if_neg returns] at member
          cases read : lines text with
          | nil => simp [read] at member
          | cons first later =>
              rw [read, List.modifyHead_cons] at member
              rcases List.mem_cons.mp member with rfl | member
              · intro other held
                rcases List.mem_cons.mp held with rfl | held
                · simp [isBreak, unfed, returns]
                · exact induction (read ▸ List.mem_cons_self) other held
              · exact induction (read ▸ List.mem_cons_of_mem _ member)

end DelimitedText
