import Mathlib.Data.Char
import Mathlib.Data.Finset.Sort
import Mathlib.Data.List.DropRight
import Mathlib.Data.List.Lex
import PowerMeter.Foundations.IntelHex

/-!
# Line filters

The filters of a shell pipeline as functions from the text they read to the text they write. A
filter reads a last line without a newline as well; a loop over `read` does not. Lines are sorted by
code points. Sorted lines stand for their multiset, sorted lines without repetitions for their set,
and what is pasted together can be taken apart again when no piece holds the delimiter.
-/

namespace LineFilters

open IntelHex (fileLines terminatedLines)

/-- The text of a list of lines. -/
def unlines (lines : List (List Char)) : List Char := lines.flatMap (· ++ ['\n'])

/-- `tr` for one character. -/
def tr (old new : Char) (text : List Char) : List Char :=
  text.map fun char => if char = old then new else char

/-- `sort`. -/
def sort (text : List Char) : List Char := unlines ((fileLines text).insertionSort (· ≤ ·))

/-- `sort -u`. -/
def sortUnique (text : List Char) : List Char :=
  unlines ((fileLines text).insertionSort (· ≤ ·)).dedup

/-- `paste -s` with a delimiter. -/
def pasteSerial (delimiter : Char) (text : List Char) : List Char :=
  [delimiter].intercalate (fileLines text) ++ ['\n']

/-- What a command substitution makes of an output. -/
def substitution (text : List Char) : List Char := text.rdropWhile (· = '\n')

section Canonical

variable {α : Type*} [LinearOrder α]

theorem insertionSort_eq_iff {left right : List α} :
    left.insertionSort (· ≤ ·) = right.insertionSort (· ≤ ·) ↔ left.Perm right := by
  have left_perm := List.perm_insertionSort (· ≤ ·) left
  have right_perm := List.perm_insertionSort (· ≤ ·) right
  constructor
  · intro same
    exact left_perm.symm.trans (same ▸ right_perm)
  · intro perm
    exact ((left_perm.trans perm).trans right_perm.symm).eq_of_pairwise'
      (List.pairwise_insertionSort _ _) (List.pairwise_insertionSort _ _)

theorem dedup_insertionSort [DecidableEq α] (lines : List α) :
    (lines.insertionSort (· ≤ ·)).dedup = lines.toFinset.sort := by
  have sorted : (lines.insertionSort (· ≤ ·)).dedup.Pairwise (· ≤ ·) :=
    (List.pairwise_insertionSort _ _).sublist (List.dedup_sublist _)
  rw [← (List.toFinset_sort (· ≤ ·) (List.nodup_dedup _)).mpr sorted]
  congr 1
  ext line
  simp

theorem sort_injective : Function.Injective fun set : Finset α => set.sort := by
  intro left right same
  have := congrArg List.toFinset same
  simpa using this

theorem sort_ne_nil {set : Finset α} (nonempty : set.Nonempty) : set.sort ≠ [] := by
  rw [← List.length_pos_iff, Finset.length_sort]
  exact nonempty.card_pos

end Canonical

/-- A piece is a part of the text without the separator. -/
theorem piece_of_mem_splitOn {separator : Char} {text piece : List Char}
    (member : piece ∈ text.splitOn separator) : separator ∉ piece ∧ piece ⊆ text := by
  induction text generalizing piece with
  | nil =>
      obtain rfl : piece = [] := by simpa using member
      exact ⟨List.not_mem_nil, List.Subset.refl _⟩
  | cons char text induction =>
      rw [List.splitOn_cons_eq_if_modifyHead] at member
      split at member
      · rcases List.mem_cons.mp member with rfl | member
        · exact ⟨List.not_mem_nil, List.nil_subset _⟩
        · obtain ⟨free, within⟩ := induction member
          exact ⟨free, List.subset_cons_of_subset char within⟩
      · next differs =>
        obtain ⟨first, later, pieces⟩ := List.exists_cons_of_ne_nil
          (List.splitOn_ne_nil separator text)
        rw [pieces, List.modifyHead_cons] at member
        rcases List.mem_cons.mp member with rfl | member
        · obtain ⟨free, within⟩ := induction (pieces ▸ List.mem_cons_self)
          have other : separator ≠ char := Ne.symm (by simpa using differs)
          exact ⟨by simp [free, other], List.cons_subset_cons char within⟩
        · obtain ⟨free, within⟩ := induction (pieces ▸ List.mem_cons_of_mem first member)
          exact ⟨free, List.subset_cons_of_subset char within⟩

theorem not_mem_of_mem_splitOn {separator : Char} {text piece : List Char}
    (member : piece ∈ text.splitOn separator) : separator ∉ piece :=
  (piece_of_mem_splitOn member).1

theorem subset_of_mem_splitOn {separator : Char} {text piece : List Char}
    (member : piece ∈ text.splitOn separator) : piece ⊆ text :=
  (piece_of_mem_splitOn member).2

theorem fileLines_append_newline (text : List Char) :
    fileLines (text ++ ['\n']) = text.splitOn '\n' := by
  have pieces : (text ++ ['\n']).splitOn '\n' = text.splitOn '\n' ++ [[]] :=
    List.splitOn_append_cons_self text []
  rw [fileLines, terminatedLines, pieces, List.getLast?_concat, if_pos rfl, List.dropLast_concat]

theorem newline_not_mem_of_mem_fileLines {text line : List Char} (member : line ∈ fileLines text) :
    '\n' ∉ line := by
  rw [fileLines, terminatedLines] at member
  split at member
  · exact not_mem_of_mem_splitOn (List.mem_of_mem_dropLast member)
  · exact not_mem_of_mem_splitOn member

theorem subset_of_mem_fileLines {text line : List Char} (member : line ∈ fileLines text) :
    line ⊆ text := by
  rw [fileLines, terminatedLines] at member
  split at member
  · exact subset_of_mem_splitOn (List.mem_of_mem_dropLast member)
  · exact subset_of_mem_splitOn member

theorem not_mem_tr {old new : Char} (differ : old ≠ new) (text : List Char) :
    old ∉ tr old new text := by
  intro member
  obtain ⟨char, -, replaced⟩ := List.mem_map.mp member
  split at replaced
  · exact differ replaced.symm
  · next kept => exact kept replaced

theorem splitOn_unlines {lines : List (List Char)} (unbroken : ∀ line ∈ lines, '\n' ∉ line) :
    (unlines lines).splitOn '\n' = lines ++ [[]] := by
  induction lines with
  | nil => rfl
  | cons line lines induction =>
      obtain ⟨first, later⟩ := List.forall_mem_cons.mp unbroken
      rw [unlines, List.flatMap_cons, List.append_assoc, List.singleton_append,
        List.splitOn_append_cons_self_of_not_mem first]
      exact congrArg (line :: ·) (induction later)

theorem fileLines_unlines {lines : List (List Char)} (unbroken : ∀ line ∈ lines, '\n' ∉ line) :
    fileLines (unlines lines) = lines := by
  rw [fileLines, terminatedLines, splitOn_unlines unbroken, List.getLast?_concat, if_pos rfl,
    List.dropLast_concat]

theorem fileLines_sort (text : List Char) :
    fileLines (sort text) = (fileLines text).insertionSort (· ≤ ·) := by
  apply fileLines_unlines
  intro line member
  exact newline_not_mem_of_mem_fileLines ((List.mem_insertionSort _).mp member)

theorem fileLines_sortUnique (text : List Char) :
    fileLines (sortUnique text) = (fileLines text).toFinset.sort := by
  rw [sortUnique, dedup_insertionSort]
  apply fileLines_unlines
  intro line member
  exact newline_not_mem_of_mem_fileLines (by simpa using member)

/-- The pieces of a text without newlines become its lines. -/
theorem splitOn_tr {separator : Char} {text : List Char} (unbroken : '\n' ∉ text) :
    (tr separator '\n' text).splitOn '\n' = text.splitOn separator := by
  induction text with
  | nil => rfl
  | cons char text induction =>
      obtain ⟨kept, later⟩ : '\n' ≠ char ∧ '\n' ∉ text := by simpa using unbroken
      rw [tr, List.map_cons, List.splitOn_cons_eq_if_modifyHead,
        List.splitOn_cons_eq_if_modifyHead, ← tr, induction later]
      by_cases separates : char = separator
      · simp [separates]
      · simp [separates, kept.symm]

theorem fileLines_tr_terminated {separator : Char} {text : List Char} (unbroken : '\n' ∉ text) :
    fileLines (tr separator '\n' (text ++ ['\n'])) = text.splitOn separator := by
  rw [tr, List.map_append, ← tr, List.map_singleton, ite_self, fileLines_append_newline,
    splitOn_tr unbroken]

theorem not_mem_intercalate {delimiter char : Char} {pieces : List (List Char)}
    (other : char ≠ delimiter) (free : ∀ piece ∈ pieces, char ∉ piece) :
    char ∉ [delimiter].intercalate pieces := by
  induction pieces with
  | nil => exact List.not_mem_nil
  | cons first later induction =>
      obtain ⟨first_free, later_free⟩ := List.forall_mem_cons.mp free
      cases later with
      | nil => simpa using first_free
      | cons next later =>
          rw [List.intercalate_cons_cons]
          simp [first_free, other, induction later_free]

theorem substitution_append_newline {text : List Char} (unbroken : '\n' ∉ text) :
    substitution (text ++ ['\n']) = text := by
  rw [substitution, List.rdropWhile_concat_pos _ _ _ (by simp), List.rdropWhile_eq_self_iff]
  intro nonempty
  simpa using ne_of_mem_of_not_mem (List.getLast_mem nonempty) unbroken

theorem substitution_pasteSerial {delimiter : Char} (visible : '\n' ≠ delimiter)
    (text : List Char) :
    substitution (pasteSerial delimiter text) = [delimiter].intercalate (fileLines text) := by
  apply substitution_append_newline
  apply not_mem_intercalate visible
  intro line member
  exact newline_not_mem_of_mem_fileLines member

/-- Pieces that do not hold the delimiter can be read back from the text they are pasted to. -/
theorem intercalate_inj {delimiter : Char} {left right : List (List Char)}
    (left_free : ∀ piece ∈ left, delimiter ∉ piece)
    (right_free : ∀ piece ∈ right, delimiter ∉ piece)
    (left_nonempty : left ≠ []) (right_nonempty : right ≠ []) :
    [delimiter].intercalate left = [delimiter].intercalate right ↔ left = right := by
  refine ⟨fun same => ?_, congrArg _⟩
  rw [← List.splitOn_intercalate delimiter left_free left_nonempty, same,
    List.splitOn_intercalate delimiter right_free right_nonempty]

theorem intercalate_ne_nil {delimiter : Char} {pieces : List (List Char)} (nonempty : pieces ≠ [])
    (visible : ∀ piece ∈ pieces, piece ≠ []) : [delimiter].intercalate pieces ≠ [] := by
  cases pieces with
  | nil => exact absurd rfl nonempty
  | cons first later =>
      have first_visible := visible first List.mem_cons_self
      cases later with
      | nil => simpa using first_visible
      | cons next later => simp [List.intercalate_cons_cons]

/-- When no piece on the right is empty, there may also be no pieces. -/
theorem intercalate_inj_of_visible {delimiter : Char} {left right : List (List Char)}
    (left_free : ∀ piece ∈ left, delimiter ∉ piece)
    (right_free : ∀ piece ∈ right, delimiter ∉ piece)
    (left_visible : right = [] → ∀ piece ∈ left, piece ≠ [])
    (right_visible : ∀ piece ∈ right, piece ≠ []) :
    [delimiter].intercalate left = [delimiter].intercalate right ↔ left = right := by
  by_cases left_empty : left = []
  · by_cases right_empty : right = []
    · simp [left_empty, right_empty]
    · refine iff_of_false ?_ (by rw [left_empty]; exact Ne.symm right_empty)
      rw [left_empty, List.intercalate_nil]
      exact (intercalate_ne_nil right_empty right_visible).symm
  · by_cases right_empty : right = []
    · refine iff_of_false ?_ (by rw [right_empty]; exact left_empty)
      rw [right_empty, List.intercalate_nil]
      exact intercalate_ne_nil left_empty (left_visible right_empty)
    · exact intercalate_inj left_free right_free left_empty right_empty

end LineFilters
