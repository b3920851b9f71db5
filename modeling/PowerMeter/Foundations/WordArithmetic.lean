import Mathlib.Algebra.Order.Round
import Mathlib.Data.Rat.Floor
import Mathlib.Tactic.FieldSimp
import Mathlib.Tactic.Ring

/-!
# Recorded word arithmetic and rounded division

A recorded computation on 32-bit words keeps the operations it executed next to its result, so that
the absence of wrap-around and of a division by zero is a property of the computation itself.
Rounded division adds half the divisor before dividing; it is `round` of the quotient.
-/

namespace Guarded

/-- A 32-bit operation with its operands. -/
inductive WordOp
  | add (left right : UInt32)
  | sub (left right : UInt32)
  | mul (left right : UInt32)
  | div (left right : UInt32)
  deriving DecidableEq

/-- The operation neither wraps nor divides by zero. -/
def WordOp.Exact : WordOp → Prop
  | add left right => left.toNat + right.toNat < 2 ^ 32
  | sub left right => right.toNat ≤ left.toNat
  | mul left right => left.toNat * right.toNat < 2 ^ 32
  | div _ right => right.toNat ≠ 0

/-- A result and the operations executed for it, in order. -/
structure Recorded (α : Type) where
  result : α
  operations : List WordOp

namespace Recorded

variable {α β : Type}

instance : Monad Recorded where
  pure result := ⟨result, []⟩
  bind computation next :=
    ⟨(next computation.result).result,
      computation.operations ++ (next computation.result).operations⟩

/-- All executed operations are exact. -/
def Exact (computation : Recorded α) : Prop := ∀ op ∈ computation.operations, op.Exact

/-- Add two words. -/
def add (left right : UInt32) : Recorded UInt32 := ⟨left + right, [.add left right]⟩

/-- Subtract two words. -/
def sub (left right : UInt32) : Recorded UInt32 := ⟨left - right, [.sub left right]⟩

/-- Multiply two words. -/
def mul (left right : UInt32) : Recorded UInt32 := ⟨left * right, [.mul left right]⟩

/-- Divide two words. -/
def div (left right : UInt32) : Recorded UInt32 := ⟨left / right, [.div left right]⟩

/-- The computation is exact and its result meets the postcondition. -/
def Satisfies (computation : Recorded α) (post : α → Prop) : Prop :=
  computation.Exact ∧ post computation.result

theorem satisfies_pure {post : α → Prop} {result : α} (holds : post result) :
    Recorded.Satisfies (pure result) post :=
  ⟨List.forall_mem_nil _, holds⟩

/-- Run one computation after another. -/
theorem Satisfies.bind {computation : Recorded α} {next : α → Recorded β} {mid : α → Prop}
    {post : β → Prop} (first : computation.Satisfies mid)
    (rest : ∀ result, mid result → (next result).Satisfies post) :
    (computation >>= next).Satisfies post := by
  obtain ⟨exact_first, holds⟩ := first
  obtain ⟨exact_rest, holds⟩ := rest computation.result holds
  exact ⟨List.forall_mem_append.mpr ⟨exact_first, exact_rest⟩, holds⟩

theorem satisfies_operation {op : WordOp} {result : α} {post : α → Prop} (exact : op.Exact)
    (holds : post result) : Recorded.Satisfies ⟨result, [op]⟩ post :=
  ⟨List.forall_mem_singleton.mpr exact, holds⟩

theorem satisfies_add {left right : UInt32} (fits : left.toNat + right.toNat < 2 ^ 32) :
    (add left right).Satisfies fun sum => sum.toNat = left.toNat + right.toNat := by
  refine satisfies_operation fits ?_
  rw [UInt32.toNat_add, Nat.mod_eq_of_lt fits]

theorem satisfies_sub {left right : UInt32} (ordered : right.toNat ≤ left.toNat) :
    (sub left right).Satisfies fun difference =>
      difference.toNat = left.toNat - right.toNat :=
  satisfies_operation ordered
    (UInt32.toNat_sub_of_le left right (UInt32.le_iff_toNat_le.mpr ordered))

theorem satisfies_mul {left right : UInt32} (fits : left.toNat * right.toNat < 2 ^ 32) :
    (mul left right).Satisfies fun product => product.toNat = left.toNat * right.toNat := by
  refine satisfies_operation fits ?_
  rw [UInt32.toNat_mul, Nat.mod_eq_of_lt fits]

theorem satisfies_div {left right : UInt32} (nonzero : right.toNat ≠ 0) :
    (div left right).Satisfies fun quotient => quotient.toNat = left.toNat / right.toNat :=
  satisfies_operation nonzero (UInt32.toNat_div left right)

end Recorded

/-- Division rounded to the nearest whole number, halves up. -/
def roundDiv (numerator divisor : ℕ) : ℕ := (numerator + divisor / 2) / divisor

/-- Adding half the divisor rounds the exact quotient, also when the divisor is odd. -/
theorem roundDiv_eq_round (numerator divisor : ℕ) :
    (roundDiv numerator divisor : ℤ) = round ((numerator : ℚ) / divisor) := by
  rcases Nat.eq_zero_or_pos divisor with rfl | positive
  · simp [roundDiv]
  have doubled : roundDiv numerator divisor = (2 * numerator + divisor) / (2 * divisor) := by
    rw [roundDiv, ← Nat.div_div_eq_div_mul]
    congr 1
    omega
  have shifted : (numerator : ℚ) / divisor + 1 / 2 =
      ((2 * numerator + divisor : ℕ) : ℚ) / ((2 * divisor : ℕ) : ℚ) := by
    have nonzero : (divisor : ℚ) ≠ 0 := Nat.cast_ne_zero.mpr positive.ne'
    push_cast
    field_simp
  rw [round_eq, shifted, Rat.floor_natCast_div_natCast, doubled, Int.natCast_ediv]

@[simp]
theorem roundDiv_zero_right (numerator : ℕ) : roundDiv numerator 0 = 0 :=
  Nat.div_zero _

/-- A whole quotient is not rounded. -/
theorem roundDiv_mul {divisor : ℕ} (positive : 0 < divisor) (quotient : ℕ) :
    roundDiv (quotient * divisor) divisor = quotient := by
  have half_lt : divisor / 2 < divisor := Nat.div_lt_self positive Nat.one_lt_two
  rw [roundDiv, Nat.mul_comm, Nat.mul_add_div positive, Nat.div_eq_of_lt half_lt, Nat.add_zero]

theorem roundDiv_mono {smaller larger : ℕ} (ordered : smaller ≤ larger) (divisor : ℕ) :
    roundDiv smaller divisor ≤ roundDiv larger divisor :=
  Nat.div_le_div_right (Nat.add_le_add_right ordered _)

end Guarded
