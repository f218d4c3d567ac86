/-
TopologyExporter/GoInt.lean

Go's `int64` arithmetic.  An `int64` is an `Int`; the operations that may
leave the range wrap explicitly (`wrap`, two's complement).  Wrapping may be
postponed to the end of a sum (`foldl_wrap_add`), so an accumulator that wraps
at every step is exact as soon as its total fits.
-/
import Mathlib.Algebra.Ring.Int.Defs
import Mathlib.Algebra.BigOperators.Group.List.Basic
import Mathlib.Data.List.Basic

namespace GoInt

/-! ### Two's complement -/

/-- The values of `int64`. -/
def InRange (x : Int) : Prop := -2 ^ 63 ≤ x ∧ x < 2 ^ 63

instance (x : Int) : Decidable (InRange x) := inferInstanceAs (Decidable (_ ∧ _))

/-- Reduction of a mathematical integer to `int64`. -/
def wrap (x : Int) : Int := x.bmod (2 ^ 64)

theorem wrap_of_inRange {x : Int} (h : InRange x) : wrap x = x := by
  obtain ⟨hlo, hhi⟩ := h
  exact Int.bmod_eq_of_le_mul_two (by omega) (by omega)

theorem wrap_inRange (x : Int) : InRange (wrap x) := by
  have hlo : -((2 ^ 64 : Nat) / 2 : Int) ≤ x.bmod (2 ^ 64) := Int.le_bmod (by decide)
  have hhi : x.bmod (2 ^ 64) < ((2 ^ 64 : Nat) + 1 : Int) / 2 := Int.bmod_lt (by decide)
  constructor
  · unfold wrap; omega
  · unfold wrap; omega

/-- How often a mathematical integer has gone around the range of `int64`. -/
def overflows (x : Int) : Int := (x + 2 ^ 63) / 2 ^ 64

theorem wrap_eq_sub_overflows (x : Int) : wrap x = x - 2 ^ 64 * overflows x := by
  have hmod : wrap x = if x % (2 ^ 64 : Nat) < ((2 ^ 64 : Nat) + 1 : Int) / 2
      then x % (2 ^ 64 : Nat) else x % (2 ^ 64 : Nat) - (2 ^ 64 : Nat) := rfl
  rw [hmod, overflows]
  split_ifs <;> omega

theorem overflows_of_inRange {x : Int} (h : InRange x) : overflows x = 0 := by
  obtain ⟨hlo, hhi⟩ := h
  unfold overflows
  omega

@[simp] theorem wrap_add_wrap (x y : Int) : wrap (wrap x + y) = wrap (x + y) :=
  Int.bmod_add_bmod

/-- Wrapping at every step of a sum or once at its end is the same. -/
theorem foldl_wrap_add {α : Type} (f : α → Int) (l : List α) {a : Int} (ha : InRange a) :
    l.foldl (fun acc x => wrap (acc + f x)) a = wrap (a + (l.map f).sum) := by
  induction l generalizing a with
  | nil => simp [wrap_of_inRange ha]
  | cons x l ih =>
      rw [List.foldl_cons, ih (wrap_inRange _), wrap_add_wrap, List.map_cons, List.sum_cons,
        Int.add_assoc]

/-- Subtraction of two `int64` values.  The difference of two non-negative
values always fits, so only the other differences need wrapping. -/
def sub (x y : Int) : Int := if 0 ≤ x ∧ 0 ≤ y then x - y else wrap (x - y)

theorem sub_of_nonneg {x y : Int} (hx : 0 ≤ x) (hy : 0 ≤ y) : sub x y = x - y := by
  rw [sub, if_pos ⟨hx, hy⟩]

end GoInt
