import Mathlib.Algebra.Ring.Int.Defs
import Mathlib.Algebra.Ring.Nat

/-!
Words of 64 bits as a checking machine computes with them: a sum or product that is not a word is no result,
and every other one is exact. A word counts as the unsigned number or as the signed one that it stands for.
-/

set_option autoImplicit false
set_option relaxedAutoImplicit false

namespace GameOfLife

namespace Word

def product? (a b : UInt64) : Option UInt64 :=
  if a.toNat * b.toNat < 2 ^ 64 then some (a * b) else none

def sum? (a b : UInt64) : Option UInt64 :=
  if a.toNat + b.toNat < 2 ^ 64 then some (a + b) else none

def IsSigned (value : Int) : Prop :=
  -2 ^ 63 ≤ value ∧ value < 2 ^ 63

instance (value : Int) : Decidable (IsSigned value) :=
  inferInstanceAs (Decidable (_ ∧ _))

def signedSum? (a b : Int64) : Option Int64 :=
  if IsSigned (a.toInt + b.toInt) then some (a + b) else none

def signedProduct? (a b : Int64) : Option Int64 :=
  if IsSigned (a.toInt * b.toInt) then some (a * b) else none

def signed (x : UInt64) : Int :=
  if x.toNat < 2 ^ 63 then x.toNat else x.toNat - 2 ^ 64

theorem signed_of_lt {x : UInt64} (small : x.toNat < 2 ^ 63) : signed x = x.toNat :=
  if_pos small

theorem signed_of_last {x : UInt64} (last : x.toNat = 2 ^ 64 - 1) : signed x = -1 := by
  rw [signed, last]
  decide

private theorem checkedNat_eq_some_iff {exact : Nat} {wrapped c : UInt64}
    (wraps : wrapped.toNat = exact % 2 ^ 64) :
    (if exact < 2 ^ 64 then some wrapped else none) = some c ↔ c.toNat = exact := by
  rw [Option.ite_none_right_eq_some, Option.some.injEq, ← UInt64.toNat_inj, wraps]
  constructor
  · rintro ⟨bound, same⟩
    rw [← same, Nat.mod_eq_of_lt bound]
  · intro value
    have bound : exact < 2 ^ 64 := value ▸ c.toNat_lt
    exact ⟨bound, (Nat.mod_eq_of_lt bound).trans value.symm⟩

theorem product?_eq_some_iff {a b c : UInt64} :
    product? a b = some c ↔ c.toNat = a.toNat * b.toNat :=
  checkedNat_eq_some_iff (UInt64.toNat_mul a b)

theorem sum?_eq_some_iff {a b c : UInt64} : sum? a b = some c ↔ c.toNat = a.toNat + b.toNat :=
  checkedNat_eq_some_iff (UInt64.toNat_add a b)

theorem exists_toNat_eq {value : Nat} (bound : value < 2 ^ 64) : ∃ a : UInt64, a.toNat = value :=
  ⟨.ofNat value, UInt64.toNat_ofNat_of_lt' bound⟩

theorem exists_product? {a b : UInt64} (bound : a.toNat * b.toNat < 2 ^ 64) :
    ∃ c, product? a b = some c ∧ c.toNat = a.toNat * b.toNat := by
  obtain ⟨c, value⟩ := exists_toNat_eq bound
  exact ⟨c, product?_eq_some_iff.2 value, value⟩

theorem exists_sum? {a b : UInt64} (bound : a.toNat + b.toNat < 2 ^ 64) :
    ∃ c, sum? a b = some c ∧ c.toNat = a.toNat + b.toNat := by
  obtain ⟨c, value⟩ := exists_toNat_eq bound
  exact ⟨c, sum?_eq_some_iff.2 value, value⟩

theorem isSigned_toInt (a : Int64) : IsSigned a.toInt :=
  ⟨Int64.le_toInt a, Int64.toInt_lt a⟩

theorem bmod_of_isSigned {value : Int} (h : IsSigned value) : value.bmod (2 ^ 64) = value := by
  obtain ⟨lower, upper⟩ := h
  exact Int.bmod_eq_of_le (by omega) (by omega)

theorem exists_toInt_eq {value : Int} (h : IsSigned value) : ∃ a : Int64, a.toInt = value :=
  ⟨.ofInt value, Int64.toInt_ofInt.trans (bmod_of_isSigned h)⟩

private theorem checked_eq_some_iff {exact : Int} {wrapped c : Int64} (wraps : wrapped.toInt = exact.bmod (2 ^ 64)) :
    (if IsSigned exact then some wrapped else none) = some c ↔ c.toInt = exact := by
  rw [Option.ite_none_right_eq_some, Option.some.injEq, ← Int64.toInt_inj, wraps]
  constructor
  · rintro ⟨bound, same⟩
    rw [← same, bmod_of_isSigned bound]
  · intro value
    have bound : IsSigned exact := value ▸ isSigned_toInt c
    exact ⟨bound, (bmod_of_isSigned bound).trans value.symm⟩

theorem signedSum?_eq_some_iff {a b c : Int64} :
    signedSum? a b = some c ↔ c.toInt = a.toInt + b.toInt :=
  checked_eq_some_iff (Int64.toInt_add a b)

theorem signedProduct?_eq_some_iff {a b c : Int64} :
    signedProduct? a b = some c ↔ c.toInt = a.toInt * b.toInt :=
  checked_eq_some_iff (Int64.toInt_mul a b)

theorem exists_signedSum? {a b : Int64} (bound : IsSigned (a.toInt + b.toInt)) :
    ∃ c, signedSum? a b = some c ∧ c.toInt = a.toInt + b.toInt := by
  obtain ⟨c, value⟩ := exists_toInt_eq bound
  exact ⟨c, signedSum?_eq_some_iff.2 value, value⟩

theorem toInt_toInt64 (x : UInt64) : x.toInt64.toInt = signed x := by
  have reading : x.toInt64.toInt = _ := BitVec.toInt_eq_toNat_cond x.toBitVec
  rw [reading, UInt64.toNat_toBitVec, signed]
  split <;> split <;> omega

theorem toNat_toUInt64 {x : Int64} {n : Nat} (h : x.toInt = n) : x.toUInt64.toNat = n := by
  have nonneg : 0 ≤ x := by
    rw [Int64.le_iff_toInt_le, h]
    exact Int.natCast_nonneg n
  rw [Int64.toNat_toUInt64_of_le nonneg, ← Int64.toNat_toInt, h, Int.toNat_natCast]

theorem isSigned_signed_add {x : UInt64} (inner : x.toNat ≠ 2 ^ 63 - 1 ∧ x.toNat ≠ 2 ^ 63) {step : Int}
    (small : -1 ≤ step ∧ step ≤ 1) : IsSigned (signed x + step) := by
  have bound := x.toNat_lt
  unfold signed IsSigned
  split <;> omega

end Word

end GameOfLife
