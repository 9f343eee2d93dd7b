import GameOfLife.Proofs.Text.Accumulation

/-!
Unsigned numerals read in machine words. The digits are taken from the left, each time ten times the number
so far and the next digit, and reading fails as soon as a result is no word. So a run of digits is read
exactly if its value is a word, however many zeros stand in front; a plus may stand before it and a minus
may not.
-/

set_option autoImplicit false
set_option relaxedAutoImplicit false

namespace GameOfLife.Text

def pushUnsigned? (value : UInt64) (c : Char) : Option UInt64 :=
  if c.isDigit = true then do
    let tenfold ← Word.product? value 10
    Word.sum? tenfold (.ofNat (c.toNat - 48))
  else none

def accumulatedUnsigned? (digits : List Char) : Option UInt64 :=
  if digits = [] then none else digits.foldlM pushUnsigned? 0

def unsignedWord? : List Char → Option UInt64
  | '+' :: digits => accumulatedUnsigned? digits
  | digits => accumulatedUnsigned? digits

section Digits

variable {digits : List Char} {value w : UInt64} {c : Char}

private theorem toNat_ofNat_digit (digit : c.isDigit = true) :
    (UInt64.ofNat (c.toNat - 48)).toNat = c.toNat - 48 := by
  have range := toNat_of_isDigit digit
  have small : c.toNat - 48 < 2 ^ 64 := by omega
  exact UInt64.toNat_ofNat_of_lt' small

private theorem pushUnsigned?_eq_some_iff :
    pushUnsigned? value c = some w ↔
      c.isDigit = true ∧ w.toNat = 10 * value.toNat + (c.toNat - 48) := by
  have ten : (10 : UInt64).toNat = 10 := by decide
  rw [pushUnsigned?, Option.ite_none_right_eq_some, and_congr_right_iff]
  intro digit
  simp only [Option.bind_eq_bind, Option.bind_eq_some_iff, Word.product?_eq_some_iff,
    Word.sum?_eq_some_iff, toNat_ofNat_digit digit, ten]
  constructor
  · rintro ⟨tenfold, product, sum⟩
    omega
  · intro exactly
    have bound := w.toNat_lt
    obtain ⟨tenfold, product⟩ := Word.exists_toNat_eq (by omega : value.toNat * 10 < 2 ^ 64)
    exact ⟨tenfold, product, by omega⟩

private theorem foldlM_pushUnsigned?_eq_some_iff :
    digits.foldlM pushUnsigned? value = some w ↔
      (∀ c ∈ digits, c.isDigit = true) ∧ w.toNat = Nat.ofDigitChars 10 digits value.toNat := by
  induction digits generalizing value with
  | nil =>
    rw [List.foldlM_nil, Option.pure_def, Option.some.injEq, ← UInt64.toNat_inj,
      Nat.ofDigitChars_nil]
    simpa using eq_comm
  | cons c digits ih =>
    have next : Nat.ofDigitChars 10 (c :: digits) value.toNat =
        Nat.ofDigitChars 10 digits (10 * value.toNat + (c.toNat - 48)) := Nat.ofDigitChars_cons
    rw [List.foldlM_cons, Option.bind_eq_bind, Option.bind_eq_some_iff, next, List.forall_mem_cons]
    constructor
    · rintro ⟨next, pushed, others⟩
      obtain ⟨digit, value⟩ := pushUnsigned?_eq_some_iff.1 pushed
      obtain ⟨rest, whole⟩ := ih.1 others
      rw [value] at whole
      exact ⟨⟨digit, rest⟩, whole⟩
    · rintro ⟨⟨digit, rest⟩, whole⟩
      -- The number that this digit makes is not above the whole one.
      have bound := w.toNat_lt
      have nearer := le_ofDigitChars digits (10 * value.toNat + (c.toNat - 48))
      obtain ⟨next, value⟩ := Word.exists_toNat_eq
        (by omega : 10 * value.toNat + (c.toNat - 48) < 2 ^ 64)
      refine ⟨next, pushUnsigned?_eq_some_iff.2 ⟨digit, value⟩, ih.2 ⟨rest, ?_⟩⟩
      rw [value]
      exact whole

private theorem accumulatedUnsigned?_eq_some_iff :
    accumulatedUnsigned? digits = some w ↔ DigitRun digits w.toNat := by
  have start : (0 : UInt64).toNat = 0 := by decide
  rw [accumulatedUnsigned?, Option.ite_none_left_eq_some, foldlM_pushUnsigned?_eq_some_iff, start,
    DigitRun, eq_comm (a := w.toNat)]

end Digits

/-- Where there is no plus, the words that are read with checks after every digit are the sizes. -/
theorem unsignedWord?_eq_some_iff {run : List Char} {w : UInt64}
    (bare : ∀ digits, run ≠ '+' :: digits) : unsignedWord? run = some w ↔ DigitRun run w.toNat := by
  unfold unsignedWord?
  split
  · exact absurd rfl (bare _)
  · exact accumulatedUnsigned?_eq_some_iff

end GameOfLife.Text
