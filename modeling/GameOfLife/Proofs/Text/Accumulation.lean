import GameOfLife.Proofs.Text.Numeral
import GameOfLife.Proofs.Word

/-!
Signed numerals read in machine words. The digits are taken from the left, each time ten times the number
so far and the next digit, which is subtracted behind a minus; reading fails as soon as a result is no word.
No numeral whose value fits is lost that way, although the largest number has no counterpart below zero, and
every other one fails, however many digits follow.
-/

set_option autoImplicit false
set_option relaxedAutoImplicit false

namespace GameOfLife.Text

def digitWord (c : Char) : Int64 :=
  .ofNat (c.toNat - 48)

def pushDigit? (negative : Bool) (value : Int64) (c : Char) : Option Int64 :=
  if c.isDigit = true then do
    let tenfold ← Word.signedProduct? value 10
    Word.signedSum? tenfold (if negative then -digitWord c else digitWord c)
  else none

def accumulated? (negative : Bool) (digits : List Char) : Option Int64 :=
  if digits = [] then none else digits.foldlM (pushDigit? negative) 0

def word? : List Char → Option Int64
  | '-' :: digits => accumulated? true digits
  | '+' :: digits => accumulated? false digits
  | digits => accumulated? false digits

def withSign (negative : Bool) (n : Nat) : Int :=
  if negative then -n else n

@[simp] theorem withSign_true (n : Nat) : withSign true n = -n := rfl

@[simp] theorem withSign_false (n : Nat) : withSign false n = n := rfl

section Digits

variable {negative : Bool} {digits : List Char} {value w : Int64} {c : Char} {n : Nat}

private theorem toInt_digitWord (digit : c.isDigit = true) : (digitWord c).toInt = (c.toNat - 48 : Nat) := by
  have range := toNat_of_isDigit digit
  exact Int64.toInt_ofNat_of_lt (by omega)

private theorem toInt_neg_digitWord (digit : c.isDigit = true) :
    (-digitWord c).toInt = -(c.toNat - 48 : Nat) := by
  have range := toNat_of_isDigit digit
  have small : Word.IsSigned (-(c.toNat - 48 : Nat)) := by
    rw [Word.IsSigned]
    omega
  rw [Int64.toInt_neg, toInt_digitWord digit, Word.bmod_of_isSigned small]

private theorem isSigned_withSign_of_le {m : Nat} (nearer : m ≤ n) (inRange : Word.IsSigned (withSign negative n)) :
    Word.IsSigned (withSign negative m) := by
  rw [Word.IsSigned] at inRange ⊢
  cases negative <;> simp only [withSign_true, withSign_false] at inRange ⊢ <;> omega

private theorem pushDigit?_eq_some_iff (before : value.toInt = withSign negative n) :
    pushDigit? negative value c = some w ↔
      c.isDigit = true ∧ w.toInt = withSign negative (10 * n + (c.toNat - 48)) := by
  have ten : (10 : Int64).toInt = 10 := by decide
  rw [pushDigit?, Option.ite_none_right_eq_some, and_congr_right_iff]
  intro digit
  have next : (if negative then -digitWord c else digitWord c).toInt =
      withSign negative (c.toNat - 48) := by
    cases negative with
    | false => exact toInt_digitWord digit
    | true => exact toInt_neg_digitWord digit
  simp only [Option.bind_eq_bind, Option.bind_eq_some_iff, Word.signedProduct?_eq_some_iff,
    Word.signedSum?_eq_some_iff, next, before, ten]
  constructor
  · rintro ⟨tenfold, product, sum⟩
    rw [sum, product]
    cases negative <;> simp only [withSign_true, withSign_false] <;> omega
  · intro exactly
    have inRange : Word.IsSigned (withSign negative (10 * n + (c.toNat - 48))) :=
      exactly ▸ Word.isSigned_toInt w
    obtain ⟨tenfold, product⟩ :=
      Word.exists_toInt_eq (isSigned_withSign_of_le (Nat.le_add_right (10 * n) _) inRange)
    refine ⟨tenfold, ?_, ?_⟩
    · rw [product]
      cases negative <;> simp only [withSign_true, withSign_false] <;> omega
    · rw [exactly, product]
      cases negative <;> simp only [withSign_true, withSign_false] <;> omega

theorem le_ofDigitChars (digits : List Char) (n : Nat) : n ≤ Nat.ofDigitChars 10 digits n := by
  rw [Nat.ofDigitChars_eq_ofDigitChars_zero]
  have positive : 0 < 10 ^ digits.length := Nat.pow_pos (by decide)
  exact Nat.le_add_right_of_le (Nat.le_mul_of_pos_left n positive)

private theorem foldlM_pushDigit?_eq_some_iff (before : value.toInt = withSign negative n) :
    digits.foldlM (pushDigit? negative) value = some w ↔
      (∀ c ∈ digits, c.isDigit = true) ∧ w.toInt = withSign negative (Nat.ofDigitChars 10 digits n) := by
  induction digits generalizing value n with
  | nil =>
    rw [List.foldlM_nil, Option.pure_def, Option.some.injEq, ← Int64.toInt_inj, before,
      Nat.ofDigitChars_nil]
    simpa using eq_comm
  | cons c digits ih =>
    rw [List.foldlM_cons, Option.bind_eq_bind, Option.bind_eq_some_iff, Nat.ofDigitChars_cons,
      List.forall_mem_cons]
    constructor
    · rintro ⟨next, pushed, others⟩
      obtain ⟨digit, value⟩ := (pushDigit?_eq_some_iff before).1 pushed
      obtain ⟨rest, whole⟩ := (ih value).1 others
      exact ⟨⟨digit, rest⟩, whole⟩
    · rintro ⟨⟨digit, rest⟩, whole⟩
      have inRange : Word.IsSigned (withSign negative
          (Nat.ofDigitChars 10 digits (10 * n + (c.toNat - 48)))) :=
        whole ▸ Word.isSigned_toInt w
      obtain ⟨next, value⟩ :=
        Word.exists_toInt_eq (isSigned_withSign_of_le (le_ofDigitChars digits _) inRange)
      exact ⟨next, (pushDigit?_eq_some_iff before).2 ⟨digit, value⟩, (ih value).2 ⟨rest, whole⟩⟩

private theorem accumulated?_eq_some_iff :
    accumulated? negative digits = some w ↔ ∃ n, DigitRun digits n ∧ w.toInt = withSign negative n := by
  have start : (0 : Int64).toInt = withSign negative 0 := by cases negative <;> decide
  rw [accumulated?, Option.ite_none_left_eq_some, foldlM_pushDigit?_eq_some_iff start]
  constructor
  · rintro ⟨some, digit, value⟩
    exact ⟨_, ⟨some, digit, rfl⟩, value⟩
  · rintro ⟨_, ⟨some, digit, rfl⟩, value⟩
    exact ⟨some, digit, value⟩

end Digits

private theorem word?_eq_some_iff {run : List Char} {w : Int64} : word? run = some w ↔ SignedRun run w.toInt := by
  constructor
  · intro h
    unfold word? at h
    split at h
    · obtain ⟨n, digits, value⟩ := accumulated?_eq_some_iff.1 h
      exact value ▸ .minus digits
    · obtain ⟨n, digits, value⟩ := accumulated?_eq_some_iff.1 h
      exact value ▸ .plus digits
    · obtain ⟨n, digits, value⟩ := accumulated?_eq_some_iff.1 h
      exact value ▸ .bare digits
  · intro h
    generalize value : w.toInt = v at h
    cases h with
    | @bare _ n digits =>
      unfold word?
      split
      · exact absurd digits.head (by decide)
      · exact absurd digits.head (by decide)
      · exact accumulated?_eq_some_iff.2 ⟨n, digits, value⟩
    | @plus run n digits => exact accumulated?_eq_some_iff.2 ⟨n, digits, value⟩
    | @minus run n digits => exact accumulated?_eq_some_iff.2 ⟨n, digits, value⟩

/-- The words that are read with checks after every digit are the signed literals, with their values. -/
theorem literal_iff_word? {word : String} {v : Int} :
    Literal word v ↔ ∃ w, word? word.toList = some w ∧ w.toInt = v := by
  constructor
  · rintro ⟨run, lower, upper⟩
    have inRange : Word.IsSigned v := ⟨lower, by omega⟩
    obtain ⟨w, rfl⟩ := Word.exists_toInt_eq inRange
    exact ⟨w, word?_eq_some_iff.2 run, rfl⟩
  · rintro ⟨w, read, rfl⟩
    have inRange := Word.isSigned_toInt w
    exact ⟨word?_eq_some_iff.1 read, inRange.1, by have := inRange.2; omega⟩

end GameOfLife.Text
