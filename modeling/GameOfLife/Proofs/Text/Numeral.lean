import GameOfLife.Text.Numeral

/-!
Which words denote which numbers, said of their characters. A signed literal is a run of digits behind
at most one sign whose value fits a signed 64-bit word; a size is a run of digits whose value fits an
unsigned one. The functions that evaluate words find exactly these values.
-/

set_option autoImplicit false
set_option relaxedAutoImplicit false

namespace GameOfLife.Text

/-- A run of ASCII digits, at least one of them, and its value in base ten. -/
def DigitRun (run : List Char) (n : Nat) : Prop :=
  run ≠ [] ∧ (∀ c ∈ run, c.isDigit = true) ∧ Nat.ofDigitChars 10 run 0 = n

inductive SignedRun : List Char → Int → Prop
  | bare {run : List Char} {n : Nat} : DigitRun run n → SignedRun run n
  | plus {run : List Char} {n : Nat} : DigitRun run n → SignedRun ('+' :: run) n
  | minus {run : List Char} {n : Nat} : DigitRun run n → SignedRun ('-' :: run) (-n)

def Literal (word : String) (v : Int) : Prop :=
  SignedRun word.toList v ∧ -0x8000000000000000 ≤ v ∧ v ≤ 0x7FFFFFFFFFFFFFFF

def SizeLiteral (word : String) (n : Nat) : Prop :=
  DigitRun word.toList n ∧ n < 0x10000000000000000

theorem toNat_of_isDigit {c : Char} (h : c.isDigit = true) :
    48 ≤ c.toNat ∧ c.toNat ≤ 57 := by
  simp only [Char.isDigit, Bool.and_eq_true, decide_eq_true_eq, ge_iff_le,
    UInt32.le_iff_toNat_le] at h
  exact h

private theorem digitsValue?_eq_some_iff {run : List Char} {n : Nat} :
    digitsValue? run = some n ↔ DigitRun run n := by
  simp only [digitsValue?, DigitRun, Option.ite_none_right_eq_some, Option.some.injEq,
    List.all_eq_true, and_assoc]

theorem DigitRun.head {c : Char} {rest : List Char} {n : Nat} (h : DigitRun (c :: rest) n) :
    c.isDigit = true :=
  h.2.1 c List.mem_cons_self

section Value

variable {digits zeros run : List Char}

private theorem isDigit_of_zeros (zero : ∀ c ∈ zeros, c = '0') : ∀ c ∈ zeros, c.isDigit = true := by
  intro c member
  rw [zero c member]
  decide

private theorem ofDigitChars_concat (front : List Char) (c : Char) :
    Nat.ofDigitChars 10 (front ++ [c]) 0 = 10 * Nat.ofDigitChars 10 front 0 + (c.toNat - 48) := by
  rw [Nat.ofDigitChars_append, Nat.ofDigitChars_cons, Nat.ofDigitChars_nil]
  rfl

private theorem ofDigitChars_eq_zero_iff (digit : ∀ c ∈ digits, c.isDigit = true) :
    Nat.ofDigitChars 10 digits 0 = 0 ↔ ∀ c ∈ digits, c = '0' := by
  induction digits with
  | nil => simp
  | cons c digits ih =>
    obtain ⟨first, others⟩ := List.forall_mem_cons.1 digit
    have range := toNat_of_isDigit first
    have zero : c.toNat - 48 = 0 ↔ c = '0' := by
      rw [← Char.toNat_inj]
      simp only [Char.reduceToNat]
      omega
    have positive : 10 ^ digits.length ≠ 0 := Nat.ne_of_gt (Nat.pow_pos (by decide))
    rw [Nat.ofDigitChars_cons, Nat.ofDigitChars_eq_ofDigitChars_zero, List.forall_mem_cons, ← ih others,
      ← zero, Nat.add_eq_zero_iff, Nat.mul_eq_zero, Nat.mul_zero, Nat.zero_add]
    simp only [positive, Char.reduceToNat, false_or]

theorem digitRun_zero_iff : DigitRun run 0 ↔ run ≠ [] ∧ ∀ c ∈ run, c = '0' := by
  constructor
  · rintro ⟨some, digit, value⟩
    exact ⟨some, (ofDigitChars_eq_zero_iff digit).1 value⟩
  · rintro ⟨some, zero⟩
    have digit := isDigit_of_zeros zero
    exact ⟨some, digit, (ofDigitChars_eq_zero_iff digit).2 zero⟩

theorem digitRun_one_iff : DigitRun run 1 ↔ ∃ zeros, run = zeros ++ ['1'] ∧ ∀ c ∈ zeros, c = '0' := by
  constructor
  · rintro ⟨some, digit, value⟩
    obtain ⟨front, c, rfl⟩ := (List.eq_nil_or_concat run).resolve_left some
    rw [List.concat_eq_append] at digit value ⊢
    rw [ofDigitChars_concat] at value
    have digits : ∀ d ∈ front, d.isDigit = true := fun d member => digit d (List.mem_append_left _ member)
    have last : c = '1' := by
      rw [← Char.toNat_inj]
      simp only [Char.reduceToNat]
      omega
    exact ⟨front, by rw [last], (ofDigitChars_eq_zero_iff digits).1 (by omega)⟩
  · rintro ⟨zeros, rfl, zero⟩
    have digits := isDigit_of_zeros zero
    have last : ∀ c ∈ ['1'], c.isDigit = true := List.forall_mem_singleton.2 (by decide)
    refine ⟨by simp, List.forall_mem_append.2 ⟨digits, last⟩, ?_⟩
    rw [ofDigitChars_concat, (ofDigitChars_eq_zero_iff digits).2 zero]
    decide

end Value

private theorem signedValue?_minus {run : List Char} {v : Int} :
    signedValue? ('-' :: run) = some v ↔ ∃ n : Nat, DigitRun run n ∧ -(n : Int) = v := by
  simp [signedValue?, Option.bind_eq_some_iff, digitsValue?_eq_some_iff]

private theorem signedValue?_plus {run : List Char} {v : Int} :
    signedValue? ('+' :: run) = some v ↔ ∃ n : Nat, DigitRun run n ∧ (n : Int) = v := by
  simp [signedValue?, Option.map_eq_some_iff, digitsValue?_eq_some_iff]

private theorem signedValue?_bare {run : List Char} {v : Int} (minus : ∀ rest, run ≠ '-' :: rest)
    (plus : ∀ rest, run ≠ '+' :: rest) :
    signedValue? run = some v ↔ ∃ n : Nat, DigitRun run n ∧ (n : Int) = v := by
  unfold signedValue?
  split
  · exact absurd rfl (minus _)
  · exact absurd rfl (plus _)
  · simp [Option.map_eq_some_iff, digitsValue?_eq_some_iff]

private theorem signedValue?_eq_some_iff {run : List Char} {v : Int} :
    signedValue? run = some v ↔ SignedRun run v := by
  constructor
  · intro h
    by_cases minus : ∃ rest, run = '-' :: rest
    · obtain ⟨rest, rfl⟩ := minus
      obtain ⟨n, digits, rfl⟩ := signedValue?_minus.1 h
      exact .minus digits
    · by_cases plus : ∃ rest, run = '+' :: rest
      · obtain ⟨rest, rfl⟩ := plus
        obtain ⟨n, digits, rfl⟩ := signedValue?_plus.1 h
        exact .plus digits
      · obtain ⟨n, digits, rfl⟩ :=
          (signedValue?_bare (not_exists.1 minus) (not_exists.1 plus)).1 h
        exact .bare digits
  · intro h
    cases h with
    | bare digits =>
      -- A sign is no digit, so the run is read without one.
      refine (signedValue?_bare ?_ ?_).2 ⟨_, digits, rfl⟩
      · rintro rest rfl
        exact absurd digits.head (by decide)
      · rintro rest rfl
        exact absurd digits.head (by decide)
    | plus digits => exact signedValue?_plus.2 ⟨_, digits, rfl⟩
    | minus digits => exact signedValue?_minus.2 ⟨_, digits, rfl⟩

theorem integer?_eq_some_iff {word : String} {v : Int} :
    integer? word = some v ↔ Literal word v := by
  have least : Int64.minValue.toInt = -0x8000000000000000 := by decide
  have greatest : Int64.maxValue.toInt = 0x7FFFFFFFFFFFFFFF := by decide
  simp only [integer?, Option.filter_eq_some_iff, signedValue?_eq_some_iff, Literal, least, greatest,
    Bool.and_eq_true, decide_eq_true_eq]

theorem integer?_eq_none_iff {word : String} :
    integer? word = none ↔ ∀ v, ¬ Literal word v := by
  simp only [Option.eq_none_iff_forall_ne_some, ne_eq, integer?_eq_some_iff]

theorem size?_eq_some_iff {word : String} {n : Nat} :
    size? word = some n ↔ SizeLiteral word n := by
  simp only [size?, Option.filter_eq_some_iff, digitsValue?_eq_some_iff, SizeLiteral, UInt64.size,
    decide_eq_true_eq]

end GameOfLife.Text
