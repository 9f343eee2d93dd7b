import GameOfLife.Proofs.Input.Rows
import GameOfLife.Proofs.Text.Accumulation
import GameOfLife.Proofs.Text.Runs

/-!
Which lines are rows, and what is said of the others. The words that stand for a cell are runs of zeros, with
a one at the end for a live cell, behind a sign where it makes no difference. The first other word of a
line is reported: as it stands if it is no integer of 64 bits, by its value if it is one. Two lines with a
blank between them are parsed as one after the other.
-/

set_option autoImplicit false
set_option relaxedAutoImplicit false

namespace GameOfLife

open Text

inductive Cell.Spelled : List Char → Cell → Prop
  | dead {sign zeros : List Char} : sign = [] ∨ sign = ['+'] ∨ sign = ['-'] → zeros ≠ [] →
      (∀ c ∈ zeros, c = '0') → Spelled (sign ++ zeros) .dead
  | alive {sign zeros : List Char} : sign = [] ∨ sign = ['+'] → (∀ c ∈ zeros, c = '0') →
      Spelled (sign ++ zeros ++ ['1']) .alive

/-- What is said of a word that is no cell: the word as it stands, unless it is an integer of 64 bits, and its
value if it is one. -/
inductive ReadError.OfToken (line : Nat) (token : String) : ReadError → Prop
  | invalidToken : (∀ v, ¬ Literal token v) → OfToken line token (.invalidToken line token)
  | notBinary {v : Int} : Literal token v → v ≠ 0 → v ≠ 1 → OfToken line token (.notBinary line v)

section Spelling

variable {run : List Char}

private theorem Cell.spelled_of_digitRun {sign : List Char} {cell : Cell} (signed : sign = [] ∨ sign = ['+'])
    (digits : DigitRun run cell.toNat) : Cell.Spelled (sign ++ run) cell := by
  cases cell with
  | dead =>
    obtain ⟨some, zero⟩ := digitRun_zero_iff.1 digits
    exact .dead (signed.imp_right .inl) some zero
  | alive =>
    obtain ⟨zeros, rfl, zero⟩ := digitRun_one_iff.1 digits
    rw [← List.append_assoc]
    exact .alive signed zero

private theorem Cell.spelled_iff {cell : Cell} : Cell.Spelled run cell ↔ SignedRun run cell.toNat := by
  constructor
  · intro h
    cases h with
    | @dead sign zeros signed some zero =>
      have digits : DigitRun zeros 0 := digitRun_zero_iff.2 ⟨some, zero⟩
      rcases signed with rfl | rfl | rfl
      · exact .bare digits
      · exact .plus digits
      · exact .minus digits
    | @alive sign zeros signed zero =>
      have digits : DigitRun (zeros ++ ['1']) 1 := digitRun_one_iff.2 ⟨zeros, rfl, zero⟩
      rw [List.append_assoc]
      rcases signed with rfl | rfl
      · exact .bare digits
      · exact .plus digits
  · intro h
    generalize value : (cell.toNat : Int) = v at h
    cases h with
    | @bare _ n digits =>
      obtain rfl : cell.toNat = n := Int.natCast_inj.1 value
      exact Cell.spelled_of_digitRun (.inl rfl) digits
    | @plus rest n digits =>
      obtain rfl : cell.toNat = n := Int.natCast_inj.1 value
      exact Cell.spelled_of_digitRun (.inr rfl) digits
    | @minus rest n digits =>
      -- Behind a minus only zero is the value of a cell.
      obtain rfl : n = 0 := by omega
      obtain ⟨some, zero⟩ := digitRun_zero_iff.1 digits
      cases cell with
      | dead => exact .dead (.inr (.inr rfl)) some zero
      | alive => exact absurd value (by decide)

end Spelling

private theorem Cell.ofWord?_eq_some_iff {word : String} {cell : Cell} :
    Cell.ofWord? word = some cell ↔ Cell.Spelled word.toList cell := by
  rw [Cell.ofWord?, Option.bind_eq_some_iff, Cell.spelled_iff]
  constructor
  · rintro ⟨v, integer, value⟩
    obtain rfl := Cell.ofInt?_eq_some_iff.1 value
    exact (integer?_eq_some_iff.1 integer).1
  · intro run
    have inRange : -0x8000000000000000 ≤ (cell.toNat : Int) ∧ (cell.toNat : Int) ≤ 0x7FFFFFFFFFFFFFFF := by
      cases cell <;> decide
    exact ⟨cell.toNat, integer?_eq_some_iff.2 ⟨run, inRange⟩, Cell.ofInt?_toNat cell⟩

private theorem parseCell_eq_error_iff {line : Nat} {token : String} {e : ReadError} :
    parseCell line token = .error e ↔ e.OfToken line token := by
  constructor
  · intro h
    unfold parseCell at h
    split at h
    · next none =>
      cases h
      exact .invalidToken (integer?_eq_none_iff.1 none)
    · next v integer =>
      split at h
      · next none =>
        cases h
        obtain ⟨notZero, notOne⟩ := Cell.ofInt?_eq_none_iff.1 none
        exact .notBinary (integer?_eq_some_iff.1 integer) notZero notOne
      · exact nomatch h
  · intro h
    cases h with
    | invalidToken none => simp [parseCell, integer?_eq_none_iff.2 none]
    | notBinary literal notZero notOne =>
      simp [parseCell, integer?_eq_some_iff.2 literal, Cell.ofInt?_eq_none_iff.2 ⟨notZero, notOne⟩]

theorem parseRow_eq_error_iff {text : String} {line : Nat} {e : ReadError} :
    parseRow text line = .error e ↔
      ∃ before token after, words text = before ++ token :: after ∧
        (∀ earlier ∈ before, ∃ cell, Cell.Spelled earlier.toList cell) ∧ e.OfToken line token := by
  simp only [← Cell.ofWord?_eq_some_iff, ← parseCell_eq_error_iff]
  constructor
  · exact exists_of_parseRow_eq_error
  · rintro ⟨before, token, after, split, cells, refused⟩
    exact parseRow_eq_error split cells refused

private theorem parseRow_append {a gap b : String} (blank : Blanks gap.toList) (some : gap ≠ "") (line : Nat) :
    parseRow (a ++ gap ++ b) line = do
      let left ← parseRow a line
      let right ← parseRow b line
      return left ++ right := by
  have characters : gap.toList ≠ [] := fun none => some (String.toList_eq_nil_iff.1 none)
  have split : words (a ++ gap ++ b) = words a ++ words b := by
    rw [words, String.toList_append, String.toList_append,
      wordLists_append_blanks_append blank characters, List.map_append]
    rfl
  rw [parseRow, split, List.mapM_append]
  rfl

/-- A line is a row exactly if each of its maximal runs of characters that are not blank spells a cell, and
the row consists of these cells. Otherwise the first run that spells none is reported, as it stands unless it
is an integer of 64 bits, and then by its value. Both are so also for a machine that checks after every digit.
Of two lines with blanks between them the first one that is no row is reported, and two rows follow one
another. -/
theorem parseRow_language (text : String) (line : Nat) :
    let tokens := words text
    (∀ runs, Runs text.toList runs ↔ tokens.map String.toList = runs) ∧
    (∀ row, parseRow text line = .ok row ↔
      List.Forall₂ (fun token cell => Cell.Spelled token.toList cell) tokens row) ∧
    (∀ e, parseRow text line = .error e ↔
      ∃ before token after, tokens = before ++ token :: after ∧
        (∀ earlier ∈ before, ∃ cell, Cell.Spelled earlier.toList cell) ∧ e.OfToken line token) ∧
    (∀ token (cell : Cell), Cell.Spelled token cell ↔ SignedRun token cell.toNat) ∧
    (∀ token v, Literal token v ↔ ∃ w, word? token.toList = some w ∧ w.toInt = v) ∧
    ∀ a gap b : String, Blanks gap.toList → gap ≠ "" →
      parseRow (a ++ gap ++ b) line =
        match parseRow a line, parseRow b line with
        | .error e, _ => .error e
        | .ok _, .error e => .error e
        | .ok left, .ok right => .ok (left ++ right) := by
  intro tokens
  refine ⟨?_, ?_, fun e => parseRow_eq_error_iff, fun token cell => Cell.spelled_iff,
    fun token v => literal_iff_word?, ?_⟩
  · intro runs
    have characters : tokens.map String.toList = wordLists text.toList := by
      simp [tokens, words, List.map_map, Function.comp_def]
    rw [runs_iff, characters]
  · intro row
    simp only [← Cell.ofWord?_eq_some_iff]
    exact parseRow_eq_ok_iff
  · intro a gap b blank some
    rw [parseRow_append blank some]
    cases parseRow a line with
    | error e => rfl
    | ok left => cases parseRow b line <;> rfl

theorem parseRow_language_seven :
    Blanks "\t ".toList ∧ "\t " ≠ "" ∧
      parseRow ("1 -0" ++ "\t " ++ "+0001 7 8") 3 = .error (.notBinary 3 7) := by
  obtain ⟨-, -, -, -, -, joined⟩ := parseRow_language "1 -0" 3
  have blank : Blanks "\t ".toList := by decide
  have some : "\t " ≠ "" := by decide
  refine ⟨blank, some, ?_⟩
  rw [joined "1 -0" "\t " "+0001 7 8" blank some]
  decide +kernel

/-- The smallest number is an integer of 64 bits, its counterpart is not. -/
example :
    parseRow "-9223372036854775808" 1 = .error (.notBinary 1 (-9223372036854775808)) ∧
      parseRow "9223372036854775808" 1 = .error (.invalidToken 1 "9223372036854775808") := by
  decide +kernel

end GameOfLife
