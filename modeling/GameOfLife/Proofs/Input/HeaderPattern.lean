import GameOfLife.Proofs.Input.Header
import GameOfLife.Proofs.Input.Locality
import GameOfLife.Proofs.Input.RowLanguage
import GameOfLife.Proofs.Text.Pattern
import GameOfLife.Proofs.Text.Runs
import GameOfLife.Proofs.Text.UnsignedAccumulation

/-!
Headers by a pattern: two runs of decimal digits, of whatever script, with blanks between them and around them,
both of which are then converted to words. No digit is a blank, so the pattern leaves no choice; and the
conversion takes ASCII digits only, so in the end the header is a line of two words that are sizes.
-/

set_option autoImplicit false
set_option relaxedAutoImplicit false

namespace GameOfLife

open Text

namespace Text

/-- The decimal digits with the value zero. Behind each stand the other nine digits of its kind. -/
def zeroDigits : List Nat :=
  [0x30, 0x660, 0x6F0, 0x7C0, 0x966, 0x9E6, 0xA66, 0xAE6, 0xB66, 0xBE6, 0xC66, 0xCE6, 0xD66, 0xDE6, 0xE50,
    0xED0, 0xF20, 0x1040, 0x1090, 0x17E0, 0x1810, 0x1946, 0x19D0, 0x1A80, 0x1A90, 0x1B50, 0x1BB0, 0x1C40,
    0x1C50, 0xA620, 0xA8D0, 0xA900, 0xA9D0, 0xA9F0, 0xAA50, 0xABF0, 0xFF10, 0x104A0, 0x10D30, 0x10D40,
    0x11066, 0x110F0, 0x11136, 0x111D0, 0x112F0, 0x11450, 0x114D0, 0x11650, 0x116C0, 0x116D0, 0x116DA,
    0x11730, 0x118E0, 0x11950, 0x11BF0, 0x11C50, 0x11D50, 0x11DA0, 0x11F50, 0x16130, 0x16A60, 0x16AC0,
    0x16B50, 0x16D70, 0x1CCF0, 0x1D7CE, 0x1D7D8, 0x1D7E2, 0x1D7EC, 0x1D7F6, 0x1E140, 0x1E2F0, 0x1E4F0,
    0x1E5F1, 0x1E950, 0x1FBF0]

/-- Whether a character is a decimal digit: one with the general category Nd of Unicode 16. -/
def isDecimal (c : Char) : Bool :=
  zeroDigits.any fun first => first ≤ c.toNat && c.toNat ≤ first + 9

private theorem isDecimal_iff {c : Char} :
    isDecimal c = true ↔ ∃ first ∈ zeroDigits, first ≤ c.toNat ∧ c.toNat ≤ first + 9 := by
  simp only [isDecimal, List.any_eq_true, Bool.and_eq_true, decide_eq_true_eq]

private theorem isDecimal_of_isDigit {c : Char} (h : c.isDigit = true) : isDecimal c = true :=
  isDecimal_iff.2 ⟨0x30, by decide, toNat_of_isDigit h⟩

private theorem not_isDecimal_of_isBlank (c : Char) (h : isBlank c = true) : ¬ isDecimal c = true := by
  have apart : ∀ range ∈ blankRanges, ∀ first ∈ zeroDigits, range.2 < first ∨ first + 9 < range.1 := by
    decide
  simp only [isBlank, List.any_eq_true, Bool.and_eq_true, decide_eq_true_eq] at h
  obtain ⟨range, member, lower, upper⟩ := h
  rw [isDecimal_iff]
  rintro ⟨first, member', lower', upper'⟩
  have outside := apart range member first member'
  omega

private theorem not_isBlank_of_isDecimal (c : Char) (h : isDecimal c = true) : ¬ isBlank c = true :=
  fun blank => not_isDecimal_of_isBlank c blank h

end Text

/-- The pattern of a header: `\s*(\d+)\s+(\d+)\s*` from the beginning of a line to its end. -/
def headerPattern : List Repetition :=
  [⟨isBlank, 0, false⟩, ⟨isDecimal, 1, true⟩, ⟨isBlank, 1, false⟩, ⟨isDecimal, 1, true⟩,
    ⟨isBlank, 0, false⟩]

/-- The two numbers of a line that matches the pattern of a header, if both are words. -/
def patternSizes? (line : String) : Option (UInt64 × UInt64) :=
  match (ways headerPattern line.toList).head? with
  | some [first, second] => do return (← unsignedWord? first, ← unsignedWord? second)
  | _ => none

section Pattern

private theorem forced_headerPattern : Forced headerPattern := by
  have some : 0 < 1 := Nat.one_pos
  refine .cons (shut_cons_of_least not_isDecimal_of_isBlank some) ?_
  refine .cons (shut_cons_of_least not_isBlank_of_isDecimal some) ?_
  refine .cons (shut_cons_of_least not_isDecimal_of_isBlank some) ?_
  refine .cons (shut_cons_of_shut not_isBlank_of_isDecimal shut_nil) ?_
  exact .cons shut_nil .nil

private theorem matches_headerPattern_iff {line : List Char} {captures : List (List Char)} :
    Matches headerPattern line captures ↔
      ∃ first second, captures = [first, second] ∧ wordLists line = [first, second] ∧
        (∀ c ∈ first, isDecimal c = true) ∧ ∀ c ∈ second, isDecimal c = true := by
  have solid : ∀ run : List Char, (∀ c ∈ run, isDecimal c = true) → ∀ c ∈ run, isBlank c = false :=
    fun run digits c member => Bool.eq_false_iff.2 (not_isBlank_of_isDecimal c (digits c member))
  simp only [wordLists_eq_pair_iff]
  constructor
  · intro matched
    obtain ⟨before, _, _, blank, -, fromFirst, rfl, rfl⟩ := matches_cons_iff.1 matched
    obtain ⟨first, _, _, digits, some, fromGap, rfl, rfl⟩ := matches_cons_iff.1 fromFirst
    obtain ⟨between, _, _, blank', gap, fromSecond, rfl, rfl⟩ := matches_cons_iff.1 fromGap
    obtain ⟨second, _, _, digits', some', fromAfter, rfl, rfl⟩ := matches_cons_iff.1 fromSecond
    obtain ⟨after, _, _, blank'', -, ended, rfl, rfl⟩ := matches_cons_iff.1 fromAfter
    obtain ⟨rfl, rfl⟩ := matches_nil_iff.1 ended
    rw [List.append_nil]
    exact ⟨first, second, rfl, ⟨⟨List.length_pos_iff.1 some, solid first digits⟩,
      ⟨List.length_pos_iff.1 some', solid second digits'⟩, before, between, after, rfl, blank,
      ⟨List.length_pos_iff.1 gap, blank'⟩, blank''⟩, digits, digits'⟩
  · rintro ⟨first, second, rfl, ⟨⟨some, -⟩, ⟨some', -⟩, before, between, after, rfl, blank, ⟨gap, blank'⟩,
      blank''⟩, digits, digits'⟩
    have behind : Matches [⟨isBlank, 0, false⟩] (after ++ []) [] :=
      .cons blank'' (Nat.zero_le _) .nil
    rw [List.append_nil] at behind
    exact .cons blank (Nat.zero_le _) (.cons digits (List.length_pos_iff.2 some)
      (.cons blank' (List.length_pos_iff.2 gap) (.cons digits' (List.length_pos_iff.2 some') behind)))

private theorem head?_ways_headerPattern_iff {line first second : List Char} :
    (ways headerPattern line).head? = some [first, second] ↔
      wordLists line = [first, second] ∧ (∀ c ∈ first, isDecimal c = true) ∧
        ∀ c ∈ second, isDecimal c = true := by
  rw [head?_ways_eq_some_iff forced_headerPattern, matches_headerPattern_iff]
  constructor
  · rintro ⟨_, _, same, pair⟩
    cases same
    exact pair
  · exact fun pair => ⟨first, second, rfl, pair⟩

private theorem unsignedWord?_of_decimal {run : List Char} (digits : ∀ c ∈ run, isDecimal c = true)
    {w : UInt64} : unsignedWord? run = some w ↔ DigitRun run w.toNat := by
  apply unsignedWord?_eq_some_iff
  rintro others rfl
  have plus : isDecimal '+' = true := digits '+' List.mem_cons_self
  exact absurd plus (by decide)

private theorem isDecimal_of_digitRun {run : List Char} {n : Nat} (h : DigitRun run n) :
    ∀ c ∈ run, isDecimal c = true :=
  fun c member => isDecimal_of_isDigit (h.2.1 c member)

private theorem patternSizes?_eq_some_iff {line : String} {height width : UInt64} :
    patternSizes? line = some (height, width) ↔ Announces line height.toNat width.toNat := by
  constructor
  · intro h
    unfold patternSizes? at h
    split at h
    · next first second captured =>
      obtain ⟨pair, digits, digits'⟩ := head?_ways_headerPattern_iff.1 captured
      simp only [Option.bind_eq_bind, Option.bind_eq_some_iff, Option.pure_def, Option.some.injEq,
        Prod.mk.injEq, unsignedWord?_of_decimal digits, unsignedWord?_of_decimal digits'] at h
      obtain ⟨_, run, _, run', rfl, rfl⟩ := h
      refine ⟨.ofList first, .ofList second, ?_, ?_, ?_⟩
      · rw [words, pair]
        rfl
      · exact ⟨by rwa [String.toList_ofList], UInt64.toNat_lt _⟩
      · exact ⟨by rwa [String.toList_ofList], UInt64.toNat_lt _⟩
    · cases h
  · rintro ⟨first, second, pair, ⟨run, -⟩, run', -⟩
    have lists : wordLists line.toList = [first.toList, second.toList] := by
      have characters := congrArg (List.map String.toList) pair
      simpa [words, List.map_map, Function.comp_def] using characters
    have digits := isDecimal_of_digitRun run
    have digits' := isDecimal_of_digitRun run'
    simp only [patternSizes?, head?_ways_headerPattern_iff.2 ⟨lists, digits, digits'⟩,
      (unsignedWord?_of_decimal digits).2 run, (unsignedWord?_of_decimal digits').2 run']
    rfl

end Pattern

section Sizes

def sizeNumbers (sizes : UInt64 × UInt64) : Nat × Nat :=
  (sizes.1.toNat, sizes.2.toNat)

/-- The pattern and the conversion find what comparing the words finds. -/
theorem headerSize?_eq_map_patternSizes? (line : String) :
    headerSize? line = (patternSizes? line).map sizeNumbers := by
  apply Option.ext
  rintro ⟨height, width⟩
  rw [headerSize?_eq_some_iff, Option.map_eq_some_iff]
  constructor
  · intro announced
    obtain ⟨first, second, pair, ⟨run, bound⟩, run', bound'⟩ := announced
    obtain ⟨h, rfl⟩ := Word.exists_toNat_eq bound
    obtain ⟨w, rfl⟩ := Word.exists_toNat_eq bound'
    exact ⟨(h, w), patternSizes?_eq_some_iff.2 ⟨first, second, pair, ⟨run, bound⟩, run', bound'⟩, rfl⟩
  · rintro ⟨⟨h, w⟩, found, same⟩
    cases same
    exact patternSizes?_eq_some_iff.1 found

private theorem words_ne_empty {text word : String} (h : word ∈ words text) : word.toList ≠ [] := by
  obtain ⟨run, member, rfl⟩ := List.mem_map.1 h
  rw [String.toList_ofList]
  exact ne_nil_of_mem_wordLists member

private theorem exists_sizeLiteral_iff {word : String} (some : word.toList ≠ []) :
    (∃ n, SizeLiteral word n) ↔
      (∀ c ∈ word.toList, c.isDigit = true) ∧ Nat.ofDigitChars 10 word.toList 0 < 2 ^ 64 := by
  constructor
  · rintro ⟨_, ⟨-, digits, rfl⟩, bound⟩
    exact ⟨digits, bound⟩
  · rintro ⟨digits, bound⟩
    exact ⟨_, ⟨some, digits, rfl⟩, bound⟩

private theorem exists_announces_iff {line : String} :
    (∃ height width, Announces line height width) ↔
      (words line).length = 2 ∧ ∀ word ∈ words line, ∃ n, SizeLiteral word n := by
  rw [List.length_eq_two]
  constructor
  · rintro ⟨height, width, first, second, pair, size, size'⟩
    refine ⟨⟨first, second, pair⟩, ?_⟩
    rw [pair]
    exact List.forall_mem_cons.2 ⟨⟨height, size⟩, List.forall_mem_singleton.2 ⟨width, size'⟩⟩
  · rintro ⟨⟨first, second, pair⟩, sizes⟩
    rw [pair, List.forall_mem_cons, List.forall_mem_singleton] at sizes
    obtain ⟨⟨height, size⟩, width, size'⟩ := sizes
    exact ⟨height, width, first, second, pair, size, size'⟩

private theorem patternSizes?_eq_none_iff {line : String} :
    patternSizes? line = none ↔ (words line).length ≠ 2 ∨
      ∃ word ∈ words line, (∃ c ∈ word.toList, c.isDigit = false) ∨
        2 ^ 64 ≤ Nat.ofDigitChars 10 word.toList 0 := by
  have unannounced : patternSizes? line = none ↔ ¬ ∃ height width, Announces line height width := by
    rw [← Option.map_eq_none_iff (f := sizeNumbers), ← headerSize?_eq_map_patternSizes?,
      headerSize?_eq_none_iff]
    simp only [not_exists]
  rw [unannounced, exists_announces_iff, not_and_or]
  refine or_congr_right ?_
  simp only [not_forall, exists_prop]
  refine exists_congr fun word => and_congr_right fun member => ?_
  rw [exists_sizeLiteral_iff (words_ne_empty member), not_and_or, Nat.not_lt]
  simp only [not_forall, exists_prop, Bool.not_eq_true]

end Sizes

def ReadError.OfHeader : ReadError → Prop
  | badHeader _ _ => True
  | _ => False

namespace Reader

section Header

variable {α β : Type} {reader start : Reader} {line : String}

def Headed (answer : Answer α) : Prop :=
  ∀ e, answer.1 = .error e → ¬ e.OfHeader

private theorem Headed.of_ok {a : α} {after : Reader} : Headed (.ok a, after) := by
  intro e same
  cases same

private theorem Headed.of_error {e : ReadError} {after : Reader} (h : ¬ e.OfHeader) :
    Headed ((.error e, after) : Answer α) := by
  intro e' same
  cases same
  exact h

private theorem Headed.map {answer : Answer α} (h : Headed answer) (f : α → β) :
    Headed (answer.1.map f, answer.2) := by
  obtain ⟨result, after⟩ := answer
  cases result with
  | error e => exact .of_error (h e rfl)
  | ok a => exact .of_ok

private theorem Headed.proceed {answer : Answer α} {next : α → Reader → Answer β} (h : Headed answer)
    (others : ∀ a after, Headed (next a after)) : Headed (proceed answer next) := by
  obtain ⟨result, after⟩ := answer
  cases result with
  | error e => exact .of_error (h e rfl)
  | ok a => exact others a after

private theorem not_ofHeader_of_parseRow {row : String} {number : Nat} {e : ReadError}
    (refused : parseRow row number = .error e) : ¬ e.OfHeader := by
  obtain ⟨_, _, _, -, -, token⟩ := parseRow_eq_error_iff.1 refused
  cases token <;> exact id

private theorem headed_takeBody (height width found line : Nat) (pending : List Piece) :
    Headed (takeBody height width found line pending) := by
  induction pending generalizing found line with
  | nil =>
    unfold takeBody
    split
    · exact .of_error id
    · exact .of_ok
  | cons piece rest ih =>
    unfold takeBody
    split
    · split
      · exact .of_error id
      · split
        · exact .of_error id
        · split
          · next refused => exact .of_error (not_ofHeader_of_parseRow refused)
          · split
            · exact (ih (found + 1) (line + 1)).map _
            · exact .of_error id
    · exact .of_ok

private theorem headed_assemble (first : Nat) (rows : List (List Cell)) (after : Reader) :
    Headed (assemble first rows after) := by
  unfold assemble
  split
  · exact .of_ok
  · exact .of_error id
  · exact .of_error id

private theorem readSized_of_takeHeader (taken : takeHeader reader.line reader.pending = (.ok line, start)) :
    reader.readSized = readBody line start := by
  rw [readSized_eq_proceed, taken]
  rfl

private theorem readBody_of_none (none : headerSize? line = none) :
    readBody line start = (.error (.badHeader start.line (trim line)), start) := by
  rw [readBody, none]

private theorem headed_readBody {sizes : Nat × Nat} (announced : headerSize? line = some sizes) :
    Headed (readBody line start) := by
  obtain ⟨height, width⟩ := sizes
  rw [readBody, announced]
  dsimp only
  split
  · exact .of_error id
  · exact (headed_takeBody height width 0 start.line start.pending).proceed fun rows after =>
      headed_assemble (start.line + 1) rows after

end Header

end Reader

/-- The header pattern is a test for two words. It matches a line in one way at most, and trying finds it. What
is converted are two numbers exactly if the line has two words that are runs of ASCII digits with these values,
both of 64 bits; there may be zeros in front, and no sign. Otherwise the line has not two words, or one with
another character, or one with a larger value. The reader goes on with these numbers, and it answers that a
header is bad exactly if there are none. -/
theorem headerPattern_two_words (line : String) :
    ((ways headerPattern line.toList).length ≤ 1 ∧
      ∀ captures, captures ∈ ways headerPattern line.toList ↔
        Matches headerPattern line.toList captures) ∧
    (∀ height width, (patternSizes? line).map sizeNumbers = some (height, width) ↔
      ∃ first second, words line = [first, second] ∧ SizeLiteral first height ∧
        SizeLiteral second width) ∧
    (patternSizes? line = none ↔ (words line).length ≠ 2 ∨
      ∃ word ∈ words line, (∃ c ∈ word.toList, c.isDigit = false) ∨
        2 ^ 64 ≤ Nat.ofDigitChars 10 word.toList 0) ∧
    headerSize? line = (patternSizes? line).map sizeNumbers ∧
    ∀ reader start : Reader, Reader.takeHeader reader.line reader.pending = (.ok line, start) →
      (patternSizes? line = none →
        reader.readSized = (.error (.badHeader start.line (trim line)), start)) ∧
      ∀ number text, reader.readSized.1 = .error (.badHeader number text) → patternSizes? line = none := by
  have header := headerSize?_eq_map_patternSizes? line
  refine ⟨⟨length_ways_le_one forced_headerPattern _, fun _ => mem_ways_iff⟩, ?_,
    patternSizes?_eq_none_iff, header, ?_⟩
  · intro height width
    rw [← header]
    exact headerSize?_eq_some_iff
  · intro reader start taken
    rw [Reader.readSized_of_takeHeader taken]
    constructor
    · intro none
      rw [none] at header
      exact Reader.readBody_of_none header
    · intro number text refused
      cases found : patternSizes? line with
      | none => rfl
      | some sizes =>
        rw [found] at header
        exact (Reader.headed_readBody header _ refused trivial).elim

theorem headerPattern_two_words_wide :
    let line := "\u0663 4"
    let reader := Reader.ofBytes (bytes "\n\u0663 4\n")
    let start : Reader := ⟨[], 2⟩
    Matches headerPattern line.toList [['\u0663'], ['4']] ∧
      Reader.takeHeader reader.line reader.pending = (.ok line, start) ∧
      reader.readSized = (.error (.badHeader 2 line), start) := by
  intro line reader start
  obtain ⟨⟨-, found⟩, -, none, -, outcome⟩ := headerPattern_two_words line
  have taken : Reader.takeHeader reader.line reader.pending = (.ok line, start) := by decide +kernel
  have pair : words line = ["\u0663", "4"] := by decide +kernel
  have first : "\u0663" ∈ words line := pair ▸ List.mem_cons_self
  have wide : ∃ c ∈ "\u0663".toList, c.isDigit = false := ⟨'\u0663', by decide, by decide⟩
  have other : patternSizes? line = .none := none.2 (.inr ⟨"\u0663", first, .inl wide⟩)
  have trimmed : trim line = line := by decide +kernel
  refine ⟨(found _).1 (by decide +kernel), taken, ?_⟩
  have refused := (outcome reader start taken).1 other
  rwa [trimmed] at refused

/-- The largest word is taken with a zero in front of it, the next number is none. -/
example : patternSizes? " 018446744073709551615\t2 " = some (18446744073709551615, 2) ∧
    patternSizes? "18446744073709551616 2" = none ∧ patternSizes? "+1 2" = none := by
  decide +kernel

end GameOfLife
