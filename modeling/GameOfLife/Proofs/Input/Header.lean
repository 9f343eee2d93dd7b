import GameOfLife.Input.Row
import GameOfLife.Proofs.Input.Lines
import GameOfLife.Proofs.Text.Numeral

/-!
Headers: lines of exactly two words, each an unsigned 64-bit number. As they are written they are the
number of rows, a space and the number of columns, in decimal, and such a line announces the two
numbers again.
-/

set_option autoImplicit false
set_option relaxedAutoImplicit false

namespace GameOfLife

open Text

def Announces (text : String) (height width : Nat) : Prop :=
  ∃ first second, words text = [first, second] ∧ SizeLiteral first height ∧
    SizeLiteral second width

theorem headerSize?_eq_some_iff {text : String} {height width : Nat} :
    headerSize? text = some (height, width) ↔ Announces text height width := by
  unfold headerSize?
  split
  · next first second pair =>
    have sizes : Announces text height width ↔
        size? first = some height ∧ size? second = some width := by
      rw [size?_eq_some_iff, size?_eq_some_iff]
      constructor
      · rintro ⟨_, _, same, sizes⟩
        rw [pair] at same
        cases same
        exact sizes
      · exact fun sizes => ⟨first, second, pair, sizes⟩
    rw [sizes]
    cases size? first <;> cases size? second <;> simp
  · next other =>
    simp only [reduceCtorEq, false_iff]
    rintro ⟨first, second, pair, -⟩
    exact other first second pair

theorem headerSize?_eq_none_iff {text : String} :
    headerSize? text = none ↔ ∀ height width, ¬ Announces text height width := by
  simp only [Option.eq_none_iff_forall_ne_some, Prod.forall, ne_eq, headerSize?_eq_some_iff]

def headerText (height width : Nat) : String :=
  height.repr ++ " " ++ width.repr

theorem isBlank_of_isDigit {c : Char} (h : c.isDigit = true) : isBlank c = false := by
  have range := toNat_of_isDigit h
  simp only [isBlank, blankRanges, List.any_cons, List.any_nil, Bool.or_false,
    Bool.or_eq_false_iff, Bool.and_eq_false_iff, decide_eq_false_iff_not]
  omega

private theorem isLineEnd_of_isDigit {c : Char} (h : c.isDigit = true) : Piece.isLineEnd c = false := by
  have range := toNat_of_isDigit h
  have newline : c ≠ '\n' := by
    rintro rfl
    revert range
    decide
  have carriageReturn : c ≠ '\r' := by
    rintro rfl
    revert range
    decide
  simp [Piece.isLineEnd, newline, carriageReturn]

private theorem isDigit_of_mem_repr {n : Nat} {c : Char} (h : c ∈ n.repr.toList) : c.isDigit = true := by
  rw [Nat.toList_repr] at h
  exact isDigit_of_mem_toDigits h

private theorem repr_ne_nil (n : Nat) : n.repr.toList ≠ [] := by
  rw [Nat.toList_repr]
  exact Nat.toDigits_ne_nil

private theorem words_headerText (height width : Nat) :
    words (headerText height width) = [height.repr, width.repr] := by
  have number : ∀ n : Nat, wordLists n.repr.toList = [n.repr.toList] := fun n =>
    wordLists_eq_singleton (fun c member => isBlank_of_isDigit (isDigit_of_mem_repr member))
      (repr_ne_nil n)
  have cut := wordLists_append_cons (by decide : isBlank ' ' = true) height.repr.toList
    width.repr.toList
  rw [number, number] at cut
  have characters : (headerText height width).toList =
      height.repr.toList ++ ' ' :: width.repr.toList := by
    simp [headerText]
  rw [words, characters, cut, List.map_append, List.map_singleton, List.map_singleton,
    String.ofList_toList, String.ofList_toList, List.singleton_append]

theorem headerSize?_headerText {height width : Nat} (hheight : height < UInt64.size)
    (hwidth : width < UInt64.size) : headerSize? (headerText height width) = some (height, width) := by
  simp [headerSize?, words_headerText, size?_repr hheight, size?_repr hwidth]

theorem allBlank_headerText (height width : Nat) :
    allBlank (headerText height width) = false := by
  obtain ⟨c, rest, digits⟩ := List.exists_cons_of_ne_nil (repr_ne_nil height)
  have first : isBlank c = false :=
    isBlank_of_isDigit (isDigit_of_mem_repr (by rw [digits]; exact List.mem_cons_self))
  simp [allBlank, headerText, digits, first]

theorem unbroken_headerText (height width : Nat) : Unbroken (headerText height width) := by
  intro c member
  simp only [headerText, String.toList_append, List.mem_append] at member
  rcases member with (member | member) | member
  · exact isLineEnd_of_isDigit (isDigit_of_mem_repr member)
  · have space : c = ' ' := by simpa using member
    subst space
    decide
  · exact isLineEnd_of_isDigit (isDigit_of_mem_repr member)

end GameOfLife
