import GameOfLife.Proofs.Input.Lines
import GameOfLife.Text.Numeral

/-!
Reading back what was printed. A printed text falls into the lines that a newline ends, a block of them
stands behind the line that announces it, and what is visible of a line is what stands outside its escape
sequences.
-/

set_option autoImplicit false
set_option relaxedAutoImplicit false

namespace GameOfLife.Text

def printedLines (text : String) : List String :=
  (text.toList.splitOn '\n').dropLast.map String.ofList

def behind (mark : String) (lines : List String) : List String :=
  (lines.dropWhile (· ≠ mark)).tail

def beginsWith (front line : String) : Bool :=
  front.toList.isPrefixOf line.toList

/-- What is visible of a text, behind the beginning of an escape sequence or not: such a sequence
reaches up to the next `m`. -/
def visibleFrom : Bool → List Char → List Char
  | _, [] => []
  | true, c :: rest => visibleFrom (c ≠ 'm') rest
  | false, c :: rest => if c = '\x1b' then visibleFrom true rest else c :: visibleFrom false rest

def visible (text : String) : String :=
  String.ofList (visibleFrom false text.toList)

theorem newline_notMem_toDigits (n : Nat) : '\n' ∉ Nat.toDigits 10 n :=
  fun member => absurd (isDigit_of_mem_toDigits member) (by decide)

theorem splitOn_append_cons {α : Type} [DecidableEq α] {mark : α} {front : List α} (h : mark ∉ front)
    (rest : List α) : (front ++ mark :: rest).splitOn mark = front :: rest.splitOn mark := by
  have whole : front.splitOnP (· == mark) = [front] :=
    List.splitOnP_eq_singleton fun a member => beq_false_of_ne fun same => h (same ▸ member)
  have found : (mark == mark) = true := beq_self_eq_true mark
  simp only [List.splitOn]
  rw [List.splitOnP_append_cons (p := (· == mark)) front rest found, whole, List.singleton_append]

theorem printedLines_unlines {front : List String} (h : ∀ line ∈ front, '\n' ∉ line.toList) :
    printedLines (unlines front) = front := by
  have cut : (unlines front).toList.splitOn '\n' = front.map String.toList ++ [[]] := by
    induction front with
    | nil => rfl
    | cons line front ih =>
      simp only [List.mem_cons, forall_eq_or_imp] at h
      have characters : (unlines (line :: front)).toList =
          line.toList ++ '\n' :: (unlines front).toList := by
        simp [unlines]
      rw [characters, splitOn_append_cons h.1, ih h.2, List.map_cons, List.cons_append]
  simp [printedLines, cut]

theorem behind_append_cons {mark : String} {front : List String} (h : mark ∉ front)
    (rest : List String) : behind mark (front ++ mark :: rest) = rest := by
  have passed : ∀ line ∈ front, decide (line ≠ mark) = true := by
    intro line member
    exact decide_eq_true fun same => h (same ▸ member)
  rw [behind, List.dropWhile_append_of_pos passed]
  simp

end GameOfLife.Text
