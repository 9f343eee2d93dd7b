import GameOfLife.Text.Blank

/-!
The words of a text: its maximal runs of characters that are not blank, left to right.
-/

set_option autoImplicit false
set_option relaxedAutoImplicit false

namespace GameOfLife.Text

def wordLists (text : List Char) : List (List Char) :=
  (text.splitOnP isBlank).filter fun run => !run.isEmpty

def words (text : String) : List String :=
  (wordLists text.toList).map String.ofList

theorem wordLists_append_cons {blank : Char} (h : isBlank blank = true) (a b : List Char) :
    wordLists (a ++ blank :: b) = wordLists a ++ wordLists b := by
  simp [wordLists, List.splitOnP_append_cons a b h]

theorem wordLists_eq_singleton {run : List Char} (h : ∀ c ∈ run, isBlank c = false)
    (nonempty : run ≠ []) : wordLists run = [run] := by
  simp [wordLists, List.splitOnP_eq_singleton h, nonempty]

@[simp] theorem wordLists_nil : wordLists [] = [] := by
  simp [wordLists]

theorem wordLists_cons_blank {blank : Char} (h : isBlank blank = true) (b : List Char) :
    wordLists (blank :: b) = wordLists b := by
  simpa using wordLists_append_cons h [] b

theorem ne_nil_of_mem_wordLists {text run : List Char} (h : run ∈ wordLists text) : run ≠ [] := by
  simp only [wordLists, List.mem_filter] at h
  simpa using h.2

end GameOfLife.Text
