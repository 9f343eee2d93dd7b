import GameOfLife.Input.Stream
import GameOfLife.Text.Words
import Mathlib.Data.List.DropRight

/-!
Spacing. Blanks at the edges of a text and the number and kind of the blanks between its words make no
difference to the words. So neither line ends nor trimming changes the words of a line, and a line without
words is a blank one.
-/

set_option autoImplicit false
set_option relaxedAutoImplicit false

namespace GameOfLife.Text

def Blanks (text : List Char) : Prop :=
  ∀ c ∈ text, isBlank c = true

instance : DecidablePred Blanks :=
  fun _ => decidable_of_iff _ List.all_eq_true

section WordLists

variable {blanks : List Char}

private theorem wordLists_of_blanks (h : Blanks blanks) : wordLists blanks = [] := by
  induction blanks with
  | nil => exact wordLists_nil
  | cons c blanks ih =>
    obtain ⟨first, others⟩ := List.forall_mem_cons.1 h
    rw [wordLists_cons_blank first, ih others]

theorem wordLists_append_blanks (h : Blanks blanks) (text : List Char) :
    wordLists (text ++ blanks) = wordLists text := by
  cases blanks with
  | nil => rw [List.append_nil]
  | cons c blanks =>
    obtain ⟨first, others⟩ := List.forall_mem_cons.1 h
    rw [wordLists_append_cons first, wordLists_of_blanks others, List.append_nil]

theorem wordLists_blanks_append (h : Blanks blanks) (text : List Char) :
    wordLists (blanks ++ text) = wordLists text := by
  induction blanks with
  | nil => rfl
  | cons c blanks ih =>
    obtain ⟨first, others⟩ := List.forall_mem_cons.1 h
    rw [List.cons_append, wordLists_cons_blank first, ih others]

theorem wordLists_append_blanks_append (h : Blanks blanks) (some : blanks ≠ []) (a b : List Char) :
    wordLists (a ++ blanks ++ b) = wordLists a ++ wordLists b := by
  obtain ⟨c, others, rfl⟩ := List.exists_cons_of_ne_nil some
  obtain ⟨first, rest⟩ := List.forall_mem_cons.1 h
  rw [List.append_assoc, List.cons_append, wordLists_append_cons first, wordLists_blanks_append rest]

private theorem wordLists_ne_nil {text : List Char} (h : ¬ Blanks text) : wordLists text ≠ [] := by
  induction text with
  | nil => exact absurd (List.forall_mem_nil _) h
  | cons c rest ih =>
    by_cases blank : isBlank c = true
    · rw [wordLists_cons_blank blank]
      exact ih fun others => h (List.forall_mem_cons.2 ⟨blank, others⟩)
    · -- The character begins the first run, which is then not empty.
      obtain ⟨run, runs, split⟩ := List.exists_cons_of_ne_nil (List.splitOnP_ne_nil isBlank rest)
      simp [wordLists, List.splitOnP_cons_eq_if_modifyHead, blank, split]

end WordLists

private theorem allBlank_iff {text : String} : allBlank text = true ↔ Blanks text.toList :=
  List.all_eq_true

private theorem words_eq_nil_iff {text : String} : words text = [] ↔ allBlank text = true := by
  rw [allBlank_iff, words, List.map_eq_nil_iff]
  exact ⟨fun none => of_not_not fun some => wordLists_ne_nil some none, wordLists_of_blanks⟩

theorem words_ne_nil {text : String} (h : allBlank text = false) : words text ≠ [] := by
  rw [Ne, words_eq_nil_iff, h]
  exact Bool.false_ne_true

theorem allBlank_of_words_eq {a b : String} (h : words a = words b) : allBlank a = allBlank b := by
  rw [Bool.eq_iff_iff, ← words_eq_nil_iff, ← words_eq_nil_iff, h]

section LineEnds

private theorem blanks_takeWhile_isLineEnd (text : List Char) : Blanks (text.takeWhile Piece.isLineEnd) := by
  intro c member
  have ending : Piece.isLineEnd c = true := List.all_eq_true.1 List.all_takeWhile c member
  simp only [Piece.isLineEnd, Bool.or_eq_true, decide_eq_true_eq] at ending
  rcases ending with rfl | rfl <;> decide

theorem words_withoutLineEnd (text : String) : words (Piece.withoutLineEnd text) = words text := by
  have ending : Blanks (text.toList.reverse.takeWhile Piece.isLineEnd).reverse := fun c member =>
    blanks_takeWhile_isLineEnd _ c (List.mem_reverse.1 member)
  have whole : (text.toList.reverse.dropWhile Piece.isLineEnd).reverse ++
      (text.toList.reverse.takeWhile Piece.isLineEnd).reverse = text.toList := by
    rw [← List.reverse_append, List.takeWhile_append_dropWhile, List.reverse_reverse]
  rw [words, words, Piece.withoutLineEnd, String.toList_ofList, ← wordLists_append_blanks ending, whole]

theorem words_append_newline (line : String) : words (line ++ "\n") = words line := by
  have newline : Blanks ['\n'] := List.forall_mem_singleton.2 (by decide)
  have characters : (line ++ "\n").toList = line.toList ++ ['\n'] := by simp
  rw [words, words, characters, wordLists_append_blanks newline]

theorem words_ended (line : String) : words (Piece.withoutLineEnd (line ++ "\n")) = words line := by
  rw [words_withoutLineEnd, words_append_newline]

theorem allBlank_ended (line : String) :
    allBlank (Piece.withoutLineEnd (line ++ "\n")) = allBlank line :=
  allBlank_of_words_eq (words_ended line)

end LineEnds

section Trim

def Trimmed (text : String) : Prop :=
  ∀ c, text.toList.head? = some c ∨ text.toList.getLast? = some c → isBlank c = false

private theorem blanks_takeWhile (text : List Char) : Blanks (text.takeWhile isBlank) :=
  List.all_eq_true.1 List.all_takeWhile

theorem words_trim (text : String) : words (trim text) = words text := by
  have trailing : Blanks ((text.toList.dropWhile isBlank).reverse.takeWhile isBlank).reverse :=
    fun c member => blanks_takeWhile _ c (List.mem_reverse.1 member)
  have whole : ((text.toList.dropWhile isBlank).reverse.dropWhile isBlank).reverse ++
      ((text.toList.dropWhile isBlank).reverse.takeWhile isBlank).reverse =
        text.toList.dropWhile isBlank := by
    rw [← List.reverse_append, List.takeWhile_append_dropWhile, List.reverse_reverse]
  rw [words, words, trim, String.toList_ofList, ← wordLists_append_blanks trailing, whole,
    ← wordLists_blanks_append (blanks_takeWhile text.toList), List.takeWhile_append_dropWhile]

private theorem not_isBlank_of_head?_dropWhile {front : List Char} {c : Char}
    (h : (front.dropWhile isBlank).head? = some c) : isBlank c = false := by
  have stop := List.head?_dropWhile_not isBlank front
  rw [h] at stop
  simpa using stop

theorem trimmed_trim (text : String) : Trimmed (trim text) := by
  intro c edge
  rw [trim, String.toList_ofList, List.getLast?_reverse] at edge
  rcases edge with first | last
  · -- Dropping blanks at the end leaves the beginning as it is.
    obtain ⟨dropped, whole⟩ := List.rdropWhile_prefix isBlank (text.toList.dropWhile isBlank)
    rw [List.rdropWhile] at whole
    have first' : (text.toList.dropWhile isBlank).head? = some c := by
      rw [← whole, List.head?_append, first]
      rfl
    exact not_isBlank_of_head?_dropWhile first'
  · exact not_isBlank_of_head?_dropWhile last

end Trim

end GameOfLife.Text
