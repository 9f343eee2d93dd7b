import GameOfLife.Proofs.Input.Header
import GameOfLife.Proofs.Session.Account
import GameOfLife.Proofs.Text.Printed
import Mathlib.Data.List.Basic

/-!
Listings of places as they are printed. A listing can be read back, which gives the places that were
listed, in their order.
-/

set_option autoImplicit false
set_option relaxedAutoImplicit false

namespace GameOfLife

open Text

def numberIn? (before after word : List Char) : Option Nat := do
  let rest ← word.dropPrefix? before
  if rest.dropWhile Char.isDigit = after then digitsValue? (rest.takeWhile Char.isDigit) else none

/-- The places that words stand for, two words for each and a comma behind all but the last. -/
def places? : List (List Char) → Option (List (Nat × Nat))
  | [row, col] => do return [(← numberIn? ['('] [','] row, ← numberIn? [] [')'] col)]
  | row :: col :: rest => do
    let place := (← numberIn? ['('] [','] row, ← numberIn? [] [')', ','] col)
    return place :: (← places? rest)
  | _ => none

def listed? (line : String) : Option (List (Nat × Nat)) := do
  places? (wordLists (← line.toList.dropPrefix? "differs at ".toList))

example : listed? "differs at (0, 1), (12, 0)" = some [(0, 1), (12, 0)] := by decide +kernel

example : listed? "differs at (0, 1) (12, 0)" = none := by decide +kernel

private theorem numberIn?_digits (before : List Char) {c : Char} (closing : c.isDigit = false)
    (after : List Char) (n : Nat) :
    numberIn? before (c :: after) (before ++ (Nat.toDigits 10 n ++ c :: after)) = some n := by
  have digits : ∀ d ∈ Nat.toDigits 10 n, d.isDigit = true := fun d => isDigit_of_mem_toDigits
  simp [numberIn?, List.dropPrefix?_append_of_beq, List.dropWhile_append_of_pos digits,
    List.takeWhile_append_of_pos digits, closing, digitsValue?_toDigits]

private theorem wordLists_placeText (place : Nat × Nat) {rest : List Char}
    (visible : ∀ c ∈ rest, isBlank c = false) :
    wordLists ((placeText place).toList ++ rest) =
      ['(' :: (Nat.toDigits 10 place.1 ++ [',']), Nat.toDigits 10 place.2 ++ ')' :: rest] := by
  have digit : ∀ (n : Nat), ∀ c ∈ Nat.toDigits 10 n, isBlank c = false := fun n c member =>
    isBlank_of_isDigit (isDigit_of_mem_toDigits member)
  have first : wordLists ('(' :: (Nat.toDigits 10 place.1 ++ [','])) =
      ['(' :: (Nat.toDigits 10 place.1 ++ [','])] := by
    refine wordLists_eq_singleton ?_ (List.cons_ne_nil _ _)
    intro c member
    simp only [List.mem_cons, List.mem_append, List.not_mem_nil, or_false] at member
    rcases member with rfl | member | rfl
    · decide
    · exact digit _ c member
    · decide
  have second : wordLists (Nat.toDigits 10 place.2 ++ ')' :: rest) =
      [Nat.toDigits 10 place.2 ++ ')' :: rest] := by
    refine wordLists_eq_singleton ?_ (by simp)
    intro c member
    simp only [List.mem_append, List.mem_cons] at member
    rcases member with member | rfl | member
    · exact digit _ c member
    · decide
    · exact visible c member
  have characters : (placeText place).toList ++ rest =
      ('(' :: (Nat.toDigits 10 place.1 ++ [','])) ++
        ' ' :: (Nat.toDigits 10 place.2 ++ ')' :: rest) := by
    simp [placeText]
  rw [characters, wordLists_append_cons (by decide), first, second, List.singleton_append]

private theorem places?_place (place : Nat × Nat) :
    places? (wordLists (placeText place).toList) = some [place] := by
  have row := numberIn?_digits ['('] (by decide : ','.isDigit = false) [] place.1
  have col := numberIn?_digits [] (by decide : ')'.isDigit = false) [] place.2
  have words : wordLists ((placeText place).toList ++ []) = _ := wordLists_placeText place nofun
  rw [List.append_nil] at words
  rw [List.singleton_append] at row
  rw [List.nil_append] at col
  simp [words, places?, row, col]

private theorem places?_place_cons (place : Nat × Nat) {rest : List (List Char)} (more : rest ≠ []) :
    places? (wordLists ((placeText place).toList ++ [',']) ++ rest) =
      (places? rest).map (place :: ·) := by
  have row := numberIn?_digits ['('] (by decide : ','.isDigit = false) [] place.1
  have col := numberIn?_digits [] (by decide : ')'.isDigit = false) [','] place.2
  have comma : ∀ c ∈ [','], isBlank c = false := List.forall_mem_singleton.2 (by decide)
  obtain ⟨word, others, rfl⟩ := List.exists_cons_of_ne_nil more
  rw [List.singleton_append] at row
  rw [List.nil_append] at col
  rw [wordLists_placeText place comma]
  simp only [List.cons_append, List.nil_append, places?, row, col]
  cases places? (word :: others) <;> rfl

private theorem places?_intercalate {places : List (Nat × Nat)} (h : places ≠ []) :
    places? (wordLists (", ".intercalate (places.map placeText)).toList) = some places := by
  induction places with
  | nil => exact absurd rfl h
  | cons place others ih =>
    cases others with
    | nil => exact places?_place place
    | cons next others =>
      have characters : (", ".intercalate ((place :: next :: others).map placeText)).toList =
          ((placeText place).toList ++ [',']) ++
            ' ' :: (", ".intercalate ((next :: others).map placeText)).toList := by
        simp
      have found := ih (List.cons_ne_nil next others)
      have more : wordLists (", ".intercalate ((next :: others).map placeText)).toList ≠ [] := by
        intro none
        rw [none] at found
        exact nomatch found
      rw [characters, wordLists_append_cons (by decide), places?_place_cons place more, found]
      rfl

theorem newline_notMem_listing (places : List (Nat × Nat)) :
    '\n' ∉ ("differs at " ++ ", ".intercalate (places.map placeText)).toList := by
  have items : '\n' ∉ (", ".intercalate (places.map placeText)).toList := by
    induction places with
    | nil => simp
    | cons place others ih =>
      cases others with
      | nil => simp [placeText, newline_notMem_toDigits]
      | cons next others =>
        simp only [List.map_cons, String.intercalate_cons_cons, String.toList_append,
          List.mem_append, not_or] at ih ⊢
        refine ⟨⟨?_, by decide⟩, ih⟩
        simp [placeText, newline_notMem_toDigits]
  rw [String.toList_append, List.mem_append, not_or]
  exact ⟨by decide, items⟩

/-- A listing stands for the places that it was printed for. -/
theorem listed?_listing {places : List (Nat × Nat)} (h : places ≠ []) :
    listed? ("differs at " ++ ", ".intercalate (places.map placeText)) = some places := by
  rw [listed?, String.toList_append, List.dropPrefix?_append_of_beq _ (beq_self_eq_true _)]
  exact places?_intercalate h

end GameOfLife
