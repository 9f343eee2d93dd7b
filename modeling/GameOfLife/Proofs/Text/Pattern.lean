import Mathlib.Data.List.Basic

/-!
Patterns of repeated classes of characters, some of which are captured. A pattern is matched against a whole
text by trying: each repetition takes as many characters as it can, and gives one after another back if what
follows does not match. Nothing is to be given back where what follows cannot begin with a character of the
class, and a pattern that is like this throughout matches in at most one way.
-/

set_option autoImplicit false
set_option relaxedAutoImplicit false

namespace GameOfLife.Text

/-- One part of a pattern: characters of a class, not fewer than some number. -/
structure Repetition where
  inClass : Char → Bool
  least : Nat
  captured : Bool

namespace Repetition

/-- The captures of a match, given what the first repetition took and what the others captured. -/
def keep (part : Repetition) (taken : List Char) (captures : List (List Char)) : List (List Char) :=
  if part.captured then taken :: captures else captures

end Repetition

/-- How a text matches a pattern, and what is captured. -/
inductive Matches : List Repetition → List Char → List (List Char) → Prop
  | nil : Matches [] [] []
  | cons {part : Repetition} {parts : List Repetition} {taken rest : List Char}
      {captures : List (List Char)} : (∀ c ∈ taken, part.inClass c = true) →
      part.least ≤ taken.length → Matches parts rest captures →
      Matches (part :: parts) (taken ++ rest) (part.keep taken captures)

theorem matches_nil_iff {text : List Char} {captures : List (List Char)} :
    Matches [] text captures ↔ text = [] ∧ captures = [] := by
  constructor
  · intro matched
    cases matched
    exact ⟨rfl, rfl⟩
  · rintro ⟨rfl, rfl⟩
    exact .nil

theorem matches_cons_iff {part : Repetition} {parts : List Repetition} {text : List Char}
    {captures : List (List Char)} :
    Matches (part :: parts) text captures ↔
      ∃ taken rest others, (∀ c ∈ taken, part.inClass c = true) ∧ part.least ≤ taken.length ∧
        Matches parts rest others ∧ text = taken ++ rest ∧ captures = part.keep taken others := by
  constructor
  · intro matched
    cases matched with
    | cons inClass enough others => exact ⟨_, _, _, inClass, enough, others, rfl, rfl⟩
  · rintro ⟨taken, rest, others, inClass, enough, matched, rfl, rfl⟩
    exact .cons inClass enough matched

/-- What characters of a class can be taken from the front of a text, and what they leave, the most
characters first. -/
def fronts (inClass : Char → Bool) : List Char → List (List Char × List Char)
  | [] => [([], [])]
  | c :: rest =>
    if inClass c = true then
      ((fronts inClass rest).map fun front => (c :: front.1, front.2)) ++ [([], c :: rest)]
    else [([], c :: rest)]

/-- The captures of all matches of a pattern, in the order in which they are tried. -/
def ways : List Repetition → List Char → List (List (List Char))
  | [], [] => [[]]
  | [], _ :: _ => []
  | part :: parts, text =>
    (fronts part.inClass text).flatMap fun front =>
      if part.least ≤ front.1.length then (ways parts front.2).map (part.keep front.1) else []

private theorem fronts_cons_of_not {inClass : Char → Bool} {c : Char} (other : ¬ inClass c = true)
    (rest : List Char) : fronts inClass (c :: rest) = [([], c :: rest)] := by
  rw [fronts, if_neg other]

private theorem fronts_cons_of_pos {inClass : Char → Bool} {c : Char} (first : inClass c = true)
    (rest : List Char) : fronts inClass (c :: rest) =
      ((fronts inClass rest).map fun front => (c :: front.1, front.2)) ++ [([], c :: rest)] := by
  rw [fronts, if_pos first]

private theorem mem_fronts_iff {inClass : Char → Bool} {text taken rest : List Char} :
    (taken, rest) ∈ fronts inClass text ↔ text = taken ++ rest ∧ ∀ c ∈ taken, inClass c = true := by
  induction text generalizing taken with
  | nil =>
    cases taken <;> simp [fronts]
  | cons c text ih =>
    by_cases first : inClass c = true
    · rw [fronts_cons_of_pos first]
      cases taken with
      | nil => simpa using eq_comm
      | cons d taken =>
        have front : (d :: taken, rest) ∈ ((fronts inClass text).map fun front =>
            (c :: front.1, front.2)) ++ [([], c :: text)] ↔
            c = d ∧ (taken, rest) ∈ fronts inClass text := by
          simp [and_comm]
        rw [front, ih, List.cons_append, List.cons_eq_cons, List.forall_mem_cons, and_assoc]
        refine and_congr_right ?_
        rintro rfl
        rw [and_iff_right first]
    · rw [fronts_cons_of_not first]
      cases taken with
      | nil => simpa using eq_comm
      | cons d taken =>
        have different : ¬ (c = d ∧ inClass d = true) := by
          rintro ⟨rfl, first'⟩
          exact first first'
        simpa using fun same _ first' => absurd ⟨same, first'⟩ different

/-- Trying finds the matches and nothing else. -/
theorem mem_ways_iff {parts : List Repetition} {text : List Char} {captures : List (List Char)} :
    captures ∈ ways parts text ↔ Matches parts text captures := by
  induction parts generalizing text captures with
  | nil => cases text <;> simp [ways, matches_nil_iff]
  | cons part parts ih =>
    rw [ways, List.mem_flatMap, matches_cons_iff]
    constructor
    · rintro ⟨⟨taken, rest⟩, member, kept⟩
      obtain ⟨same, inClass⟩ := mem_fronts_iff.1 member
      split at kept
      · next enough =>
        obtain ⟨others, matched, rfl⟩ := List.mem_map.1 kept
        exact ⟨taken, rest, others, inClass, enough, ih.1 matched, same, rfl⟩
      · exact nomatch kept
    · rintro ⟨taken, rest, others, inClass, enough, matched, same, rfl⟩
      refine ⟨(taken, rest), mem_fronts_iff.2 ⟨same, inClass⟩, ?_⟩
      rw [if_pos enough]
      exact List.mem_map_of_mem (ih.2 matched)

section Forced

variable {inClass : Char → Bool} {part : Repetition} {parts : List Repetition}

/-- Whether no text that begins with a character of a class is matched. -/
def Shut (inClass : Char → Bool) (parts : List Repetition) : Prop :=
  ∀ c rest, inClass c = true → ways parts (c :: rest) = []

/-- Patterns in which each repetition has to take all it can. -/
inductive Forced : List Repetition → Prop
  | nil : Forced []
  | cons {part : Repetition} {parts : List Repetition} :
      Shut part.inClass parts → Forced parts → Forced (part :: parts)

theorem shut_nil : Shut inClass [] :=
  fun _ _ _ => rfl

theorem shut_cons_of_least (other : ∀ c, inClass c = true → ¬ part.inClass c = true)
    (some : 0 < part.least) : Shut inClass (part :: parts) := by
  intro c rest first
  rw [ways, fronts_cons_of_not (other c first), List.flatMap_singleton]
  exact if_neg (Nat.not_le.2 some)

theorem shut_cons_of_shut (other : ∀ c, inClass c = true → ¬ part.inClass c = true)
    (shut : Shut inClass parts) : Shut inClass (part :: parts) := by
  intro c rest first
  rw [ways, fronts_cons_of_not (other c first), List.flatMap_singleton, shut c rest first,
    List.map_nil, ite_self]

private theorem flatMap_fronts {β : Type} {results : List Char × List Char → List β}
    (stop : ∀ taken c rest, inClass c = true → results (taken, c :: rest) = []) (text : List Char) :
    (fronts inClass text).flatMap results =
      results (text.takeWhile inClass, text.dropWhile inClass) := by
  induction text generalizing results with
  | nil => simp [fronts]
  | cons c text ih =>
    by_cases first : inClass c = true
    · -- What is found behind `c` is found by the results for one character more.
      have longer := @ih (fun front => results (c :: front.1, front.2)) fun taken d rest member =>
        stop (c :: taken) d rest member
      rw [fronts_cons_of_pos first, List.flatMap_append, List.flatMap_map, longer, List.flatMap_singleton,
        stop [] c text first, List.append_nil, List.takeWhile_cons_of_pos first,
        List.dropWhile_cons_of_pos first]
    · rw [fronts_cons_of_not first, List.flatMap_singleton, List.takeWhile_cons_of_neg first,
        List.dropWhile_cons_of_neg first]

private theorem ways_cons_of_shut (shut : Shut part.inClass parts) (text : List Char) :
    ways (part :: parts) text =
      if part.least ≤ (text.takeWhile part.inClass).length then
        (ways parts (text.dropWhile part.inClass)).map (part.keep (text.takeWhile part.inClass))
      else [] := by
  rw [ways, flatMap_fronts]
  intro taken c rest member
  rw [shut c rest member, List.map_nil, ite_self]

theorem length_ways_le_one (forced : Forced parts) (text : List Char) :
    (ways parts text).length ≤ 1 := by
  induction forced generalizing text with
  | nil => cases text <;> simp [ways]
  | cons shut _ ih =>
    rw [ways_cons_of_shut shut]
    split
    · rw [List.length_map]
      exact ih _
    · exact Nat.zero_le 1

theorem head?_ways_eq_some_iff (forced : Forced parts) {text : List Char}
    {captures : List (List Char)} :
    (ways parts text).head? = some captures ↔ Matches parts text captures := by
  have single := length_ways_le_one forced text
  rw [← mem_ways_iff]
  generalize ways parts text = found at single ⊢
  match found, single with
  | [], _ => simp
  | [_], _ => simpa using eq_comm

end Forced

end GameOfLife.Text
