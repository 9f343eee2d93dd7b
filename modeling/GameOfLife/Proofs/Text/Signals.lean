import GameOfLife.Proofs.Text.Printed
import Mathlib.Data.List.Basic

/-!
A text as a terminal takes it: characters that are shown, and escape sequences between them, which set the
colour of what follows or give it back. The text is cut into these signals from the left, and what is visible
of it are the characters that are shown.
-/

set_option autoImplicit false
set_option relaxedAutoImplicit false

namespace GameOfLife.Text

/-- A character that is shown, or what stands between an escape character and the next `m`. -/
inductive Signal where
  | shown (c : Char)
  | escape (sequence : List Char)
  deriving DecidableEq

/-- The colour of a palette in which characters are shown, unless they have the colour of the terminal. -/
abbrev Ink := Option Nat

/-- What is left of a text if only its colours and its newlines are kept. -/
inductive Mark where
  | color (n : Nat)
  | newline
  deriving DecidableEq

/-- The escape sequence that gives the colour back, between its first and its last character. -/
def resetSequence : List Char := "[0".toList

def ink? (sequence : List Char) : Option Ink :=
  if sequence = resetSequence then some none
  else (sequence.dropPrefix? "[38;5;".toList).bind fun number => (digitsValue? number).map some

namespace Signal

def text : Signal → List Char
  | shown c => [c]
  | escape sequence => '\x1b' :: (sequence ++ ['m'])

def Proper : Signal → Prop
  | shown c => c ≠ '\x1b'
  | escape sequence => 'm' ∉ sequence

instance : DecidablePred Proper
  | shown c => inferInstanceAs (Decidable (c ≠ '\x1b'))
  | escape sequence => inferInstanceAs (Decidable ('m' ∉ sequence))

def shown? : Signal → Option Char
  | shown c => some c
  | escape _ => none

def mark? : Signal → Option Mark
  | shown c => if c = '\n' then some .newline else none
  | escape sequence => (ink? sequence).bind fun ink => ink.map .color

def inkAfter (ink : Ink) : Signal → Ink
  | shown _ => ink
  | escape sequence => (ink? sequence).getD ink

end Signal

/-- The signals of a text, behind the beginning of an escape sequence or not. -/
def signalsFrom : Option (List Char) → List Char → List Signal
  | _, [] => []
  | none, c :: rest =>
    if c = '\x1b' then signalsFrom (some []) rest else .shown c :: signalsFrom none rest
  | some opened, c :: rest =>
    if c = 'm' then .escape opened :: signalsFrom none rest
    else signalsFrom (some (opened ++ [c])) rest

def signals (text : String) : List Signal :=
  signalsFrom none text.toList

def painted : Ink → List Signal → List (Char × Ink)
  | _, [] => []
  | ink, .shown c :: rest => (c, ink) :: painted ink rest
  | ink, .escape sequence :: rest => painted (Signal.inkAfter ink (.escape sequence)) rest

def marks (text : String) : List Mark :=
  (signals text).filterMap Signal.mark?

theorem ink?_resetSequence : ink? resetSequence = some none :=
  if_pos rfl

private theorem visibleFrom_eq (opened : Option (List Char)) (text : List Char) :
    visibleFrom opened.isSome text = (signalsFrom opened text).filterMap Signal.shown? := by
  induction text generalizing opened with
  | nil => cases opened <;> rfl
  | cons c rest ih =>
    cases opened with
    | none =>
      have open' := ih (some [])
      have closed := ih none
      rw [Option.isSome_some] at open'
      rw [Option.isSome_none] at closed ⊢
      by_cases escape : c = '\x1b'
      · rw [visibleFrom, signalsFrom, if_pos escape, if_pos escape, open']
      · rw [visibleFrom, signalsFrom, if_neg escape, if_neg escape, closed]
        rfl
    | some opened =>
      have longer := ih (some (opened ++ [c]))
      have closed := ih none
      rw [Option.isSome_some] at longer ⊢
      rw [Option.isSome_none] at closed
      by_cases last : c = 'm'
      · rw [visibleFrom, signalsFrom, if_pos last, decide_eq_false (not_not.2 last), closed]
        rfl
      · rw [visibleFrom, signalsFrom, if_neg last, decide_eq_true last, longer]

theorem visible_eq (text : String) :
    visible text = String.ofList ((signals text).filterMap Signal.shown?) :=
  congrArg String.ofList (visibleFrom_eq none text.toList)

section Proper

variable {signal : Signal} {list : List Signal}

private theorem signalsFrom_sequence {sequence : List Char} (h : 'm' ∉ sequence) (opened rest : List Char) :
    signalsFrom (some opened) (sequence ++ 'm' :: rest) =
      .escape (opened ++ sequence) :: signalsFrom none rest := by
  induction sequence generalizing opened with
  | nil => simp [signalsFrom]
  | cons c sequence ih =>
    rw [List.mem_cons, not_or] at h
    rw [List.cons_append, signalsFrom, if_neg fun same => h.1 same.symm, ih h.2]
    simp

private theorem signalsFrom_text_append (proper : signal.Proper) (rest : List Char) :
    signalsFrom none (signal.text ++ rest) = signal :: signalsFrom none rest := by
  cases signal with
  | shown c => exact if_neg proper
  | escape sequence =>
    have opened : signalsFrom none ((Signal.escape sequence).text ++ rest) =
        signalsFrom (some []) (sequence ++ 'm' :: rest) := by
      simp [Signal.text, signalsFrom]
    rw [opened, signalsFrom_sequence proper, List.nil_append]

/-- Signals that are written one after another are found again, whatever is written behind them. -/
theorem signalsFrom_flatMap_text_append (proper : ∀ signal ∈ list, signal.Proper)
    (rest : List Char) :
    signalsFrom none (list.flatMap Signal.text ++ rest) = list ++ signalsFrom none rest := by
  induction list with
  | nil => rfl
  | cons signal list ih =>
    obtain ⟨first, others⟩ := List.forall_mem_cons.1 proper
    rw [List.flatMap_cons, List.append_assoc, signalsFrom_text_append first, ih others,
      List.cons_append]

end Proper

end GameOfLife.Text
