import GameOfLife.Failure
import GameOfLife.Proofs.Text.Printed
import Mathlib.Data.List.Basic

/-!
Failures as they are printed, line by line: the message, and under a heading the causes, numbered if there
are several. The message and its causes can be read back from these lines, as long as each of them is one
line.
-/

set_option autoImplicit false
set_option relaxedAutoImplicit false

namespace GameOfLife

open Text

def numberMark (number : Nat) : String :=
  "".pushn ' ' (5 - number.repr.length) ++ number.repr ++ ": "

def numbered (number : Nat) : List String → List String
  | [] => []
  | cause :: rest => (numberMark number ++ cause) :: numbered (number + 1) rest

def errorLines (message : String) : List String → List String
  | [] => ["Error: " ++ message]
  | [cause] => ["Error: " ++ message, "", "Caused by:", "    " ++ cause]
  | causes => ("Error: " ++ message) :: "" :: "Caused by:" :: numbered 0 causes

section Reading

def afterFront? (front line : String) : Option String :=
  (line.toList.dropPrefix? front.toList).map String.ofList

def unnumbered? (number : Nat) : List String → Option (List String)
  | [] => some []
  | line :: rest => do
    return (← afterFront? (numberMark number) line) :: (← unnumbered? (number + 1) rest)

def causesIn? : List String → Option (List String)
  | [line] => (afterFront? "    " line).map ([·])
  | lines => unnumbered? 0 lines

def chainIn? : List String → Option (List String)
  | [] => none
  | [first] => (afterFront? "Error: " first).map ([·])
  | first :: blank :: rest => do
    let message ← afterFront? "Error: " first
    let causes ← if blank = "" ∧ rest.head? = some "Caused by:" then causesIn? rest.tail else none
    return message :: causes

/-- The message and the causes that a printed error holds, each on its line. -/
def chain? (text : String) : Option (List String) :=
  chainIn? (printedLines text)

private theorem afterFront?_append (front rest : String) : afterFront? front (front ++ rest) = some rest := by
  rw [afterFront?, String.toList_append, List.dropPrefix?_append_of_beq _ (beq_self_eq_true _),
    Option.map_some, String.ofList_toList]

private theorem unnumbered?_numbered (number : Nat) (causes : List String) :
    unnumbered? number (numbered number causes) = some causes := by
  induction causes generalizing number with
  | nil => rfl
  | cons cause rest ih =>
    rw [numbered, unnumbered?, afterFront?_append, ih]
    rfl

private theorem toList_pushn (c : Char) (count : Nat) : ("".pushn c count).toList = List.replicate count c := by
  induction count with
  | zero => rfl
  | succ count ih =>
    rw [List.replicate_succ', ← ih]
    exact String.toList_push ..

private theorem newline_notMem_numberMark (number : Nat) : '\n' ∉ (numberMark number).toList := by
  simp [numberMark, newline_notMem_toDigits, toList_pushn]

private theorem newline_notMem_numbered {causes : List String} (h : ∀ cause ∈ causes, '\n' ∉ cause.toList)
    (number : Nat) : ∀ line ∈ numbered number causes, '\n' ∉ line.toList := by
  induction causes generalizing number with
  | nil => exact nofun
  | cons cause rest ih =>
    simp only [List.mem_cons, forall_eq_or_imp] at h
    simp only [numbered, List.mem_cons, forall_eq_or_imp, String.toList_append, List.mem_append,
      not_or]
    exact ⟨⟨newline_notMem_numberMark number, h.1⟩, ih h.2 (number + 1)⟩

private theorem newline_notMem_errorLines {message : String} {causes : List String}
    (h : ∀ text ∈ message :: causes, '\n' ∉ text.toList) :
    ∀ line ∈ errorLines message causes, '\n' ∉ line.toList := by
  simp only [List.mem_cons, forall_eq_or_imp] at h
  have first : '\n' ∉ ("Error: " ++ message).toList := by
    rw [String.toList_append, List.mem_append, not_or]
    exact ⟨by decide, h.1⟩
  match causes with
  | [] => simpa [errorLines] using first
  | [cause] =>
    have only : '\n' ∉ ("    " ++ cause).toList := by
      rw [String.toList_append, List.mem_append, not_or]
      exact ⟨by decide, h.2 cause List.mem_cons_self⟩
    simp only [errorLines, List.mem_cons, List.not_mem_nil, or_false, forall_eq_or_imp, forall_eq]
    exact ⟨first, by decide, by decide, only⟩
  | cause :: next :: rest =>
    simp only [errorLines, List.mem_cons, forall_eq_or_imp]
    exact ⟨first, by decide, by decide, newline_notMem_numbered h.2 0⟩

theorem chain?_errorLines {message : String} {causes : List String}
    (h : ∀ text ∈ message :: causes, '\n' ∉ text.toList) :
    chain? (unlines (errorLines message causes)) = some (message :: causes) := by
  rw [chain?, printedLines_unlines (newline_notMem_errorLines h)]
  match causes with
  | [] => simp [chainIn?, errorLines, afterFront?_append]
  | [cause] => simp [chainIn?, errorLines, causesIn?, afterFront?_append]
  | cause :: next :: rest =>
    have found := unnumbered?_numbered 0 (cause :: next :: rest)
    simp only [numbered] at found
    simp [chainIn?, errorLines, numbered, causesIn?, found, afterFront?_append]

end Reading

private theorem numberedCause_eq (number : Nat) (cause : String) :
    Failure.numberedCause (number, cause) = numberMark number ++ cause ++ "\n" := by
  have parts : Failure.numberedCause (number, cause) =
      "".pushn ' ' (5 - number.repr.length) ++ (number.repr ++ ": " ++ cause ++ "\n") := rfl
  rw [parts, numberMark]
  simp only [String.append_assoc]

private theorem join_numberedCause (number : Nat) (causes : List String) :
    String.join (((List.range' number causes.length).zip causes).map Failure.numberedCause) =
      unlines (numbered number causes) := by
  induction causes generalizing number with
  | nil => rfl
  | cons cause rest ih =>
    rw [List.length_cons, List.range'_succ, List.zip_cons_cons, List.map_cons, String.join_cons, ih,
      numberedCause_eq, numbered, unlines_cons]

theorem Failure.report_eq_unlines (failure : Failure) :
    failure.report = unlines (errorLines failure.message failure.causes) := by
  have parts : failure.report = "Error: " ++ failure.message ++ "\n" ++ causeLines failure.causes :=
    rfl
  rw [parts]
  match failure.causes with
  | [] =>
    have block : causeLines [] = "" := rfl
    simp [block, errorLines, unlines]
  | [cause] =>
    have block : causeLines [cause] = "\nCaused by:\n    " ++ cause ++ "\n" := rfl
    rw [block, ← String.toList_inj]
    simp [errorLines, unlines]
  | cause :: next :: rest =>
    have block : causeLines (cause :: next :: rest) =
        "\nCaused by:\n" ++ unlines (numbered 0 (cause :: next :: rest)) := by
      rw [← join_numberedCause, ← List.range_eq_range']
      rfl
    have lines : errorLines failure.message (cause :: next :: rest) = ("Error: " ++ failure.message) ::
        "" :: "Caused by:" :: numbered 0 (cause :: next :: rest) := rfl
    rw [block, lines, unlines_cons, unlines_cons, unlines_cons, ← String.toList_inj]
    simp

end GameOfLife
