import GameOfLife.Text.Numeral
import Mathlib.Algebra.Ring.Rat

/-!
What JSON texts stand for. A text is first cut into tokens, between which blanks mean nothing; a number
is exact, and a character in a string may be written by its number in UTF-16. The tokens are then read
one after another by a machine that remembers the arrays and objects that are still open. Every text that
is no JSON document is refused.
-/

set_option autoImplicit false
set_option relaxedAutoImplicit false

namespace GameOfLife.Json

/-- What a JSON text stands for. The members of an object are in the order in which they are written. -/
inductive Datum where
  | null
  | bool (value : Bool)
  | number (value : Rat)
  | string (text : String)
  | array (elements : List Datum)
  | object (members : List (String × Datum))

inductive Token where
  | openArray
  | closeArray
  | openObject
  | closeObject
  | comma
  | colon
  | string (text : String)
  | literal (value : Datum)

section Numbers

def scaled (digits : Nat) : Int → Rat
  | .ofNat exponent => (digits * 10 ^ exponent : Nat)
  | .negSucc exponent => mkRat digits (10 ^ (exponent + 1))

/-- The digits behind a decimal point, at least one, if there is a point, and what follows them. -/
def fraction? : List Char → Option (List Char × List Char)
  | '.' :: rest =>
    if rest.takeWhile Char.isDigit = [] then none
    else some (rest.takeWhile Char.isDigit, rest.dropWhile Char.isDigit)
  | rest => some ([], rest)

def exponent? : List Char → Option Int
  | [] => some 0
  | mark :: rest => if mark = 'e' ∨ mark = 'E' then Text.signedValue? rest else none

/-- A number without a sign: no digit may follow a zero at the beginning. -/
def magnitude? (run : List Char) : Option Rat :=
  let whole := run.takeWhile Char.isDigit
  if whole = [] ∨ whole.head? = some '0' ∧ whole ≠ ['0'] then none
  else do
    let (places, rest) ← fraction? (run.dropWhile Char.isDigit)
    let exponent ← exponent? rest
    return scaled (Nat.ofDigitChars 10 (whole ++ places) 0) (exponent - places.length)

def number? : List Char → Option Rat
  | '-' :: run => (magnitude? run).map fun value => -value
  | run => magnitude? run

example : number? "-12.50e-1".toList = some (-5 / 4) := by decide +kernel

example : number? "012".toList = none := by decide

end Numbers

section Strings

def hexDigit? (c : Char) : Option Nat :=
  if '0' ≤ c ∧ c ≤ '9' then some (c.toNat - 48)
  else if 'a' ≤ c ∧ c ≤ 'f' then some (c.toNat - 87)
  else if 'A' ≤ c ∧ c ≤ 'F' then some (c.toNat - 55)
  else none

def codeUnit? : List Char → Option (Nat × List Char)
  | a :: b :: c :: d :: rest => do
    let digits ← [a, b, c, d].mapM hexDigit?
    return (digits.foldl (fun value digit => 16 * value + digit) 0, rest)
  | _ => none

/-- The code unit behind another one, if it is the second half of a pair. -/
def secondHalf? : List Char → Option (Nat × List Char)
  | '\\' :: 'u' :: rest =>
    (codeUnit? rest).filter fun unit => 0xDC00 ≤ unit.1 && unit.1 < 0xE000
  | _ => none

/-- A character by its number: one code unit, or two that are the halves of a pair. Half a pair stands
for no character. -/
def numbered? (text : List Char) : Option (Char × List Char) := do
  let (unit, rest) ← codeUnit? text
  if 0xD800 ≤ unit ∧ unit < 0xDC00 then
    let (second, rest) ← secondHalf? rest
    return (Char.ofNat (0x10000 + 0x400 * (unit - 0xD800) + (second - 0xDC00)), rest)
  else if 0xDC00 ≤ unit ∧ unit < 0xE000 then none
  else return (Char.ofNat unit, rest)

def lettered? : Char → Option Char
  | '"' => some '"'
  | '\\' => some '\\'
  | '/' => some '/'
  | 'b' => some '\x08'
  | 'f' => some '\x0c'
  | 'n' => some '\n'
  | 'r' => some '\r'
  | 't' => some '\t'
  | _ => none

def escaped? : List Char → Option (Char × List Char)
  | [] => none
  | 'u' :: rest => numbered? rest
  | c :: rest => (lettered? c).map fun character => (character, rest)

example : escaped? "ud83d\\ude00!".toList = some ('😀', ['!']) := by decide

private theorem length_codeUnit? {text rest : List Char} {unit : Nat} (h : codeUnit? text = some (unit, rest)) :
    rest.length < text.length := by
  unfold codeUnit? at h
  split at h
  · simp only [Option.bind_eq_bind, Option.bind_eq_some_iff, Option.pure_def, Option.some.injEq,
      Prod.mk.injEq] at h
    obtain ⟨-, -, -, rfl⟩ := h
    simp only [List.length_cons]
    omega
  · exact nomatch h

private theorem length_secondHalf? {text rest : List Char} {unit : Nat}
    (h : secondHalf? text = some (unit, rest)) : rest.length < text.length := by
  unfold secondHalf? at h
  split at h
  · simp only [Option.filter_eq_some_iff] at h
    have shorter := length_codeUnit? h.1
    simp only [List.length_cons]
    omega
  · exact nomatch h

private theorem length_numbered? {text rest : List Char} {c : Char} (h : numbered? text = some (c, rest)) :
    rest.length < text.length := by
  simp only [numbered?, Option.bind_eq_bind, Option.bind_eq_some_iff, Prod.exists] at h
  obtain ⟨unit, others, first, h⟩ := h
  have shorter := length_codeUnit? first
  split at h
  · simp only [Option.bind_eq_some_iff, Prod.exists, Option.pure_def, Option.some.injEq,
      Prod.mk.injEq] at h
    obtain ⟨second, left, half, -, rfl⟩ := h
    exact Nat.lt_trans (length_secondHalf? half) shorter
  · split at h
    · exact nomatch h
    · simp only [Option.pure_def, Option.some.injEq, Prod.mk.injEq] at h
      rw [← h.2]
      exact shorter

private theorem length_escaped? {text rest : List Char} {c : Char} (h : escaped? text = some (c, rest)) :
    rest.length < text.length := by
  unfold escaped? at h
  split at h
  · exact nomatch h
  · exact Nat.lt_succ_of_lt (length_numbered? h)
  · simp only [Option.map_eq_some_iff, Prod.mk.injEq] at h
    obtain ⟨-, -, -, rfl⟩ := h
    exact Nat.lt_succ_self _

def stringBody? : List Char → Option (List Char × List Char)
  | [] => none
  | c :: rest =>
    if c = '"' then some ([], rest)
    else if c = '\\' then
      match _h : escaped? rest with
      | none => none
      | some (character, others) =>
        (stringBody? others).map fun body => (character :: body.1, body.2)
    else if c < ' ' then none
    else (stringBody? rest).map fun body => (c :: body.1, body.2)
termination_by text => text.length
decreasing_by
  · exact Nat.lt_succ_of_lt (length_escaped? _h)
  · exact Nat.lt_succ_self _

end Strings

section Tokens

def isSpace (c : Char) : Bool :=
  c = ' ' || c = '\t' || c = '\n' || c = '\r'

def Token.ofChar? : Char → Option Token
  | '[' => some openArray
  | ']' => some closeArray
  | '{' => some openObject
  | '}' => some closeObject
  | ',' => some comma
  | ':' => some colon
  | _ => none

def isDelimiter (c : Char) : Bool :=
  isSpace c || (Token.ofChar? c).isSome || c = '"'

def literal? (run : List Char) : Option Datum :=
  if run = ['n', 'u', 'l', 'l'] then some .null
  else if run = ['t', 'r', 'u', 'e'] then some (.bool true)
  else if run = ['f', 'a', 'l', 's', 'e'] then some (.bool false)
  else (number? run).map .number

def token? (c : Char) (rest : List Char) : Option (Token × List Char) :=
  match Token.ofChar? c with
  | some token => some (token, rest)
  | none =>
    if c = '"' then
      (stringBody? rest).map fun body => (.string (String.ofList body.1), body.2)
    else
      (literal? (c :: rest.takeWhile fun c => !isDelimiter c)).map fun value =>
        (.literal value, rest.dropWhile fun c => !isDelimiter c)

private theorem length_stringBody? {text body rest : List Char} (h : stringBody? text = some (body, rest)) :
    rest.length < text.length := by
  fun_induction stringBody? text generalizing body rest with
  | case1 => exact nomatch h
  | case2 others =>
    obtain ⟨-, rfl⟩ := Prod.mk.inj (Option.some.inj h)
    exact Nat.lt_succ_self _
  | case3 => exact nomatch h
  | case4 others character left escape _ ih =>
    obtain ⟨inner, found, same⟩ := Option.map_eq_some_iff.mp h
    obtain ⟨-, rfl⟩ := Prod.mk.inj same
    exact Nat.lt_succ_of_lt (Nat.lt_trans (ih found) (length_escaped? escape))
  | case5 => exact nomatch h
  | case6 c others _ _ _ ih =>
    obtain ⟨inner, found, same⟩ := Option.map_eq_some_iff.mp h
    obtain ⟨-, rfl⟩ := Prod.mk.inj same
    exact Nat.lt_succ_of_lt (ih found)

private theorem length_token? {c : Char} {rest others : List Char} {token : Token}
    (h : token? c rest = some (token, others)) : others.length ≤ rest.length := by
  unfold token? at h
  split at h
  · obtain ⟨-, rfl⟩ := Prod.mk.inj (Option.some.inj h)
    exact Nat.le_refl _
  · split at h
    · obtain ⟨inner, found, same⟩ := Option.map_eq_some_iff.mp h
      obtain ⟨-, rfl⟩ := Prod.mk.inj same
      exact Nat.le_of_lt (length_stringBody? found)
    · obtain ⟨datum, -, same⟩ := Option.map_eq_some_iff.mp h
      obtain ⟨-, rfl⟩ := Prod.mk.inj same
      exact (List.dropWhile_sublist _).length_le

def tokens? : List Char → Option (List Token)
  | [] => some []
  | c :: rest =>
    if isSpace c then tokens? rest
    else
      match _h : token? c rest with
      | none => none
      | some (token, others) => (tokens? others).map (token :: ·)
termination_by text => text.length
decreasing_by
  · exact Nat.lt_succ_self _
  · exact Nat.lt_succ_of_le (length_token? _h)

end Tokens

section Syntax

/-- An array or object that is not closed yet: what it holds so far, and the name of the member whose
value comes next. -/
inductive Frame where
  | array (elements : List Datum)
  | object (members : List (String × Datum)) (name : String)

/-- What is expected next, inside the arrays and objects that are open, the innermost first. -/
inductive State where
  | value (within : List Frame)
  | firstElement (within : List Frame)
  | firstMember (within : List Frame)
  | name (members : List (String × Datum)) (within : List Frame)
  | colon (members : List (String × Datum)) (name : String) (within : List Frame)
  | done (value : Datum) (within : List Frame)

namespace State

def enter (within : List Frame) : Token → Option State
  | .literal datum => some (.done datum within)
  | .string text => some (.done (.string text) within)
  | .openArray => some (.firstElement within)
  | .openObject => some (.firstMember within)
  | _ => none

def step : State → Token → Option State
  | .value within, token => enter within token
  | .firstElement within, .closeArray => some (.done (.array []) within)
  | .firstElement within, token => enter (.array [] :: within) token
  | .firstMember within, .closeObject => some (.done (.object []) within)
  | .firstMember within, .string text => some (.colon [] text within)
  | .name members within, .string text => some (.colon members text within)
  | .colon members text within, .colon => some (.value (.object members text :: within))
  | .done last (.array elements :: within), .comma =>
    some (.value (.array (elements ++ [last]) :: within))
  | .done last (.array elements :: within), .closeArray =>
    some (.done (.array (elements ++ [last])) within)
  | .done last (.object members text :: within), .comma =>
    some (.name (members ++ [(text, last)]) within)
  | .done last (.object members text :: within), .closeObject =>
    some (.done (.object (members ++ [(text, last)])) within)
  | _, _ => none

def finished? : State → Option Datum
  | .done datum [] => some datum
  | _ => none

end State

end Syntax

def decode (text : String) : Option Datum := do
  let tokens ← tokens? text.toList
  let state ← tokens.foldlM State.step (.value [])
  state.finished?

example : decode "\x7b\"grids\": [0, 1],\x7d" = none := by decide +kernel

end GameOfLife.Json
