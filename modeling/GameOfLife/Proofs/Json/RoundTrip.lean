import GameOfLife.Json.Printer
import GameOfLife.Proofs.Json.Decoder
import Mathlib.Data.List.TakeWhile

/-!
What is printed is decoded. A value stands for the datum of the same shape. Its text is cut into its
tokens, whatever the indentation and whatever text follows that cannot prolong a number, and the tokens
lead from the state in which a value is expected to the state in which this one is done.
-/

set_option autoImplicit false
set_option relaxedAutoImplicit false

namespace GameOfLife.Json

namespace Value

mutual

def datum : Value → Datum
  | null => .null
  | bool value => .bool value
  | number value => .number value
  | string text => .string text
  | array elements => .array (elementData elements)
  | object members => .object (memberData members)

def elementData : List Value → List Datum
  | [] => []
  | element :: rest => element.datum :: elementData rest

def memberData : List (String × Value) → List (String × Datum)
  | [] => []
  | (name, value) :: rest => (name, value.datum) :: memberData rest

end

mutual

def tokens : Value → List Token
  | null => [.literal .null]
  | bool value => [.literal (.bool value)]
  | number value => [.literal (.number value)]
  | string text => [.string text]
  | array [] => [.openArray, .closeArray]
  | array (element :: rest) =>
    .openArray :: (tokens element ++ (elementTokens rest ++ [.closeArray]))
  | object [] => [.openObject, .closeObject]
  | object ((name, value) :: rest) =>
    .openObject :: .string name :: .colon :: (tokens value ++ (memberTokens rest ++ [.closeObject]))

def elementTokens : List Value → List Token
  | [] => []
  | element :: rest => .comma :: (tokens element ++ elementTokens rest)

def memberTokens : List (String × Value) → List Token
  | [] => []
  | (name, value) :: rest =>
    .comma :: .string name :: .colon :: (tokens value ++ memberTokens rest)

end

theorem elementData_eq_map (elements : List Value) : elementData elements = elements.map datum := by
  induction elements with
  | nil => rfl
  | cons element rest ih => simp only [elementData, ih, List.map_cons]

end Value

section Numbers

private theorem eq_zero_of_head?_toDigits {n : Nat} (h : (Nat.toDigits 10 n).head? = some '0') : n = 0 := by
  induction n using Nat.strongRecOn with
  | ind n ih =>
    by_cases small : n < 10
    · rw [Nat.toDigits_of_lt_base small] at h
      have digits : ∀ d < 10, Nat.digitChar d = '0' → d = 0 := by decide
      exact digits n small (Option.some.inj h)
    · have front : Nat.toDigits 10 n = Nat.toDigits 10 (n / 10) ++ [Nat.digitChar (n % 10)] :=
        Nat.toDigits_of_base_le (by decide) (Nat.le_of_not_lt small)
      rw [front, List.head?_append, List.head?_eq_some_head Nat.toDigits_ne_nil, Option.some_or,
        ← List.head?_eq_some_head] at h
      have zero := ih (n / 10) (by omega) h
      omega

private theorem number?_toDigits (n : Nat) : number? (Nat.toDigits 10 n) = some (n : Rat) := by
  have digit : ∀ c ∈ Nat.toDigits 10 n, c.isDigit = true := fun c => Text.isDigit_of_mem_toDigits
  have whole : (Nat.toDigits 10 n).takeWhile Char.isDigit = Nat.toDigits 10 n :=
    List.takeWhile_eq_self_iff.mpr digit
  have nothing : (Nat.toDigits 10 n).dropWhile Char.isDigit = [] :=
    List.dropWhile_eq_nil_iff.mpr digit
  have allowed : ¬(Nat.toDigits 10 n = [] ∨
      (Nat.toDigits 10 n).head? = some '0' ∧ Nat.toDigits 10 n ≠ ['0']) := by
    rintro (empty | ⟨zero, long⟩)
    · exact Nat.toDigits_ne_nil empty
    · exact long (by rw [eq_zero_of_head?_toDigits zero]; rfl)
  have magnitude : magnitude? (Nat.toDigits 10 n) = some (n : Rat) := by
    unfold magnitude?
    simp only [whole, nothing]
    rw [if_neg allowed]
    simp [fraction?, exponent?, scaled]
  unfold number?
  split
  · next run written =>
    exact absurd (digit '-' (by rw [written]; exact List.mem_cons_self)) (by decide)
  · exact magnitude

end Numbers

section Strings

private theorem stringBody?_quote (rest : List Char) : stringBody? ('"' :: rest) = some ([], rest) := by
  rw [stringBody?]
  rfl

private theorem stringBody?_plain {c : Char} (quote : c ≠ '"') (backslash : c ≠ '\\') (high : ¬c < ' ')
    (rest : List Char) :
    stringBody? (c :: rest) = (stringBody? rest).map fun body => (c :: body.1, body.2) := by
  rw [stringBody?, if_neg quote, if_neg backslash, if_neg high]

private theorem stringBody?_escaped {text rest : List Char} {c : Char} (h : escaped? text = some (c, rest)) :
    stringBody? ('\\' :: text) = (stringBody? rest).map fun body => (c :: body.1, body.2) := by
  rw [stringBody?, if_neg (by decide), if_pos rfl]
  split
  · next missing => exact absurd (h.symm.trans missing) (Option.some_ne_none _)
  · next found =>
    have same := Option.some.inj (h.symm.trans found)
    rw [Prod.mk.injEq] at same
    rw [same.1, same.2]

private theorem hexDigit?_digitChar : ∀ d < 16, hexDigit? (Nat.digitChar d) = some d := by
  decide

private theorem escaped?_numbered {c : Char} (low : c < ' ') (rest : List Char) :
    escaped? ('u' :: '0' :: '0' :: Nat.digitChar (c.toNat / 16) :: Nat.digitChar (c.toNat % 16) :: rest) =
      some (c, rest) := by
  have small : c.toNat < 32 := low
  have first := hexDigit?_digitChar (c.toNat / 16) (by omega)
  have second := hexDigit?_digitChar (c.toNat % 16) (by omega)
  have zero : hexDigit? '0' = some 0 := by decide
  have number : 16 * (c.toNat / 16) + c.toNat % 16 = c.toNat := Nat.div_add_mod ..
  have unit : codeUnit? ('0' :: '0' :: Nat.digitChar (c.toNat / 16) :: Nat.digitChar (c.toNat % 16) ::
      rest) = some (c.toNat, rest) := by
    simp [codeUnit?, first, second, zero, number]
  simp only [escaped?, numbered?, unit, Option.bind_eq_bind, Option.bind_some]
  rw [if_neg (by omega), if_neg (by omega), Char.ofNat_toNat]
  rfl

private theorem stringBody?_escape (c : Char) (rest : List Char) :
    stringBody? (escape c ++ rest) =
      (stringBody? rest).map fun body => (c :: body.1, body.2) := by
  fun_cases escape c
  case case8 low => exact stringBody?_escaped (escaped?_numbered low rest)
  case case9 quote backslash _ _ _ _ _ high => exact stringBody?_plain quote backslash high rest
  -- Every other character is written with a letter of its own.
  all_goals
    subst_vars
    exact stringBody?_escaped rfl

private theorem stringBody?_flatMap_escape (text rest : List Char) :
    stringBody? (text.flatMap escape ++ '"' :: rest) = some (text, rest) := by
  induction text with
  | nil => exact stringBody?_quote rest
  | cons c text ih =>
    rw [List.flatMap_cons, List.append_assoc, stringBody?_escape, ih]
    rfl

end Strings

section Tokens

open Value

private theorem tokens?_space {c : Char} (space : isSpace c = true) (rest : List Char) :
    tokens? (c :: rest) = tokens? rest := by
  rw [tokens?, if_pos space]

private theorem tokens?_cons {c : Char} {rest others : List Char} {token : Token}
    (visible : isSpace c = false) (h : token? c rest = some (token, others)) :
    tokens? (c :: rest) = (tokens? others).map (token :: ·) := by
  rw [tokens?, if_neg (by simp [visible])]
  split
  · next missing => exact absurd (h.symm.trans missing) (Option.some_ne_none _)
  · next found =>
    have same := Option.some.inj (h.symm.trans found)
    rw [Prod.mk.injEq] at same
    rw [same.1, same.2]

private theorem tokens?_mark {c : Char} {token : Token} (mark : Token.ofChar? c = some token)
    (rest : List Char) : tokens? (c :: rest) = (tokens? rest).map (token :: ·) := by
  have visible : isSpace c = false := by
    refine Bool.eq_false_iff.mpr fun space => ?_
    simp only [isSpace, Bool.or_eq_true, decide_eq_true_eq] at space
    obtain ((rfl | rfl) | rfl) | rfl := space
    all_goals exact nomatch mark
  refine tokens?_cons visible ?_
  rw [token?, mark]

private theorem tokens?_newline (level : Nat) (rest : List Char) :
    tokens? (newline level ++ rest) = tokens? rest := by
  have blanks : ∀ count, tokens? (List.replicate count ' ' ++ rest) = tokens? rest := by
    intro count
    induction count with
    | zero => rfl
    | succ count ih => rw [List.replicate_succ, List.cons_append, tokens?_space rfl, ih]
  rw [newline, List.cons_append, tokens?_space rfl, blanks]

private theorem tokens?_quote (text : String) (rest : List Char) :
    tokens? (quote text ++ rest) = (tokens? rest).map (.string text :: ·) := by
  have body : token? '"' (text.toList.flatMap escape ++ '"' :: rest) = some (.string text, rest) := by
    simp [token?, Token.ofChar?, stringBody?_flatMap_escape]
  have whole : quote text ++ rest = '"' :: (text.toList.flatMap escape ++ '"' :: rest) := by
    simp [quote]
  rw [whole, tokens?_cons rfl body]

/-- Whether what follows a text cannot prolong a literal at the end of it. -/
def Ends (rest : List Char) : Prop :=
  ∀ c ∈ rest.head?, isDelimiter c = true

private theorem tokens?_literal {run : List Char} {datum : Datum} (written : run ≠ [])
    (clear : run.all (fun c => !isDelimiter c) = true) (meant : literal? run = some datum) {rest : List Char}
    (ends : Ends rest) :
    tokens? (run ++ rest) = (tokens? rest).map (.literal datum :: ·) := by
  cases run with
  | nil => exact absurd rfl written
  | cons c run =>
    rw [List.all_cons, Bool.and_eq_true, List.all_eq_true] at clear
    obtain ⟨first, others⟩ := clear
    simp only [isDelimiter, Bool.not_eq_true', Bool.or_eq_false_iff, Option.isSome_eq_false_iff,
      Option.isNone_iff_eq_none, decide_eq_false_iff_not] at first
    obtain ⟨⟨visible, mark⟩, quote⟩ := first
    have stop : rest.takeWhile (fun c => !isDelimiter c) = [] ∧
        rest.dropWhile (fun c => !isDelimiter c) = rest := by
      cases rest with
      | nil => exact ⟨rfl, rfl⟩
      | cons c rest => simp [ends c rfl]
    have token : token? c (run ++ rest) = some (.literal datum, rest) := by
      unfold token?
      rw [mark]
      simp only [quote, if_false]
      rw [List.takeWhile_append_of_pos others, List.dropWhile_append_of_pos others, stop.1, stop.2,
        List.append_nil, meant]
      rfl
    rw [List.cons_append, tokens?_cons visible token]

private theorem literal?_toDigits (n : Nat) : literal? (Nat.toDigits 10 n) = some (.number n) := by
  have digit : ∀ c ∈ Nat.toDigits 10 n, c.isDigit = true := fun c => Text.isDigit_of_mem_toDigits
  have different : ∀ c run, c.isDigit = false → Nat.toDigits 10 n ≠ c :: run := by
    intro c run letter same
    rw [same] at digit
    exact Bool.false_ne_true (letter ▸ digit c List.mem_cons_self)
  rw [literal?, if_neg (different _ _ (by decide)), if_neg (different _ _ (by decide)),
    if_neg (different _ _ (by decide)), number?_toDigits]
  rfl

private theorem isDigit_of_isDelimiter {c : Char} (h : isDelimiter c = true) : c.isDigit = false := by
  simp only [isDelimiter, isSpace, Bool.or_eq_true, decide_eq_true_eq] at h
  obtain ((((rfl | rfl) | rfl) | rfl) | mark) | rfl := h
  case inl.inr =>
    unfold Token.ofChar? at mark
    split at mark
    case h_7 => exact nomatch mark
    all_goals rfl
  all_goals rfl

private theorem tokens?_toDigits (n : Nat) {rest : List Char} (ends : Ends rest) :
    tokens? (Nat.toDigits 10 n ++ rest) = (tokens? rest).map (.literal (.number n) :: ·) := by
  refine tokens?_literal Nat.toDigits_ne_nil ?_ (literal?_toDigits n) ends
  refine List.all_eq_true.mpr fun c member => ?_
  have digit := Text.isDigit_of_mem_toDigits member
  cases delimiter : isDelimiter c with
  | false => rfl
  | true => exact absurd ((isDigit_of_isDelimiter delimiter).symm.trans digit) Bool.false_ne_true

private theorem ends_newline (level : Nat) (rest : List Char) : Ends (newline level ++ rest) := by
  rintro c ⟨⟩
  rfl

private theorem ends_printElements (level : Nat) (elements : List Value) {rest : List Char} (ends : Ends rest) :
    Ends (printElements level elements ++ rest) := by
  cases elements with
  | nil => exact ends
  | cons =>
    unfold printElements
    rintro c ⟨⟩
    rfl

private theorem ends_printMembers (level : Nat) (members : List (String × Value)) {rest : List Char}
    (ends : Ends rest) : Ends (printMembers level members ++ rest) := by
  cases members with
  | nil => exact ends
  | cons =>
    unfold printMembers
    rintro c ⟨⟩
    rfl

mutual

private theorem tokens?_printAt (level : Nat) (value : Value) {rest : List Char} (ends : Ends rest) :
    tokens? (value.printAt level ++ rest) = (tokens? rest).map (value.tokens ++ ·) := by
  match value with
  | .null =>
    simp only [printAt, tokens]
    exact tokens?_literal (by decide) rfl rfl ends
  | .bool true =>
    simp only [printAt, tokens]
    exact tokens?_literal (by decide) rfl rfl ends
  | .bool false =>
    simp only [printAt, tokens]
    exact tokens?_literal (by decide) rfl rfl ends
  | .number value => exact tokens?_toDigits value ends
  | .string text => exact tokens?_quote text rest
  | .array [] =>
    simp only [printAt, tokens, List.cons_append, List.nil_append]
    rw [tokens?_mark rfl, tokens?_mark rfl, Option.map_map]
    rfl
  | .array (element :: others) =>
    simp only [printAt, tokens, List.cons_append, List.nil_append, List.append_assoc]
    -- Behind an element stands a comma or a line break, so a number ends there.
    have behind := ends_newline level (']' :: rest)
    rw [tokens?_mark rfl, tokens?_newline,
      tokens?_printAt (level + 1) element (ends_printElements _ others behind),
      tokens?_printElements (level + 1) others behind, tokens?_newline, tokens?_mark rfl]
    simp only [Option.map_map]
    rfl
  | .object [] =>
    simp only [printAt, tokens, List.cons_append, List.nil_append]
    rw [tokens?_mark rfl, tokens?_mark rfl, Option.map_map]
    rfl
  | .object ((name, value) :: others) =>
    simp only [printAt, tokens, List.cons_append, List.nil_append, List.append_assoc]
    have behind := ends_newline level ('}' :: rest)
    rw [tokens?_mark rfl, tokens?_newline, tokens?_quote, tokens?_mark rfl, tokens?_space rfl,
      tokens?_printAt (level + 1) value (ends_printMembers _ others behind),
      tokens?_printMembers (level + 1) others behind, tokens?_newline, tokens?_mark rfl]
    simp only [Option.map_map]
    rfl

theorem tokens?_printElements (level : Nat) (elements : List Value) {rest : List Char}
    (ends : Ends rest) :
    tokens? (printElements level elements ++ rest) =
      (tokens? rest).map (elementTokens elements ++ ·) := by
  match elements with
  | [] => exact Option.map_id'.symm
  | element :: others =>
    simp only [printElements, elementTokens, List.cons_append, List.append_assoc]
    rw [tokens?_mark rfl, tokens?_newline,
      tokens?_printAt level element (ends_printElements _ others ends),
      tokens?_printElements level others ends]
    simp only [Option.map_map]
    rfl

theorem tokens?_printMembers (level : Nat) (members : List (String × Value)) {rest : List Char}
    (ends : Ends rest) :
    tokens? (printMembers level members ++ rest) =
      (tokens? rest).map (memberTokens members ++ ·) := by
  match members with
  | [] => exact Option.map_id'.symm
  | (name, value) :: others =>
    simp only [printMembers, memberTokens, List.cons_append, List.append_assoc]
    rw [tokens?_mark rfl, tokens?_newline, tokens?_quote, tokens?_mark rfl, tokens?_space rfl,
      tokens?_printAt level value (ends_printMembers _ others ends),
      tokens?_printMembers level others ends]
    simp only [Option.map_map]
    rfl

end

end Tokens

section Syntax

open Value

private theorem foldlM_firstElement (value : Value) (within : List Frame) :
    value.tokens.foldlM State.step (.firstElement within) =
      value.tokens.foldlM State.step (.value (.array [] :: within)) := by
  match value with
  | .null | .bool _ | .number _ | .string _ => rfl
  | .array [] | .array (_ :: _) | .object [] | .object (_ :: _) => rfl

mutual

private theorem foldlM_tokens (value : Value) (within : List Frame) :
    value.tokens.foldlM State.step (.value within) = some (.done value.datum within) := by
  match value with
  | .null | .bool _ | .number _ | .string _ => rfl
  | .array [] | .object [] => rfl
  | .array (element :: others) =>
    -- The elements behind the first are read from the states in which the one before them is done.
    have inside : (element.tokens ++ (elementTokens others ++ [Token.closeArray])).foldlM State.step
        (.firstElement within) = some (.done (.array (element.datum :: elementData others)) within) := by
      rw [List.foldlM_append, foldlM_firstElement, foldlM_tokens element]
      exact foldlM_elementTokens others [] element.datum within
    exact inside
  | .object ((name, value) :: others) =>
    have inside : (value.tokens ++ (memberTokens others ++ [Token.closeObject])).foldlM State.step
        (.value (.object [] name :: within)) =
          some (.done (.object ((name, value.datum) :: memberData others)) within) := by
      rw [List.foldlM_append, foldlM_tokens value]
      exact foldlM_memberTokens others [] name value.datum within
    exact inside

theorem foldlM_elementTokens (elements : List Value) (known : List Datum) (last : Datum)
    (within : List Frame) :
    (elementTokens elements ++ [Token.closeArray]).foldlM State.step
        (.done last (.array known :: within)) =
      some (.done (.array (known ++ last :: elementData elements)) within) := by
  match elements with
  | [] => rfl
  | element :: others =>
    have behind : (element.tokens ++ (elementTokens others ++ [Token.closeArray])).foldlM State.step
        (.value (.array (known ++ [last]) :: within)) =
          some (.done (.array (known ++ [last] ++ element.datum :: elementData others)) within) := by
      rw [List.foldlM_append, foldlM_tokens element]
      exact foldlM_elementTokens others (known ++ [last]) element.datum within
    simpa [elementTokens, elementData, State.step] using behind

theorem foldlM_memberTokens (members : List (String × Value)) (known : List (String × Datum))
    (name : String) (last : Datum) (within : List Frame) :
    (memberTokens members ++ [Token.closeObject]).foldlM State.step
        (.done last (.object known name :: within)) =
      some (.done (.object (known ++ (name, last) :: memberData members)) within) := by
  match members with
  | [] => rfl
  | (text, value) :: others =>
    have behind : (value.tokens ++ (memberTokens others ++ [Token.closeObject])).foldlM State.step
        (.value (.object (known ++ [(name, last)]) text :: within)) =
          some (.done
            (.object (known ++ [(name, last)] ++ (text, value.datum) :: memberData others)) within) := by
      rw [List.foldlM_append, foldlM_tokens value]
      exact foldlM_memberTokens others (known ++ [(name, last)]) text value.datum within
    simpa [memberTokens, memberData, State.step] using behind

end

end Syntax

/-- The text of a value stands for the value. -/
theorem decode_print (value : Value) : decode value.print = some value.datum := by
  have nothing : Ends [] := fun c none => nomatch none
  have cut : tokens? (value.printAt 0) = some value.tokens := by
    simpa [tokens?] using tokens?_printAt 0 value nothing
  simp [decode, Value.print, cut, foldlM_tokens, State.finished?]

end GameOfLife.Json
