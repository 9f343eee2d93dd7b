import GameOfLife.Input.Stream

/-!
The lines of a text. A text is cut after each newline, and what stands behind the last newline is a
line of its own if there is anything. The pieces of the encoded text are exactly these lines, so what
is read from failure-free input depends on its lines only.
-/

set_option autoImplicit false
set_option relaxedAutoImplicit false

namespace GameOfLife.Text

def cutLines : List Char → List (List Char)
  | [] => []
  | c :: rest =>
    if c = '\n' then [c] :: cutLines rest
    else
      match cutLines rest with
      | [] => [[c]]
      | line :: lines => (c :: line) :: lines

def lines (text : String) : List String :=
  (cutLines text.toList).map fun line => Piece.withoutLineEnd (String.ofList line)

private theorem cutLines_append_newline {line : List Char} (h : '\n' ∉ line) (rest : List Char) :
    cutLines (line ++ '\n' :: rest) = (line ++ ['\n']) :: cutLines rest := by
  induction line with
  | nil => simp [cutLines]
  | cons c line ih =>
    simp only [List.mem_cons, not_or] at h
    have different : c ≠ '\n' := fun same => h.1 same.symm
    simp [cutLines, different, ih h.2]

def unlines (lines : List String) : String :=
  String.join (lines.map (· ++ "\n"))

def Unbroken (line : String) : Prop :=
  ∀ c ∈ line.toList, Piece.isLineEnd c = false

theorem unlines_append (a b : List String) : unlines (a ++ b) = unlines a ++ unlines b := by
  simp [unlines, String.join_append]

theorem unlines_cons (line : String) (rest : List String) :
    unlines (line :: rest) = line ++ "\n" ++ unlines rest := by
  simp [unlines]

theorem withoutLineEnd_append_newline {line : String} (h : Unbroken line) :
    Piece.withoutLineEnd (line ++ "\n") = line := by
  -- The stripping begins at the newline and stops at the last character of the line.
  have kept : line.toList.reverse.dropWhile Piece.isLineEnd = line.toList.reverse := by
    cases reversed : line.toList.reverse with
    | nil => rfl
    | cons c rest =>
      have last : c ∈ line.toList := by
        rw [← List.mem_reverse, reversed]
        exact List.mem_cons_self
      exact List.dropWhile_cons_of_neg (by simp [h c last])
  have newline : Piece.isLineEnd '\n' = true := by decide
  simp [Piece.withoutLineEnd, newline, kept]

theorem newline_notMem_of_unbroken {line : String} (h : Unbroken line) : '\n' ∉ line.toList :=
  fun member => nomatch (h _ member)

theorem cutLines_unlines_append {front : List String} (h : ∀ line ∈ front, '\n' ∉ line.toList)
    (rest : List Char) :
    cutLines ((unlines front).toList ++ rest) =
      (front.map fun line => line.toList ++ ['\n']) ++ cutLines rest := by
  induction front with
  | nil => rfl
  | cons line front ih =>
    simp only [List.mem_cons, forall_eq_or_imp] at h
    have first : (unlines (line :: front)).toList ++ rest =
        line.toList ++ '\n' :: ((unlines front).toList ++ rest) := by
      simp [unlines]
    rw [first, cutLines_append_newline h.1, ih h.2]
    rfl

theorem lines_unlines_append_of_notMem {front : List String}
    (h : ∀ line ∈ front, '\n' ∉ line.toList) (rest : String) :
    lines (unlines front ++ rest) =
      (front.map fun line => Piece.withoutLineEnd (line ++ "\n")) ++ lines rest := by
  have ended : ∀ line : String, String.ofList (line.toList ++ ['\n']) = line ++ "\n" := by
    intro line
    rw [String.ofList_append, String.ofList_toList]
  simp only [lines, String.toList_append, cutLines_unlines_append h, List.map_append, List.map_map,
    Function.comp_def, ended]

theorem lines_unlines_append {front : List String} (h : ∀ line ∈ front, Unbroken line)
    (rest : String) : lines (unlines front ++ rest) = front ++ lines rest := by
  have stripped : ∀ line ∈ front, Piece.withoutLineEnd (line ++ "\n") = line := fun line member =>
    withoutLineEnd_append_newline (h line member)
  rw [lines_unlines_append_of_notMem fun line member => newline_notMem_of_unbroken (h line member),
    List.map_congr_left stripped, List.map_id']

theorem lines_unlines {front : List String} (h : ∀ line ∈ front, Unbroken line) :
    lines (unlines front) = front := by
  have whole := lines_unlines_append h ""
  rw [String.append_empty] at whole
  rw [whole]
  exact List.append_nil front

private theorem bytes_ofList (text : List Char) :
    bytes (String.ofList text) = text.flatMap String.utf8EncodeChar := by
  simp [bytes, String.toByteArray_ofList, List.utf8Encode]

theorem bytes_eq_flatMap (text : String) : bytes text = text.toList.flatMap String.utf8EncodeChar := by
  rw [← bytes_ofList, String.ofList_toList]

private theorem newline_notMem_utf8EncodeChar {c : Char} (h : c ≠ '\n') :
    Piece.newline ∉ String.utf8EncodeChar c := by
  have different : c.val.toNat ≠ 10 := fun same =>
    h (Char.ext (UInt32.toNat_inj.1 same))
  have apart : ∀ n, n % 256 ≠ 10 → Piece.newline ≠ UInt8.ofNat n := by
    intro n bound same
    have value := congrArg UInt8.toNat same
    simp only [Piece.newline, UInt8.toNat_ofNat', UInt8.reduceToNat] at value
    omega
  -- The one byte of a short encoding is the character itself; all bytes of a longer one are from
  -- 128 on.
  unfold String.utf8EncodeChar
  simp only []
  split
  · simp only [List.mem_singleton]
    apply apart
    omega
  · split
    · simp only [List.mem_cons, List.not_mem_nil, or_false, not_or]
      exact ⟨apart _ (by omega), apart _ (by omega)⟩
    · split
      · simp only [List.mem_cons, List.not_mem_nil, or_false, not_or]
        exact ⟨apart _ (by omega), apart _ (by omega), apart _ (by omega)⟩
      · simp only [List.mem_cons, List.not_mem_nil, or_false, not_or]
        exact ⟨apart _ (by omega), apart _ (by omega), apart _ (by omega), apart _ (by omega)⟩

end GameOfLife.Text

namespace GameOfLife

open Text

theorem pieces_append_of_line {front : List UInt8} (h : Piece.newline ∉ front)
    (stream : List Arrival) :
    pieces (front.map .byte ++ stream) = front.foldr Piece.prepend (pieces stream) := by
  induction front with
  | nil => rfl
  | cons value front ih =>
    simp only [List.mem_cons, not_or] at h
    have different : value ≠ Piece.newline := fun same => h.1 same.symm
    have rest := ih h.2
    simp only [pieces] at rest ⊢
    simp [Piece.attach, different, rest]

private theorem foldr_prepend_line (front : List UInt8) (line : List UInt8) (rest : List Piece) :
    front.foldr Piece.prepend (.line line :: rest) = .line (front ++ line) :: rest := by
  induction front with
  | nil => rfl
  | cons value front ih => simp [ih, Piece.prepend]

theorem pieces_append_newline {front : List UInt8} (h : Piece.newline ∉ front)
    (stream : List Arrival) : pieces (front.map .byte ++ .byte Piece.newline :: stream) =
      .line (front ++ [Piece.newline]) :: pieces stream := by
  have ended : pieces (.byte Piece.newline :: stream) = .line [Piece.newline] :: pieces stream := by
    simp [pieces, Piece.attach]
  rw [pieces_append_of_line h, ended, foldr_prepend_line]

theorem foldr_prepend_nil {front : List UInt8} (h : front ≠ []) :
    front.foldr Piece.prepend [] = [.line front] := by
  induction front with
  | nil => exact absurd rfl h
  | cons value front ih =>
    by_cases rest : front = []
    · simp [rest, Piece.prepend]
    · simp [ih rest, Piece.prepend]

section Unlines

private theorem newline_notMem_bytes {text : String} (h : '\n' ∉ text.toList) :
    Piece.newline ∉ bytes text := by
  rw [bytes_eq_flatMap]
  intro member
  obtain ⟨c, present, encoded⟩ := List.mem_flatMap.1 member
  have other : c ≠ '\n' := fun same => h (same ▸ present)
  exact newline_notMem_utf8EncodeChar other encoded

def Piece.ofLine (line : String) : Piece :=
  .line (bytes (line ++ "\n"))

theorem Piece.text_ofLine (line : String) :
    (ofLine line).text = .ok (withoutLineEnd (line ++ "\n")) := by
  rw [ofLine, text, decode?_bytes]

theorem pieces_unlines_append {front : List String} (h : ∀ line ∈ front, '\n' ∉ line.toList)
    (stream : List Arrival) : pieces ((bytes (unlines front)).map .byte ++ stream) =
      front.map Piece.ofLine ++ pieces stream := by
  induction front with
  | nil => rfl
  | cons line front ih =>
    obtain ⟨first, others⟩ := List.forall_mem_cons.1 h
    have ended : bytes (line ++ "\n") = bytes line ++ [Piece.newline] := bytes_append line "\n"
    have split : (bytes (unlines (line :: front))).map .byte ++ stream = (bytes line).map .byte ++
        .byte Piece.newline :: ((bytes (unlines front)).map .byte ++ stream) := by
      simp [unlines_cons, bytes_append, ended]
    rw [split, pieces_append_newline (newline_notMem_bytes first), ih others, ← ended]
    rfl

end Unlines

private theorem pieces_flatMap_utf8EncodeChar (text : List Char) :
    pieces ((text.flatMap String.utf8EncodeChar).map .byte) =
      (cutLines text).map fun line => .line (line.flatMap String.utf8EncodeChar) := by
  induction text with
  | nil => rfl
  | cons c rest ih =>
    rw [List.flatMap_cons, List.map_append]
    unfold cutLines
    split
    · next newline =>
      subst newline
      have encoded : String.utf8EncodeChar '\n' = [Piece.newline] := by decide
      simp only [pieces] at ih
      simp [encoded, pieces, Piece.attach, ih]
    · next other =>
      -- The character starts the first piece of what follows it, or a piece of its own at the end.
      rw [pieces_append_of_line (newline_notMem_utf8EncodeChar other), ih]
      split
      · next h => simp [h, foldr_prepend_nil String.utf8EncodeChar_ne_nil]
      · next line lines h => simp [h, foldr_prepend_line]

theorem map_text_pieces_bytes (text : String) :
    (pieces ((bytes text).map .byte)).map Piece.text = (lines text).map .ok := by
  rw [bytes_eq_flatMap, pieces_flatMap_utf8EncodeChar, lines, List.map_map, List.map_map]
  congr 1
  funext line
  simp only [Function.comp_apply, Piece.text, ← bytes_ofList, decode?_bytes]

end GameOfLife
