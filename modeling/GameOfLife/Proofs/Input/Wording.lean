import GameOfLife.Proofs.Input.Locality
import GameOfLife.Proofs.Text.Printed

/-!
The wording of what goes wrong while grids are read. What an error quotes stands on one line of the input,
so an error and its cause are one line each, unless a fault comes with a message of several.
-/

set_option autoImplicit false
set_option relaxedAutoImplicit false

namespace GameOfLife

namespace Text

private theorem isBlank_eq_false_of_mem_splitOnP {text run : List Char}
    (h : run ∈ text.splitOnP isBlank) : ∀ c ∈ run, isBlank c = false := by
  induction text generalizing run with
  | nil =>
    rw [List.splitOnP_nil, List.mem_singleton] at h
    subst h
    exact nofun
  | cons c rest ih =>
    rw [List.splitOnP_cons_eq_if_modifyHead] at h
    split at h
    · rcases List.mem_cons.1 h with rfl | member
      · exact nofun
      · exact ih member
    · next visible =>
      obtain ⟨first, others, split⟩ := List.exists_cons_of_ne_nil (List.splitOnP_ne_nil isBlank rest)
      rw [split, List.modifyHead_cons] at h
      rcases List.mem_cons.1 h with rfl | member
      · simp only [List.mem_cons, forall_eq_or_imp]
        exact ⟨by simpa using visible, ih (split ▸ List.mem_cons_self)⟩
      · exact ih (split ▸ List.mem_cons_of_mem first member)

private theorem newline_notMem_of_mem_words {text word : String} (h : word ∈ words text) :
    '\n' ∉ word.toList := by
  obtain ⟨run, member, rfl⟩ := List.mem_map.1 h
  rw [String.toList_ofList]
  intro newline
  exact absurd (isBlank_eq_false_of_mem_splitOnP (List.mem_filter.1 member).1 _ newline) (by decide)

private theorem newline_notMem_trim {text : String} (h : '\n' ∉ text.toList) : '\n' ∉ (trim text).toList := by
  rw [trim, String.toList_ofList, List.mem_reverse]
  intro member
  have behind := List.mem_reverse.1 ((List.dropWhile_sublist _).subset member)
  exact h ((List.dropWhile_sublist _).subset behind)

private theorem newline_notMem_repr (value : Int) : '\n' ∉ value.repr.toList := by
  cases value with
  | ofNat n => simp [Int.repr, newline_notMem_toDigits]
  | negSucc n => simp [Int.repr, newline_notMem_toDigits]

end Text

def ReadError.OneLine (e : ReadError) : Prop :=
  ∀ text ∈ e.message :: e.cause?.toList, '\n' ∉ text.toList

/-- Whether a piece of input is answered with one line, be it of text or the message of a fault. -/
def Piece.OneLine (piece : Piece) : Prop :=
  match piece.text with
  | .ok text => '\n' ∉ text.toList
  | .error fault => '\n' ∉ fault.message.toList

open Text

namespace Piece

variable {piece : Piece}

private theorem oneLine_iff_of_ok {text : String} (h : piece.text = .ok text) :
    piece.OneLine ↔ '\n' ∉ text.toList := by
  rw [OneLine, h]

private theorem oneLine_iff_of_error {fault : Fault} (h : piece.text = .error fault) :
    piece.OneLine ↔ '\n' ∉ fault.message.toList := by
  rw [OneLine, h]

end Piece

private theorem ShapeError.newline_notMem_message (e : ShapeError) : '\n' ∉ e.message.toList := by
  cases e <;> simp +decide [message, newline_notMem_toDigits]

namespace ReadError

private theorem oneLine_io {fault : Fault} (h : '\n' ∉ fault.message.toList) : (io fault).OneLine := by
  simpa +decide [OneLine, message, cause?] using h

private theorem oneLine_invalidToken (line : Nat) {token : String} (h : '\n' ∉ token.toList) :
    (invalidToken line token).OneLine := by
  have quoted : '\n' ∉ (toString token).toList := h
  simp +decide [OneLine, message, cause?, newline_notMem_toDigits, quoted]

private theorem oneLine_notBinary (line : Nat) (value : Int) : (notBinary line value).OneLine := by
  simp +decide [OneLine, message, cause?, newline_notMem_toDigits, newline_notMem_repr]

private theorem oneLine_grid (line : Nat) (cause : ShapeError) : (grid line cause).OneLine := by
  simp +decide [OneLine, message, cause?, cause.newline_notMem_message, newline_notMem_toDigits]

private theorem oneLine_badHeader (line : Nat) {text : String} (h : '\n' ∉ text.toList) :
    (badHeader line text).OneLine := by
  have quoted : '\n' ∉ (toString text).toList := h
  simp +decide [OneLine, message, cause?, newline_notMem_toDigits, quoted]

private theorem oneLine_truncated (expected found : Nat) : (truncated expected found).OneLine := by
  simp +decide [OneLine, message, cause?, newline_notMem_toDigits]

private theorem oneLine_of_parseRow {text : String} {line : Nat} {e : ReadError}
    (h : parseRow text line = .error e) : e.OneLine := by
  obtain ⟨before, word, after, split, -, refused⟩ := exists_of_parseRow_eq_error h
  have quoted : word ∈ words text := by
    rw [split]
    exact List.mem_append_right before List.mem_cons_self
  unfold parseCell at refused
  split at refused
  · cases refused
    exact oneLine_invalidToken line (newline_notMem_of_mem_words quoted)
  · split at refused
    · cases refused
      exact oneLine_notBinary line _
    · exact nomatch refused

end ReadError

namespace Reader

def OneLined (reader : Reader) : Prop :=
  ∀ piece ∈ reader.pending, piece.OneLine

private theorem oneLined_nil (line : Nat) : OneLined ⟨[], line⟩ :=
  List.forall_mem_nil _

/-- Whether an answer is worded in one line if it is an error, and leaves nothing but single lines. -/
structure Worded {α : Type} (answer : Answer α) : Prop where
  error : ∀ e, answer.1 = .error e → e.OneLine
  left : answer.2.OneLined

section Steps

variable {pending : List Piece} {reader : Reader}

private theorem Worded.of_ok {α : Type} {value : α} (h : reader.OneLined) :
    Worded (.ok value, reader) :=
  ⟨nofun, h⟩

private theorem Worded.of_error {α : Type} {e : ReadError} (oneLine : e.OneLine) (h : reader.OneLined) :
    Worded ((.error e, reader) : Answer α) := by
  refine ⟨?_, h⟩
  rintro _ ⟨⟩
  exact oneLine

private theorem Worded.map {α β : Type} {answer : Answer α} (h : Worded answer) (f : α → β) :
    Worded (answer.1.map f, answer.2) := by
  obtain ⟨result, after⟩ := answer
  cases result with
  | error e => exact .of_error (h.error e rfl) h.left
  | ok value => exact .of_ok h.left

private theorem Worded.proceed {α β : Type} {answer : Answer α} {next : α → Reader → Answer β}
    (first : Worded answer)
    (second : ∀ value after, answer.1 = .ok value → after.OneLined → Worded (next value after)) :
    Worded (proceed answer next) := by
  obtain ⟨result, after⟩ := answer
  cases result with
  | error e => exact .of_error (first.error e rfl) first.left
  | ok value => exact second value after rfl first.left

private theorem worded_takeRows (h : ∀ piece ∈ pending, piece.OneLine) (line : Nat) :
    Worded (takeRows line pending) := by
  induction pending generalizing line with
  | nil => exact .of_ok (oneLined_nil line)
  | cons piece rest ih =>
    simp only [List.mem_cons, forall_eq_or_imp] at h
    obtain ⟨first, others⟩ := h
    unfold takeRows
    split
    · next broken =>
      exact .of_error (ReadError.oneLine_io ((Piece.oneLine_iff_of_error broken).1 first)) others
    · split
      · exact .of_ok others
      · split
        · next refused => exact .of_error (ReadError.oneLine_of_parseRow refused) others
        · exact (ih others (line + 1)).map _

private theorem worded_takeHeader (h : ∀ piece ∈ pending, piece.OneLine) (line : Nat) :
    Worded (takeHeader line pending) ∧
      ∀ header, (takeHeader line pending).1 = .ok header → '\n' ∉ header.toList := by
  induction pending generalizing line with
  | nil => exact ⟨.of_error (ReadError.oneLine_grid line .empty) (oneLined_nil line), nofun⟩
  | cons piece rest ih =>
    simp only [List.mem_cons, forall_eq_or_imp] at h
    obtain ⟨first, others⟩ := h
    unfold takeHeader
    split
    · next broken =>
      have message := (Piece.oneLine_iff_of_error broken).1 first
      exact ⟨.of_error (ReadError.oneLine_io message) others, nofun⟩
    · next whole =>
      split
      · exact ih others (line + 1)
      · refine ⟨.of_ok others, ?_⟩
        rintro _ ⟨⟩
        exact (Piece.oneLine_iff_of_ok whole).1 first

private theorem worded_takeBody (h : ∀ piece ∈ pending, piece.OneLine) (height width found line : Nat) :
    Worded (takeBody height width found line pending) := by
  induction pending generalizing found line with
  | nil =>
    unfold takeBody
    split
    · exact .of_error (ReadError.oneLine_truncated height found) (oneLined_nil line)
    · exact .of_ok (oneLined_nil line)
  | cons piece rest ih =>
    have all := h
    simp only [List.mem_cons, forall_eq_or_imp] at h
    obtain ⟨first, others⟩ := h
    unfold takeBody
    split
    · split
      · next broken =>
        exact .of_error (ReadError.oneLine_io ((Piece.oneLine_iff_of_error broken).1 first)) others
      · split
        · exact .of_error (ReadError.oneLine_truncated height found) others
        · split
          · next refused => exact .of_error (ReadError.oneLine_of_parseRow refused) others
          · split
            · exact (ih others (found + 1) (line + 1)).map _
            · exact .of_error (ReadError.oneLine_grid _ _) others
    · -- The grid was complete before this piece, which is left.
      exact .of_ok all

private theorem worded_assemble (first : Nat) (rows : List (List Cell)) (h : reader.OneLined) :
    Worded (assemble first rows reader) := by
  unfold assemble
  split
  · exact .of_ok h
  · exact .of_error (ReadError.oneLine_grid _ _) h
  · exact .of_error (ReadError.oneLine_grid _ _) h

private theorem worded_readBody {header : String} (quoted : '\n' ∉ header.toList) (h : reader.OneLined) :
    Worded (readBody header reader) := by
  unfold readBody
  split
  · exact .of_error (ReadError.oneLine_badHeader _ (newline_notMem_trim quoted)) h
  · split
    · exact .of_error (ReadError.oneLine_grid _ _) h
    · exact (worded_takeBody h _ _ _ _).proceed fun rows after _ left => worded_assemble _ rows left

/-- One read words its error in one line, and leaves what was left in lines. -/
theorem worded_read (layout : Layout) (h : reader.OneLined) : Worded (reader.read layout) := by
  cases layout with
  | plain =>
    have rows := worded_takeRows h reader.line
    rw [read, readPlain_eq_proceed]
    exact rows.proceed fun rows after _ left => worded_assemble _ rows left
  | sized =>
    obtain ⟨header, quoted⟩ := worded_takeHeader h reader.line
    rw [read, readSized_eq_proceed]
    exact header.proceed fun text after taken left => worded_readBody (quoted text taken) left

end Steps

theorem oneLine_of_mem_readAll {reader : Reader} (h : reader.OneLined) (layouts : List Layout) :
    ∀ e, .error e ∈ (readAll layouts reader).1 → e.OneLine := by
  induction layouts generalizing reader with
  | nil => exact nofun
  | cons layout layouts ih =>
    have first := worded_read layout h
    intro e member
    rw [readAll_cons] at member
    rcases List.mem_cons.1 member with same | later
    · exact first.error e same.symm
    · exact ih first.left e later

end Reader

section Streams

/-- Whether every fault that arrives has a message of one line, as those of a system have. -/
def Plainspoken (stream : List Arrival) : Prop :=
  ∀ fault, .fault fault ∈ stream → '\n' ∉ fault.message.toList

/-- Whether the newline of a line stands at its end, and the message of a fault is one line. -/
def Piece.Cut : Piece → Prop
  | line bytes => newline ∉ bytes.dropLast
  | broken _ fault => '\n' ∉ fault.message.toList

private theorem Piece.cut_prepend {value : UInt8} (different : value ≠ newline) {rest : List Piece}
    (h : ∀ piece ∈ rest, piece.Cut) : ∀ piece ∈ prepend value rest, piece.Cut := by
  cases rest with
  | nil => simp [prepend, Cut]
  | cons piece rest =>
    simp only [List.mem_cons, forall_eq_or_imp] at h
    cases piece with
    | line bytes =>
      simp only [prepend, List.mem_cons, forall_eq_or_imp]
      refine ⟨?_, h.2⟩
      cases bytes with
      | nil => simp [Cut]
      | cons first bytes => simpa [Cut, different.symm] using h.1
    | broken bytes fault => simpa [prepend, Cut] using h

private theorem cut_pieces {stream : List Arrival} (h : Plainspoken stream) :
    ∀ piece ∈ pieces stream, piece.Cut := by
  induction stream with
  | nil => exact nofun
  | cons arrival stream ih =>
    have rest := ih fun fault member => h fault (List.mem_cons_of_mem _ member)
    have attached : pieces (arrival :: stream) = Piece.attach arrival (pieces stream) := rfl
    rw [attached]
    cases arrival with
    | byte value =>
      rw [Piece.attach]
      split
      · simp only [List.mem_cons, forall_eq_or_imp]
        exact ⟨by simp [Piece.Cut], rest⟩
      · next different => exact Piece.cut_prepend different rest
    | fault fault =>
      rw [Piece.attach]
      split
      · exact rest
      · simp only [List.mem_cons, forall_eq_or_imp]
        exact ⟨h fault List.mem_cons_self, rest⟩

private theorem newline_mem_dropLast {text : String} (h : '\n' ∈ (Piece.withoutLineEnd text).toList) :
    '\n' ∈ text.toList.dropLast := by
  rw [Piece.withoutLineEnd, String.toList_ofList, List.mem_reverse] at h
  obtain none | ⟨front, last, split⟩ := text.toList.eq_nil_or_concat'
  · simp [none] at h
  · rw [split, List.reverse_append, List.reverse_singleton, List.singleton_append,
      List.dropWhile_cons] at h
    rw [split, List.dropLast_concat]
    split at h
    · exact List.mem_reverse.1 ((List.dropWhile_sublist _).subset h)
    · next visible =>
      rcases List.mem_cons.1 h with rfl | member
      · exact absurd (by decide) visible
      · exact List.mem_reverse.1 member

private theorem newline_mem_dropLast_bytes {text : String} (h : '\n' ∈ text.toList.dropLast) :
    Piece.newline ∈ (bytes text).dropLast := by
  obtain none | ⟨front, last, split⟩ := text.toList.eq_nil_or_concat'
  · simp [none] at h
  · rw [split, List.dropLast_concat] at h
    rw [bytes_eq_flatMap, split, List.flatMap_append, List.flatMap_singleton,
      List.dropLast_append_of_ne_nil String.utf8EncodeChar_ne_nil]
    exact List.mem_append_left _ (List.mem_flatMap.2 ⟨'\n', h, by decide⟩)

private theorem Piece.Cut.oneLine {piece : Piece} (h : piece.Cut) : piece.OneLine := by
  cases piece with
  | broken bytes fault => exact h
  | line encoded =>
    cases decoded : decode? encoded with
    | none =>
      have answer : (line encoded).text = .error .notText := by simp [text, decoded]
      exact (oneLine_iff_of_error answer).2 (by decide)
    | some text =>
      have answer : (line encoded).text = .ok (withoutLineEnd text) := by simp [Piece.text, decoded]
      rw [oneLine_iff_of_ok answer]
      intro member
      have found := newline_mem_dropLast_bytes (newline_mem_dropLast member)
      rw [← eq_bytes_of_decode? decoded] at found
      exact h found

theorem Reader.oneLined_ofStream {stream : List Arrival} (h : Plainspoken stream) :
    (ofStream stream).OneLined := fun piece member =>
  (cut_pieces h piece member).oneLine

end Streams

end GameOfLife
