import GameOfLife.Proofs.Input.Lines
import GameOfLife.Proofs.Input.Locality

/-!
Faults in the input. What stands in front of a fault are the terminated lines of some data and an open
tail. The reads that ask for no line behind the terminated lines know nothing of the fault, the first one
that does fails with it and loses the tail, and those after it read what follows as if nothing else had
ever been there, except that they count from the lines of text in front.
-/

set_option autoImplicit false
set_option relaxedAutoImplicit false

namespace GameOfLife

open Piece (newline)

section Data

/-- The lines of some data that end in a newline, each with it. -/
def terminatedLines (data : List UInt8) : List (List UInt8) :=
  (data.splitOn newline).dropLast.map (· ++ [newline])

def openTail (data : List UInt8) : List UInt8 :=
  (data.splitOn newline).getLastD []

/-- How many of the terminated lines are text. -/
def textLines (data : List UInt8) : Nat :=
  (terminatedLines data).countP fun line => (Text.decode? line).isSome

def Reader.ofTerminated (data : List UInt8) : Reader :=
  ⟨(terminatedLines data).map .line, 0⟩

private theorem exists_splitOn (data : List UInt8) :
    ∃ first others, data.splitOn newline = first :: others :=
  List.exists_cons_of_ne_nil (List.splitOnP_ne_nil (· == newline) data)

private theorem cut_cons_newline (data : List UInt8) :
    terminatedLines (newline :: data) = [newline] :: terminatedLines data ∧
      openTail (newline :: data) = openTail data := by
  obtain ⟨first, others, split⟩ := exists_splitOn data
  have cut : (newline :: data).splitOn newline = [] :: first :: others := by
    rw [← split]
    simp [List.splitOn, List.splitOnP_cons_eq_if_modifyHead]
  simp [terminatedLines, openTail, cut, split]

private theorem cut_cons_of_ne {value : UInt8} (h : value ≠ newline) (data : List UInt8) :
    (terminatedLines data = [] ∧ terminatedLines (value :: data) = [] ∧
        openTail (value :: data) = value :: openTail data) ∨
      ∃ line lines, terminatedLines data = line :: lines ∧
        terminatedLines (value :: data) = (value :: line) :: lines ∧
        openTail (value :: data) = openTail data := by
  obtain ⟨first, others, split⟩ := exists_splitOn data
  have cut : (value :: data).splitOn newline = (value :: first) :: others := by
    simp only [List.splitOn] at split
    simp [List.splitOn, List.splitOnP_cons_eq_if_modifyHead, h, split]
  cases others with
  | nil => exact .inl (by simp [terminatedLines, openTail, cut, split])
  | cons second others => exact .inr (by simp [terminatedLines, openTail, cut, split])

theorem pieces_append (data : List UInt8) (stream : List Arrival) :
    pieces (data.map .byte ++ stream) =
      (terminatedLines data).map .line ++ (openTail data).foldr Piece.prepend (pieces stream) := by
  induction data with
  | nil => rfl
  | cons value data ih =>
    have attached : pieces ((value :: data).map .byte ++ stream) =
        Piece.attach (.byte value) (pieces (data.map .byte ++ stream)) := rfl
    rw [attached, ih, Piece.attach]
    split
    · next same =>
      rw [same, (cut_cons_newline data).1, (cut_cons_newline data).2]
      rfl
    · next different =>
      rcases cut_cons_of_ne different data with ⟨none, cut, tail⟩ | ⟨line, lines, some, cut, tail⟩
      · rw [none, cut, tail]
        rfl
      · rw [some, cut, tail]
        rfl

theorem foldr_prepend_broken (tail bytes : List UInt8) (fault : Fault) (rest : List Piece) :
    tail.foldr Piece.prepend (.broken bytes fault :: rest) = .broken (tail ++ bytes) fault :: rest := by
  induction tail with
  | nil => rfl
  | cons value tail ih => simp [ih, Piece.prepend]

theorem openTail_eq_nil {data : List UInt8} (h : data = [] ∨ data.getLast? = some newline) :
    openTail data = [] := by
  rcases h with rfl | ended
  · rfl
  · obtain ⟨front, rfl⟩ := List.getLast?_eq_some_iff.1 ended
    have cut : (front ++ [newline]).splitOn newline = front.splitOn newline ++ [[]] := by
      simpa [List.splitOn] using List.splitOnP_append_cons front [] (p := (· == newline)) (by simp)
    simp [openTail, cut]

theorem texts_terminatedLines (data : List UInt8) :
    Reader.texts ((terminatedLines data).map .line) = textLines data := by
  rw [Reader.texts, textLines, List.countP_map]
  congr 1
  funext line
  simp only [Function.comp_apply, Piece.text]
  cases Text.decode? line <;> rfl

end Data

/-- What can strike behind some data: a hard fault, wherever the data ends, or where a line begins a
terminated line that is no text. -/
inductive Strikes (data : List UInt8) : List Arrival → Fault → Prop
  | hard {fault : Fault} : fault.kind ≠ .interrupted → Strikes data [.fault fault] fault
  | notText {line : List UInt8} : data = [] ∨ data.getLast? = some newline → newline ∉ line →
      Text.decode? (line ++ [newline]) = none →
      Strikes data ((line ++ [newline]).map .byte) .notText

namespace Reader

def resultsOf (layouts : List Layout) (stream : List Arrival) : List (Except ReadError Grid) :=
  (readAll layouts (ofStream stream)).1

/-- How a fault is contained that arrives behind some data: reads that stay within the terminated lines
have the results they have whatever else follows the data. If there is a first read that does not, it
fails with the fault, and the results after it are those of a fresh reader over what arrives later, with
the lines of text in front added to their numbers. -/
def Contained (data : List UInt8) (arrivals : List Arrival) (fault : Fault) (later : List Arrival)
    (layouts : List Layout) : Prop :=
  (StayWithin layouts (ofTerminated data) ∧
    ∀ other, resultsOf layouts (data.map .byte ++ (arrivals ++ later)) =
      resultsOf layouts (data.map .byte ++ other)) ∨
  ∃ before layout after, layouts = before ++ layout :: after ∧
    StayWithin before (ofTerminated data) ∧
    ¬ StayWithin (before ++ [layout]) (ofTerminated data) ∧
    ∀ other, resultsOf layouts (data.map .byte ++ (arrivals ++ later)) =
      resultsOf before (data.map .byte ++ other) ++ .error (.io fault) ::
        (resultsOf after later).map (Except.mapError (.later (textLines data)))

theorem ofStream_append (data : List UInt8) (stream : List Arrival) :
    ofStream (data.map .byte ++ stream) =
      (ofTerminated data).followedBy ((openTail data).foldr Piece.prepend (pieces stream)) := by
  rw [ofStream, pieces_append, followedBy, ofTerminated]

/-- Whatever strikes is the next piece behind the terminated lines. -/
theorem exists_piece_of_strikes {data : List UInt8} {arrivals : List Arrival} {fault : Fault}
    (struck : Strikes data arrivals fault) :
    ∃ piece, Piece.text piece = .error fault ∧ ∀ later,
      ofStream (data.map .byte ++ (arrivals ++ later)) =
        (ofTerminated data).followedBy (piece :: pieces later) := by
  cases struck with
  | hard notInterrupted =>
    refine ⟨.broken (openTail data) fault, rfl, ?_⟩
    intro later
    have arrived : pieces ([.fault fault] ++ later) = .broken [] fault :: pieces later := by
      simp [pieces, Piece.attach, notInterrupted]
    rw [ofStream_append, arrived, foldr_prepend_broken, List.append_nil]
  | @notText line ended unbroken undecodable =>
    refine ⟨.line (line ++ [newline]), by simp [Piece.text, undecodable], ?_⟩
    intro later
    have arrived : pieces ((line ++ [newline]).map .byte ++ later) =
        .line (line ++ [newline]) :: pieces later := by
      rw [List.map_append, List.append_assoc]
      exact pieces_append_newline unbroken later
    rw [ofStream_append, arrived, openTail_eq_nil ended, List.foldr_nil]

/-- Whatever strikes behind some data is contained, in every run of reads and whatever arrives later. -/
theorem contained_of_strikes {data : List UInt8} {arrivals : List Arrival} {fault : Fault}
    (struck : Strikes data arrivals fault) (later : List Arrival) (layouts : List Layout) :
    Contained data arrivals fault later layouts := by
  obtain ⟨piece, answer, arrived⟩ := exists_piece_of_strikes struck
  have same : ∀ {reads results left}, Confined reads (ofTerminated data) results left →
      ∀ other, resultsOf reads (data.map .byte ++ other) = results := by
    intro reads results left confined other
    rw [resultsOf, ofStream_append, confined]
  rcases confined_or_exposed layouts (ofTerminated data) with ⟨results, left, confined⟩ |
    ⟨before, layout, after, results, left, split, confined, exposed⟩
  · refine .inl ⟨confined.stayWithin, ?_⟩
    intro other
    rw [same confined, same confined]
  · refine .inr ⟨before, layout, after, split, confined.stayWithin,
      exposed.not_stayWithin confined, ?_⟩
    intro other
    have counted : (ofTerminated data).line + texts (ofTerminated data).pending = textLines data := by
      rw [ofTerminated, texts_terminatedLines, Nat.zero_add]
    rw [counted] at exposed
    rw [same confined, split, resultsOf, arrived, readAll_of_exposed confined exposed answer]
    rfl

/-- Behind one state the input breaks off within a character, in the second of three reads. -/
theorem contained_broken_character :
    let data := Text.bytes "0 1\n\n1\n" ++ [0xC3]
    let fault : Fault := ⟨.named "BrokenPipe", "gone"⟩
    let later := (Text.bytes "0 x\n").map Arrival.byte
    let state := Grid.ofFn 2 1 (by decide) (by decide) fun _ col => if col = 0 then .dead else .alive
    Strikes data [.fault fault] fault ∧ textLines data = 3 ∧
      StayWithin [.plain] (ofTerminated data) ∧ ¬ StayWithin [.plain, .plain] (ofTerminated data) ∧
      resultsOf [.plain] later = [.error (.invalidToken 1 "x")] ∧
      resultsOf [.plain, .plain, .plain] (data.map .byte ++ ([.fault fault] ++ later)) =
        [.ok state, .error (.io fault), .error (.invalidToken 4 "x")] := by
  intro data fault later state
  have struck : Strikes data [.fault fault] fault := .hard (by decide)
  have fresh : resultsOf [.plain] later = [.error (.invalidToken 1 "x")] := by decide
  have results : resultsOf [.plain, .plain, .plain] (data.map .byte ++ ([.fault fault] ++ later)) =
      [.ok state, .error (.io fault), .error (.invalidToken 4 "x")] := by decide
  have parts : StayWithin [.plain] (ofTerminated data) ∧
      ¬ StayWithin [.plain, .plain] (ofTerminated data) := by
    rcases contained_of_strikes struck later [.plain, .plain, .plain] with
      ⟨-, same⟩ | ⟨before, layout, after, split, stay, beyond, cut⟩
    · exact absurd (results.symm.trans (same [])) (by decide)
    · have found := results.symm.trans (cut [])
      -- Of the three results only the second is the fault.
      match before, split with
      | [], split =>
        obtain ⟨rfl, rfl⟩ : .plain = layout ∧ [.plain, .plain] = after := by simpa using split
        exact absurd found (by decide)
      | [first], split =>
        obtain ⟨rfl, rfl, rfl⟩ : .plain = first ∧ .plain = layout ∧ [.plain] = after := by simpa using split
        exact ⟨stay, beyond⟩
      | [first, second], split =>
        obtain ⟨rfl, rfl, rfl, rfl⟩ : .plain = first ∧ .plain = second ∧ .plain = layout ∧ [] = after := by
          simpa using split
        exact absurd found (by decide)
      | _ :: _ :: _ :: _, split => simp at split
  exact ⟨struck, by decide, parts.1, parts.2, fresh, results⟩

end Reader

end GameOfLife
