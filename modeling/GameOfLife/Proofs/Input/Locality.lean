import GameOfLife.Proofs.Input.Pieces

/-!
What a read depends on. Lines that were read before show only in the line numbers of errors, which they
raise by their count. Of the pieces in front of it a read either is done with some of them, whatever
follows, or it takes them all and asks for more; then it fails with the fault of the next piece, if that
is faulty, and has counted those that are text.
-/

set_option autoImplicit false
set_option relaxedAutoImplicit false

namespace GameOfLife

def ReadError.later (n : Nat) : ReadError → ReadError
  | io fault => io fault
  | invalidToken line token => invalidToken (line + n) token
  | notBinary line value => notBinary (line + n) value
  | grid line cause => grid (line + n) cause
  | badHeader line text => badHeader (line + n) text
  | truncated expected found => truncated expected found

namespace Reader

/-- Goes on with the reader that an answer leaves, unless the answer is an error. -/
def proceed {α β : Type} (answer : Answer α) (next : α → Reader → Answer β) : Answer β :=
  match answer with
  | (.error e, after) => (.error e, after)
  | (.ok a, after) => next a after

def readBody (header : String) (start : Reader) : Answer Grid :=
  match headerSize? header with
  | none => (.error (.badHeader start.line (Text.trim header)), start)
  | some (height, width) =>
    if height = 0 ∨ width = 0 then (.error (.grid start.line .empty), start)
    else proceed (takeBody height width 0 start.line start.pending) (assemble (start.line + 1))

theorem readPlain_eq_proceed (reader : Reader) :
    readPlain reader =
      proceed (takeRows reader.line reader.pending) (assemble (reader.line + 1)) := by
  unfold readPlain
  obtain ⟨result, after⟩ := takeRows reader.line reader.pending
  cases result <;> rfl

theorem readSized_eq_proceed (reader : Reader) :
    readSized reader = proceed (takeHeader reader.line reader.pending) readBody := by
  unfold readSized
  obtain ⟨result, start⟩ := takeHeader reader.line reader.pending
  cases result with
  | error e => rfl
  | ok header =>
    simp only [proceed, readBody]
    cases headerSize? header with
    | none => rfl
    | some size =>
      obtain ⟨height, width⟩ := size
      dsimp only
      generalize takeBody height width 0 start.line start.pending = answer
      obtain ⟨result, after⟩ := answer
      cases result <;> rfl

section Renumbering

variable {α β : Type} (n : Nat)

def later (reader : Reader) : Reader :=
  ⟨reader.pending, reader.line + n⟩

def laterAnswer (answer : Answer α) : Answer α :=
  (answer.1.mapError (.later n), answer.2.later n)

private theorem parseCell_later (line : Nat) (word : String) :
    parseCell (line + n) word = (parseCell line word).mapError (.later n) := by
  unfold parseCell
  cases Text.integer? word with
  | none => rfl
  | some value => cases h : Cell.ofInt? value <;> simp [h, Except.mapError, ReadError.later]

theorem parseRow_later (text : String) (line : Nat) :
    parseRow text (line + n) = (parseRow text line).mapError (.later n) := by
  unfold parseRow
  induction Text.words text with
  | nil => rfl
  | cons word words ih =>
    rw [List.mapM_cons, List.mapM_cons, parseCell_later, ih]
    cases parseCell line word with
    | error e => rfl
    | ok cell => cases words.mapM (parseCell line) <;> rfl

private theorem takeRows_later (line : Nat) (pending : List Piece) :
    takeRows (line + n) pending = laterAnswer n (takeRows line pending) := by
  induction pending generalizing line with
  | nil => rfl
  | cons piece rest ih =>
    have next : line + n + 1 = line + 1 + n := by omega
    unfold takeRows
    cases piece.text with
    | error fault => rfl
    | ok text =>
      simp only [next, parseRow_later n text (line + 1), ih]
      split
      · rfl
      · cases parseRow text (line + 1) with
        | error e => rfl
        | ok row =>
          simp only [Except.mapError, laterAnswer]
          cases (takeRows (line + 1) rest).1 <;> rfl

private theorem takeHeader_later (line : Nat) (pending : List Piece) :
    takeHeader (line + n) pending = laterAnswer n (takeHeader line pending) := by
  induction pending generalizing line with
  | nil => rfl
  | cons piece rest ih =>
    have next : line + n + 1 = line + 1 + n := by omega
    unfold takeHeader
    cases piece.text with
    | error fault => rfl
    | ok text =>
      simp only [next, ih]
      split <;> rfl

private theorem takeBody_later (height width found line : Nat) (pending : List Piece) :
    takeBody height width found (line + n) pending =
      laterAnswer n (takeBody height width found line pending) := by
  induction pending generalizing found line with
  | nil =>
    unfold takeBody
    split <;> rfl
  | cons piece rest ih =>
    have next : line + n + 1 = line + 1 + n := by omega
    unfold takeBody
    split
    · cases piece.text with
      | error fault => rfl
      | ok text =>
        simp only [next, parseRow_later n text (line + 1), ih]
        split
        · rfl
        · cases parseRow text (line + 1) with
          | error e => rfl
          | ok row =>
            simp only [Except.mapError, laterAnswer]
            split
            · cases (takeBody height width (found + 1) (line + 1) rest).1 <;> rfl
            · rfl
    · rfl

private theorem assemble_later (first : Nat) (rows : List (List Cell)) (reader : Reader) :
    assemble (first + n) rows (reader.later n) = laterAnswer n (assemble first rows reader) := by
  unfold assemble
  cases Grid.ofRows rows with
  | ok g => rfl
  | error cause =>
    cases cause with
    | empty => rfl
    | ragged row expected found =>
      simp only [laterAnswer, Except.mapError, ReadError.later, Nat.add_right_comm first n row]

private theorem proceed_later {answer : Answer α} {next next' : α → Reader → Answer β}
    (h : ∀ a after, next' a (after.later n) = laterAnswer n (next a after)) :
    proceed (laterAnswer n answer) next' = laterAnswer n (proceed answer next) := by
  obtain ⟨result, after⟩ := answer
  cases result with
  | error e => rfl
  | ok a => exact h a after

private theorem readBody_later (header : String) (start : Reader) :
    readBody header (start.later n) = laterAnswer n (readBody header start) := by
  unfold readBody
  cases headerSize? header with
  | none => rfl
  | some size =>
    obtain ⟨height, width⟩ := size
    simp only []
    split
    · rfl
    · simp only [later, takeBody_later, Nat.add_right_comm start.line n 1]
      exact proceed_later n (assemble_later n (start.line + 1))

private theorem read_later (layout : Layout) (reader : Reader) :
    read layout (reader.later n) = laterAnswer n (read layout reader) := by
  cases layout with
  | plain =>
    simp only [read, readPlain_eq_proceed, later, takeRows_later,
      Nat.add_right_comm reader.line n 1]
    exact proceed_later n (assemble_later n (reader.line + 1))
  | sized =>
    simp only [read, readSized_eq_proceed, later, takeHeader_later]
    exact proceed_later n (readBody_later n)

theorem readAll_later (layouts : List Layout) (reader : Reader) :
    readAll layouts (reader.later n) =
      ((readAll layouts reader).1.map (Except.mapError (.later n)),
        (readAll layouts reader).2.later n) := by
  induction layouts generalizing reader with
  | nil => rfl
  | cons layout layouts ih =>
    simp only [readAll_cons, read_later, laterAnswer, ih, List.map_cons]

end Renumbering

/-- How many pieces are text, and so count as lines once they are taken. -/
def texts (pieces : List Piece) : Nat :=
  pieces.countP fun piece => piece.text.isOk

def followedBy (reader : Reader) (rest : List Piece) : Reader :=
  ⟨reader.pending ++ rest, reader.line⟩

/-- How far a way to take pieces gets on a reader. It may be decided by the pieces that it takes, and
then it leaves whatever follows them; all that it took and that was text is counted. Or it takes all
there are and asks for one more, and then the end of the input decides it, or else the next piece, with
whose fault it fails if that is faulty. -/
inductive Reach {α : Type} (take : Reader → Answer α) (reader : Reader) : Prop
  | within (result : Except ReadError α) (taken left : List Piece) : reader.pending = taken ++ left →
      (∀ rest, take ⟨taken ++ rest, reader.line⟩ = (result, ⟨rest, reader.line + texts taken⟩)) →
      Reach take reader
  | beyond (result : Except ReadError α) :
      take reader = (result, ⟨[], reader.line + texts reader.pending⟩) →
      (∀ piece fault rest, piece.text = .error fault →
        take (reader.followedBy (piece :: rest)) =
          (.error (.io fault), ⟨rest, reader.line + texts reader.pending⟩)) → Reach take reader

section Reach

variable {α β : Type}

theorem texts_append (a b : List Piece) : texts (a ++ b) = texts a + texts b :=
  List.countP_append

private theorem texts_cons_of_ok {piece : Piece} {text : String} (h : piece.text = .ok text)
    (rest : List Piece) : texts (piece :: rest) = texts rest + 1 := by
  simp [texts, h, Except.isOk, Except.toBool]

private theorem texts_cons_of_error {piece : Piece} {fault : Fault} (h : piece.text = .error fault)
    (rest : List Piece) : texts (piece :: rest) = texts rest := by
  simp [texts, h, Except.isOk, Except.toBool]

private theorem Reach.proceed {take : Reader → Answer α} {reader : Reader} (h : Reach take reader)
    {next : α → Reader → Answer β} (others : ∀ a left, Reach (next a) left) :
    Reach (fun reader => Reader.proceed (take reader) next) reader := by
  obtain ⟨pending, line⟩ := reader
  cases h with
  | within result taken left split same =>
    obtain rfl : pending = taken ++ left := split
    dsimp only at same
    cases result with
    | error e =>
      refine .within (.error e) taken left rfl ?_
      intro rest
      simp only [same, Reader.proceed]
    | ok a =>
      cases others a ⟨left, line + texts taken⟩ with
      | within result taken' left' split' same' =>
        obtain rfl : left = taken' ++ left' := split'
        refine .within result (taken ++ taken') left' (List.append_assoc ..).symm ?_
        intro rest
        simp only [List.append_assoc, same, Reader.proceed, same', texts_append, Nat.add_assoc]
      | beyond result atEnd fails =>
        refine .beyond result ?_ ?_
        · simp only [same, Reader.proceed, atEnd, texts_append, Nat.add_assoc]
        · intro piece fault rest answer
          have others := fails piece fault rest answer
          simp only [followedBy] at others
          simp only [followedBy, List.append_assoc, same, Reader.proceed, others, texts_append,
            Nat.add_assoc]
  | beyond result atEnd fails =>
    have failing : ∀ piece fault rest, Piece.text piece = .error fault →
        Reader.proceed (take (followedBy ⟨pending, line⟩ (piece :: rest))) next =
          (.error (.io fault), ⟨rest, line + texts pending⟩) := by
      intro piece fault rest answer
      simp only [fails piece fault rest answer, Reader.proceed]
    cases result with
    | error e => exact .beyond (.error e) (by simp only [atEnd, Reader.proceed]) failing
    | ok a =>
      -- Nothing is left for what comes next, so the end decides it in either case.
      cases others a ⟨[], line + texts pending⟩ with
      | within result taken left split same =>
        obtain ⟨rfl, rfl⟩ := List.append_eq_nil_iff.1 split.symm
        refine .beyond result ?_ failing
        simp only [atEnd, Reader.proceed]
        exact same []
      | beyond result atEnd' _ =>
        refine .beyond result ?_ failing
        simp only [atEnd, Reader.proceed]
        exact atEnd'

private theorem Reach.congr {take take' : Reader → Answer α} {reader : Reader} (h : Reach take reader)
    (same : ∀ pending, take' ⟨pending, reader.line⟩ = take ⟨pending, reader.line⟩) :
    Reach take' reader := by
  cases h with
  | within result taken left split done =>
    exact .within result taken left split fun rest => (same _).trans (done rest)
  | beyond result atEnd fails =>
    exact .beyond result ((same _).trans atEnd) fun piece fault rest answer =>
      (same _).trans (fails piece fault rest answer)

section Piece

variable {take : Reader → Answer α} {piece : Piece} {front : List Piece} {line : Nat}

private theorem Reach.nil (result : Except ReadError α) (atEnd : take ⟨[], line⟩ = (result, ⟨[], line⟩))
    (h : ∀ piece fault rest, piece.text = .error fault →
      take ⟨piece :: rest, line⟩ = (.error (.io fault), ⟨rest, line⟩)) : Reach take ⟨[], line⟩ :=
  .beyond result atEnd h

private theorem Reach.fails {fault : Fault} (answer : piece.text = .error fault)
    (h : ∀ pending, take ⟨piece :: pending, line⟩ = (.error (.io fault), ⟨pending, line⟩)) :
    Reach take ⟨piece :: front, line⟩ := by
  refine .within (.error (.io fault)) [piece] front rfl fun rest => ?_
  rw [texts_cons_of_error answer]
  exact h rest

private theorem Reach.stops {text : String} (result : Except ReadError α) (answer : piece.text = .ok text)
    (h : ∀ pending, take ⟨piece :: pending, line⟩ = (result, ⟨pending, line + 1⟩)) :
    Reach take ⟨piece :: front, line⟩ := by
  refine .within result [piece] front rfl fun rest => ?_
  rw [texts_cons_of_ok answer]
  exact h rest

private theorem Reach.goesOn {text : String} {others : Reader → Answer β}
    (add : Except ReadError β → Except ReadError α) (answer : piece.text = .ok text)
    (same : ∀ e, add (.error e) = .error e)
    (h : ∀ pending, take ⟨piece :: pending, line⟩ =
      (add (others ⟨pending, line + 1⟩).1, (others ⟨pending, line + 1⟩).2))
    (reach : Reach others ⟨front, line + 1⟩) : Reach take ⟨piece :: front, line⟩ := by
  have counted : ∀ pieces, line + 1 + texts pieces = line + texts (piece :: pieces) := by
    intro pieces
    rw [texts_cons_of_ok answer]
    omega
  cases reach with
  | within result taken left split done =>
    refine .within (add result) (piece :: taken) left (congrArg _ split) ?_
    intro rest
    rw [List.cons_append, h, done, counted]
  | beyond result atEnd beyond =>
    refine .beyond (add result) ?_ ?_
    · rw [h, atEnd, counted]
    · intro faulty fault rest broken
      have step := beyond faulty fault rest broken
      simp only [followedBy] at step
      simp only [followedBy, List.cons_append, h, step, same, counted]

end Piece

theorem reach_takeRows (line : Nat) (front : List Piece) :
    Reach (fun reader => takeRows reader.line reader.pending) ⟨front, line⟩ := by
  induction front generalizing line with
  | nil =>
    refine .nil (.ok []) rfl ?_
    intro piece fault rest answer
    simp [takeRows, answer]
  | cons piece front ih =>
    cases answer : piece.text with
    | error fault => exact .fails answer fun pending => by simp [takeRows, answer]
    | ok text =>
      by_cases blank : Text.allBlank text = true
      · exact .stops (.ok []) answer fun pending => by simp [takeRows, answer, blank]
      · cases parsed : parseRow text (line + 1) with
        | error e =>
          exact .stops (.error e) answer fun pending => by simp [takeRows, answer, blank, parsed]
        | ok row =>
          exact .goesOn (Except.map (row :: ·)) answer (fun _ => rfl)
            (fun pending => by simp [takeRows, answer, blank, parsed]) (ih (line + 1))

theorem reach_takeHeader (line : Nat) (front : List Piece) :
    Reach (fun reader => takeHeader reader.line reader.pending) ⟨front, line⟩ := by
  induction front generalizing line with
  | nil =>
    refine .nil (.error (.grid line .empty)) rfl ?_
    intro piece fault rest answer
    simp [takeHeader, answer]
  | cons piece front ih =>
    cases answer : piece.text with
    | error fault => exact .fails answer fun pending => by simp [takeHeader, answer]
    | ok text =>
      by_cases blank : Text.allBlank text = true
      · exact .goesOn id answer (fun _ => rfl)
          (fun pending => by simp [takeHeader, answer, blank]) (ih (line + 1))
      · exact .stops (.ok text) answer fun pending => by simp [takeHeader, answer, blank]

private theorem reach_takeBody (height width found line : Nat) (front : List Piece) :
    Reach (fun reader => takeBody height width found reader.line reader.pending) ⟨front, line⟩ := by
  induction front generalizing found line with
  | nil =>
    by_cases room : found < height
    · refine .nil (.error (.truncated height found)) (by simp [takeBody, room]) ?_
      intro piece fault rest answer
      simp [takeBody, answer, room]
    · refine .within (.ok []) [] [] rfl ?_
      intro rest
      cases rest <;> simp [takeBody, room, texts]
  | cons piece front ih =>
    by_cases room : found < height
    · cases answer : piece.text with
      | error fault => exact .fails answer fun pending => by simp [takeBody, answer, room]
      | ok text =>
        by_cases blank : Text.allBlank text = true
        · exact .stops (.error (.truncated height found)) answer fun pending => by
            simp [takeBody, answer, room, blank]
        · cases parsed : parseRow text (line + 1) with
          | error e =>
            exact .stops (.error e) answer fun pending => by
              simp [takeBody, answer, room, blank, parsed]
          | ok row =>
            by_cases same : row.length = width
            · exact .goesOn (Except.map (row :: ·)) answer (fun _ => rfl)
                (fun pending => by simp [takeBody, answer, room, blank, parsed, same])
                (ih (found + 1) (line + 1))
            · exact .stops (.error (.grid (line + 1) (.ragged found width row.length))) answer
                fun pending => by simp [takeBody, answer, room, blank, parsed, same]
    · -- All rows are there, so nothing is asked for.
      refine .within (.ok []) [] (piece :: front) rfl ?_
      intro rest
      cases rest <;> simp [takeBody, room, texts]

private theorem reach_of_counted {take : Reader → Answer α} {reader : Reader} (result : Except ReadError α)
    (h : ∀ pending, take ⟨pending, reader.line⟩ = (result, ⟨pending, reader.line⟩)) :
    Reach take reader :=
  .within result [] reader.pending rfl h

theorem reach_assemble (first : Nat) (rows : List (List Cell)) (reader : Reader) :
    Reach (assemble first rows) reader := by
  refine reach_of_counted (assemble first rows reader).1 ?_
  intro pending
  unfold assemble
  cases Grid.ofRows rows with
  | ok g => rfl
  | error cause => cases cause <;> rfl

theorem reach_readBody (header : String) (start : Reader) : Reach (readBody header) start := by
  cases announced : headerSize? header with
  | none =>
    refine reach_of_counted (.error (.badHeader start.line (Text.trim header))) ?_
    intro pending
    simp [readBody, announced]
  | some size =>
    obtain ⟨height, width⟩ := size
    by_cases none : height = 0 ∨ width = 0
    · refine reach_of_counted (.error (.grid start.line .empty)) ?_
      intro pending
      simp [readBody, announced, none]
    · refine ((reach_takeBody height width 0 start.line start.pending).proceed
        (reach_assemble (start.line + 1))).congr ?_
      intro pending
      simp only [readBody, announced, none, if_false]

theorem reach_read (layout : Layout) (reader : Reader) : Reach (read layout) reader := by
  cases layout with
  | plain =>
    exact ((reach_takeRows reader.line reader.pending).proceed
      (reach_assemble (reader.line + 1))).congr fun _ => readPlain_eq_proceed _
  | sized =>
    exact ((reach_takeHeader reader.line reader.pending).proceed reach_readBody).congr
      fun _ => readSized_eq_proceed _

end Reach

section Run

/-- Reads that have the same results and leave the same of the pieces in front, whatever follows these. -/
def Confined (layouts : List Layout) (front : Reader) (results : List (Except ReadError Grid))
    (left : Reader) : Prop :=
  ∀ rest, readAll layouts (front.followedBy rest) = (results, left.followedBy rest)

/-- A read that takes one piece more than those in front, and has counted `line` lines by then. -/
def Exposed (layout : Layout) (front : Reader) (line : Nat) : Prop :=
  ∀ piece fault rest, Piece.text piece = .error fault →
    read layout (front.followedBy (piece :: rest)) = (.error (.io fault), ⟨rest, line⟩)

/-- Whether reads ask for no line behind the pieces in front: whatever follows these, nothing of it is
taken. -/
def StayWithin (layouts : List Layout) (front : Reader) : Prop :=
  ∀ rest, ∃ left, (readAll layouts (front.followedBy rest)).2.pending = left ++ rest

theorem Confined.stayWithin {layouts : List Layout} {front left : Reader}
    {results : List (Except ReadError Grid)} (h : Confined layouts front results left) :
    StayWithin layouts front := by
  intro rest
  rw [h]
  exact ⟨left.pending, rfl⟩

theorem Exposed.not_stayWithin {before : List Layout} {layout : Layout} {front left : Reader}
    {results : List (Except ReadError Grid)} {line : Nat} (h : Exposed layout left line)
    (confined : Confined before front results left) : ¬ StayWithin (before ++ [layout]) front := by
  intro stay
  -- A fault at the very end would have to be left, but it is taken.
  obtain ⟨more, kept⟩ := stay [.broken [] .notText]
  rw [readAll_append, confined, readAll_cons, h _ _ _ rfl] at kept
  simp [readAll] at kept

/-- Either a run of reads does not get beyond the pieces in front, or one of its reads is the first that
does. -/
theorem confined_or_exposed (layouts : List Layout) (front : Reader) :
    (∃ results left, Confined layouts front results left) ∨
    ∃ before layout after results left, layouts = before ++ layout :: after ∧
      Confined before front results left ∧
      Exposed layout left (front.line + texts front.pending) := by
  induction layouts generalizing front with
  | nil => exact .inl ⟨[], front, fun rest => rfl⟩
  | cons layout layouts ih =>
    cases reach_read layout front with
    | beyond _ _ fails => exact .inr ⟨[], layout, layouts, [], front, rfl, fun rest => rfl, fails⟩
    | within result taken left split same =>
      obtain ⟨pending, line⟩ := front
      obtain rfl : pending = taken ++ left := split
      have first : ∀ {others results last}, Confined others ⟨left, line + texts taken⟩ results last →
          Confined (layout :: others) ⟨taken ++ left, line⟩ (result :: results) last := by
        intro others results last confined rest
        rw [followedBy, List.append_assoc, readAll_cons, same]
        exact congrArg (fun run => (result :: run.1, run.2)) (confined rest)
      rcases ih ⟨left, line + texts taken⟩ with ⟨results, last, confined⟩ |
        ⟨before, next, after, results, last, split, confined, exposed⟩
      · exact .inl ⟨result :: results, last, first confined⟩
      · rw [Nat.add_assoc, ← texts_append] at exposed
        exact .inr ⟨layout :: before, next, after, result :: results, last, congrArg _ split,
          first confined, exposed⟩

theorem readAll_of_exposed {before after : List Layout} {layout : Layout} {front left : Reader}
    {results : List (Except ReadError Grid)} {line : Nat} {piece : Piece} {fault : Fault}
    (confined : Confined before front results left) (exposed : Exposed layout left line)
    (answer : piece.text = .error fault) (rest : List Piece) :
    (readAll (before ++ layout :: after) (front.followedBy (piece :: rest))).1 =
      results ++ .error (.io fault) ::
        (readAll after ⟨rest, 0⟩).1.map (Except.mapError (.later line)) := by
  have fresh := readAll_later line after ⟨rest, 0⟩
  rw [later, Nat.zero_add] at fresh
  rw [readAll_append, confined, readAll_cons, exposed piece fault rest answer, fresh]

end Run

end Reader

end GameOfLife
