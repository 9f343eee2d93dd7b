import GameOfLife.Proofs.Display
import GameOfLife.Proofs.Session.Listing

/-!
What a reader finds in the output of a run: the boards that are shown under a label, whatever their
style, the successor, the listings of differences and the verdicts. The lines of a board hold nothing but
cells, so none of them can be taken for another line.
-/

set_option autoImplicit false
set_option relaxedAutoImplicit false

namespace GameOfLife

open Text

section Readers

/-- The row that a line shows, if all that is visible on it are cells. -/
def shownRow? (line : String) : Option (List Cell) :=
  (words (visible line)).mapM Cell.ofWord?

/-- The rows with which lines begin, up to the first line that shows no cells. -/
def shownRows : List String → List (List Cell)
  | [] => []
  | line :: rest =>
    match shownRow? line with
    | some (cell :: row) => (cell :: row) :: shownRows rest
    | _ => []

def boardUnder (label output : String) : List (List Cell) :=
  shownRows (behind (label ++ ":") (printedLines output))

def isVerdict (line : String) : Bool :=
  line = "t1 is the next state of t0." || line = "t1 is not the next state of t0."

def isListing (line : String) : Bool :=
  beginsWith "differs at " line

def verdicts (output : String) : List String :=
  (printedLines output).filter isVerdict

def listings (output : String) : List String :=
  (printedLines output).filter isListing

/-- The text between the line that announces the successor and the listing or the verdict. -/
def successorText (output : String) : String :=
  unlines ((behind ("next(t0)" ++ ":") (printedLines output)).takeWhile
    fun line => !(isListing line || isVerdict line))

end Readers

section Rows

variable {style : Style} {row : List Cell}

private theorem visible_rowText : visible (style.rowText row) = rowText row := by
  have cells : visibleFrom false (style.rowText row).toList =
      row.flatMap fun cell => [cell.digit, ' '] := by
    unfold Style.rowText
    induction row with
    | nil => rfl
    | cons cell row ih =>
      rw [String.toList_join] at ih
      cases style <;> cases cell <;>
        simp [Style.cell, Cell.setColor, resetColor, Cell.digit, visibleFrom, ih]
  rw [visible, cells, rowText]

private theorem shownRow?_rowText : shownRow? (style.rowText row) = some row := by
  rw [shownRow?, visible_rowText, words_rowText]
  induction row with
  | nil => rfl
  | cons cell row ih =>
    rw [List.map_cons, List.mapM_cons, Cell.ofWord?_digit, ih]
    rfl

private theorem shownRows_append {rows : List (List Cell)} (h : ∀ row ∈ rows, row ≠ [])
    (rest : List String) :
    shownRows (rows.map style.rowText ++ rest) = rows ++ shownRows rest := by
  induction rows with
  | nil => rfl
  | cons row rows ih =>
    simp only [List.mem_cons, forall_eq_or_imp] at h
    obtain ⟨cell, others, rfl⟩ := List.exists_cons_of_ne_nil h.1
    rw [List.map_cons, List.cons_append, shownRows, shownRow?_rowText, ih h.2]
    rfl

private theorem shownRows_of_none {line : String} (h : shownRow? line = none) (rest : List String) :
    shownRows (line :: rest) = [] := by
  rw [shownRows, h]

private theorem notMem_rowText {c : Char} (h : ∀ cell, c ∉ (style.cell cell).flatMap String.toList) :
    c ∉ (style.rowText row).toList := by
  rw [Style.rowText, String.toList_join, List.flatMap_assoc, List.mem_flatMap]
  rintro ⟨cell, -, member⟩
  exact h cell member

private theorem letter_notMem_rowText : 't' ∉ (style.rowText row).toList := by
  apply notMem_rowText
  intro cell
  cases style <;> cases cell <;> decide

private theorem newline_notMem_rowText : '\n' ∉ (style.rowText row).toList := by
  apply notMem_rowText
  intro cell
  cases style <;> cases cell <;> decide

end Rows

section Lines

variable {options : Options} {style : Style} {first second : Except ReadError Grid}

private theorem head?_questions {state : Role} :
    ∀ line ∈ options.questions state, line.toList.head? = some 'E' := by
  unfold Options.questions
  split
  · exact nofun
  · simp only [List.mem_cons, List.not_mem_nil, or_false, forall_eq_or_imp, forall_eq]
    constructor
    · rw [String.toList_append, String.toList_append]
      rfl
    · cases options.layout <;> rfl

private theorem newline_notMem_questions {state : Role} :
    ∀ line ∈ options.questions state, '\n' ∉ line.toList := by
  unfold Options.questions
  split
  · exact nofun
  · simp only [List.mem_cons, List.not_mem_nil, or_false, forall_eq_or_imp, forall_eq]
    constructor
    · cases state <;> decide
    · cases options.layout <;> decide

private theorem newline_notMem_labeledLines {label : String} (h : '\n' ∉ label.toList) (g : Grid) :
    ∀ line ∈ g.labeledLines style label, '\n' ∉ line.toList := by
  intro line member
  rcases List.mem_cons.1 member with rfl | member
  · simpa using h
  · obtain ⟨row, -, rfl⟩ := List.mem_map.1 member
    exact newline_notMem_rowText

private theorem newline_notMem_listingLines {places : List (Nat × Nat)} :
    ∀ line ∈ listingLines places, '\n' ∉ line.toList := by
  cases places with
  | nil => exact nofun
  | cons place places =>
    intro line member
    rw [List.mem_singleton.1 member]
    exact newline_notMem_listing (place :: places)

private theorem newline_notMem_verdictLine (isNext : Bool) : '\n' ∉ (verdictLine isNext).toList := by
  cases isNext <;> decide

private theorem newline_notMem_askedLines : ∀ line ∈ options.askedLines first, '\n' ∉ line.toList := by
  cases first with
  | error e => exact newline_notMem_questions
  | ok current =>
    intro line member
    exact (List.mem_append.1 member).elim (newline_notMem_questions line)
      (newline_notMem_questions line)

private theorem newline_notMem_answerLines {current target : Grid} :
    ∀ line ∈ answerLines options style current target, '\n' ∉ line.toList := by
  intro line member
  rcases List.mem_append.1 member with member | member
  · split at member
    · rcases List.mem_append.1 member with member | member
      · exact newline_notMem_labeledLines (by decide) _ line member
      · exact newline_notMem_listingLines line member
    · exact nomatch member
  · rw [List.mem_singleton.1 member]
    exact newline_notMem_verdictLine _

private theorem newline_notMem_shownLines :
    ∀ line ∈ shownLines options style first second, '\n' ∉ line.toList := by
  intro line member
  match first, second with
  | .error _, _ | .ok _, .error _ => exact nomatch member
  | .ok current, .ok target =>
    rcases List.mem_append.1 member with member | member
    · exact newline_notMem_labeledLines (by decide) _ line member
    · rcases List.mem_append.1 member with member | member
      · exact newline_notMem_labeledLines (by decide) _ line member
      · exact newline_notMem_answerLines line member

private theorem printedLines_told : printedLines (told options style first second) =
    options.askedLines first ++ shownLines options style first second := by
  apply printedLines_unlines
  intro line member
  exact (List.mem_append.1 member).elim (newline_notMem_askedLines line)
    (newline_notMem_shownLines line)

end Lines

section Marks

variable {options : Options} {style : Style} {first second : Except ReadError Grid}
  {row : List Cell} {line : String}

private theorem head?_askedLines : ∀ line ∈ options.askedLines first, line.toList.head? = some 'E' := by
  cases first with
  | error e => exact head?_questions
  | ok current =>
    intro line member
    exact (List.mem_append.1 member).elim (head?_questions line) (head?_questions line)

private theorem notMem_askedLines (h : line.toList.head? ≠ some 'E') : line ∉ options.askedLines first :=
  fun member => h (head?_askedLines line member)

private theorem notMem_labeledLines {label : String} {g : Grid} (letter : 't' ∈ line.toList)
    (other : line ≠ label ++ ":") : line ∉ g.labeledLines style label := by
  intro member
  rcases List.mem_cons.1 member with same | member
  · exact other same
  · obtain ⟨row, -, rfl⟩ := List.mem_map.1 member
    exact letter_notMem_rowText letter

private theorem letters_of_isVerdict (h : isVerdict line = true) :
    't' ∈ line.toList ∧ line.toList.head? = some 't' := by
  simp only [isVerdict, Bool.or_eq_true, decide_eq_true_eq] at h
  rcases h with rfl | rfl <;> decide

private theorem letters_of_isListing (h : isListing line = true) :
    't' ∈ line.toList ∧ line.toList.head? = some 'd' := by
  rw [isListing, beginsWith, List.isPrefixOf_iff_prefix] at h
  obtain ⟨rest, same⟩ := h
  rw [← same]
  exact ⟨List.mem_append_left rest (by decide), rfl⟩

private theorem isVerdict_verdictLine (isNext : Bool) : isVerdict (verdictLine isNext) = true := by
  cases isNext <;> decide

private theorem isListing_of_mem_listingLines {places : List (Nat × Nat)} :
    ∀ line ∈ listingLines places, isListing line = true := by
  cases places with
  | nil => exact nofun
  | cons place places =>
    intro line member
    rw [List.mem_singleton.1 member, isListing, beginsWith, List.isPrefixOf_iff_prefix,
      String.toList_append]
    exact List.prefix_append _ _

private theorem not_isVerdict_of_isListing (h : isListing line = true) : isVerdict line = false := by
  rw [← Bool.not_eq_true]
  intro verdict
  have same := (letters_of_isListing h).2.symm.trans (letters_of_isVerdict verdict).2
  exact absurd same (by decide)

private theorem not_isListing_of_isVerdict (h : isVerdict line = true) : isListing line = false := by
  rw [← Bool.not_eq_true]
  intro listing
  rw [not_isVerdict_of_isListing listing] at h
  exact nomatch h

private theorem isVerdict_rowText : isVerdict (style.rowText row) = false := by
  rw [← Bool.not_eq_true]
  exact fun h => letter_notMem_rowText (letters_of_isVerdict h).1

private theorem isListing_rowText : isListing (style.rowText row) = false := by
  rw [← Bool.not_eq_true]
  exact fun h => letter_notMem_rowText (letters_of_isListing h).1

private theorem filter_askedLines {found : String → Bool} {c : Char} (different : c ≠ 'E')
    (h : ∀ line, found line = true → line.toList.head? = some c) :
    (options.askedLines first).filter found = [] := by
  rw [List.filter_eq_nil_iff]
  intro line member present
  have same := (head?_askedLines line member).symm.trans (h line present)
  exact different (Option.some.inj same).symm

private theorem filter_labeledLines {found : String → Bool} {label : String} {g : Grid}
    (heading : found (label ++ ":") = false) (rows : ∀ row, found (style.rowText row) = false) :
    (g.labeledLines style label).filter found = [] := by
  rw [List.filter_eq_nil_iff]
  intro line member
  rcases List.mem_cons.1 member with rfl | member
  · simp [heading]
  · obtain ⟨row, -, rfl⟩ := List.mem_map.1 member
    simp [rows]

end Marks

section Found

variable {options : Options} {style : Style} {first second : Except ReadError Grid}
  {current target : Grid}

private theorem verdicts_answerLines : (answerLines options style current target).filter isVerdict =
    [verdictLine (check current target).isNext] := by
  have listing : (listingLines (check current target).mismatches).filter isVerdict = [] := by
    rw [List.filter_eq_nil_iff]
    intro line member
    simp [not_isVerdict_of_isListing (isListing_of_mem_listingLines line member)]
  have successor : (current.next.labeledLines style "next(t0)").filter isVerdict = [] :=
    filter_labeledLines (by decide) fun _ => isVerdict_rowText
  have before : (if options.showSuccessor = true ∧ (check current target).isNext = false then
      successorLines style current target else []).filter isVerdict = [] := by
    split
    · rw [successorLines, List.filter_append, successor, listing, List.nil_append]
    · rfl
  rw [answerLines, List.filter_append, before, List.nil_append, List.filter_cons,
    if_pos (isVerdict_verdictLine _), List.filter_nil]

/-- The one verdict of a run is the last line, and it is missing exactly if a read fails. -/
theorem verdicts_told : verdicts (told options style first second) =
    (answer? first second).toList.map verdictLine := by
  have asked : (options.askedLines first).filter isVerdict = [] :=
    filter_askedLines (by decide : 't' ≠ 'E') fun _ h => (letters_of_isVerdict h).2
  have board : ∀ (g : Grid) (label : String), isVerdict (label ++ ":") = false →
      (g.labeledLines style label).filter isVerdict = [] := fun g label heading =>
    filter_labeledLines heading fun _ => isVerdict_rowText
  rw [verdicts, printedLines_told, List.filter_append, asked, List.nil_append]
  match first, second with
  | .error _, _ | .ok _, .error _ => rfl
  | .ok current, .ok target =>
    rw [shownLines, List.filter_append, List.filter_append, board _ _ (by decide),
      board _ _ (by decide), verdicts_answerLines]
    rfl

private theorem listings_answerLines (shown : options.showSuccessor = true)
    (negative : (check current target).isNext = false) :
    (answerLines options style current target).filter isListing =
      listingLines (check current target).mismatches := by
  have successor : (current.next.labeledLines style "next(t0)").filter isListing = [] :=
    filter_labeledLines (by decide) fun _ => isListing_rowText
  have verdict := not_isListing_of_isVerdict (isVerdict_verdictLine (check current target).isNext)
  rw [answerLines, if_pos ⟨shown, negative⟩, successorLines, List.filter_append, List.filter_append,
    successor, List.nil_append, List.filter_eq_self.2 isListing_of_mem_listingLines]
  simp [verdict]

theorem listings_told (shown : options.showSuccessor = true)
    (negative : (check current target).isNext = false) :
    listings (told options style (.ok current) (.ok target)) =
      listingLines (check current target).mismatches := by
  have asked : (options.askedLines (.ok current)).filter isListing = [] :=
    filter_askedLines (by decide : 'd' ≠ 'E') fun _ h => (letters_of_isListing h).2
  have board : ∀ (g : Grid) (label : String), isListing (label ++ ":") = false →
      (g.labeledLines style label).filter isListing = [] := fun g label heading =>
    filter_labeledLines heading fun _ => isListing_rowText
  rw [listings, printedLines_told, List.filter_append, asked, List.nil_append, shownLines,
    List.filter_append, List.filter_append, board _ _ (by decide), board _ _ (by decide),
    listings_answerLines shown negative]
  rfl

private theorem Grid.rows_ne_nil {g : Grid} : ∀ row ∈ g.rows, row ≠ [] := by
  intro row member
  rw [← List.length_pos_iff, length_of_mem_rows member]
  exact g.width_pos

theorem boardUnder_current (options : Options) (style : Style) (current target : Grid) :
    boardUnder "t0" (told options style (.ok current) (.ok target)) = current.rows := by
  have heading : "t0" ++ ":" ∉ options.askedLines (.ok current) := notMem_askedLines (by decide)
  have next : shownRow? ("t1" ++ ":") = none := by decide +kernel
  rw [boardUnder, printedLines_told, shownLines, Grid.labeledLines, List.cons_append,
    behind_append_cons heading, shownRows_append Grid.rows_ne_nil, Grid.labeledLines,
    List.cons_append, shownRows_of_none next, List.append_nil]

private theorem shownRows_answerLines : shownRows (answerLines options style current target) = [] := by
  have heading : shownRow? ("next(t0)" ++ ":") = none := by decide +kernel
  have verdict : ∀ isNext, shownRow? (verdictLine isNext) = none := by
    intro isNext
    cases isNext <;> decide +kernel
  unfold answerLines
  split
  · exact shownRows_of_none heading _
  · exact shownRows_of_none (verdict _) _

theorem boardUnder_target (options : Options) (style : Style) (current target : Grid) :
    boardUnder "t1" (told options style (.ok current) (.ok target)) = target.rows := by
  have heading : "t1" ++ ":" ∉ options.askedLines (.ok current) ++ current.labeledLines style "t0" := by
    rw [List.mem_append, not_or]
    exact ⟨notMem_askedLines (by decide), notMem_labeledLines (by decide) (by decide)⟩
  have board : target.labeledLines style "t1" = ("t1" ++ ":") :: target.rows.map style.rowText := rfl
  rw [boardUnder, printedLines_told, shownLines, ← List.append_assoc, board, List.cons_append,
    behind_append_cons heading, shownRows_append Grid.rows_ne_nil, shownRows_answerLines,
    List.append_nil]

theorem successorText_told (style : Style) (shown : options.showSuccessor = true)
    (negative : (check current target).isNext = false) :
    successorText (told options style (.ok current) (.ok target)) =
      String.join (current.next.draw style) := by
  have heading : "next(t0)" ++ ":" ∉ options.askedLines (.ok current) ++
      (current.labeledLines style "t0" ++ target.labeledLines style "t1") := by
    simp only [List.mem_append, not_or]
    exact ⟨notMem_askedLines (by decide), notMem_labeledLines (by decide) (by decide),
      notMem_labeledLines (by decide) (by decide)⟩
  -- What follows the rows is a listing or the verdict.
  have ended : (listingLines (check current target).mismatches ++
      [verdictLine (check current target).isNext]).takeWhile
        (fun line => !(isListing line || isVerdict line)) = [] := by
    cases listed : listingLines (check current target).mismatches with
    | nil => simp [isVerdict_verdictLine]
    | cons line rest =>
      have listing := isListing_of_mem_listingLines line (by rw [listed]; exact List.mem_cons_self)
      simp [listing]
  have rows : ∀ line ∈ current.next.rows.map style.rowText,
      (!(isListing line || isVerdict line)) = true := by
    intro line member
    obtain ⟨row, -, rfl⟩ := List.mem_map.1 member
    simp [isListing_rowText, isVerdict_rowText]
  have lines : options.askedLines (.ok current) ++ shownLines options style (.ok current) (.ok target) =
      options.askedLines (.ok current) ++
        (current.labeledLines style "t0" ++ target.labeledLines style "t1") ++
        ("next(t0)" ++ ":") :: (current.next.rows.map style.rowText ++
          (listingLines (check current target).mismatches ++
            [verdictLine (check current target).isNext])) := by
    simp only [shownLines, answerLines, if_pos (And.intro shown negative), successorLines,
      Grid.labeledLines, List.append_assoc, List.cons_append]
  rw [successorText, printedLines_told, lines, behind_append_cons heading,
    List.takeWhile_append_of_pos rows, ended, List.append_nil, Grid.join_draw_eq_unlines]

end Found

end GameOfLife
