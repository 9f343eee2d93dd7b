import GameOfLife.Proofs.Input.RoundTrip
import GameOfLife.Proofs.Options.Groups
import GameOfLife.Proofs.Session.Account

/-!
The two layouts are interchangeable. Two grids with an empty line behind each, and the same grids behind
headers that give their sizes, make the same run, provided that it asks no questions and is told of the
headers. In neither layout does a run look at what stands behind the second grid.
-/

set_option autoImplicit false
set_option relaxedAutoImplicit false

namespace GameOfLife

open Text

def Reader.ofText (text : String) (behind : List Arrival) : Reader :=
  .ofStream ((bytes text).map .byte ++ behind)

/-- A grid behind a header that gives its size, with some lines above the header. -/
def Grid.headed (above : List String) (g : Grid) : String :=
  unlines above ++ (headerText g.height g.width ++ "\n") ++ g.display

section Reads

/-- Lines that are read as a grid, with all that follows them left. -/
structure ReadAs (layout : Layout) (lines : List String) (g : Grid) : Prop where
  whole : ∀ line ∈ lines, '\n' ∉ line.toList
  reads : ∀ line rest, ∃ line',
    Reader.read layout ⟨lines.map Piece.ofLine ++ rest, line⟩ = (.ok g, ⟨rest, line'⟩)

private theorem Piece.blank_ofLine {line : String} (h : allBlank line = true) : (ofLine line).Blank :=
  ⟨_, text_ofLine line, (allBlank_ended line).trans h⟩

private theorem Grid.holds_map_ofLine (g : Grid) :
    List.Forall₂ Piece.Holds ((g.rows.map rowText).map Piece.ofLine) g.rows := by
  have answer : ∀ row, (Piece.ofLine (rowText row)).text = .ok (rowText row) := by
    intro row
    rw [Piece.text_ofLine, withoutLineEnd_append_newline (unbroken_rowText row)]
  apply Grid.holds_rows
  simp only [List.map_map, Function.comp_def, answer]

private theorem readAs_plain (g : Grid) : ReadAs .plain (g.rows.map rowText ++ [""]) g where
  whole := by
    intro line member
    exact newline_notMem_of_unbroken ((Written.plain g).unbroken_of_mem_lines line member)
  reads := by
    intro line rest
    have blank : (Piece.ofLine "").Blank := Piece.blank_ofLine (by decide)
    rw [List.map_append, List.append_assoc]
    exact ⟨_, Reader.readPlain_of_held g.holds_map_ofLine blank line rest⟩

private theorem readAs_sized {above : List String}
    (blank : ∀ line ∈ above, allBlank line = true ∧ '\n' ∉ line.toList) {g : Grid} (fits : g.WordSized) :
    ReadAs .sized (above ++ headerText g.height g.width :: g.rows.map rowText) g where
  whole := by
    intro line member
    rcases List.mem_append.1 member with present | headed
    · exact (blank line present).2
    · exact newline_notMem_of_unbroken ((Written.sized 0 g fits).unbroken_of_mem_lines line headed)
  reads := by
    intro line rest
    have skipped : ∀ piece ∈ above.map Piece.ofLine, piece.Blank := by
      intro piece member
      obtain ⟨line, present, rfl⟩ := List.mem_map.1 member
      exact Piece.blank_ofLine (blank line present).1
    have header : (Piece.ofLine (headerText g.height g.width)).text =
        .ok (headerText g.height g.width) := by
      rw [Piece.text_ofLine, withoutLineEnd_append_newline (unbroken_headerText g.height g.width)]
    rw [List.map_append, List.map_cons, List.append_assoc, List.cons_append]
    exact ⟨_, Reader.readSized_of_held skipped header (allBlank_headerText g.height g.width)
      (headerSize?_headerText fits.1 fits.2) g.holds_map_ofLine line⟩

private theorem reads_of_readAs {layout : Layout} {lines lines' : List String} {a b : Grid}
    (first : ReadAs layout lines a) (second : ReadAs layout lines' b) (behind : List Arrival) :
    (Reader.ofText (unlines lines ++ unlines lines') behind).Reads layout (.ok a) (.ok b) := by
  obtain ⟨between, firstRead⟩ := first.reads 0 (lines'.map Piece.ofLine ++ pieces behind)
  obtain ⟨last, secondRead⟩ := second.reads between (pieces behind)
  refine ⟨⟨pieces behind, last⟩, ?_⟩
  rw [Reader.ofText, Reader.ofStream, bytes_append, List.map_append, List.append_assoc,
    pieces_unlines_append first.whole, pieces_unlines_append second.whole, Reader.readAll_cons,
    firstRead, Reader.readAll_cons, secondRead]
  rfl

private theorem Grid.headed_eq_unlines (above : List String) (g : Grid) :
    g.headed above = unlines (above ++ headerText g.height g.width :: g.rows.map rowText) := by
  rw [headed, unlines_append, unlines_cons, display_eq_unlines, String.append_assoc]

theorem reads_plain (a b : Grid) (behind : List Arrival) :
    (Reader.ofText (a.display ++ "\n" ++ (b.display ++ "\n")) behind).Reads .plain (.ok a) (.ok b) := by
  have ended : ∀ g : Grid, g.display ++ "\n" = unlines (g.rows.map rowText ++ [""]) := fun g =>
    (Written.plain g).text_eq_unlines
  rw [ended, ended]
  exact reads_of_readAs (readAs_plain a) (readAs_plain b) behind

end Reads

section Options

private theorem ofArguments_cons_sized {arguments : List String} {options : Options}
    (accepted : Options.ofArguments arguments = .ok options) :
    Options.ofArguments ("--sized" :: arguments) = .ok (options.set .sized) := by
  obtain ⟨groups, rfl⟩ := Options.exists_groups accepted
  have known : ("--sized", Flag.sized) ∈ Flag.spellings := by decide
  exact @Options.ofArguments_insert_flag [] groups options accepted _ _ known

private theorem told_sized {options : Options} (quiet : options.quiet = true) (style : Style)
    (first second : Except ReadError Grid) :
    told (options.set .sized) style first second = told options style first second := by
  have unasked : ∀ state, options.questions state = [] ∧ (options.set .sized).questions state = [] := by
    intro state
    have still : (options.set .sized).quiet = true := quiet
    exact ⟨if_pos quiet, if_pos still⟩
  cases first <;> cases second <;> simp only [told, Options.askedLines, unasked] <;> rfl

end Options

/-- A run that asks nothing, on two grids and anything behind them, leaves behind the same output, failure
and folder as the run with one more argument on the same grids behind headers, with blank lines above them.
What is behind the grids need not be the same, so neither run depends on it. -/
theorem ofCommand_interchange {arguments : List String} {options : Options}
    (accepted : Options.ofArguments arguments = .ok options) (quiet : options.quiet = true)
    (plain : options.layout = .plain) (noHelp : options.help = false) {a b : Grid}
    (fits : a.WordSized) (fits' : b.WordSized) {above above' : List String}
    (blank : ∀ line ∈ above ++ above', allBlank line = true ∧ '\n' ∉ line.toList) (terminal : Bool)
    (folder : Folder) (behind behind' : List Arrival) :
    Outcome.ofCommand arguments terminal
        (.ofText (a.display ++ "\n" ++ (b.display ++ "\n")) behind) folder =
      Outcome.ofCommand ("--sized" :: arguments) terminal
        (.ofText (a.headed above ++ b.headed above') behind') folder := by
  have accepted' := ofArguments_cons_sized accepted
  have noHelp' : (options.set .sized).help = false := noHelp
  obtain ⟨blankAbove, blankBetween⟩ := List.forall_mem_append.1 blank
  have first := readAs_sized blankAbove fits
  have second := readAs_sized blankBetween fits'
  have reads : (Reader.ofText (a.display ++ "\n" ++ (b.display ++ "\n")) behind).Reads options.layout
      (.ok a) (.ok b) := plain ▸ reads_plain a b behind
  have reads' : (Reader.ofText (a.headed above ++ b.headed above') behind').Reads
      (options.set .sized).layout (.ok a) (.ok b) := by
    rw [Grid.headed_eq_unlines, Grid.headed_eq_unlines]
    exact reads_of_readAs first second behind'
  rw [Outcome.ofCommand_eq accepted noHelp reads, Outcome.ofCommand_eq accepted' noHelp' reads',
    told_sized quiet]
  rfl

theorem ofCommand_interchange_row :
    let arguments := ["--report", "r.json", "-q"]
    let options : Options := { quiet := true, report := some "r.json" }
    let row := Grid.ofFn 3 1 (by decide) (by decide) fun _ _ => .alive
    let above := [" ", "\t\r"]
    let plain := row.display ++ "\n" ++ (row.next.display ++ "\n")
    let sized := row.headed above ++ row.next.headed []
    (Options.ofArguments arguments = .ok options ∧ options.quiet = true ∧ options.layout = .plain ∧
      options.help = false ∧ row.WordSized ∧ row.next.WordSized ∧
      ∀ line ∈ above ++ [], allBlank line = true ∧ '\n' ∉ line.toList) ∧
      Outcome.ofCommand arguments false (.ofText plain [.byte 0xFF]) {} =
        Outcome.ofCommand ("--sized" :: arguments) false
          (.ofText sized ((bytes "1 1\n").map .byte)) {} := by
  intro arguments options row above plain sized
  have accepted : Options.ofArguments arguments = .ok options := by decide
  have fits : row.WordSized := by
    unfold Grid.WordSized
    decide
  have fits' : row.next.WordSized := fits
  have blank : ∀ line ∈ above ++ [], allBlank line = true ∧ '\n' ∉ line.toList := by decide
  exact ⟨⟨accepted, rfl, rfl, rfl, fits, fits', blank⟩,
    ofCommand_interchange accepted rfl rfl rfl fits fits' blank false {} _ _⟩

end GameOfLife
