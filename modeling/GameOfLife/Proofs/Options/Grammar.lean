import GameOfLife.Proofs.Options.Groups

/-!
The grammar of the command line. Arguments are accepted exactly if they are a sequence of groups, and then
each flag counts if it is among them at all and the last report counts alone, so that neither repetition nor,
among groups of different kinds, order matters. Other arguments are refused for what stands behind the
longest sequence of groups that they begin with, and nothing in that sequence changes how.
-/

set_option autoImplicit false
set_option relaxedAutoImplicit false

namespace GameOfLife

namespace Group

private theorem flag?_eq_some_iff {group : Group} {chosen : Flag} :
    group.flag? = some chosen ↔
      ∃ spelling, (spelling, chosen) ∈ Flag.spellings ∧ group.arguments = [spelling] := by
  cases group with
  | flag spelling other known =>
    rw [flag?, Option.some.injEq]
    constructor
    · rintro rfl
      exact ⟨spelling, known, rfl⟩
    · rintro ⟨written, known', same⟩
      have equal : spelling = written := by simpa [arguments] using same
      subst equal
      exact Option.some.inj
        ((Flag.ofString?_of_known known).symm.trans (Flag.ofString?_of_known known'))
  | report path => simp [flag?, arguments]

private theorem length_arguments_pos (group : Group) : 0 < group.arguments.length := by
  cases group <;> exact Nat.succ_pos _

private theorem arguments_append_inj {a b : Group} {rest more : List String}
    (same : a.arguments ++ rest = b.arguments ++ more) : a.arguments = b.arguments ∧ rest = more := by
  cases a with
  | flag spelling _ known =>
    cases b with
    | flag other _ _ => simpa [arguments] using same
    | report path =>
      have equal : spelling = reportOption := (List.cons.inj same).1
      exact absurd equal (Flag.ne_reportOption_of_known known)
  | report path =>
    cases b with
    | flag other _ known =>
      have equal : reportOption = other := (List.cons.inj same).1
      exact absurd equal.symm (Flag.ne_reportOption_of_known known)
    | report other => simpa [arguments] using same

private theorem exists_arguments_iff {piece : List String} :
    (∃ group : Group, group.arguments = piece) ↔
      (∃ spelling ∈ ["-q", "--quiet", "--color", "--sized", "--show-successor", "-h", "--help"],
        piece = [spelling]) ∨ ∃ path, piece = ["--report", path] := by
  have spelled : Flag.spellings.map Prod.fst =
      ["-q", "--quiet", "--color", "--sized", "--show-successor", "-h", "--help"] := rfl
  rw [← spelled]
  constructor
  · rintro ⟨group, rfl⟩
    cases group with
    | flag spelling _ known => exact Or.inl ⟨spelling, List.mem_map_of_mem known, rfl⟩
    | report path => exact Or.inr ⟨path, rfl⟩
  · rintro (⟨spelling, member, rfl⟩ | ⟨path, rfl⟩)
    · obtain ⟨⟨_, chosen⟩, known, rfl⟩ := List.mem_map.1 member
      exact ⟨.flag _ chosen known, rfl⟩
    · exact ⟨.report path, rfl⟩

end Group

def Groupless (arguments : List String) : Prop :=
  ∀ group more, arguments ≠ Group.arguments group ++ more

/-- The longest sequence of groups that arguments begin with, and what stands behind it. -/
structure Longest (arguments : List String) (groups : List Group) (rest : List String) : Prop where
  split : arguments = spelled groups ++ rest
  length_le : ∀ others more, arguments = spelled others ++ more →
    (spelled others).length ≤ (spelled groups).length

section Longest

variable {arguments rest : List String} {groups : List Group}

private theorem spelled_cons (group : Group) (groups : List Group) :
    spelled (group :: groups) = group.arguments ++ spelled groups :=
  List.flatMap_cons

private theorem length_spelled_le (groupless : Groupless rest) {others : List Group} {more : List String}
    (same : spelled groups ++ rest = spelled others ++ more) :
    (spelled others).length ≤ (spelled groups).length := by
  induction groups generalizing others with
  | nil =>
    cases others with
    | nil => exact Nat.le_refl _
    | cons other others =>
      rw [spelled_cons, List.append_assoc] at same
      exact absurd same (groupless other _)
  | cons group groups ih =>
    cases others with
    | nil => exact Nat.zero_le _
    | cons other others =>
      rw [spelled_cons, spelled_cons, List.append_assoc, List.append_assoc] at same
      obtain ⟨first, behind⟩ := Group.arguments_append_inj same
      rw [spelled_cons, spelled_cons, List.length_append, List.length_append, first]
      exact Nat.add_le_add_left (ih behind) _

private theorem longest_iff :
    Longest arguments groups rest ↔ arguments = spelled groups ++ rest ∧ Groupless rest := by
  constructor
  · rintro ⟨rfl, length_le⟩
    refine ⟨rfl, ?_⟩
    rintro group more rfl
    -- One more group would make a longer sequence.
    have longer := length_le (groups ++ [group]) more (by simp [spelled])
    have positive := group.length_arguments_pos
    simp only [spelled, List.flatMap_append, List.flatMap_singleton, List.length_append] at longer
    omega
  · rintro ⟨rfl, groupless⟩
    exact ⟨rfl, fun _ _ => length_spelled_le groupless⟩

private theorem exists_longest (arguments : List String) : ∃ groups rest, Longest arguments groups rest := by
  by_cases first : ∃ group more, arguments = Group.arguments group ++ more
  · obtain ⟨group, more, whole⟩ := first
    obtain ⟨groups, rest, longest⟩ := exists_longest more
    obtain ⟨split, groupless⟩ := longest_iff.1 longest
    refine ⟨group :: groups, rest, longest_iff.2 ⟨?_, groupless⟩⟩
    rw [whole, split, spelled_cons, List.append_assoc]
  · refine ⟨[], arguments, longest_iff.2 ⟨rfl, ?_⟩⟩
    exact fun group more same => first ⟨group, more, same⟩
termination_by arguments.length
decreasing_by
  have positive := group.length_arguments_pos
  rw [whole, List.length_append]
  omega

end Longest

namespace Options

structure SetBy (options : Options) (groups : List Group) : Prop where
  quiet : options.quiet = true ↔
    ∃ group ∈ groups, group.arguments = ["-q"] ∨ group.arguments = ["--quiet"]
  color : options.style = .color ↔ ∃ group ∈ groups, group.arguments = ["--color"]
  sized : options.layout = .sized ↔ ∃ group ∈ groups, group.arguments = ["--sized"]
  showSuccessor : options.showSuccessor = true ↔
    ∃ group ∈ groups, group.arguments = ["--show-successor"]
  help : options.help = true ↔
    ∃ group ∈ groups, group.arguments = ["-h"] ∨ group.arguments = ["--help"]
  report : options.report = (groups.filterMap Group.path?).getLast?

section Groups

variable {options : Options} {groups others : List Group} {chosen : Flag}

private theorem not_has_default (chosen : Flag) : ¬ ({} : Options).Has chosen := by
  cases chosen <;> exact nofun

private theorem has_of_groups :
    (groups.foldl Group.apply {}).Has chosen ↔ chosen ∈ groups.filterMap Group.flag? := by
  rw [has_foldl_apply, or_iff_left (not_has_default chosen)]

private theorem report_of_groups :
    (groups.foldl Group.apply {}).report = (groups.filterMap Group.path?).getLast? := by
  rw [report_foldl_apply, Option.or_none]

private theorem setBy_groups (groups : List Group) : (groups.foldl Group.apply {}).SetBy groups := by
  have flags : ∀ chosen, (groups.foldl Group.apply {}).Has chosen ↔ chosen ∈ groups.filterMap Group.flag? :=
    fun _ => has_of_groups
  simp only [List.mem_filterMap, Group.flag?_eq_some_iff] at flags
  refine ⟨?_, ?_, ?_, ?_, ?_, report_of_groups⟩
  · simpa [Has, Flag.spellings] using flags .quiet
  · simpa [Has, Flag.spellings] using flags .color
  · simpa [Has, Flag.spellings] using flags .sized
  · simpa [Has, Flag.spellings] using flags .showSuccessor
  · simpa [Has, Flag.spellings] using flags .help

private theorem ofArguments_congr
    (flags : ∀ chosen, chosen ∈ groups.filterMap Group.flag? ↔ chosen ∈ others.filterMap Group.flag?)
    (paths : groups.filterMap Group.path? = others.filterMap Group.path?) :
    ofArguments (spelled groups) = ofArguments (spelled others) := by
  have same : groups.foldl Group.apply {} = others.foldl Group.apply {} := by
    refine ext_has ?_ ?_
    · intro chosen
      rw [has_of_groups, has_of_groups, flags]
    · rw [report_of_groups, report_of_groups, paths]
  rw [ofArguments_spelled, ofArguments_spelled, same]

private theorem ofArguments_perm (perm : groups.Perm others)
    (paths : groups.filterMap Group.path? = others.filterMap Group.path?) :
    ofArguments (spelled groups) = ofArguments (spelled others) :=
  ofArguments_congr (fun _ => (perm.filterMap Group.flag?).mem_iff) paths

private theorem ofArguments_repeated {before after : List Group} {group : Group} (isFlag : group.flag? = some chosen)
    (present : chosen ∈ (before ++ after).filterMap Group.flag?) :
    ofArguments (spelled (before ++ group :: after)) = ofArguments (spelled (before ++ after)) := by
  have pathless : group.path? = none := by
    cases group with
    | flag _ _ _ => rfl
    | report path => exact nomatch isFlag
  refine ofArguments_congr ?_ ?_
  · intro other
    rw [List.filterMap_append, List.mem_append] at present ⊢
    rw [List.filterMap_append, List.mem_append, List.filterMap_cons_some isFlag, List.mem_cons]
    constructor
    · rintro (earlier | rfl | later)
      · exact Or.inl earlier
      · exact present
      · exact Or.inr later
    · rintro (earlier | later)
      · exact Or.inl earlier
      · exact Or.inr (Or.inr later)
  · rw [List.filterMap_append, List.filterMap_append, List.filterMap_cons_none pathless]

/-- Groups that set given options, one for each of them that differs from the default. -/
def toGroups (options : Options) : List Group :=
  (if options.quiet then [.flag "--quiet" .quiet (by decide)] else []) ++
    (if options.style = .color then [.flag "--color" .color (by decide)] else []) ++
    (if options.layout = .sized then [.flag "--sized" .sized (by decide)] else []) ++
    (if options.showSuccessor then [.flag "--show-successor" .showSuccessor (by decide)] else []) ++
    (if options.help then [.flag "--help" .help (by decide)] else []) ++
    options.report.toList.map .report

private theorem ofArguments_toGroups (options : Options) : ofArguments (spelled options.toGroups) = .ok options := by
  rw [ofArguments_spelled]
  obtain ⟨quiet, style, layout, showSuccessor, report, help⟩ := options
  cases quiet <;> cases style <;> cases layout <;> cases showSuccessor <;> cases report <;> cases help <;> rfl

end Groups

section Refusal

variable {arguments others : List String} {groups : List Group} {argument : String}

private theorem addArguments_of_groupless (options : Options) (groupless : Groupless (argument :: others)) :
    options.addArguments (argument :: others) =
      .error (if argument :: others = [reportOption] then .missingValue reportOption
        else .unknownArgument argument) := by
  by_cases asks : argument = reportOption
  · subst asks
    cases others with
    | nil => rfl
    | cons path more => exact absurd rfl (groupless (.report path) more)
  · have unknown : Flag.ofString? argument = none := by
      cases found : Flag.ofString? argument with
      | none => rfl
      | some chosen =>
        exact absurd rfl (groupless (.flag argument chosen (Flag.known_of_ofString? found)) others)
    have other : argument :: others ≠ [reportOption] := fun same => asks (List.cons.inj same).1
    rw [addArguments.eq_def]
    simp only [if_neg asks, if_neg other, unknown]

private theorem addArguments_of_longest (options : Options)
    (longest : Longest arguments groups (argument :: others)) :
    options.addArguments arguments =
      .error (if argument :: others = [reportOption] then .missingValue reportOption
        else .unknownArgument argument) := by
  obtain ⟨rfl, groupless⟩ := longest_iff.1 longest
  rw [addArguments_spelled_append, addArguments_of_groupless _ groupless]

private theorem spelled_or_longest (arguments : List String) :
    (∃ groups, arguments = spelled groups) ∨
      ∃ groups argument others, Longest arguments groups (argument :: others) := by
  obtain ⟨groups, rest, longest⟩ := exists_longest arguments
  cases rest with
  | nil => exact Or.inl ⟨groups, by simpa using longest.split⟩
  | cons argument others => exact Or.inr ⟨groups, argument, others, longest⟩

private theorem ofArguments_append_of_error {e : OptionError} (refused : ofArguments arguments = .error e)
    (groups : List Group) : ofArguments (spelled groups ++ arguments) = .error e := by
  rcases spelled_or_longest arguments with ⟨accepted, rfl⟩ | ⟨_, _, _, longest⟩
  · rw [ofArguments_spelled] at refused
    exact nomatch refused
  · rw [ofArguments, addArguments_of_longest _ longest] at refused
    rw [ofArguments, addArguments_spelled_append, addArguments_of_longest _ longest, refused]

end Refusal

/-- Which arguments are accepted, as what they are read, and how the others are refused; what makes no
difference to either; and that there are arguments for all options. -/
theorem ofArguments_grammar :
    (∀ piece, (∃ group : Group, group.arguments = piece) ↔
      (∃ spelling ∈ ["-q", "--quiet", "--color", "--sized", "--show-successor", "-h", "--help"],
        piece = [spelling]) ∨ ∃ path, piece = ["--report", path]) ∧
    (∀ arguments, (∃ options, ofArguments arguments = .ok options) ↔
      ∃ groups, arguments = spelled groups) ∧
    (∀ groups, ∃ options, ofArguments (spelled groups) = .ok options ∧ options.SetBy groups) ∧
    (∀ arguments, (∃ groups, arguments = spelled groups) ∨
      ∃ groups argument others, Longest arguments groups (argument :: others)) ∧
    (∀ arguments groups argument others, Longest arguments groups (argument :: others) →
      ofArguments arguments = .error
        (if argument :: others = ["--report"] then .missingValue "--report"
          else .unknownArgument argument)) ∧
    (∀ before after group chosen, Group.flag? group = some chosen →
      chosen ∈ (before ++ after).filterMap Group.flag? →
      ofArguments (spelled (before ++ group :: after)) = ofArguments (spelled (before ++ after))) ∧
    (∀ groups others : List Group, groups.Perm others →
      groups.filterMap Group.path? = others.filterMap Group.path? →
      ofArguments (spelled groups) = ofArguments (spelled others)) ∧
    (∀ groups arguments e, ofArguments arguments = .error e →
      ofArguments (spelled groups ++ arguments) = .error e) ∧
    ∀ options, ∃ arguments, ofArguments arguments = .ok options := by
  refine ⟨fun _ => Group.exists_arguments_iff, ?_, ?_, spelled_or_longest, ?_, ?_, ?_, ?_, ?_⟩
  · intro arguments
    constructor
    · rintro ⟨options, accepted⟩
      exact exists_groups accepted
    · rintro ⟨groups, rfl⟩
      exact ⟨_, ofArguments_spelled groups⟩
  · exact fun groups => ⟨_, ofArguments_spelled groups, setBy_groups groups⟩
  · exact fun _ _ _ _ longest => addArguments_of_longest {} longest
  · exact fun _ _ _ _ isFlag present => ofArguments_repeated isFlag present
  · exact fun _ _ perm paths => ofArguments_perm perm paths
  · exact fun groups _ _ refused => ofArguments_append_of_error refused groups
  · exact fun options => ⟨_, ofArguments_toGroups options⟩

theorem ofArguments_grammar_steps :
    Longest ["--help", "--report", "--report", "--steps", "-q"]
        [.flag "--help" .help (by decide), .report "--report"] ["--steps", "-q"] ∧
      ofArguments ["--help", "--report", "--report", "--steps", "-q"] =
        .error (.unknownArgument "--steps") := by
  have groupless : Groupless ["--steps", "-q"] := by
    intro group more same
    cases group with
    | flag spelling _ known =>
      have equal : "--steps" = spelling := (List.cons.inj same).1
      rw [← equal] at known
      have unknown : Flag.ofString? "--steps" = none := by decide
      exact nomatch unknown.symm.trans (Flag.ofString?_of_known known)
    | report path => exact absurd (List.cons.inj same).1 (by decide)
  have longest : Longest ["--help", "--report", "--report", "--steps", "-q"]
      [.flag "--help" .help (by decide), .report "--report"] ["--steps", "-q"] :=
    longest_iff.2 ⟨rfl, groupless⟩
  obtain ⟨-, -, -, -, refused, -⟩ := ofArguments_grammar
  exact ⟨longest, refused _ _ _ _ longest⟩

end Options

end GameOfLife
