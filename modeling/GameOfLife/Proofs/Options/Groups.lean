import GameOfLife.Options
import Mathlib.Data.List.Basic

/-!
Arguments as groups: a flag in one of its spellings, or the option for a report with the path behind it.
Arguments are accepted exactly if they are made up of such groups, and each group sets one thing, whatever
the groups around it are: options are known from what each flag stands for and from the report.
-/

set_option autoImplicit false
set_option relaxedAutoImplicit false

namespace GameOfLife

inductive Group where
  | flag (spelling : String) (flag : Flag) (known : (spelling, flag) ∈ Flag.spellings)
  | report (path : String)

namespace Group

def arguments : Group → List String
  | flag spelling _ _ => [spelling]
  | report path => [reportOption, path]

def apply (options : Options) : Group → Options
  | flag _ chosen _ => options.set chosen
  | report path => { options with report := some path }

def flag? : Group → Option Flag
  | flag _ chosen _ => some chosen
  | report _ => none

def path? : Group → Option String
  | flag _ _ _ => none
  | report path => some path

end Group

def spelled (groups : List Group) : List String :=
  groups.flatMap Group.arguments

theorem Flag.ofString?_of_known {spelling : String} {flag : Flag}
    (known : (spelling, flag) ∈ spellings) : ofString? spelling = some flag := by
  have found : ∀ entry ∈ spellings, ofString? entry.1 = some entry.2 := by decide
  exact found _ known

theorem Flag.ne_reportOption_of_known {spelling : String} {flag : Flag}
    (known : (spelling, flag) ∈ spellings) : spelling ≠ reportOption := by
  have different : ∀ entry ∈ spellings, entry.1 ≠ reportOption := by decide
  exact different _ known

theorem Flag.known_of_ofString? {spelling : String} {flag : Flag} (h : ofString? spelling = some flag) :
    (spelling, flag) ∈ spellings := by
  have present : ∀ entries : List (String × Flag), entries.lookup spelling = some flag →
      (spelling, flag) ∈ entries := by
    intro entries
    induction entries with
    | nil => exact nofun
    | cons entry rest ih =>
      obtain ⟨name, value⟩ := entry
      intro found
      rw [List.lookup_cons] at found
      split at found
      · next same =>
        rw [beq_iff_eq.1 same, Option.some.inj found]
        exact List.mem_cons_self
      · exact List.mem_cons_of_mem _ (ih found)
  exact present spellings h

namespace Options

private theorem addArguments_group (options : Options) (group : Group) (rest : List String) :
    options.addArguments (group.arguments ++ rest) = (group.apply options).addArguments rest := by
  cases group with
  | flag spelling chosen known =>
    rw [Group.arguments, List.singleton_append, addArguments.eq_def]
    simp only [if_neg (Flag.ne_reportOption_of_known known), Flag.ofString?_of_known known]
    rfl
  | report path =>
    rw [Group.arguments, List.cons_append, addArguments.eq_def]
    rfl

theorem addArguments_spelled_append (options : Options) (groups : List Group) (rest : List String) :
    options.addArguments (spelled groups ++ rest) = (groups.foldl Group.apply options).addArguments rest := by
  induction groups generalizing options with
  | nil => rfl
  | cons group groups ih =>
    rw [spelled, List.flatMap_cons, List.append_assoc, addArguments_group, List.foldl_cons]
    exact ih (group.apply options)

private theorem addArguments_spelled (options : Options) (groups : List Group) :
    options.addArguments (spelled groups) = .ok (groups.foldl Group.apply options) := by
  rw [← List.append_nil (spelled groups), addArguments_spelled_append]
  rfl

theorem ofArguments_spelled (groups : List Group) :
    ofArguments (spelled groups) = .ok (groups.foldl Group.apply {}) :=
  addArguments_spelled {} groups

theorem exists_groups {arguments : List String} {options result : Options}
    (h : options.addArguments arguments = .ok result) : ∃ groups, arguments = spelled groups := by
  fun_induction addArguments options arguments with
  | case1 => exact ⟨[], rfl⟩
  | case2 => exact nomatch h
  | case3 options path rest ih =>
    obtain ⟨groups, same⟩ := ih h
    exact ⟨.report path :: groups, by rw [same]; rfl⟩
  | case4 options argument rest other flag found ih =>
    obtain ⟨groups, same⟩ := ih h
    exact ⟨.flag argument flag (Flag.known_of_ofString? found) :: groups, by rw [same]; rfl⟩
  | case5 => exact nomatch h

section Effects

def Has (options : Options) : Flag → Prop
  | .quiet => options.quiet = true
  | .color => options.style = .color
  | .sized => options.layout = .sized
  | .showSuccessor => options.showSuccessor = true
  | .help => options.help = true

theorem ext_has {a b : Options} (flags : ∀ flag, a.Has flag ↔ b.Has flag) (report : a.report = b.report) :
    a = b := by
  have style : a.style = b.style := by
    have color := flags .color
    revert color
    simp only [Has]
    cases a.style <;> cases b.style <;> simp
  have layout : a.layout = b.layout := by
    have sized := flags .sized
    revert sized
    simp only [Has]
    cases a.layout <;> cases b.layout <;> simp
  cases a
  cases b
  simp only [mk.injEq]
  exact ⟨Bool.eq_iff_iff.2 (flags .quiet), style, layout, Bool.eq_iff_iff.2 (flags .showSuccessor), report,
    Bool.eq_iff_iff.2 (flags .help)⟩

private theorem has_set (options : Options) (chosen other : Flag) :
    (options.set chosen).Has other ↔ other = chosen ∨ options.Has other := by
  cases chosen <;> cases other <;> simp [Has, set]

private theorem has_report (options : Options) (report : Option String) (chosen : Flag) :
    ({ options with report } : Options).Has chosen ↔ options.Has chosen := by
  cases chosen <;> rfl

private theorem report_set (options : Options) (flag : Flag) : (options.set flag).report = options.report := by
  cases flag <;> rfl

private theorem has_apply (options : Options) (group : Group) (chosen : Flag) :
    (group.apply options).Has chosen ↔ group.flag? = some chosen ∨ options.Has chosen := by
  cases group with
  | flag _ other _ =>
    rw [Group.apply, has_set, Group.flag?, Option.some.injEq, eq_comm]
  | report path => simp [Group.apply, Group.flag?, has_report]

theorem has_foldl_apply (groups : List Group) (options : Options) (chosen : Flag) :
    (groups.foldl Group.apply options).Has chosen ↔
      chosen ∈ groups.filterMap Group.flag? ∨ options.Has chosen := by
  induction groups generalizing options with
  | nil => simp
  | cons group groups ih =>
    rw [List.foldl_cons, ih, has_apply]
    cases given : group.flag? with
    | none => simp [List.filterMap_cons_none given]
    | some other =>
      rw [List.filterMap_cons_some given, List.mem_cons, Option.some.injEq, eq_comm, or_left_comm,
        or_assoc]

private theorem report_apply (options : Options) (group : Group) :
    (group.apply options).report = group.path?.or options.report := by
  cases group with
  | flag _ chosen _ => exact report_set options chosen
  | report path => rfl

theorem report_foldl_apply (groups : List Group) (options : Options) :
    (groups.foldl Group.apply options).report =
      ((groups.filterMap Group.path?).getLast?).or options.report := by
  induction groups generalizing options with
  | nil => rfl
  | cons group groups ih =>
    rw [List.foldl_cons, ih, report_apply]
    cases named : group.path? with
    | none => rw [List.filterMap_cons_none named, Option.none_or]
    | some path =>
      rw [List.filterMap_cons_some named, List.getLast?_cons]
      cases (groups.filterMap Group.path?).getLast? <;> rfl

private theorem foldl_apply_set (groups : List Group) (options : Options) (flag : Flag) :
    groups.foldl Group.apply (options.set flag) = (groups.foldl Group.apply options).set flag := by
  refine ext_has ?_ ?_
  · intro chosen
    rw [has_foldl_apply, has_set, has_set, has_foldl_apply, or_left_comm]
  · rw [report_set, report_foldl_apply, report_foldl_apply, report_set]

private theorem foldl_apply_report {groups : List Group} {options : Options} (path : String)
    (unasked : (groups.foldl Group.apply options).report = none) :
    groups.foldl Group.apply { options with report := some path } =
      { groups.foldl Group.apply options with report := some path } := by
  rw [report_foldl_apply, Option.or_eq_none_iff] at unasked
  refine ext_has ?_ ?_
  · intro chosen
    rw [has_foldl_apply, has_report, ← has_foldl_apply]
    exact (has_report _ _ _).symm
  · rw [report_foldl_apply, unasked.1, Option.none_or]

end Effects

section Insertion

variable {before after : List Group} {options : Options}
  (accepted : ofArguments (spelled (before ++ after)) = .ok options)

include accepted

private theorem foldl_of_accepted : after.foldl Group.apply (before.foldl Group.apply {}) = options := by
  rw [ofArguments_spelled, List.foldl_append] at accepted
  exact Except.ok.inj accepted

/-- A flag has the same effect wherever it is inserted. -/
theorem ofArguments_insert_flag {spelling : String} {flag : Flag}
    (known : (spelling, flag) ∈ Flag.spellings) :
    ofArguments (spelled (before ++ .flag spelling flag known :: after)) =
      .ok (options.set flag) := by
  rw [ofArguments_spelled, List.foldl_append, List.foldl_cons, Group.apply, foldl_apply_set,
    foldl_of_accepted accepted]

theorem ofArguments_insert_report (unasked : options.report = none) (path : String) :
    ofArguments (spelled (before ++ .report path :: after)) =
      .ok { options with report := some path } := by
  have whole := foldl_of_accepted accepted
  rw [ofArguments_spelled, List.foldl_append, List.foldl_cons, Group.apply,
    foldl_apply_report path (whole ▸ unasked), whole]

end Insertion

end Options

end GameOfLife
