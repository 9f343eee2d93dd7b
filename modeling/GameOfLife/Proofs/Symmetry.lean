import GameOfLife.Proofs.Repair
import GameOfLife.Proofs.SpeedOfLight

/-!
The symmetries of the rectangle. A grid can be mirrored from left to right, from top to bottom and at its main
diagonal, which exchanges rows and columns; one after another these give all turns and reflections of it. None
of them makes a difference to the rule: the generations of a reflected grid are the reflected generations, and
a verdict on reflected grids is the same, with its mismatches where the reflection takes them.
-/

set_option autoImplicit false
set_option relaxedAutoImplicit false

namespace GameOfLife

open Plane

inductive Reflection where
  | leftRight
  | topBottom
  | diagonal
  deriving DecidableEq

namespace Grid

def reflect (g : Grid) : Reflection → Grid
  | .leftRight => ofFn g.width g.height g.width_pos g.height_pos fun row col =>
      (g.get? row (g.width - 1 - col)).getD .dead
  | .topBottom => ofFn g.width g.height g.width_pos g.height_pos fun row col =>
      (g.get? (g.height - 1 - row) col).getD .dead
  | .diagonal => ofFn g.height g.width g.height_pos g.width_pos fun row col =>
      (g.get? col row).getD .dead

def image (g : Grid) : Reflection → Nat × Nat → Nat × Nat
  | .leftRight, (row, col) => (row, g.width - 1 - col)
  | .topBottom, (row, col) => (g.height - 1 - row, col)
  | .diagonal, (row, col) => (col, row)

def reflectAll (g : Grid) : List Reflection → Grid
  | [] => g
  | r :: rs => (g.reflect r).reflectAll rs

def imageAll (g : Grid) : List Reflection → Nat × Nat → Nat × Nat
  | [], place => place
  | r :: rs, place => (g.reflect r).imageAll rs (g.image r place)

def pointImage (g : Grid) : Reflection → Point → Point
  | .leftRight, p => (p.1, g.width - 1 - p.2)
  | .topBottom, p => (g.height - 1 - p.1, p.2)
  | .diagonal, p => (p.2, p.1)

def Inside (g : Grid) (place : Nat × Nat) : Prop :=
  place.1 < g.height ∧ place.2 < g.width

section Reflect

variable {g a b : Grid} {r : Reflection} {place : Nat × Nat} {p : Point}

private theorem inside_image (inside : g.Inside place) : (g.reflect r).Inside (g.image r place) := by
  obtain ⟨hrow, hcol⟩ := inside
  cases r <;> simp only [Inside, reflect, image, ofFn] <;> omega

private theorem image_image (inside : g.Inside place) : (g.reflect r).image r (g.image r place) = place := by
  obtain ⟨hrow, hcol⟩ := inside
  cases r <;> simp only [reflect, image, ofFn] <;> refine Prod.ext ?_ ?_ <;> simp only <;> omega

private theorem get?_reflect (inside : g.Inside place) :
    (g.reflect r).get? (g.image r place).1 (g.image r place).2 = g.get? place.1 place.2 := by
  obtain ⟨cell, hcell⟩ := Option.isSome_iff_exists.1 (isSome_get?.2 inside)
  obtain ⟨hrow, hcol⟩ := inside
  have fromRight : g.width - 1 - (g.width - 1 - place.2) = place.2 := by omega
  have fromBottom : g.height - 1 - (g.height - 1 - place.1) = place.1 := by omega
  cases r with
  | leftRight =>
    have within : place.1 < g.height ∧ g.width - 1 - place.2 < g.width := by omega
    simp only [reflect, image, get?_ofFn, within, and_self, if_true, fromRight, hcell, Option.getD_some]
  | topBottom =>
    have within : g.height - 1 - place.1 < g.height ∧ place.2 < g.width := by omega
    simp only [reflect, image, get?_ofFn, within, and_self, if_true, fromBottom, hcell, Option.getD_some]
  | diagonal =>
    simp only [reflect, image, get?_ofFn, hrow, hcol, and_self, if_true, hcell, Option.getD_some]

private theorem reflect_reflect (g : Grid) (r : Reflection) : (g.reflect r).reflect r = g := by
  have size : ((g.reflect r).reflect r).SameSize g := by
    cases r <;> exact ⟨rfl, rfl⟩
  refine ext_get? size ?_
  intro row col hrow hcol
  have inside : g.Inside (row, col) := ⟨size.2 ▸ hrow, size.1 ▸ hcol⟩
  have twice := get?_reflect (r := r) (inside_image (r := r) inside)
  rw [image_image inside, get?_reflect inside] at twice
  exact twice

private theorem reflect_injective (same : a.reflect r = b.reflect r) : a = b := by
  rw [← reflect_reflect a r, same, reflect_reflect]

private theorem sameSize_reflect : (a.reflect r).SameSize (b.reflect r) ↔ a.SameSize b := by
  cases r with
  | leftRight => exact Iff.rfl
  | topBottom => exact Iff.rfl
  | diagonal => exact and_comm

private theorem rigid_pointImage (g : Grid) (r : Reflection) : Rigid (g.pointImage r) where
  surjective := by
    intro p
    cases r with
    | leftRight => exact ⟨(p.1, g.width - 1 - p.2), Prod.ext rfl (by simp only [pointImage]; omega)⟩
    | topBottom => exact ⟨(g.height - 1 - p.1, p.2), Prod.ext (by simp only [pointImage]; omega) rfl⟩
    | diagonal => exact ⟨(p.2, p.1), rfl⟩
  distance_eq := by
    intro p q
    cases r <;> simp only [pointImage, distance] <;> omega

private theorem mem_frame_reflect : p ∈ g.frame ↔ g.pointImage r p ∈ (g.reflect r).frame := by
  cases r <;> simp only [mem_frame, pointImage, reflect, ofFn] <;> omega

private theorem pointImage_natCast {row col : Nat} (inside : g.Inside (row, col)) :
    g.pointImage r (row, col) =
      (((g.image r (row, col)).1 : Int), ((g.image r (row, col)).2 : Int)) := by
  obtain ⟨hrow, hcol⟩ := inside
  cases r <;> simp only [pointImage, image] <;> refine Prod.ext ?_ ?_ <;> simp only <;> omega

private theorem mem_livePoints_reflect : p ∈ g.livePoints ↔ g.pointImage r p ∈ (g.reflect r).livePoints := by
  by_cases framed : p ∈ g.frame
  · obtain ⟨row, col, rfl, hrow, hcol⟩ := exists_natCast_of_mem_frame framed
    have inside : g.Inside (row, col) := ⟨hrow, hcol⟩
    rw [pointImage_natCast inside, mem_livePoints_natCast, mem_livePoints_natCast,
      get?_reflect inside]
  · refine iff_of_false (fun alive => framed (mem_frame_of_mem_livePoints alive)) ?_
    exact fun alive => framed (mem_frame_reflect.2 (mem_frame_of_mem_livePoints alive))

private theorem image_congr (size : a.SameSize b) : a.image r = b.image r := by
  obtain ⟨width, height⟩ := size
  cases r <;> funext place <;> simp only [image, width, height]

private theorem pointImage_congr (size : a.SameSize b) : a.pointImage r = b.pointImage r := by
  obtain ⟨width, height⟩ := size
  cases r <;> funext p <;> simp only [pointImage, width, height]

/-- Reflections keep distances and the frame, so they keep the rule as well. -/
theorem after_reflect (g : Grid) (r : Reflection) (n : Nat) :
    (g.reflect r).after n = (g.after n).reflect r := by
  have size : ∀ g : Grid, (g.after n).SameSize g := fun g => ⟨width_after g n, height_after g n⟩
  have sizes : ((g.reflect r).after n).SameSize ((g.after n).reflect r) :=
    (size (g.reflect r)).trans (sameSize_reflect.2 (size g)).symm
  refine eq_of_livePoints sizes ?_
  intro q
  obtain ⟨p, rfl⟩ := (rigid_pointImage g r).surjective q
  rw [← mem_livePoints_after_of_rigid (rigid_pointImage g r) (fun q _ => mem_frame_reflect)
    fun q _ => mem_livePoints_reflect, ← pointImage_congr (size g), ← mem_livePoints_reflect]

private theorem next_reflect (g : Grid) (r : Reflection) : (g.reflect r).next = g.next.reflect r :=
  after_reflect g r 1

end Reflect

end Grid

def readFirst (a b : Nat × Nat) : Bool :=
  decide (a.1 < b.1 ∨ a.1 = b.1 ∧ a.2 ≤ b.2)

section Check

variable {a b : Grid} {r : Reflection} {place : Nat × Nat}

private theorem isNext_check_reflect (a b : Grid) (r : Reflection) :
    (check (a.reflect r) (b.reflect r)).isNext = (check a b).isNext := by
  rw [Bool.eq_iff_iff, isNext_check_iff, isNext_check_iff, Grid.next_reflect]
  exact ⟨Grid.reflect_injective, congrArg (Grid.reflect · r)⟩

private theorem mem_mismatches_check :
    place ∈ (check a b).mismatches ↔
      b.SameSize a ∧ b.Inside place ∧ b.get? place.1 place.2 ≠ a.next.get? place.1 place.2 := by
  by_cases size : b.SameSize a
  · obtain ⟨row, col⟩ := place
    rw [mismatches_check_of_sameSize size, Grid.mem_differences, Grid.width_next, Grid.height_next,
      ← size.1, ← size.2, ne_comm]
    simp only [size, true_and, Grid.Inside]
  · rw [mismatches_check_of_not_sameSize size]
    simp [size]

private theorem inside_of_mem_mismatches (h : place ∈ (check a b).mismatches) : a.Inside place := by
  obtain ⟨size, ⟨hrow, hcol⟩, -⟩ := mem_mismatches_check.1 h
  exact ⟨size.2 ▸ hrow, size.1 ▸ hcol⟩

private theorem image_mem_mismatches_check (h : place ∈ (check a b).mismatches) :
    a.image r place ∈ (check (a.reflect r) (b.reflect r)).mismatches := by
  obtain ⟨size, inside, differ⟩ := mem_mismatches_check.1 h
  have within : a.Inside place := inside_of_mem_mismatches h
  have insideNext : a.next.Inside place := within
  have sizeNext : b.SameSize a.next := size
  rw [mem_mismatches_check, Grid.next_reflect, ← Grid.image_congr size]
  refine ⟨Grid.sameSize_reflect.2 size, Grid.inside_image inside, ?_⟩
  rwa [Grid.get?_reflect inside, Grid.image_congr sizeNext, Grid.get?_reflect insideNext]

private theorem nodup_mismatches_check (a b : Grid) : (check a b).mismatches.Nodup :=
  pairwise_mismatches_check.imp ReadBefore.ne

private theorem perm_mismatches_check_reflect (a b : Grid) (r : Reflection) :
    (check (a.reflect r) (b.reflect r)).mismatches.Perm ((check a b).mismatches.map (a.image r)) := by
  have once : ((check a b).mismatches.map (a.image r)).Nodup := by
    refine (nodup_mismatches_check a b).map_on ?_
    intro p hp q hq same
    rw [← Grid.image_image (r := r) (inside_of_mem_mismatches hp), same,
      Grid.image_image (inside_of_mem_mismatches hq)]
  refine (List.perm_ext_iff_of_nodup (nodup_mismatches_check _ _) once).2 ?_
  intro q
  rw [List.mem_map]
  constructor
  · intro member
    -- Reflected once more, it is a mismatch of the grids themselves.
    have back := image_mem_mismatches_check (r := r) member
    rw [Grid.reflect_reflect, Grid.reflect_reflect] at back
    refine ⟨_, back, ?_⟩
    have twice := Grid.image_image (r := r) (inside_of_mem_mismatches member)
    rwa [Grid.reflect_reflect] at twice
  · rintro ⟨place, member, rfl⟩
    exact image_mem_mismatches_check member

private theorem pairwise_readFirst_mergeSort (places : List (Nat × Nat)) :
    (places.mergeSort readFirst).Pairwise fun p q => readFirst p q = true := by
  refine List.pairwise_mergeSort ?_ ?_ places
  · intro p q r
    simp only [readFirst, decide_eq_true_eq]
    omega
  · intro p q
    simp only [readFirst, Bool.or_eq_true, decide_eq_true_eq]
    omega

private theorem eq_mergeSort_of_perm {places others : List (Nat × Nat)} (sorted : places.Pairwise ReadBefore)
    (same : places.Perm others) : places = others.mergeSort readFirst := by
  refine List.Perm.eq_of_pairwise ?_ (sorted.imp ?_) (pairwise_readFirst_mergeSort others)
    (same.trans (List.mergeSort_perm others readFirst).symm)
  · intro p q _ _ before after
    simp only [readFirst, decide_eq_true_eq] at before after
    exact Prod.ext (by omega) (by omega)
  · intro p q before
    simp only [readFirst, decide_eq_true_eq]
    simp only [ReadBefore] at before
    omega

end Check

section Compositions

variable {g a b : Grid} {rs : List Reflection} {place : Nat × Nat}

private theorem after_reflectAll (g : Grid) (rs : List Reflection) (n : Nat) :
    (g.reflectAll rs).after n = (g.after n).reflectAll rs := by
  induction rs generalizing g with
  | nil => rfl
  | cons r rs ih => rw [Grid.reflectAll, ih, Grid.after_reflect, Grid.reflectAll]

private theorem get?_reflectAll (inside : g.Inside place) :
    (g.reflectAll rs).get? (g.imageAll rs place).1 (g.imageAll rs place).2 =
      g.get? place.1 place.2 := by
  induction rs generalizing g place with
  | nil => rfl
  | cons r rs ih =>
    rw [Grid.reflectAll, Grid.imageAll, ih (Grid.inside_image inside), Grid.get?_reflect inside]

private theorem isNext_check_reflectAll (a b : Grid) (rs : List Reflection) :
    (check (a.reflectAll rs) (b.reflectAll rs)).isNext = (check a b).isNext := by
  induction rs generalizing a b with
  | nil => rfl
  | cons r rs ih => rw [Grid.reflectAll, Grid.reflectAll, ih, isNext_check_reflect]

private theorem perm_mismatches_check_reflectAll (a b : Grid) (rs : List Reflection) :
    (check (a.reflectAll rs) (b.reflectAll rs)).mismatches.Perm
      ((check a b).mismatches.map (a.imageAll rs)) := by
  induction rs generalizing a b with
  | nil => simp [Grid.reflectAll, Grid.imageAll]
  | cons r rs ih =>
    have later := (perm_mismatches_check_reflect a b r).map ((a.reflect r).imageAll rs)
    rw [List.map_map] at later
    exact (ih (a.reflect r) (b.reflect r)).trans later

end Compositions

/-- The rule and the verdicts know no direction. However a grid is mirrored and transposed, its cells only
change their places, its generations are those of the grid, mirrored and transposed, and a verdict on two such
grids is that on the grids themselves, with the mismatches at the places where they have come to lie, sorted
row by row again. -/
theorem after_check_reflectAll (rs : List Reflection) :
    (∀ g : Grid, (g.reflect .leftRight).SameSize g ∧ (g.reflect .topBottom).SameSize g ∧
      (g.reflect .diagonal).width = g.height ∧ (g.reflect .diagonal).height = g.width) ∧
    (∀ (g : Grid) (row col : Nat), row < g.height → col < g.width →
      (g.reflectAll rs).get? (g.imageAll rs (row, col)).1 (g.imageAll rs (row, col)).2 =
        g.get? row col) ∧
    (∀ (g : Grid) (n : Nat), (g.reflectAll rs).after n = (g.after n).reflectAll rs) ∧
    ∀ a b : Grid,
      (check (a.reflectAll rs) (b.reflectAll rs)).isNext = (check a b).isNext ∧
      (check (a.reflectAll rs) (b.reflectAll rs)).mismatches =
        ((check a b).mismatches.map (a.imageAll rs)).mergeSort readFirst := by
  refine ⟨fun _ => ⟨⟨rfl, rfl⟩, ⟨rfl, rfl⟩, rfl, rfl⟩, ?_, fun g n => after_reflectAll g rs n, ?_⟩
  · intro g row col hrow hcol
    have inside : g.Inside (row, col) := ⟨hrow, hcol⟩
    exact get?_reflectAll inside
  · intro a b
    exact ⟨isNext_check_reflectAll a b rs,
      eq_mergeSort_of_perm pairwise_mismatches_check (perm_mismatches_check_reflectAll a b rs)⟩

theorem after_check_reflectAll_quarterTurn :
    let current := Grid.ofFn 3 2 (by decide) (by decide) fun _ _ => .alive
    let target := Grid.ofFn 3 2 (by decide) (by decide) fun row _ => if row = 0 then .alive else .dead
    let turn : List Reflection := [.diagonal, .leftRight]
    (current.reflectAll turn).get? 0 1 = current.get? 0 0 ∧
      (check current target).mismatches = [(0, 1), (1, 0), (1, 2)] ∧
      (check (current.reflectAll turn) (target.reflectAll turn)).mismatches = [(0, 0), (1, 1), (2, 0)] := by
  intro current target turn
  obtain ⟨-, moved, -, verdicts⟩ := after_check_reflectAll turn
  have first := moved current 0 0 (by decide) (by decide)
  have listed : (check current target).mismatches = [(0, 1), (1, 0), (1, 2)] := by decide
  have sorted : [(0, 0), (1, 1), (2, 0)].Pairwise ReadBefore := by simp [ReadBefore]
  have taken : [(0, 0), (1, 1), (2, 0)].Perm
      ([(0, 1), (1, 0), (1, 2)].map (current.imageAll turn)) := by decide
  refine ⟨first, listed, ?_⟩
  rw [(verdicts current target).2, listed]
  exact (eq_mergeSort_of_perm sorted taken).symm

end GameOfLife
