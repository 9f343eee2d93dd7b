/-!
A cell of the board and the rule that decides its fate: a cell with three live neighbours is alive
in the next generation, one with two stays as it is, every other cell is dead.
-/

set_option autoImplicit false
set_option relaxedAutoImplicit false

namespace GameOfLife

inductive Cell where
  | dead
  | alive
  deriving DecidableEq

namespace Cell

def isAlive : Cell → Bool
  | dead => false
  | alive => true

def toNat : Cell → Nat
  | dead => 0
  | alive => 1

/-- The cell that a value stands for; only 0 and 1 stand for one. -/
def ofInt? (value : Int) : Option Cell :=
  if value = 0 then some dead
  else if value = 1 then some alive
  else none

def digit : Cell → Char
  | dead => '0'
  | alive => '1'

/-- Birth on three live neighbours, survival on two or three. -/
def step : Cell → Nat → Cell
  | alive, 2 => alive
  | _, 3 => alive
  | _, _ => dead

theorem isAlive_iff {c : Cell} : c.isAlive = true ↔ c = alive := by
  cases c <;> simp [isAlive]

theorem isAlive_inj {a b : Cell} : a.isAlive = b.isAlive ↔ a = b := by
  cases a <;> cases b <;> simp [isAlive]

theorem ofInt?_eq_some_iff {v : Int} {c : Cell} : ofInt? v = some c ↔ v = c.toNat := by
  unfold ofInt?
  split
  · cases c <;> simp [toNat, *]
  · split <;> cases c <;> simp [toNat, *]

theorem ofInt?_eq_none_iff {v : Int} : ofInt? v = none ↔ v ≠ 0 ∧ v ≠ 1 := by
  unfold ofInt?
  split <;> simp_all

theorem ofInt?_toNat (c : Cell) : ofInt? c.toNat = some c :=
  ofInt?_eq_some_iff.2 rfl

theorem isAlive_step {c : Cell} {n : Nat} :
    (c.step n).isAlive = true ↔ n = 3 ∨ n = 2 ∧ c.isAlive = true := by
  cases c <;> unfold step <;> split <;> simp_all [isAlive]

end Cell

end GameOfLife
