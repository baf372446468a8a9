import Mathlib.Data.Fintype.Basic
import Mathlib.Tactic.FinCases
import BatchScaler.Filter.PixelArt

namespace BatchScaler

namespace Neighbourhood

variable {α : Type} [DecidableEq α] (n : Neighbourhood α)

/-- The rule for doubling: the sub-pixel in a row and a column of the pixel's block. -/
def published2x (row column : ℕ) : α :=
  if n.b = n.h ∨ n.d = n.f then n.e
  else
    match row, column with
    | 0, 0 => if n.d = n.b then n.d else n.e
    | 0, _ => if n.b = n.f then n.f else n.e
    | _, 0 => if n.d = n.h then n.d else n.e
    | _, _ => if n.h = n.f then n.f else n.e

def published3x (row column : ℕ) : α :=
  if n.b = n.h ∨ n.d = n.f then n.e
  else
    match row, column with
    | 0, 0 => if n.d = n.b then n.d else n.e
    | 0, 1 => if n.d = n.b ∧ n.e ≠ n.c ∨ n.b = n.f ∧ n.e ≠ n.a then n.b else n.e
    | 0, _ => if n.b = n.f then n.f else n.e
    | 1, 0 => if n.d = n.b ∧ n.e ≠ n.g ∨ n.d = n.h ∧ n.e ≠ n.a then n.d else n.e
    | 1, 1 => n.e
    | 1, _ => if n.b = n.f ∧ n.e ≠ n.i ∨ n.h = n.f ∧ n.e ≠ n.c then n.f else n.e
    | _, 0 => if n.d = n.h then n.d else n.e
    | _, 1 => if n.d = n.h ∧ n.e ≠ n.i ∨ n.h = n.f ∧ n.e ≠ n.g then n.h else n.e
    | _, _ => if n.h = n.f then n.f else n.e

def publishedEagle (row column : ℕ) : α :=
  match row, column with
  | 0, 0 => if n.a = n.b ∧ n.a = n.d then n.a else n.e
  | 0, _ => if n.c = n.b ∧ n.c = n.f then n.c else n.e
  | _, 0 => if n.g = n.d ∧ n.g = n.h then n.g else n.e
  | _, _ => if n.i = n.f ∧ n.i = n.h then n.i else n.e

theorem topLeft_eq : n.topLeft = decide (¬(n.b = n.h ∨ n.d = n.f) ∧ n.d = n.b) := by
  grind [topLeft]

theorem topRight_eq : n.topRight = decide (¬(n.b = n.h ∨ n.d = n.f) ∧ n.b = n.f) := by
  grind [topRight]

theorem bottomLeft_eq : n.bottomLeft = decide (¬(n.b = n.h ∨ n.d = n.f) ∧ n.d = n.h) := by
  grind [bottomLeft]

theorem bottomRight_eq : n.bottomRight = decide (¬(n.b = n.h ∨ n.d = n.f) ∧ n.h = n.f) := by
  grind [bottomRight]

theorem getD_scale2x (row column : Fin 2) :
    n.scale2x.getD (row * 2 + column) n.e = n.published2x row column := by
  unfold scale2x pick published2x
  rw [topLeft_eq, topRight_eq, bottomLeft_eq, bottomRight_eq]
  by_cases hguard : n.b = n.h ∨ n.d = n.f
  · fin_cases row <;> fin_cases column <;> simp [hguard]
  · fin_cases row <;> fin_cases column <;> simp [hguard]

theorem getD_scale3x (row column : Fin 3) :
    n.scale3x.getD (row * 3 + column) n.e = n.published3x row column := by
  unfold scale3x pick published3x
  rw [topLeft_eq, topRight_eq, bottomLeft_eq, bottomRight_eq]
  by_cases hguard : n.b = n.h ∨ n.d = n.f
  · fin_cases row <;> fin_cases column <;> simp [hguard]
  · fin_cases row <;> fin_cases column <;> simp [hguard, or_comm]

theorem getD_eagle2x (row column : Fin 2) :
    n.eagle2x.getD (row * 2 + column) n.e = n.publishedEagle row column := by
  unfold eagle2x pick publishedEagle
  fin_cases row <;> fin_cases column <;> simp

end Neighbourhood

namespace Scaler

variable {α : Type} [DecidableEq α]

/-- The sub-pixel that a scaler puts into a row and a column of a pixel's block. -/
def subPixel (s : Scaler) (n : Neighbourhood α) (row column : ℕ) : α :=
  (s.subPixels n).getD (row * s.factor + column) n.e

def published (s : Scaler) (n : Neighbourhood α) : ℕ → ℕ → α :=
  match s with
  | scale2x => n.published2x
  | scale3x => n.published3x
  | eagle2x => n.publishedEagle

theorem subPixel_eq_published (s : Scaler) (n : Neighbourhood α) (row column : Fin s.factor) :
    s.subPixel n row column = s.published n row column := by
  cases s with
  | scale2x => exact n.getD_scale2x row column
  | scale3x => exact n.getD_scale3x row column
  | eagle2x => exact n.getD_eagle2x row column

end Scaler

end BatchScaler
