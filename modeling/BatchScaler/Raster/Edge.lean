import BatchScaler.Fault
import BatchScaler.Raster.Basic

namespace BatchScaler

inductive EdgeMode
  | constantExtension
  /-- The raster is reflected, the edge pixel included. -/
  | mirror
  | wrap
  deriving DecidableEq, Repr

/-- How the image engine fills what lies beyond the edge. -/
inductive Extend
  | copy
  | mirror
  | tile
  deriving DecidableEq, Repr

inductive PadMode
  | edge
  | symmetric
  | wrap
  deriving DecidableEq, Repr

namespace Extend

/-- The position on an axis of length `n` that stands for position `i`. -/
def index (extend : Extend) (n : Nat) (i : Int) : Nat :=
  match extend with
  | .copy => (max 0 (min i ((n : Int) - 1))).toNat
  | .mirror =>
    let k := (i % (2 * n : Int)).toNat
    if k < n then k else 2 * n - 1 - k
  | .tile => (i % (n : Int)).toNat

theorem index_lt (extend : Extend) {n : Nat} (h : 0 < n) (i : Int) : extend.index n i < n := by
  cases extend with
  | copy => simp only [index]; omega
  | mirror =>
    simp only [index]
    have := Int.emod_lt_of_pos i (show (0 : Int) < 2 * n by omega)
    have := Int.emod_nonneg i (show (2 * n : Int) ≠ 0 by omega)
    split <;> omega
  | tile =>
    simp only [index]
    have := Int.emod_lt_of_pos i (show (0 : Int) < n by omega)
    have := Int.emod_nonneg i (show (n : Int) ≠ 0 by omega)
    omega

def source (extend : Extend) {n : Nat} (h : 0 < n) (i : Int) : Fin n :=
  ⟨extend.index n i, extend.index_lt h i⟩

end Extend

namespace PadMode

/-- The position on an axis of length `n` whose value is put at position `i`. -/
def index (mode : PadMode) (n : Nat) (i : Int) : Nat :=
  match mode with
  | .edge => if i < 0 then 0 else min i.toNat (n - 1)
  | .symmetric =>
    let k := (i % (2 * n : Int)).toNat
    min k (2 * n - 1 - k)
  | .wrap => (i - n * (i / n)).toNat

theorem index_lt (mode : PadMode) {n : Nat} (h : 0 < n) (i : Int) : mode.index n i < n := by
  cases mode with
  | edge =>
    simp only [index]
    split <;> omega
  | symmetric =>
    simp only [index]
    have := Int.emod_lt_of_pos i (show (0 : Int) < 2 * n by omega)
    have := Int.emod_nonneg i (show (2 * n : Int) ≠ 0 by omega)
    omega
  | wrap =>
    simp only [index, ← Int.emod_def]
    have := Int.emod_lt_of_pos i (show (0 : Int) < n by omega)
    have := Int.emod_nonneg i (show (n : Int) ≠ 0 by omega)
    omega

def source (mode : PadMode) {n : Nat} (h : 0 < n) (i : Int) : Fin n :=
  ⟨mode.index n i, mode.index_lt h i⟩

end PadMode

namespace EdgeMode

def extend : EdgeMode → Extend
  | constantExtension => .copy
  | mirror => .mirror
  | wrap => .tile

def padMode : EdgeMode → PadMode
  | constantExtension => .edge
  | mirror => .symmetric
  | wrap => .wrap

def index (mode : EdgeMode) (n : Nat) (i : Int) : Nat :=
  mode.extend.index n i

/-- The two ways to read beyond the edge that belong to a mode are one. -/
theorem index_padMode (mode : EdgeMode) (n : Nat) (i : Int) :
    mode.padMode.index n i = mode.index n i := by
  cases mode with
  | constantExtension =>
    simp only [index, extend, padMode, Extend.index, PadMode.index]
    split <;> omega
  | mirror =>
    simp only [index, extend, padMode, Extend.index, PadMode.index]
    rcases Nat.eq_zero_or_pos n with rfl | hn
    · simp
    · have hlt := Int.emod_lt_of_pos i (show (0 : Int) < 2 * n by omega)
      split <;> omega
  | wrap =>
    simp only [index, extend, padMode, Extend.index, PadMode.index, Int.emod_def]

theorem index_lt (mode : EdgeMode) {n : Nat} (h : 0 < n) (i : Int) : mode.index n i < n :=
  mode.extend.index_lt h i

theorem index_of_lt (mode : EdgeMode) {n i : Nat} (h : i < n) : mode.index n i = i := by
  cases mode with
  | constantExtension => simp only [index, extend, Extend.index]; omega
  | mirror =>
    simp only [index, extend, Extend.index]
    rw [Int.emod_eq_of_lt (by omega) (by omega), Int.toNat_natCast, if_pos h]
  | wrap =>
    simp only [index, extend, Extend.index]
    rw [Int.emod_eq_of_lt (by omega) (by omega), Int.toNat_natCast]

def source (mode : EdgeMode) {n : Nat} (h : 0 < n) (i : Int) : Fin n :=
  mode.extend.source h i

theorem source_padMode (mode : EdgeMode) {n : Nat} (h : 0 < n) (i : Int) :
    mode.padMode.source h i = mode.source h i :=
  Fin.ext (mode.index_padMode n i)

end EdgeMode

namespace Raster

variable {α : Type} (r : Raster α)

def view (x y : Int) (width height : Nat) (extend : Extend) (hw : 0 < r.width)
    (hh : 0 < r.height) : Raster α :=
  r.remap width height (fun i => extend.source hw (x + i)) (fun j => extend.source hh (y + j))

def padRows (margin : Nat) (mode : PadMode) (h : 0 < r.height) : Raster α :=
  r.remap r.width (r.height + 2 * margin) id fun j => mode.source h ((j : Int) - margin)

def padColumns (margin : Nat) (mode : PadMode) (h : 0 < r.width) : Raster α :=
  r.remap (r.width + 2 * margin) r.height (fun i => mode.source h ((i : Int) - margin)) id

/-- The raster with the same margin on all sides, the rows padded first. Only an empty margin can
be added to an axis without pixels. -/
def pad (margin : Int) (xMode yMode : EdgeMode) : Except Fault (Raster α) :=
  if margin < 0 then .error .negativeMargin
  else if margin = 0 then .ok r
  else if hh : 0 < r.height then
    let tall := r.padRows margin.toNat yMode.padMode hh
    if hw : 0 < tall.width then .ok (tall.padColumns margin.toNat xMode.padMode hw)
    else .error (.emptyAxis .columns)
  else .error (.emptyAxis .rows)

end Raster

end BatchScaler
