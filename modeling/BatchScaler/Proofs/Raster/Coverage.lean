import Mathlib.Data.List.Nodup
import BatchScaler.Proofs.Raster.Assembly

namespace BatchScaler

/-- Where a pixel of a block is found: the number of the block, and a column and a row of it. -/
@[ext]
structure BlockPixel where
  block : ℕ
  column : ℕ
  row : ℕ
  deriving DecidableEq

namespace BlockPixel

variable {factor width height : ℕ} {s : BlockPixel}

def place (factor : ℕ) (s : BlockPixel) : ℕ × ℕ :=
  (blockColumn factor s.block s.column, blockRow factor s.block s.row)

def ofPlace (factor : ℕ) (p : ℕ × ℕ) : BlockPixel where
  block := blockIndex factor p.1 p.2
  column := p.1 / factor
  row := p.2 / factor

theorem place_ofPlace (hfactor : 0 < factor) (p : ℕ × ℕ) : (ofPlace factor p).place factor = p := by
  obtain ⟨hx, hy⟩ := (Raster.blockIndex_eq_iff hfactor p.1 p.2 _).1 rfl
  exact Prod.ext hx.symm hy.symm

theorem ofPlace_place (hs : s.block < factor * factor) : ofPlace factor (s.place factor) = s := by
  have hfactor := Raster.factor_pos_of_lt hs
  have hcolumn : (s.place factor).1 / factor = s.column := Raster.div_of_blockColumn hfactor rfl
  have hrow : (s.place factor).2 / factor = s.row := Raster.div_of_blockRow hs rfl
  have hblock : blockIndex factor (s.place factor).1 (s.place factor).2 = s.block := by
    rw [Raster.blockIndex_eq_iff hfactor, hcolumn, hrow]
    exact ⟨rfl, rfl⟩
  exact BlockPixel.ext hblock hcolumn hrow

def Within (factor width height : ℕ) (s : BlockPixel) : Prop :=
  s.block < factor * factor ∧ s.column < width ∧ s.row < height

theorem Within.place_lt (hs : s.Within factor width height) :
    (s.place factor).1 < width * factor ∧ (s.place factor).2 < height * factor := by
  obtain ⟨hblock, hcolumn, hrow⟩ := hs
  have hfactor := Raster.factor_pos_of_lt hblock
  exact ⟨Raster.blockColumn_lt hfactor s.block hcolumn, Raster.blockRow_lt hblock hrow⟩

theorem within_ofPlace (hfactor : 0 < factor) {p : ℕ × ℕ} (hx : p.1 < width * factor)
    (hy : p.2 < height * factor) : (ofPlace factor p).Within factor width height :=
  ⟨Raster.blockIndex_lt hfactor p.1 p.2, (Nat.div_lt_iff_lt_mul hfactor).2 hx,
    (Nat.div_lt_iff_lt_mul hfactor).2 hy⟩

end BlockPixel

namespace Raster

variable {α : Type} {factor width height : ℕ} {block : Raster α} {blocks : List (Raster α)}

def blockWrites (block : Raster α × ℕ) : List (BlockPixel × α) :=
  (positions block.1.width block.1.height).map fun (x, y) => (⟨block.2, x, y⟩, block.1.get x y)

def write (factor : ℕ) (canvas : Raster α) (w : BlockPixel × α) : Raster α :=
  canvas.set (w.1.place factor).1 (w.1.place factor).2 w.2

theorem scatter_eq_foldl_write (factor : ℕ) (canvas : Raster α) (block : Raster α × ℕ) :
    scatter factor canvas block = (blockWrites block).foldl (write factor) canvas := by
  unfold blockWrites
  rw [List.foldl_map]
  rfl

theorem mem_blockWrites_iff {k : ℕ} {w : BlockPixel × α} :
    w ∈ blockWrites (block, k) ↔ w.1.block = k ∧ block.pixel? w.1.column w.1.row = some w.2 := by
  constructor
  · intro hw
    obtain ⟨⟨x, y⟩, -, rfl⟩ := List.mem_map.1 hw
    exact ⟨rfl, pixel?_of_lt x.isLt y.isLt⟩
  · rintro ⟨rfl, hpixel⟩
    obtain ⟨hx, hy, hget⟩ := get_of_pixel? hpixel
    exact List.mem_map.2 ⟨(⟨_, hx⟩, ⟨_, hy⟩), mem_positions _, Prod.ext rfl hget⟩

def writes (blocks : List (Raster α)) : List (BlockPixel × α) :=
  blocks.zipIdx.flatMap blockWrites

theorem mem_writes_iff {w : BlockPixel × α} :
    w ∈ writes blocks ↔
      ∃ block, blocks[w.1.block]? = some block ∧ block.pixel? w.1.column w.1.row = some w.2 := by
  unfold writes
  rw [List.mem_flatMap]
  constructor
  · rintro ⟨⟨block, k⟩, hblock, hw⟩
    obtain ⟨rfl, hpixel⟩ := mem_blockWrites_iff.1 hw
    exact ⟨block, List.mem_zipIdx_iff_getElem?.1 hblock, hpixel⟩
  · rintro ⟨block, hblock, hpixel⟩
    exact ⟨(block, w.1.block), List.mem_zipIdx_iff_getElem?.2 hblock,
      mem_blockWrites_iff.2 ⟨rfl, hpixel⟩⟩

def sources (blocks : List (Raster α)) : List BlockPixel :=
  (writes blocks).map Prod.fst

theorem nodup_positions (width height : ℕ) : (positions width height).Nodup := by
  refine List.nodup_flatMap.2 ⟨fun y _ ↦ ?_, ?_⟩
  · exact (List.nodup_finRange width).map fun _ _ h ↦ congrArg Prod.fst h
  · refine (List.nodup_finRange height).imp fun {y y'} hne ↦ ?_
    intro p hp hp'
    obtain ⟨x, -, rfl⟩ := List.mem_map.1 hp
    obtain ⟨x', -, hsame⟩ := List.mem_map.1 hp'
    exact hne (congrArg Prod.snd hsame).symm

theorem nodup_sources (blocks : List (Raster α)) : (sources blocks).Nodup := by
  have hnumbers : (blocks.zipIdx.map Prod.snd).Nodup := by
    rw [List.zipIdx_map_snd]
    exact List.nodup_range'
  unfold sources writes
  rw [List.map_flatMap]
  -- Pixels of one block differ in their column or row, those of two blocks in the block's number.
  refine List.nodup_flatMap.2 ⟨fun block _ ↦ ?_, ?_⟩
  · unfold blockWrites
    rw [List.map_map]
    refine (nodup_positions _ _).map fun p q h ↦ ?_
    obtain ⟨-, hx, hy⟩ := BlockPixel.mk.inj h
    exact Prod.ext (Fin.ext hx) (Fin.ext hy)
  · refine (List.pairwise_map.1 hnumbers).imp fun {a b} hne ↦ ?_
    intro s hs hs'
    obtain ⟨w, hw, rfl⟩ := List.mem_map.1 hs
    obtain ⟨w', hw', hsame⟩ := List.mem_map.1 hs'
    rw [← (mem_blockWrites_iff.1 hw).1, ← (mem_blockWrites_iff.1 hw').1, hsame] at hne
    exact hne rfl

def places (factor : ℕ) (blocks : List (Raster α)) : List (ℕ × ℕ) :=
  (sources blocks).map (BlockPixel.place factor)

section OneSize

variable (hlength : blocks.length = factor * factor)
  (hblocks : ∀ block ∈ blocks, block.width = width ∧ block.height = height)

include hlength hblocks

theorem mem_sources_iff {s : BlockPixel} :
    s ∈ sources blocks ↔ s.Within factor width height := by
  unfold sources BlockPixel.Within
  rw [List.mem_map, ← hlength]
  constructor
  · rintro ⟨w, hw, rfl⟩
    obtain ⟨block, hblock, hpixel⟩ := mem_writes_iff.1 hw
    obtain ⟨hx, hy, -⟩ := get_of_pixel? hpixel
    obtain ⟨rfl, rfl⟩ := hblocks block (List.mem_of_getElem? hblock)
    exact ⟨(List.getElem?_eq_some_iff.1 hblock).1, hx, hy⟩
  · rintro ⟨hk, hx, hy⟩
    obtain ⟨hwidth, hheight⟩ := hblocks blocks[s.block] (List.getElem_mem hk)
    have hpixel := pixel?_of_lt (r := blocks[s.block]) (hwidth ▸ hx) (hheight ▸ hy)
    exact ⟨(s, _), mem_writes_iff.2 ⟨_, List.getElem?_eq_getElem hk, hpixel⟩, rfl⟩

theorem nodup_places : (places factor blocks).Nodup := by
  refine (nodup_sources blocks).map_on fun s hs s' hs' hsame ↦ ?_
  have hwithin := (mem_sources_iff hlength hblocks).1 hs
  have hwithin' := (mem_sources_iff hlength hblocks).1 hs'
  rw [← BlockPixel.ofPlace_place hwithin.1, hsame, BlockPixel.ofPlace_place hwithin'.1]

theorem mem_places_iff (hfactor : 0 < factor) {p : ℕ × ℕ} :
    p ∈ places factor blocks ↔ p.1 < width * factor ∧ p.2 < height * factor := by
  constructor
  · intro hp
    obtain ⟨s, hs, rfl⟩ := List.mem_map.1 hp
    exact ((mem_sources_iff hlength hblocks).1 hs).place_lt
  · rintro ⟨hx, hy⟩
    have hwithin := BlockPixel.within_ofPlace hfactor hx hy
    exact List.mem_map.2 ⟨_, (mem_sources_iff hlength hblocks).2 hwithin,
      BlockPixel.place_ofPlace hfactor p⟩

theorem exists_write (hfactor : 0 < factor) {p : ℕ × ℕ} (hx : p.1 < width * factor)
    (hy : p.2 < height * factor) :
    ∃ c, (.ofPlace factor p, c) ∈ writes blocks ∧
      ∀ w ∈ writes blocks, w.1.place factor = p → w = (.ofPlace factor p, c) := by
  have hwithin := BlockPixel.within_ofPlace hfactor hx hy
  obtain ⟨⟨s, c⟩, hw, rfl⟩ := List.mem_map.1 ((mem_sources_iff hlength hblocks).2 hwithin)
  refine ⟨c, hw, ?_⟩
  rintro w' hw' rfl
  have hwithin' := (mem_sources_iff hlength hblocks).1 (List.mem_map_of_mem hw')
  apply List.inj_on_of_nodup_map (nodup_sources blocks) hw' hw
  exact (BlockPixel.ofPlace_place hwithin'.1).symm

theorem foldl_scatter_congr {canvas canvas' : Raster α} (hfactor : 0 < factor)
    (hcanvas : canvas.width = width * factor ∧ canvas.height = height * factor)
    (hcanvas' : canvas'.width = width * factor ∧ canvas'.height = height * factor) :
    blocks.zipIdx.foldl (scatter factor) canvas = blocks.zipIdx.foldl (scatter factor) canvas' := by
  obtain ⟨hwidth, hheight⟩ := sides_of_size (size_foldl_scatter factor blocks.zipIdx canvas)
  obtain ⟨hwidth', hheight'⟩ := sides_of_size (size_foldl_scatter factor blocks.zipIdx canvas')
  apply ext_pixel?
  · rw [hwidth, hwidth', hcanvas.1, hcanvas'.1]
  · rw [hheight, hheight', hcanvas.2, hcanvas'.2]
  · intro x y
    rw [pixel?_foldl_scatter_zipIdx hfactor hlength hblocks hcanvas.1 hcanvas.2,
      pixel?_foldl_scatter_zipIdx hfactor hlength hblocks hcanvas'.1 hcanvas'.2]

end OneSize

/-- An assembly consists of its writes, and whatever the canvas held, they cover it: each position
is written once, with pixel `(x / factor, y / factor)` of block
`y % factor * factor + x % factor`, and each pixel of each block goes to one position. -/
theorem covers_canvas_once (hfactor : 0 < factor) (hlength : blocks.length = factor * factor)
    (hblocks : ∀ block ∈ blocks, block.width = width ∧ block.height = height)
    (canvas : Raster α) (hwidth : canvas.width = width * factor)
    (hheight : canvas.height = height * factor) (fill : α) :
    blocks.zipIdx.foldl (scatter factor) canvas = assemble fill factor blocks ∧
    (assemble fill factor blocks).size = ⟨width * factor, height * factor⟩ ∧
    (∀ (start : Raster α) (block : Raster α × ℕ),
      scatter factor start block = (blockWrites block).foldl (write factor) start) ∧
    (∀ p : ℕ × ℕ, (places factor blocks).count p =
      if p.1 < width * factor ∧ p.2 < height * factor then 1 else 0) ∧
    (∀ x < width * factor, ∀ y < height * factor, ∃ block c,
      blocks[y % factor * factor + x % factor]? = some block ∧
      block.pixel? (x / factor) (y / factor) = some c ∧
      (assemble fill factor blocks).pixel? x y = some c ∧
      ∀ w ∈ writes blocks, w.1.place factor = (x, y) →
        w = (⟨y % factor * factor + x % factor, x / factor, y / factor⟩, c)) ∧
    ∀ k < factor * factor, ∀ x < width, ∀ y < height,
      (sources blocks).count ⟨k, x, y⟩ = 1 ∧
      ∃! p : ℕ × ℕ, p.1 < width * factor ∧ p.2 < height * factor ∧
        BlockPixel.ofPlace factor p = ⟨k, x, y⟩ := by
  have hcanvas : canvas.size = ⟨width * factor, height * factor⟩ := by
    unfold size
    rw [hwidth, hheight, Int.natCast_mul, Int.natCast_mul]
  have hresult : blocks.zipIdx.foldl (scatter factor) canvas = assemble fill factor blocks := by
    cases blocks with
    | nil => exact absurd hlength (Nat.mul_pos hfactor hfactor).ne
    | cons block rest =>
      obtain ⟨rfl, rfl⟩ := (List.forall_mem_cons.1 hblocks).1
      exact foldl_scatter_congr hlength hblocks hfactor ⟨hwidth, hheight⟩ ⟨rfl, rfl⟩
  refine ⟨hresult, ?_, scatter_eq_foldl_write factor, fun p ↦ ?_,
    fun x hx y hy ↦ ?_, fun k hk x hx y hy ↦ ⟨?_, ?_⟩⟩
  · rw [← hresult, size_foldl_scatter, hcanvas]
  · rw [(nodup_places hlength hblocks).count]
    exact if_congr (mem_places_iff hlength hblocks hfactor) rfl rfl
  · obtain ⟨c, hwritten, honly⟩ := exists_write hlength hblocks hfactor (p := (x, y)) hx hy
    obtain ⟨block, hblock, hshown⟩ := mem_writes_iff.1 hwritten
    refine ⟨block, c, hblock, hshown, ?_, honly⟩
    rw [pixel?_assemble hfactor hlength hblocks]
    exact Option.bind_eq_some_iff.2 ⟨block, hblock, hshown⟩
  · exact List.count_eq_one_of_mem (nodup_sources blocks)
      ((mem_sources_iff hlength hblocks).2 ⟨hk, hx, hy⟩)
  · have hwithin : BlockPixel.Within factor width height ⟨k, x, y⟩ := ⟨hk, hx, hy⟩
    refine ⟨_, ⟨hwithin.place_lt.1, hwithin.place_lt.2, BlockPixel.ofPlace_place hk⟩, ?_⟩
    rintro p ⟨-, -, hp⟩
    rw [← hp, BlockPixel.place_ofPlace hfactor]

/-- Sixteen blocks of two pixels, each of two samples, on a canvas that was used before. -/
theorem covers_canvas_once_fourfold :
    let blocks : List (Raster (Vector ℕ 2)) :=
      (List.range 16).map fun k ↦ .ofFn 2 1 fun x _ ↦ #v[k, x]
    let canvas : Raster (Vector ℕ 2) := .ofFn 8 4 fun x y ↦ #v[x * y, 7]
    (0 < 4 ∧ blocks.length = 4 * 4 ∧ (∀ block ∈ blocks, block.width = 2 ∧ block.height = 1) ∧
      canvas.width = 2 * 4 ∧ canvas.height = 1 * 4) ∧
    blocks.zipIdx.foldl (scatter 4) canvas = assemble #v[0, 0] 4 blocks ∧
    (places 4 blocks).count (7, 2) = 1 ∧ (places 4 blocks).count (8, 2) = 0 ∧
    (assemble #v[0, 0] 4 blocks).pixel? 7 2 = some #v[11, 1] ∧
    ∃! p : ℕ × ℕ, p.1 < 2 * 4 ∧ p.2 < 1 * 4 ∧ BlockPixel.ofPlace 4 p = ⟨11, 1, 0⟩ := by
  intro blocks canvas
  have hlength : blocks.length = 4 * 4 := rfl
  have hblocks : ∀ block ∈ blocks, block.width = 2 ∧ block.height = 1 := by
    intro block hblock
    obtain ⟨k, -, rfl⟩ := List.mem_map.1 hblock
    exact ⟨rfl, rfl⟩
  obtain ⟨hresult, -, -, hplaces, hshown, happears⟩ :=
    covers_canvas_once (by decide) hlength hblocks canvas rfl rfl #v[0, 0]
  refine ⟨⟨by decide, hlength, hblocks, rfl, rfl⟩, hresult, hplaces (7, 2), hplaces (8, 2), ?_,
    (happears 11 (by decide) 1 (by decide) 0 (by decide)).2⟩
  obtain ⟨block, c, hblock, hc, hassembled, -⟩ := hshown 7 (by decide) 2 (by decide)
  obtain rfl := Option.some.inj hblock
  rw [hassembled, ← hc]
  rfl

end Raster

end BatchScaler
