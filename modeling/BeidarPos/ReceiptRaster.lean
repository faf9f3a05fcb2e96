import BeidarPos.Word
import BeidarPos.Buffers
import Mathlib.Algebra.Order.Floor.Div

/-! The raster image of a receipt. The picture is sampled to shades, dithered row by row with
the error of every dot spread over its neighbours, and packed eight dots to a byte. A run
that reads or writes out of range ends in `none`. -/
namespace BeidarPos

open Machine Buffers

/-- What the program uses of double precision. -/
structure Float64 (F : Type) where
  ofInt : Int → F
  toInt : F → Int
  add : F → F → F
  sub : F → F → F
  mul : F → F → F
  div : F → F → F
  less : F → F → Bool
  equal : F → F → Bool

structure Colour where
  red : UInt32
  green : UInt32
  blue : UInt32

/-- A colour is answered everywhere, outside the bounds too. -/
structure Image where
  minX : Int
  minY : Int
  maxX : Int
  maxY : Int
  colourAt : Int → Int → Colour

namespace Image

def dx (image : Image) : Int := Word.int64.sub image.maxX image.minX
def dy (image : Image) : Int := Word.int64.sub image.maxY image.minY

end Image

def maxBitmapHeight : Int := 30000
def maxBitmapWidth : Int := 576

section Raster

variable {F : Type} (float : Float64 F)

/-- A picture that is too wide is made narrower, and as much lower. -/
def scaledSize (srcW srcH : Int) : Int × Int :=
  if srcW > maxBitmapWidth then
    let ratio := float.div (float.ofInt maxBitmapWidth) (float.ofInt srcW)
    let height := float.toInt (float.mul (float.ofInt srcH) ratio)
    (maxBitmapWidth, if height < 1 then 1 else height)
  else (srcW, srcH)

def rasterSize (image : Image) : Except String (Nat × Nat) :=
  let srcW := image.dx
  let srcH := image.dy
  if srcW ≤ 0 ∨ srcH ≤ 0 then .error "image has empty bounds"
  else if srcH > maxBitmapHeight then
    .error ("image height " ++ toString srcH ++ " exceeds limit " ++ toString maxBitmapHeight)
  else
    let (width, height) := scaledSize float srcW srcH
    if height > maxBitmapHeight then
      .error ("scaled image height " ++ toString height ++ " exceeds limit " ++ toString maxBitmapHeight)
    else .ok (width.toNat, height.toNat)

section Loops

variable (width height : Nat)

/-- The coordinate in the picture, never past its last. -/
def sourceOf (i source size : Int) : Int :=
  let src := Word.int64.quot (Word.int64.mul i source) size
  if src ≥ source then Word.int64.sub source 1 else src

def sampleRow (image : Image) (gray : List F) (y : Nat) : Option (List F) := do
  let srcY := sourceOf y image.dy height
  let row ← window gray (y * width) ((y + 1) * width)
  (List.range width).foldlM (fun gray (x : Nat) =>
    let srcX := sourceOf x image.dx width
    let c := image.colourAt (Word.int64.add srcX image.minX) (Word.int64.add srcY image.minY)
    let level := (c.red + c.green + c.blue) / 3
    row.write gray x (float.div (float.ofInt level.toNat) (float.ofInt 257))) gray

/-- The grid of shades, from 0 to 255. -/
def sample (image : Image) : Option (List F) :=
  (List.range height).foldlM (sampleRow float width height image) (List.replicate (width * height) (float.ofInt 0))

def clamp (p : F) : F :=
  if float.less p (float.ofInt 0) then float.ofInt 0
  else if float.less (float.ofInt 255) p then float.ofInt 255 else p

def quantize (p : F) : F := if float.less p (float.ofInt 128) then float.ofInt 0 else float.ofInt 255

/-- Adds so many sixteenths of the error. -/
def spread (err : F) (sixteenths : Int) (shade : F) : F :=
  float.add shade (float.div (float.mul err (float.ofInt sixteenths)) (float.ofInt 16))

/-- Floyd and Steinberg: to the right, and to the three dots below. -/
def diffuse (gray : List F) (row : Window) (y x : Nat) (err : F) : Option (List F) := do
  let gray ← row.updateIf (x + 1 < width) gray (x + 1) (spread float err 7)
  if y + 1 < height then
    let next ← window gray ((y + 1) * width) ((y + 2) * width)
    let gray ← next.updateIf (x > 0) gray (x - 1) (spread float err 3)
    let gray ← next.update gray x (spread float err 5)
    next.updateIf (x + 1 < width) gray (x + 1) (spread float err 1)
  else some gray

/-- The shades left behind, and what the dot was rounded to. -/
def quantizeDot (row : Window) (y : Nat) (gray : List F) (x : Nat) : Option (List F × F) := do
  let shade ← row.read gray x
  let p := clamp float shade
  let quantized := quantize float p
  let gray ← diffuse float width height gray row y x (float.sub p quantized)
  some (gray, quantized)

/-- A dot is drawn when it was rounded to black. -/
def isBlack (quantized : F) : Bool := float.equal quantized (float.ofInt 0)

def bytesPerRow : Nat := (width + 7) / 8

structure Grid (F : Type) where
  gray : List F
  bitmap : List UInt8

def drawDot (bitmap : List UInt8) (y x : Nat) : Option (List UInt8) := do
  let i := y * bytesPerRow width + x / 8
  let byte ← bitmap[i]?
  store bitmap i (byte ||| (0x80 >>> (x % 8).toUInt8))

def ditherDot (row : Window) (y : Nat) (grid : Grid F) (x : Nat) : Option (Grid F) := do
  let (gray, quantized) ← quantizeDot float width height row y grid.gray x
  let bitmap ← if isBlack float quantized then drawDot width grid.bitmap y x else some grid.bitmap
  some ⟨gray, bitmap⟩

def ditherRow (grid : Grid F) (y : Nat) : Option (Grid F) := do
  let row ← window grid.gray (y * width) ((y + 1) * width)
  (List.range width).foldlM (ditherDot float width height row y) grid

def dither (gray : List F) : Option (Grid F) :=
  (List.range height).foldlM (ditherRow float width height) ⟨gray, List.replicate (bytesPerRow width * height) 0⟩

end Loops

def rasterHeader (width height : Nat) : List UInt8 :=
  let low (n : Nat) : UInt8 := (n &&& 0xFF).toUInt8
  let high (n : Nat) : UInt8 := ((n >>> 8) &&& 0xFF).toUInt8
  [0x1D, 'v'.toUInt8, '0'.toUInt8, 0, low (bytesPerRow width), high (bytesPerRow width), low height, high height]

/-- The command and the dots, or the message of a refusal. -/
def imageToBitmapData (image : Image) : Option (Except String (List UInt8)) :=
  match rasterSize float image with
  | .error message => some (.error message)
  | .ok (width, height) => do
    let gray ← sample float width height image
    let grid ← dither float width height gray
    some (.ok (rasterHeader width height ++ grid.bitmap))

section Decisions

variable (width height : Nat)

def grayDot (row : Window) (y : Nat) (gray : List F) (x : Nat) : Option (List F) :=
  (quantizeDot float width height row y gray x).map Prod.fst

def grayRow (gray : List F) (y : Nat) : Option (List F) := do
  let row ← window gray (y * width) ((y + 1) * width)
  (List.range width).foldlM (grayDot float width height row y) gray

/-- Whether the dithering makes the dot black, over the shades which the dots before it leave;
nothing is drawn. -/
def decided (gray : List F) (y x : Nat) : Option Bool := do
  let gray ← (List.range y).foldlM (grayRow float width height) gray
  let row ← window gray (y * width) ((y + 1) * width)
  let gray ← (List.range x).foldlM (grayDot float width height row y) gray
  let (_, quantized) ← quantizeDot float width height row y gray x
  some (isBlack float quantized)

def madeBlack (gray : List F) (y x : Nat) : Prop := decided float width height gray y x = some true

end Decisions

end Raster

/-- The dot of a bitmap, the leftmost of eight in the highest bit. -/
def dotAt (bytes : Nat) (bitmap : List UInt8) (y x : Nat) : Bool :=
  (bitmap.getD (y * bytes + x / 8) 0).toNat.testBit (7 - x % 8)

/-- Raster data of a size, with exactly the dots that are black; the dots that fill the last
byte of a row are white. -/
structure Framed (data : List UInt8) (width height : Nat) (black : Nat → Nat → Prop) : Prop where
  command : data.take 4 = [0x1D, 'v'.toUInt8, '0'.toUInt8, 0]
  columns : (data.getD 4 0).toNat + 256 * (data.getD 5 0).toNat = width ⌈/⌉ 8
  rows : (data.getD 6 0).toNat + 256 * (data.getD 7 0).toNat = height
  size : (data.drop 8).length = ((data.getD 4 0).toNat + 256 * (data.getD 5 0).toNat) * height
  dots : ∀ y < height, ∀ x < 8 * (width ⌈/⌉ 8),
    (dotAt (width ⌈/⌉ 8) (data.drop 8) y x = true ↔ x < width ∧ black y x)

section Shades

variable {F : Type} (float : Float64 F) {width height y x : Nat} {gray : List F}

def rowOf (width y : Nat) : Window := ⟨y * width, (y + 1) * width⟩

theorem row_end (inside : y < height) : (y + 1) * width ≤ width * height := by
  rw [Nat.mul_comm width]
  exact Nat.mul_le_mul_right _ inside

theorem row_window (length : gray.length = width * height) (inside : y < height) :
    window gray (y * width) ((y + 1) * width) = some (rowOf width y) :=
  window_some (Nat.mul_le_mul_right _ (Nat.le_succ y)) (length ▸ row_end inside)

theorem row_within (within : x < width) : (rowOf width y).start + x < (rowOf width y).stop := by
  simp only [rowOf, Nat.succ_mul]
  omega

theorem updateIf_row (length : gray.length = width * height) (needed : Prop) [Decidable needed]
    (inside : needed → y < height ∧ x < width) (change : F → F) :
    ∃ after, (rowOf width y).updateIf needed gray x change = some after ∧ after.length = width * height := by
  rw [← length]
  exact updateIf_some (fun need => ⟨row_within (inside need).2, length ▸ row_end (inside need).1⟩) change

theorem diffuse_some (length : gray.length = width * height) (inside : y < height) (within : x < width) (err : F) :
    ∃ after, diffuse float width height gray (rowOf width y) y x err = some after ∧ after.length = width * height := by
  obtain ⟨right, spread_right, kept⟩ := updateIf_row length (x + 1 < width) (fun next => ⟨inside, next⟩)
    (spread float err 7)
  rw [diffuse, spread_right]
  by_cases below : y + 1 < height
  · obtain ⟨left, spread_left, keptLeft⟩ := updateIf_row kept (x > 0)
      (fun _ => ⟨below, (by omega : x - 1 < width)⟩) (spread float err 3)
    obtain ⟨middle, spread_middle, keptMiddle⟩ := updateIf_row keptLeft True (fun _ => ⟨below, within⟩)
      (spread float err 5)
    obtain ⟨last, spread_last, keptLast⟩ := updateIf_row keptMiddle (x + 1 < width) (fun next => ⟨below, next⟩)
      (spread float err 1)
    have next : window right ((y + 1) * width) ((y + 2) * width) = some (rowOf width (y + 1)) := row_window kept below
    rw [Window.updateIf, if_pos trivial] at spread_middle
    refine ⟨last, ?_, keptLast⟩
    simp only [Option.bind_eq_bind, Option.bind_some, if_pos below, next, spread_left, spread_middle]
    exact spread_last
  · exact ⟨right, by simp [below], kept⟩

theorem quantizeDot_some (length : gray.length = width * height) (inside : y < height) (within : x < width) :
    ∃ after quantized, quantizeDot float width height (rowOf width y) y gray x = some (after, quantized) ∧
      after.length = width * height := by
  obtain ⟨shade, read⟩ := read_some (row_within within) (length ▸ row_end inside)
  let quantized := quantize float (clamp float shade)
  obtain ⟨after, spread, kept⟩ := diffuse_some float length inside within (float.sub (clamp float shade) quantized)
  refine ⟨after, quantized, ?_, kept⟩
  simp only [quantizeDot, read, Option.bind_eq_bind, Option.bind_some]
  rw [spread]
  rfl

theorem sample_some (width height : Nat) (image : Image) :
    ∃ gray, sample float width height image = some gray ∧ gray.length = width * height := by
  refine foldlM_range _ (fun _ (gray : List F) => gray.length = width * height) height (by simp)
    fun y inside gray length => ?_
  rw [sampleRow, row_window length inside]
  refine foldlM_range _ (fun _ (gray : List F) => gray.length = width * height) width length fun x within gray length => ?_
  obtain ⟨after, wrote, kept⟩ := write_some (row_within within) (length ▸ row_end inside) _
  exact ⟨after, wrote, kept.trans length⟩

end Shades

/-- The dots of the rows before `y` and the first `x` dots of that row are drawn, and no others. -/
structure Drawn (width height : Nat) (black : Nat → Nat → Prop) (bitmap : List UInt8) (y x : Nat) : Prop where
  length : bitmap.length = bytesPerRow width * height
  dots : ∀ r < height, ∀ c < 8 * bytesPerRow width,
    (dotAt (bytesPerRow width) bitmap r c = true ↔ (c < width ∧ (r < y ∨ r = y ∧ c < x)) ∧ black r c)

section Bits

variable {width height y x : Nat} {black : Nat → Nat → Prop} {bitmap : List UInt8}

theorem bit_drawn (byte : UInt8) {k c : Nat} (small : k < 8) (other : c < 8) :
    (byte ||| (0x80 >>> k.toUInt8)).toNat.testBit (7 - c) = true ↔ byte.toNat.testBit (7 - c) = true ∨ c = k := by
  have single : ∀ k c : Fin 8, (0x80 >>> k.val.toUInt8 : UInt8).toNat.testBit (7 - c.val) = decide (c.val = k.val) := by
    decide
  rw [UInt8.toNat_or, Nat.testBit_or, single ⟨k, small⟩ ⟨c, other⟩, Bool.or_eq_true, decide_eq_true_iff]

theorem cell_eq {n a b i j : Nat} (left : i < n) (right : j < n) : a * n + i = b * n + j ↔ a = b ∧ i = j := by
  refine ⟨fun same => ?_, fun ⟨rows, cells⟩ => by rw [rows, cells]⟩
  have rows : a = b := by
    have quotient := congrArg (· / n) same
    simpa [Nat.mul_comm _ n, Nat.mul_add_div (show n > 0 by omega), Nat.div_eq_of_lt left, Nat.div_eq_of_lt right]
      using quotient
  subst rows
  exact ⟨rfl, by omega⟩

theorem cell_inside (inside : y < height) (within : x < 8 * bytesPerRow width) :
    y * bytesPerRow width + x / 8 < bytesPerRow width * height := by
  have rows := Nat.mul_le_mul_right (bytesPerRow width) (show y + 1 ≤ height from inside)
  rw [Nat.succ_mul, Nat.mul_comm height] at rows
  omega

theorem width_le : width ≤ 8 * bytesPerRow width := by
  unfold bytesPerRow
  omega

theorem drawDot_some (length : bitmap.length = bytesPerRow width * height) (inside : y < height) (within : x < width) :
    ∃ after, drawDot width bitmap y x = some after ∧ after.length = bitmap.length ∧
      ∀ r, ∀ c < 8 * bytesPerRow width, (dotAt (bytesPerRow width) after r c = true ↔
        dotAt (bytesPerRow width) bitmap r c = true ∨ r = y ∧ c = x) := by
  have padded : x < 8 * bytesPerRow width := within.trans_le width_le
  have cell := length ▸ cell_inside inside padded
  refine ⟨bitmap.set (y * bytesPerRow width + x / 8)
    (bitmap[y * bytesPerRow width + x / 8] ||| (0x80 >>> (x % 8).toUInt8)), ?_, List.length_set, fun r c small => ?_⟩
  · rw [drawDot, List.getElem?_eq_getElem cell]
    exact store_some cell _
  · by_cases same : r * bytesPerRow width + c / 8 = y * bytesPerRow width + x / 8
    · have place := (cell_eq (by omega) (by omega)).mp same
      have bit := bit_drawn bitmap[y * bytesPerRow width + x / 8] (Nat.mod_lt x (by decide)) (Nat.mod_lt c (by decide))
      rw [dotAt, dotAt, same, List.getD_eq_getElem?_getD, List.getD_eq_getElem?_getD, List.getElem?_set_self cell,
        List.getElem?_eq_getElem cell, Option.getD_some, Option.getD_some, bit]
      exact or_congr_right (by omega)
    · have other : ¬(r = y ∧ c = x) := fun ⟨row, column⟩ => same (by rw [row, column])
      rw [dotAt, dotAt, List.getD_eq_getElem?_getD, List.getD_eq_getElem?_getD, List.getElem?_set_ne (Ne.symm same)]
      simp [other]

theorem Drawn.start (black : Nat → Nat → Prop) :
    Drawn width height black (List.replicate (bytesPerRow width * height) 0) 0 0 where
  length := List.length_replicate
  dots := by
    intro r inside c small
    have cell := cell_inside inside small
    simp [dotAt, cell]

theorem Drawn.marked {after : List UInt8} (drawn : Drawn width height black bitmap y x) (within : x < width)
    (dark : black y x) (length : after.length = bitmap.length)
    (dots : ∀ r, ∀ c < 8 * bytesPerRow width, (dotAt (bytesPerRow width) after r c = true ↔
      dotAt (bytesPerRow width) bitmap r c = true ∨ r = y ∧ c = x)) :
    Drawn width height black after y (x + 1) where
  length := length.trans drawn.length
  dots := by
    intro r inside c small
    rw [dots r c small, drawn.dots r inside c small]
    constructor
    · rintro (⟨⟨narrow, before⟩, dark⟩ | ⟨rfl, rfl⟩)
      · exact ⟨⟨narrow, by omega⟩, dark⟩
      · exact ⟨⟨within, by omega⟩, dark⟩
    · rintro ⟨⟨narrow, before⟩, marked⟩
      by_cases here : r = y ∧ c = x
      · exact Or.inr here
      · exact Or.inl ⟨⟨narrow, by omega⟩, marked⟩

theorem Drawn.skipped (drawn : Drawn width height black bitmap y x) (bright : ¬black y x) :
    Drawn width height black bitmap y (x + 1) where
  length := drawn.length
  dots := by
    intro r inside c small
    rw [drawn.dots r inside c small]
    constructor
    · rintro ⟨⟨narrow, before⟩, marked⟩
      exact ⟨⟨narrow, by omega⟩, marked⟩
    · rintro ⟨⟨narrow, before⟩, marked⟩
      have other : ¬(r = y ∧ c = x) := fun ⟨row, column⟩ => bright (row ▸ column ▸ marked)
      exact ⟨⟨narrow, by omega⟩, marked⟩

theorem Drawn.nextRow (drawn : Drawn width height black bitmap y width) :
    Drawn width height black bitmap (y + 1) 0 where
  length := drawn.length
  dots := by
    intro r inside c small
    rw [drawn.dots r inside c small]
    constructor
    · rintro ⟨⟨narrow, before⟩, marked⟩
      exact ⟨⟨narrow, by omega⟩, marked⟩
    · rintro ⟨⟨narrow, before⟩, marked⟩
      exact ⟨⟨narrow, by omega⟩, marked⟩

end Bits

section Dithering

variable {F : Type} (float : Float64 F) {width height y x : Nat} {gray before shades : List F}

/-- The decision is the one which the program takes at the dot. -/
theorem decided_here {after : List F} {quantized : F} (inside : y < height) (length : before.length = width * height)
    (above : (List.range y).foldlM (grayRow float width height) gray = some before)
    (left : (List.range x).foldlM (grayDot float width height (rowOf width y) y) before = some shades)
    (here : quantizeDot float width height (rowOf width y) y shades x = some (after, quantized)) :
    decided float width height gray y x = some (isBlack float quantized) := by
  simp only [decided, above, Option.bind_eq_bind, Option.bind_some, row_window length inside, left, here]

/-- A dot is taken, its shades and its decision are those of the shades alone, and it is drawn when
it is black. -/
theorem ditherDot_some {grid : Grid F} (inside : y < height) (within : x < width)
    (length : before.length = width * height)
    (above : (List.range y).foldlM (grayRow float width height) gray = some before)
    (left : (List.range x).foldlM (grayDot float width height (rowOf width y) y) before = some grid.gray)
    (kept : grid.gray.length = width * height)
    (drawn : Drawn width height (madeBlack float width height gray) grid.bitmap y x) :
    ∃ after, ditherDot float width height (rowOf width y) y grid x = some after ∧
      (List.range (x + 1)).foldlM (grayDot float width height (rowOf width y) y) before = some after.gray ∧
      after.gray.length = width * height ∧
      Drawn width height (madeBlack float width height gray) after.bitmap y (x + 1) := by
  obtain ⟨shades, quantized, here, keptHere⟩ := quantizeDot_some float kept inside within
  have decision := decided_here float inside length above left here
  have shaded : (List.range (x + 1)).foldlM (grayDot float width height (rowOf width y) y) before = some shades := by
    rw [foldlM_range_succ, left]
    simp [grayDot, here]
  simp only [ditherDot, here, Option.bind_eq_bind, Option.bind_some]
  cases dark : isBlack float quantized with
  | true =>
    obtain ⟨bitmap, drew, size, dots⟩ := drawDot_some drawn.length inside within
    exact ⟨⟨shades, bitmap⟩, by simp [drew], shaded, keptHere, drawn.marked within (decision.trans (by rw [dark])) size dots⟩
  | false =>
    refine ⟨⟨shades, grid.bitmap⟩, by simp, shaded, keptHere, drawn.skipped ?_⟩
    rw [madeBlack, decision, dark]
    decide

theorem ditherRow_some {grid : Grid F} (inside : y < height)
    (above : (List.range y).foldlM (grayRow float width height) gray = some grid.gray)
    (kept : grid.gray.length = width * height)
    (drawn : Drawn width height (madeBlack float width height gray) grid.bitmap y 0) :
    ∃ after, ditherRow float width height grid y = some after ∧
      (List.range (y + 1)).foldlM (grayRow float width height) gray = some after.gray ∧
      after.gray.length = width * height ∧
      Drawn width height (madeBlack float width height gray) after.bitmap (y + 1) 0 := by
  obtain ⟨after, run, shaded, length, drawn⟩ := foldlM_range (ditherDot float width height (rowOf width y) y)
    (fun x middle =>
      (List.range x).foldlM (grayDot float width height (rowOf width y) y) grid.gray = some middle.gray ∧
      middle.gray.length = width * height ∧
      Drawn width height (madeBlack float width height gray) middle.bitmap y x)
    width ⟨rfl, kept, drawn⟩
    fun x within middle ⟨left, length, drawn⟩ => ditherDot_some float inside within kept above left length drawn
  refine ⟨after, ?_, ?_, length, drawn.nextRow⟩
  · rw [ditherRow, row_window kept inside]
    exact run
  · rw [foldlM_range_succ, above]
    simp only [Option.bind_eq_bind, Option.bind_some, grayRow, row_window kept inside]
    exact shaded

theorem dither_some (length : gray.length = width * height) :
    ∃ grid, dither float width height gray = some grid ∧
      Drawn width height (madeBlack float width height gray) grid.bitmap height 0 := by
  obtain ⟨grid, run, -, -, drawn⟩ := @foldlM_range _ (ditherRow float width height)
    ⟨gray, List.replicate (bytesPerRow width * height) 0⟩
    (fun y grid =>
      (List.range y).foldlM (grayRow float width height) gray = some grid.gray ∧
      grid.gray.length = width * height ∧
      Drawn width height (madeBlack float width height gray) grid.bitmap y 0)
    height ⟨rfl, length, Drawn.start _⟩
    fun y inside grid ⟨above, kept, drawn⟩ => ditherRow_some float inside above kept drawn
  exact ⟨grid, run, drawn⟩

theorem grayDots_some (inside : y < height) (length : before.length = width * height) (n : Nat) (within : n ≤ width) :
    ∃ after, (List.range n).foldlM (grayDot float width height (rowOf width y) y) before = some after ∧
      after.length = width * height := by
  refine foldlM_range _ (fun _ (shades : List F) => shades.length = width * height) n length fun x small shades kept => ?_
  obtain ⟨after, quantized, here, length⟩ := quantizeDot_some float kept inside (show x < width by omega)
  exact ⟨after, by rw [grayDot, here]; rfl, length⟩

theorem grayRows_some (length : gray.length = width * height) (n : Nat) (within : n ≤ height) :
    ∃ after, (List.range n).foldlM (grayRow float width height) gray = some after ∧
      after.length = width * height := by
  refine foldlM_range _ (fun _ (shades : List F) => shades.length = width * height) n length fun y small shades kept => ?_
  rw [grayRow, row_window kept (show y < height by omega)]
  exact grayDots_some float (by omega) kept width le_rfl

/-- Every dot is decided. -/
theorem decided_some (length : gray.length = width * height) (inside : y < height) (within : x < width) :
    (decided float width height gray y x).isSome := by
  obtain ⟨before, above, kept⟩ := grayRows_some float length y inside.le
  obtain ⟨shades, left, keptLeft⟩ := grayDots_some float inside kept x within.le
  obtain ⟨after, quantized, here, -⟩ := quantizeDot_some float keptLeft inside within
  rw [decided_here float inside kept above left here]
  rfl

end Dithering

section Size

variable {F : Type} {float : Float64 F} {image : Image} {width height : Nat}

theorem scaledSize_bounds {srcW srcH : Int} (wide : 0 < srcW) (tall : 0 < srcH) :
    (0 < (scaledSize float srcW srcH).1 ∧ (scaledSize float srcW srcH).1 ≤ 576) ∧ 0 < (scaledSize float srcW srcH).2 ∧
      (srcW ≤ 576 → scaledSize float srcW srcH = (srcW, srcH)) := by
  unfold scaledSize
  by_cases tooWide : srcW > maxBitmapWidth
  · rw [if_pos tooWide]
    unfold maxBitmapWidth at tooWide ⊢
    dsimp only
    refine ⟨by omega, ?_, by omega⟩
    split <;> omega
  · rw [if_neg tooWide]
    unfold maxBitmapWidth at tooWide
    exact ⟨⟨wide, by omega⟩, tall, fun _ => rfl⟩

theorem rasterSize_ok (sized : rasterSize float image = .ok (width, height)) :
    (width ≤ 576 ∧ height ≤ 30000) ∧ (image.dx ≤ 576 → width = image.dx ∧ height = image.dy) := by
  unfold rasterSize at sized
  by_cases empty : image.dx ≤ 0 ∨ image.dy ≤ 0
  · rw [if_pos empty] at sized
    cases sized
  · rw [if_neg empty] at sized
    obtain ⟨⟨-, narrow⟩, tall, whole⟩ := @scaledSize_bounds F float image.dx image.dy (by omega) (by omega)
    rcases scaled : scaledSize float image.dx image.dy with ⟨w, h⟩
    rw [scaled] at narrow tall whole
    simp only [scaled] at sized
    by_cases high : image.dy > maxBitmapHeight
    · rw [if_pos high] at sized
      cases sized
    · rw [if_neg high] at sized
      by_cases limit : h > maxBitmapHeight
      · rw [if_pos limit] at sized
        cases sized
      · rw [if_neg limit] at sized
        cases sized
        unfold maxBitmapHeight at limit
        refine ⟨by omega, fun fits => ?_⟩
        obtain ⟨rfl, rfl⟩ := Prod.mk.inj (whole fits)
        omega

theorem two_bytes (n : Nat) (small : n < 65536) :
    (n &&& 0xFF).toUInt8.toNat + 256 * ((n >>> 8) &&& 0xFF).toUInt8.toNat = n := by
  have low (m : Nat) : (m &&& 0xFF).toUInt8.toNat = m % 256 := by
    rw [Nat.and_two_pow_sub_one_eq_mod m 8]
    simp
  rw [low, low, Nat.shiftRight_eq_div_pow]
  omega

end Size

/-- Whatever picture is accepted, its data have the length which their header tells the printer, and
the dots are those the dithering made black; nothing is read or written out of range. -/
theorem raster_framed {F : Type} (float : Float64 F) (image : Image) :
    ∃ result, imageToBitmapData float image = some result ∧
      ∀ data, result = .ok data → ∃ width height gray,
        rasterSize float image = .ok (width, height) ∧ sample float width height image = some gray ∧
        (image.dx ≤ 576 → width = image.dx ∧ height = image.dy) ∧
        (∀ y < height, ∀ x < width, (decided float width height gray y x).isSome) ∧
        Framed data width height (madeBlack float width height gray) := by
  unfold imageToBitmapData
  cases sized : rasterSize float image with
  | error message => exact ⟨.error message, rfl, by rintro data ⟨⟩⟩
  | ok size =>
    obtain ⟨width, height⟩ := size
    obtain ⟨⟨narrow, short⟩, kept⟩ := rasterSize_ok sized
    obtain ⟨gray, sampled, length⟩ := sample_some float width height image
    obtain ⟨grid, dithered, drawn⟩ := dither_some float length
    refine ⟨.ok (rasterHeader width height ++ grid.bitmap), by simp [sampled, dithered], ?_⟩
    rintro _ ⟨⟩
    refine ⟨width, height, gray, rfl, sampled, kept, fun y inside x within => decided_some float length inside within, ?_⟩
    have bytes : width ⌈/⌉ 8 = bytesPerRow width := Nat.ceilDiv_eq_add_pred_div width 8
    have columns := two_bytes (bytesPerRow width) (by unfold bytesPerRow; omega)
    have rows := two_bytes height (by omega)
    refine ⟨rfl, ?_, rows, ?_, ?_⟩
    · rw [bytes]
      exact columns
    · change grid.bitmap.length = _
      rw [drawn.length]
      exact congrArg (· * height) columns.symm
    · rw [bytes]
      intro y inside x small
      refine (drawn.dots y inside x small).trans ?_
      exact and_congr_left fun _ => and_iff_left (Or.inl inside)

/-- Three black dots in a row of five, the rest of the byte left white. -/
example : imageToBitmapData ⟨id, id, (· + ·), (· - ·), (· * ·), (· / ·), fun a b => a < b, fun a b => a = b⟩
    ⟨10, 10, 15, 11, fun x _ => if x < 13 then ⟨0, 0, 0⟩ else ⟨0xFFFF, 0xFFFF, 0xFFFF⟩⟩ =
      some (.ok [0x1D, 0x76, 0x30, 0, 1, 0, 1, 0, 0xE0]) := rfl

end BeidarPos
