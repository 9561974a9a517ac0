import RasterTensor.Tensor.StridedArray

/-!
# Grids of three channels

Rows of cells with three channels each, in the order of rows, columns and channels. A pixel
buffer is a grid of bytes that has at least one row and one column.
-/

namespace RasterTensor

open Binary

structure Grid (α : Type) where
  height : Nat
  width : Nat
  cells : Vector α (height * width * 3)

namespace Grid

variable {α β : Type}

def place (width y x c : Nat) : Nat := (y * width + x) * 3 + c

def ofFn (height width : Nat) (f : (y x c : Nat) → α) : Grid α :=
  ⟨height, width, Vector.ofFn fun k => f (k / 3 / width) (k / 3 % width) (k % 3)⟩

def get [Inhabited α] (g : Grid α) (y x c : Nat) : α :=
  g.cells.toArray.getD (place g.width y x c) default

def map (f : α → β) (g : Grid α) : Grid β := ⟨g.height, g.width, g.cells.map f⟩

def toArray (g : Grid α) : Array α := g.cells.toArray

@[simp] theorem height_ofFn (h w : Nat) (f : Nat → Nat → Nat → α) : (ofFn h w f).height = h := rfl

@[simp] theorem width_ofFn (h w : Nat) (f : Nat → Nat → Nat → α) : (ofFn h w f).width = w := rfl

@[simp] theorem height_map (f : α → β) (g : Grid α) : (g.map f).height = g.height := rfl

@[simp] theorem width_map (f : α → β) (g : Grid α) : (g.map f).width = g.width := rfl

theorem place_lt {h w y x c : Nat} (hy : y < h) (hx : x < w) (hc : c < 3) :
    place w y x c < h * w * 3 := by
  have hrow : (y + 1) * w ≤ h * w := Nat.mul_le_mul_right w hy
  have hcell : y * w + x < h * w := by
    rw [Nat.add_mul, Nat.one_mul] at hrow
    omega
  unfold place
  omega

theorem get_ofFn [Inhabited α] {h w y x c : Nat} (f : Nat → Nat → Nat → α)
    (hy : y < h) (hx : x < w) (hc : c < 3) : (ofFn h w f).get y x c = f y x c := by
  have hk := place_lt hy hx hc
  have h3 : place w y x c / 3 = y * w + x := by unfold place; omega
  have hm : place w y x c % 3 = c := by unfold place; omega
  have hq : (y * w + x) / w = y := by
    rw [Nat.add_comm, Nat.add_mul_div_right _ _ (Nat.zero_lt_of_lt hx), Nat.div_eq_of_lt hx,
      Nat.zero_add]
  have hr : (y * w + x) % w = x := by
    rw [Nat.add_comm, Nat.add_mul_mod_self_right, Nat.mod_eq_of_lt hx]
  simp [get, ofFn, Array.getD, hk, h3, hm, hq, hr]

end Grid

/-- An image of at least one pixel, with a byte for each of red, green and blue. -/
structure PixelBuffer extends Grid UInt8 where
  height_pos : 0 < height
  width_pos : 0 < width

namespace PixelBuffer

def ofFn (height width : Nat) (f : (y x c : Nat) → UInt8) (hh : 0 < height) (hw : 0 < width) :
    PixelBuffer :=
  { toGrid := Grid.ofFn height width f, height_pos := hh, width_pos := hw }

def shape (p : PixelBuffer) : List Nat := [p.height, p.width, 3]

def bytes (p : PixelBuffer) : ByteArray := ⟨p.cells.toArray⟩

def toArray (p : PixelBuffer) : StridedArray := .packed .bytes p.shape p.bytes

/-- A supplied array as a pixel buffer. `source` names it in refusals. -/
def ofSupplied (source : String) : Supplied → Except Failure PixelBuffer
  | .value v => .error (.notArray v.kind)
  | .array a =>
    if a.type ≠ .bytes then .error (.notBytes source a.type.name)
    else
      match a.shape with
      | [height, width, 3] =>
        if h : 0 < height ∧ 0 < width then
          let content := a.content
          .ok (ofFn height width (fun y x c => byteAt content (Grid.place width y x c)) h.1 h.2)
        else .error (.emptyImage source a.shape)
      | _ => .error (.notRgb source a.shape)

/-- What a buffer that came from no file is called. -/
def unnamed : String := "<array>"

end PixelBuffer

end RasterTensor
