import AssetRegistry.Query.Page
import Mathlib.Algebra.Order.Group.Int

namespace AssetRegistry.Query

/-- What is beyond 64 bits is held at their ends. -/
theorem toInt_saturate (n : Int) : (saturate n).toInt = max (-2 ^ 63) (min (2 ^ 63 - 1) n) := by
  unfold saturate
  rw [Int64.toInt_minValue, Int64.toInt_maxValue]
  exact Int64.toInt_ofInt_of_le (by omega) (by omega)

theorem toInt_max (a b : Int64) : (max a b).toInt = max a.toInt b.toInt := by
  show (if a ≤ b then b else a).toInt = _
  split
  next le => exact (max_eq_right (Int64.le_iff_toInt_le.1 le)).symm
  next gt => exact (max_eq_left (by rw [Int64.le_iff_toInt_le] at gt; omega)).symm

/-- What comes before a number from 1 on is a number of 64 bits. -/
theorem toInt_max_sub (a : Int64) : (max a 1 - 1).toInt = max a.toInt 1 - 1 := by
  have floor : (1 : Int64) ≤ max a 1 := by
    rw [Int64.le_iff_toInt_le, toInt_max, Int64.toInt_one]
    exact le_max_right _ _
  rw [Int64.toInt_sub_of_le _ _ (by decide) floor, toInt_max, Int64.toInt_one]

namespace Page

/-- A row, counted from 0, is in a window. -/
def Covers (w : Page) (row : Int) : Prop := w.offset.toInt ≤ row ∧ row < w.offset.toInt + w.limit.toInt

/-- A limit counts where it is between one and the greatest. -/
theorem chooseLimit_eq (requested : Option Int64) (usual most : Int64) : chooseLimit requested usual most =
    (requested.filter fun n => 1 ≤ n.toInt ∧ n.toInt ≤ most.toInt).getD usual := by
  unfold chooseLimit
  cases requested with
  | none => rfl
  | some n =>
    simp only [Int64.le_iff_toInt_le, Int64.toInt_one, Option.filter_some, Bool.and_eq_true, decide_eq_true_eq]
    split <;> rfl

/-- A page begins behind all rows of the pages before it, as far as 64 bits reach. -/
theorem toInt_offset_new (page limit : Option Int64) (usual most : Int64) :
    (Page.new page limit usual most).offset.toInt =
      max (-2 ^ 63) (min (2 ^ 63 - 1) ((max (page.getD 1).toInt 1 - 1) * (chooseLimit limit usual most).toInt)) := by
  unfold Page.new
  rw [toInt_saturate, toInt_max, Int64.toInt_one]

/-- A window that begins where the pages before it end covers the rows of its page. -/
theorem covers_iff {w : Page} {n row : Int} (offset : w.offset.toInt = (n - 1) * w.limit.toInt) :
    w.Covers row ↔ (n - 1) * w.limit.toInt ≤ row ∧ row < n * w.limit.toInt := by
  have stop : (n - 1) * w.limit.toInt + w.limit.toInt = n * w.limit.toInt := by
    rw [Int.sub_mul, Int.one_mul, Int.sub_add_cancel]
  unfold Covers
  rw [offset, stop]

/-- No row is on two pages of one size. -/
theorem page_unique {m n size row : Int} (positive : 1 ≤ size) (first : (m - 1) * size ≤ row ∧ row < m * size)
    (second : (n - 1) * size ≤ row ∧ row < n * size) : m = n := by
  have apart {m n : Int} (before : m < n) (ends : row < m * size) (begins : (n - 1) * size ≤ row) : False := by
    have earlier : m * size ≤ (n - 1) * size := Int.mul_le_mul_of_nonneg_right (by omega) (by omega)
    omega
  obtain before | same | after := Int.lt_trichotomy m n
  · exact (apart before first.2 second.1).elim
  · exact same
  · exact (apart after second.2 first.1).elim

/-- Different pages of one size have no row in common. -/
theorem not_covers_both {w v : Page} {m n : Int} (size : w.limit = v.limit) (positive : 1 ≤ w.limit.toInt)
    (offset : w.offset.toInt = (m - 1) * w.limit.toInt) (offset' : v.offset.toInt = (n - 1) * v.limit.toInt)
    (different : m ≠ n) (row : Int) : ¬(w.Covers row ∧ v.Covers row) := by
  rw [covers_iff offset, covers_iff offset', ← size]
  rintro ⟨first, second⟩
  exact different (page_unique positive first second)

end Page

end AssetRegistry.Query
