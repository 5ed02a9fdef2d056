import Mathlib.Tactic.Linarith
import Vivarium.Proofs.Attempt
import Vivarium.Proofs.Number.Finiteness
import Vivarium.Proofs.Number.SquareRoot
import Vivarium.Terrain.Blob

/-!
# Disks

Below a radius of two to the power of twenty-six the cells of a blob are worked out without a fault,
and they are the points of a disk. So are the amounts that a blob puts on its cells, none of which is
farther from its centre than twice the radius.
-/

namespace Vivarium

/-- The integers between two ends are those from the one to the other. -/
theorem mem_interval {low high i : Int} : i ∈ interval low high ↔ low ≤ i ∧ i ≤ high := by
  simp only [interval, List.mem_map, List.mem_range]
  constructor
  · rintro ⟨n, below, rfl⟩
    omega
  · rintro ⟨lower, upper⟩
    exact ⟨(i - low).toNat, by omega, by omega⟩

/-! ## Cells -/

/-- How far a disk reaches up and down in the column at a distance from its centre. -/
def diskSpan (radius dx : Int) : Nat :=
  floorSqrt (radius * radius - dx * dx).toNat

/-- The points of a disk, column by column. -/
def disk (radius : Int) : List Offset :=
  (interval (-radius) radius).flatMap fun dx =>
    (interval (-diskSpan radius dx) (diskSpan radius dx)).map fun dy =>
      ⟨dx, dy, dx.natAbs + dy.natAbs⟩

variable {radius : Int}

/-- A number is within the span of a column if its point is within the disk. -/
theorem natAbs_le_diskSpan {dx dy : Int} (h : dx * dx ≤ radius * radius) :
    dy.natAbs ≤ diskSpan radius dx ↔ dx * dx + dy * dy ≤ radius * radius := by
  have square : ((dy.natAbs * dy.natAbs : Nat) : Int) = dy * dy := Int.natAbs_mul_self
  have within : dy.natAbs * dy.natAbs ≤ (radius * radius - dx * dx).toNat ↔
      dx * dx + dy * dy ≤ radius * radius := by
    rw [← square]
    omega
  rw [← within]
  constructor
  · intro near
    exact (Nat.mul_self_le_mul_self near).trans (floorSqrt_le _)
  · exact le_floorSqrt

/-- The points of a disk are those no farther from its centre than its radius. -/
theorem mem_disk (h : 0 ≤ radius) {offset : Offset} :
    offset ∈ disk radius ↔ offset.dx * offset.dx + offset.dy * offset.dy ≤ radius * radius ∧
      offset.distance = offset.dx.natAbs + offset.dy.natAbs := by
  simp only [disk, List.mem_flatMap, List.mem_map, mem_interval]
  constructor
  · rintro ⟨dx, columns, dy, rows, rfl⟩
    have inside : dx * dx ≤ radius * radius := by nlinarith
    refine ⟨(natAbs_le_diskSpan inside).mp ?_, rfl⟩
    dsimp only
    omega
  · obtain ⟨dx, dy, distance⟩ := offset
    dsimp only
    rintro ⟨within, rfl⟩
    have above : 0 ≤ dy * dy := mul_self_nonneg dy
    have inside : dx * dx ≤ radius * radius := by omega
    have columns : |dx| ≤ radius := abs_le_of_sq_le_sq (by nlinarith) h
    have rows := (natAbs_le_diskSpan inside).mpr within
    exact ⟨dx, abs_le.mp columns, dy, by omega, rfl⟩

/-- No point of a disk is farther along columns and rows than twice the radius. -/
theorem distance_le_of_mem_disk (h : 0 ≤ radius) {offset : Offset} (ho : offset ∈ disk radius) :
    (offset.distance : Int) ≤ 2 * radius := by
  obtain ⟨within, distance⟩ := (mem_disk h).mp ho
  have columns : |offset.dx| ≤ radius := abs_le_of_sq_le_sq (by nlinarith) h
  have rows : |offset.dy| ≤ radius := abs_le_of_sq_le_sq (by nlinarith) h
  rw [distance]
  push_cast
  omega

/-- The span of a column is the root of what its distance leaves of the square of the radius. -/
theorem blobSpan_eq (hr : radius < 2 ^ 26) {dx : Int} (hd : -radius ≤ dx ∧ dx ≤ radius) :
    blobSpan radius dx = .ok (diskSpan radius dx) := by
  have below : radius * radius < 2 ^ 52 := by nlinarith
  have inside : dx * dx ≤ radius * radius := by nlinarith
  have above : 0 ≤ dx * dx := mul_self_nonneg dx
  have rest : radius * radius - dx * dx = (radius * radius - dx * dx).toNat := by omega
  have small : (radius * radius - dx * dx).toNat < 2 ^ 52 := by omega
  rw [blobSpan, rest, Double.ofInt_natCast (small.trans (by norm_num))]
  exact Double.truncate_sqrt_natCast small

/-- The cells of a blob are the points of a disk. -/
theorem blobCells_eq (h : radius < 2 ^ 26) : blobCells radius = .ok (disk radius) := by
  have columns : (interval (-radius) radius).mapM (blobColumn radius) =
      .ok ((interval (-radius) radius).map fun dx =>
        (interval (-diskSpan radius dx) (diskSpan radius dx)).map fun dy =>
          ⟨dx, dy, dx.natAbs + dy.natAbs⟩) :=
    mapM_eq_ok fun dx hd => by
      rw [blobColumn, blobSpan_eq h (mem_interval.mp hd)]
      rfl
  rw [blobCells, columns]
  rfl

/-! ## Amounts -/

/-- What a distance of up to twice the radius leaves of one is a small number. -/
theorem exists_rest_toRat? {distance : Int} (hr : 0 < radius) (hd : 0 ≤ distance)
    (near : distance ≤ 2 * radius) :
    ∃ faded rest, Double.ofQuotient distance radius = .ok faded ∧
      (Double.finite 1 - faded).toRat? = some rest ∧ |rest| ≤ 5 := by
  have radius_pos : (0 : Rat) < radius := by exact_mod_cast hr
  have part_nonneg : (0 : Rat) ≤ distance / radius := by
    have : (0 : Rat) ≤ distance := by exact_mod_cast hd
    positivity
  have part_le : (distance : Rat) / radius ≤ 2 := by
    rw [div_le_iff₀ radius_pos]
    exact_mod_cast near
  obtain ⟨faded, quotient, a, ha, faded_near⟩ :=
    Double.exists_near_ofQuotient hr.ne' (by rw [abs_of_nonneg part_nonneg]; linarith)
  rw [abs_le] at faded_near
  have bound : |1 + -a| ≤ 4 := by
    rw [abs_le]
    constructor <;> linarith
  obtain ⟨rest, left, rest_near⟩ := Double.near_add (x := .finite 1) rfl (Double.toRat?_neg ha)
    (by linarith)
  refine ⟨faded, rest, quotient, left, ?_⟩
  have := abs_sub_abs_le_abs_sub rest (1 + -a)
  linarith

/-- The greatest amount of food times a small number has an integer part. -/
theorem exists_truncate_mul {maxFood : Int} (hl : 0 ≤ maxFood) (hu : maxFood ≤ 32767) {x : Double}
    {a : Rat} (hx : x.toRat? = some a) (ha : |a| ≤ 5) :
    ∃ product whole, (Number.int maxFood).mul (.double x) = .ok product ∧
      product.truncate = .ok whole := by
  obtain ⟨n, rfl⟩ := Int.eq_ofNat_of_zero_le hl
  have limit : (n : Rat) ≤ 32767 := by exact_mod_cast hu
  have bound : |(n : Rat) * a| < 2 ^ 53 := by
    rw [abs_mul, abs_of_nonneg (by positivity : (0 : Rat) ≤ n)]
    have : (n : Rat) * |a| ≤ 32767 * 5 := mul_le_mul limit ha (abs_nonneg a) (by norm_num)
    linarith
  obtain ⟨b, hb, -⟩ := Double.near_mul (x := .finite n) rfl hx bound
  obtain ⟨whole, truncated⟩ := Double.exists_truncate_of_toRat? hb
  refine ⟨.double (Double.finite n * x), whole, ?_, truncated⟩
  change (Double.ofInt n >>= _) = _
  rw [Double.ofInt_natCast (by omega)]
  rfl

/-- The food that a blob puts on a cell within twice its radius can be worked out. -/
theorem exists_blobAmount {distance maxFood : Int} (hr : 0 < radius) (hd : 0 ≤ distance)
    (near : distance ≤ 2 * radius) (hl : 0 ≤ maxFood) (hu : maxFood ≤ 32767) :
    ∃ amount, blobAmount distance radius maxFood = .ok amount := by
  obtain ⟨faded, rest, quotient, left, small⟩ := exists_rest_toRat? hr hd near
  obtain ⟨product, whole, scaled, truncated⟩ := exists_truncate_mul hl hu left small
  refine ⟨max 1 whole, ?_⟩
  rw [blobAmount, bind_eq_ok_iff]
  refine ⟨faded, quotient, bind_eq_ok_iff.mpr ⟨product, scaled, ?_⟩⟩
  exact bind_eq_ok_iff.mpr ⟨whole, truncated, rfl⟩

end Vivarium
