import Vivarium.Proofs.Terrain.Disk

/-!
# The shape of blobs

The cells of a blob are listed column by column, each column as far as a rounded square root
reaches. So they are in lexicographic order, each once. The shape does not show that columns and rows
were dealt with differently: as the disk that it is, it stays the same when it is reflected at an
axis or at the diagonal.
-/

namespace Vivarium

namespace Offset

/-- The columns and rows from the centre. -/
def point (offset : Offset) : Int × Int :=
  (offset.dx, offset.dy)

/-- Whether a cell is before another one in lexicographic order: in an earlier column, or in an
earlier row of the same one. -/
def Before (offset other : Offset) : Prop :=
  offset.dx < other.dx ∨ offset.dx = other.dx ∧ offset.dy < other.dy

/-- What is before something is elsewhere. -/
theorem Before.point_ne {offset other : Offset} (h : offset.Before other) :
    offset.point ≠ other.point := by
  intro same
  obtain ⟨column, row⟩ := Prod.mk.inj same
  rcases h with left | ⟨-, above⟩
  · omega
  · omega

end Offset

/-- The reflections that exchange columns and rows, or the two sides of an axis. Together they make
up the symmetries of a square. -/
inductive Reflection where
  | diagonal
  | columns
  | rows
  deriving DecidableEq, Repr

namespace Reflection

/-- Where a reflection takes a cell. -/
def image : Reflection → Offset → Offset
  | diagonal, offset => ⟨offset.dy, offset.dx, offset.distance⟩
  | columns, offset => ⟨-offset.dx, offset.dy, offset.distance⟩
  | rows, offset => ⟨offset.dx, -offset.dy, offset.distance⟩

/-- A reflection takes a cell back from where it took it. -/
theorem involutive_image (reflection : Reflection) : Function.Involutive reflection.image := by
  intro offset
  cases reflection with
  | diagonal => rfl
  | columns | rows => simp only [image, neg_neg]

end Reflection

variable {radius : Int}

/-- The integers between two ends are in order. -/
theorem pairwise_interval (low high : Int) : (interval low high).Pairwise (· < ·) := by
  rw [interval, List.pairwise_map]
  exact List.pairwise_lt_range.imp fun less => by omega

/-- The points of a disk are in lexicographic order. -/
theorem pairwise_disk (radius : Int) : (disk radius).Pairwise Offset.Before := by
  rw [disk, List.pairwise_flatMap]
  constructor
  · intro dx _
    rw [List.pairwise_map]
    exact (pairwise_interval _ _).imp fun above => .inr ⟨rfl, above⟩
  · refine (pairwise_interval _ _).imp fun left offset column other column' => ?_
    obtain ⟨_, -, rfl⟩ := List.mem_map.mp column
    obtain ⟨_, -, rfl⟩ := List.mem_map.mp column'
    exact .inl left

/-- No point of a disk is there twice. -/
theorem nodup_point_disk (radius : Int) : ((disk radius).map Offset.point).Nodup :=
  List.pairwise_map.mpr ((pairwise_disk radius).imp Offset.Before.point_ne)

/-- A reflection takes the points of a disk to points of it. -/
theorem image_mem_disk (h : 0 ≤ radius) (reflection : Reflection) {offset : Offset} :
    reflection.image offset ∈ disk radius ↔ offset ∈ disk radius := by
  rw [mem_disk h, mem_disk h]
  cases reflection with
  | diagonal => simp only [Reflection.image, add_comm]
  | columns | rows => simp only [Reflection.image, neg_mul_neg, Int.natAbs_neg]

/-- A reflection leaves a disk the same. -/
theorem map_image_disk_perm (h : 0 ≤ radius) (reflection : Reflection) :
    ((disk radius).map reflection.image).Perm (disk radius) := by
  have once : (disk radius).Nodup := (nodup_point_disk radius).of_map
  have once' := once.map reflection.involutive_image.injective
  refine (List.perm_ext_iff_of_nodup once' once).mpr fun offset => ?_
  rw [List.mem_map_of_involutive reflection.involutive_image, image_mem_disk h]

/-- The cells of a blob with a radius below two to the power of twenty-six are worked out without a
fault. They are exactly the integer points no farther from the centre than the radius, with their
distance along columns and rows, each once and in lexicographic order. So although they come column
by column from rounded square roots, the shape is the same when columns and rows are exchanged, or
the two sides of an axis. -/
theorem blob_cells_exact (h : 0 ≤ radius) (h' : radius < 2 ^ 26) :
    ∃ cells, blobCells radius = .ok cells ∧
      (∀ (dx dy : Int) (distance : Nat), ⟨dx, dy, distance⟩ ∈ cells ↔
        dx ^ 2 + dy ^ 2 ≤ radius ^ 2 ∧ (distance : Int) = |dx| + |dy|) ∧
      cells.Pairwise Offset.Before ∧ (cells.map Offset.point).Nodup ∧
      ∀ reflection : Reflection, (cells.map reflection.image).Perm cells := by
  refine ⟨disk radius, blobCells_eq h', fun dx dy distance => ?_, pairwise_disk radius,
    nodup_point_disk radius, map_image_disk_perm h⟩
  rw [mem_disk h, sq, sq, sq, ← Int.natCast_natAbs, ← Int.natCast_natAbs, ← Int.natCast_add,
    Int.natCast_inj]

/-- In the widest of these blobs the root for the column next to the middle is one unit in the last
place below the radius. Still the column ends one cell below the radius. -/
theorem blob_cells_exact_widest :
    (0 : Int) ≤ 2 ^ 26 - 1 ∧ (2 ^ 26 - 1 : Int) < 2 ^ 26 ∧
      ∃ cells, blobCells (2 ^ 26 - 1) = .ok cells ∧ ⟨1, 2 ^ 26 - 2, 2 ^ 26 - 1⟩ ∈ cells ∧
        ⟨1, 2 ^ 26 - 1, 2 ^ 26⟩ ∉ cells := by
  obtain ⟨cells, worked, exact, -⟩ :=
    blob_cells_exact (by decide : (0 : Int) ≤ 2 ^ 26 - 1) (by decide)
  exact ⟨by decide, by decide, cells, worked, (exact _ _ _).mpr (by decide),
    fun member => absurd ((exact _ _ _).mp member).1 (by decide)⟩

end Vivarium
