import Mathlib.Data.List.Nodup
import Mathlib.Data.List.Perm.Subperm
import Mathlib.Logic.Relation
import Vivarium.Proofs.Sprite.Cells

/-!
# Connected shapes

The cells of a body that are covered are linked if they touch with an edge, and joined if links lead
from one to the other. A sprite is connected if it covers some cell of a body and no cell elsewhere,
and all covered cells are joined. A flood reaches the cells that are joined to its first one, without
duplicates, so comparing their number with the count of all covered cells decides connectedness. It
comes to an end before its bound, so a greater bound would change nothing.
-/

namespace Vivarium.Sprite

/-- Whether two cells have an edge in common. -/
def Touching (cell other : Nat × Nat) : Prop :=
  cell.1 = other.1 ∧ (cell.2 + 1 = other.2 ∨ other.2 + 1 = cell.2) ∨
    cell.2 = other.2 ∧ (cell.1 + 1 = other.1 ∨ other.1 + 1 = cell.1)

/-- Whether a cell is one of a body and covered. -/
def Lit (sprite : Sprite) (cell : Nat × Nat) : Prop :=
  OnBody cell ∧ sprite.covers cell = true

/-- Whether two covered cells of a body have an edge in common. -/
def Linked (sprite : Sprite) (cell other : Nat × Nat) : Prop :=
  sprite.Lit cell ∧ sprite.Lit other ∧ Touching cell other

/-- Whether a path over covered cells of a body leads from one cell to another. -/
def Joined (sprite : Sprite) : Nat × Nat → Nat × Nat → Prop :=
  Relation.ReflTransGen sprite.Linked

/-- Whether the covered cells make up one piece, which lies within a body. -/
structure Connected (sprite : Sprite) : Prop where
  /-- Some cell is covered. -/
  some_lit : ∃ cell, sprite.Lit cell
  /-- The covered cells of a body are joined. -/
  joined : ∀ cell other, sprite.Lit cell → sprite.Lit other → sprite.Joined cell other
  /-- Only cells of a body are covered. -/
  inside : ∀ cell, sprite.covers cell = true → OnBody cell

variable {sprite : Sprite} {cell other first : Nat × Nat} {pending reached : List (Nat × Nat)}

/-- Links are mutual. -/
theorem Linked.symm (h : sprite.Linked cell other) : sprite.Linked other cell := by
  obtain ⟨left, right, ⟨row, near⟩ | ⟨column, near⟩⟩ := h
  · exact ⟨right, left, Or.inl ⟨row.symm, near.symm⟩⟩
  · exact ⟨right, left, Or.inr ⟨column.symm, near.symm⟩⟩

/-- Paths lead both ways. -/
theorem Joined.symm (h : sprite.Joined cell other) : sprite.Joined other cell := by
  induction h with
  | refl => exact Relation.ReflTransGen.refl
  | tail _ linked ih => exact ih.head linked.symm

/-! ## Cells that are covered -/

/-- The cells that are covered, row by row. -/
def covered (sprite : Sprite) : List (Nat × Nat) :=
  sprite.cells.zipIdx.flatMap fun (row, r) => (row.idxsOf true).map fun column => (r, column)

/-- The cells that are covered are those that are there and on. -/
theorem mem_covered_iff : cell ∈ sprite.covered ↔ sprite.covers cell = true := by
  constructor
  · intro h
    obtain ⟨⟨row, r⟩, hr, hc⟩ := List.mem_flatMap.mp h
    obtain ⟨column, hi, rfl⟩ := List.mem_map.mp hc
    obtain ⟨within, on⟩ := List.mem_idxsOf_iff_exists_getElem_pos.mp hi
    rw [covers, List.mk_mem_zipIdx_iff_getElem?.mp hr, Option.bind_some,
      List.getElem?_eq_getElem within, eq_of_beq on]
    rfl
  · intro h
    obtain ⟨row, hr, on⟩ := exists_of_covers h
    obtain ⟨within, on⟩ := List.getElem?_eq_some_iff.mp on
    refine List.mem_flatMap.mpr ⟨(row, cell.1), List.mk_mem_zipIdx_iff_getElem?.mpr hr, ?_⟩
    refine List.mem_map.mpr ⟨cell.2, ?_, rfl⟩
    exact List.mem_idxsOf_iff_exists_getElem_pos.mpr ⟨within, beq_iff_eq.mpr on⟩

/-- No cell is covered twice. -/
theorem nodup_covered (sprite : Sprite) : sprite.covered.Nodup := by
  have apart : sprite.cells.zipIdx.Pairwise fun row row' => row.2 ≠ row'.2 := by
    refine List.pairwise_map.mp ?_
    rw [List.zipIdx_map_snd]
    exact List.nodup_range'
  refine List.nodup_flatMap.mpr ⟨fun row _ => ?_, apart.imp fun {row row'} distinct => ?_⟩
  · exact List.nodup_idxsOf.map fun _ _ same => (Prod.mk.inj same).2
  · intro cell hc hc'
    obtain ⟨_, -, rfl⟩ := List.mem_map.mp hc
    obtain ⟨_, -, same⟩ := List.mem_map.mp hc'
    exact distinct (Prod.mk.inj same).1.symm

/-- As many cells are covered as are counted. -/
theorem length_covered (sprite : Sprite) : sprite.covered.length = sprite.count := by
  have rows : sprite.cells.zipIdx.map (List.count true ∘ Prod.fst) =
      sprite.cells.map (List.count true) := by
    rw [← List.map_map, List.zipIdx_map_fst]
  simp only [covered, List.length_flatMap, List.length_map, List.length_idxsOf, count,
    List.count_flatten]
  exact congrArg List.sum rows

/-! ## Floods -/

/-- The neighbours of a cell of a body are the cells of a body that touch it. -/
theorem mem_neighbours_iff (hc : OnBody cell) :
    other ∈ neighbours cell ↔ OnBody other ∧ Touching cell other := by
  obtain ⟨row, column⟩ := cell
  obtain ⟨row', column'⟩ := other
  simp only [OnBody, Touching, neighbours, List.mem_append, List.mem_ite_nil_right,
    List.mem_singleton, Prod.mk.injEq] at *
  omega

/-- A cell has at most four neighbours. -/
theorem length_neighbours_le (cell : Nat × Nat) : (neighbours cell).length ≤ 4 := by
  have one (there : Prop) [Decidable there] (other : Nat × Nat) :
      (if there then [other] else []).length ≤ 1 := by
    split
    · exact Nat.le_refl 1
    · exact Nat.zero_le 1
  simp only [neighbours, List.length_append]
  exact Nat.add_le_add (Nat.add_le_add (Nat.add_le_add (one _ _) (one _ _)) (one _ _)) (one _ _)

/-- What is known in a flood from a first cell of the cells that it has yet to look at and of those
that it has reached. -/
structure Flooding (sprite : Sprite) (first : Nat × Nat) (pending reached : List (Nat × Nat)) :
    Prop where
  /-- No cell is reached twice. -/
  nodup : reached.Nodup
  /-- What is reached is covered and joined to the first cell. -/
  sound : ∀ cell ∈ reached, sprite.Lit cell ∧ sprite.Joined first cell
  /-- What is pending would be joined to the first cell if it were covered. -/
  promising : ∀ cell ∈ pending, OnBody cell ∧ (sprite.Lit cell → sprite.Joined first cell)
  /-- Nothing that is linked to a reached cell is overlooked. -/
  thorough : ∀ cell ∈ reached, ∀ other, sprite.Linked cell other →
    other ∈ reached ∨ other ∈ pending
  /-- The first cell is not overlooked. -/
  started : first ∈ reached ∨ first ∈ pending

namespace Flooding

/-- A flood starts from a covered cell. -/
theorem start (h : sprite.Lit first) : sprite.Flooding first [first] [] where
  nodup := List.nodup_nil
  sound := nofun
  promising cell hc := by
    obtain rfl := List.mem_singleton.mp hc
    exact ⟨h.1, fun _ => Relation.ReflTransGen.refl⟩
  thorough := nofun
  started := Or.inr (List.mem_singleton_self first)

/-- A pending cell that was reached before, or is off, is passed over. -/
theorem pass (h : sprite.Flooding first (cell :: pending) reached)
    (known : sprite.Lit cell → cell ∈ reached) (lit : sprite.Lit first) :
    sprite.Flooding first pending reached where
  nodup := h.nodup
  sound := h.sound
  promising other ho := h.promising other (List.mem_cons_of_mem cell ho)
  thorough other ho next linked := by
    rcases h.thorough other ho next linked with old | waits
    · exact Or.inl old
    · rcases List.mem_cons.mp waits with rfl | later
      · exact Or.inl (known linked.2.1)
      · exact Or.inr later
  started := by
    rcases h.started with old | waits
    · exact Or.inl old
    · rcases List.mem_cons.mp waits with rfl | later
      · exact Or.inl (known lit)
      · exact Or.inr later

/-- A pending cell that is covered is reached, and its neighbours are pending then. -/
theorem spread (h : sprite.Flooding first (cell :: pending) reached) (new : cell ∉ reached)
    (lit : sprite.Lit cell) :
    sprite.Flooding first (neighbours cell ++ pending) (cell :: reached) where
  nodup := List.nodup_cons.mpr ⟨new, h.nodup⟩
  sound other ho := by
    rcases List.mem_cons.mp ho with rfl | old
    · exact ⟨lit, (h.promising other List.mem_cons_self).2 lit⟩
    · exact h.sound other old
  promising other ho := by
    rcases List.mem_append.mp ho with near | later
    · obtain ⟨onBody, touching⟩ := (mem_neighbours_iff lit.1).mp near
      have joined := (h.promising cell List.mem_cons_self).2 lit
      exact ⟨onBody, fun lit' => joined.tail ⟨lit, lit', touching⟩⟩
    · exact h.promising other (List.mem_cons_of_mem cell later)
  thorough other ho next linked := by
    rcases List.mem_cons.mp ho with rfl | old
    · have near := (mem_neighbours_iff lit.1).mpr ⟨linked.2.1.1, linked.2.2⟩
      exact Or.inr (List.mem_append_left _ near)
    · rcases h.thorough other old next linked with reached | waits
      · exact Or.inl (List.mem_cons_of_mem cell reached)
      · rcases List.mem_cons.mp waits with rfl | later
        · exact Or.inl List.mem_cons_self
        · exact Or.inr (List.mem_append_right _ later)
  started := by
    rcases h.started with old | waits
    · exact Or.inl (List.mem_cons_of_mem cell old)
    · rcases List.mem_cons.mp waits with rfl | later
      · exact Or.inl List.mem_cons_self
      · exact Or.inr (List.mem_append_right _ later)

/-- A flood reaches at most as many cells as a body has. -/
theorem length_le (h : sprite.Flooding first pending reached) : reached.length ≤ side * side := by
  have subset : reached ⊆ window := fun cell hc => mem_window_iff.mpr (h.sound cell hc).1.1
  exact (h.nodup.subperm subset).length_le

/-- At the end of a flood, just the cells that are joined to the first one are reached. -/
theorem mem_iff (h : sprite.Flooding first [] reached) :
    cell ∈ reached ↔ sprite.Joined first cell := by
  refine ⟨fun hc => (h.sound cell hc).2, fun joined => ?_⟩
  induction joined with
  | refl => exact h.started.resolve_right List.not_mem_nil
  | tail _ linked ih => exact (h.thorough _ ih _ linked).resolve_right List.not_mem_nil

end Flooding

namespace Spacious

variable (h : sprite.Spacious)
include h

/-- A flood comes to its end with all cells that are pending looked at, and it does not matter how
many more it might look at. Every step takes away a pending cell or reaches one more cell, which adds
four pending ones at most. -/
theorem exists_flood (lit : sprite.Lit first) {bound : Nat}
    (flooding : sprite.Flooding first pending reached)
    (enough : pending.length + 4 * (side * side - reached.length) ≤ bound) :
    ∃ all, sprite.Flooding first [] all ∧
      ∀ fuel, bound ≤ fuel → sprite.flood fuel pending reached = .ok all := by
  induction bound generalizing pending reached with
  | zero =>
    have none_pending := Nat.le_zero.mp (Nat.le_trans (Nat.le_add_right _ _) enough)
    obtain rfl := List.length_eq_zero_iff.mp none_pending
    exact ⟨reached, flooding, fun fuel _ => by cases fuel <;> rfl⟩
  | succ bound ih =>
    cases pending with
    | nil => exact ⟨reached, flooding, fun fuel _ => by cases fuel <;> rfl⟩
    | cons cell pending =>
      rw [List.length_cons] at enough
      have onBody := (flooding.promising cell List.mem_cons_self).1
      by_cases old : cell ∈ reached
      · obtain ⟨all, ends, runs⟩ := ih (flooding.pass (fun _ => old) lit) (by omega)
        refine ⟨all, ends, fun | fuel + 1, more => ?_⟩
        rw [flood, if_pos (List.contains_iff_mem.mpr old)]
        exact runs fuel (Nat.le_of_succ_le_succ more)
      · cases on : sprite.covers cell with
        | true =>
          have spread := flooding.spread old ⟨onBody, on⟩
          have within := spread.length_le
          have few := length_neighbours_le cell
          have room : (neighbours cell ++ pending).length +
              4 * (side * side - (cell :: reached).length) ≤ bound := by
            rw [List.length_append]
            rw [List.length_cons] at *
            omega
          obtain ⟨all, ends, runs⟩ := ih spread room
          refine ⟨all, ends, fun | fuel + 1, more => ?_⟩
          rw [flood, if_neg (mt List.contains_iff_mem.mp old), h.isOn_eq onBody, on]
          exact runs fuel (Nat.le_of_succ_le_succ more)
        | false =>
          have off (lit : sprite.Lit cell) : cell ∈ reached :=
            absurd (on.symm.trans lit.2) Bool.false_ne_true
          obtain ⟨all, ends, runs⟩ := ih (flooding.pass off lit) (by omega)
          refine ⟨all, ends, fun | fuel + 1, more => ?_⟩
          rw [flood, if_neg (mt List.contains_iff_mem.mp old), h.isOn_eq onBody, on]
          exact runs fuel (Nat.le_of_succ_le_succ more)

/-- A flood from a covered cell of a body comes to its end within its bound. -/
theorem exists_flood_of_lit (lit : sprite.Lit first) :
    ∃ all, sprite.Flooding first [] all ∧
      ∀ fuel, floodBound ≤ fuel → sprite.flood fuel [first] [] = .ok all :=
  h.exists_flood lit (Flooding.start lit) (Nat.le_refl floodBound)

/-- The first cell that is on is found where it is covered. -/
theorem firstOn_eq {cells : List (Nat × Nat)} (hc : ∀ cell ∈ cells, OnBody cell) :
    sprite.firstOn cells = .ok (cells.find? sprite.covers) := by
  induction cells with
  | nil => rfl
  | cons cell cells ih =>
    rw [List.forall_mem_cons] at hc
    rw [firstOn, h.isOn_eq hc.1, List.find?_cons]
    cases sprite.covers cell with
    | true => rfl
    | false => exact ih hc.2

/-- Whether a sprite is connected can be told, and it is told by the flood. -/
theorem exists_isConnected :
    ∃ connected, sprite.isConnected = .ok connected ∧ (connected = true ↔ sprite.Connected) := by
  rw [isConnected, h.firstOn_eq fun _ => mem_window_iff.mp]
  cases found : window.find? sprite.covers with
  | none =>
    refine ⟨false, rfl, Bool.false_eq_true.to_iff.trans (iff_of_false id fun connected => ?_)⟩
    obtain ⟨cell, onBody, on⟩ := connected.some_lit
    exact List.find?_eq_none.mp found cell (mem_window_iff.mpr onBody) on
  | some first =>
    have lit : sprite.Lit first :=
      ⟨mem_window_iff.mp (List.mem_of_find?_eq_some found), List.find?_some found⟩
    obtain ⟨reached, flooding, outcome⟩ := h.exists_flood_of_lit lit
    refine ⟨decide (reached.length = sprite.count), ?_, decide_eq_true_iff.trans ?_⟩
    · exact bind_eq_ok_iff.mpr ⟨some first, rfl, bind_eq_ok_iff.mpr ⟨reached, outcome _ (Nat.le_refl _), rfl⟩⟩
    rw [← length_covered]
    have subperm : reached.Subperm sprite.covered := flooding.nodup.subperm fun cell hc =>
      mem_covered_iff.mpr (flooding.sound cell hc).1.2
    constructor
    · intro same
      have all (cell : Nat × Nat) (on : sprite.covers cell = true) : cell ∈ reached :=
        (subperm.perm_of_length_le (Nat.le_of_eq same.symm)).mem_iff.mpr (mem_covered_iff.mpr on)
      refine ⟨⟨first, lit⟩, fun cell other hc ho => ?_, fun cell on =>
        (flooding.sound cell (all cell on)).1.1⟩
      have back := (flooding.sound cell (all cell hc.2)).2.symm
      exact back.trans (flooding.sound other (all other ho.2)).2
    · intro connected
      have all : sprite.covered ⊆ reached := fun cell hc => by
        have on := mem_covered_iff.mp hc
        exact flooding.mem_iff.mpr (connected.joined first cell lit ⟨connected.inside cell on, on⟩)
      exact Nat.le_antisymm subperm.length_le ((nodup_covered sprite).subperm all).length_le

end Spacious

/-- On every sprite with at least the rows of a body, of which the first have at least the columns of
a body, a flood from a cell that is on looks at no more cells than its bound admits, so more would
change nothing. Whether the sprite is connected can be told, and it is connected just if some cell of
a body is on, paths over cells that are on and touch lead from each of these to each other within the
body, and no cell elsewhere is on. -/
theorem connectivity_decided (h : sprite.Spacious) :
    (∀ first, sprite.Lit first → ∃ reached, sprite.Flooding first [] reached ∧
      ∀ fuel, floodBound ≤ fuel → sprite.flood fuel [first] [] = .ok reached) ∧
    ∃ connected, sprite.isConnected = .ok connected ∧ (connected = true ↔
      (∃ cell, sprite.Lit cell) ∧
      (∀ cell other, sprite.Lit cell → sprite.Lit other → sprite.Joined cell other) ∧
      ∀ cell, sprite.covers cell = true → OnBody cell) := by
  refine ⟨fun first lit => h.exists_flood_of_lit lit, ?_⟩
  obtain ⟨connected, outcome, connected_iff⟩ := h.exists_isConnected
  refine ⟨connected, outcome, connected_iff.trans ⟨?_, ?_⟩⟩
  · exact fun piece => ⟨piece.some_lit, piece.joined, piece.inside⟩
  · exact fun ⟨some_lit, joined, inside⟩ => ⟨some_lit, joined, inside⟩

/-- A ring in the window of a body is connected, whatever the lengths of the rows, and it is not once
a cell of a row below the window is on. -/
theorem connectivity_decided_ragged :
    (ofRows [".###...", ".#.#.", ".###.", ".....", ".....", "."]).isConnected = .ok true ∧
      (∀ cell other : Nat × Nat,
        (ofRows [".###...", ".#.#.", ".###.", ".....", ".....", "."]).Lit cell →
        (ofRows [".###...", ".#.#.", ".###.", ".....", ".....", "."]).Lit other →
        (ofRows [".###...", ".#.#.", ".###.", ".....", ".....", "."]).Joined cell other) ∧
      (ofRows [".###...", ".#.#.", ".###.", ".....", ".....", "#"]).isConnected = .ok false := by
  have spacious : (ofRows [".###...", ".#.#.", ".###.", ".....", ".....", "."]).Spacious :=
    ⟨by decide, by decide⟩
  have spacious' : (ofRows [".###...", ".#.#.", ".###.", ".....", ".....", "#"]).Spacious :=
    ⟨by decide, by decide⟩
  have whole : (ofRows [".###...", ".#.#.", ".###.", ".....", ".....", "."]).isConnected =
      .ok true := by rfl
  obtain ⟨-, connected, outcome, connected_iff⟩ := connectivity_decided spacious
  obtain ⟨-, connected', outcome', connected_iff'⟩ := connectivity_decided spacious'
  refine ⟨whole, (connected_iff.mp (Except.ok.inj (outcome.symm.trans whole))).2.1, ?_⟩
  rw [outcome']
  cases connected' with
  | false => rfl
  | true => exact absurd ((connected_iff'.mp rfl).2.2 (5, 0) rfl).1 (by decide)

end Vivarium.Sprite
