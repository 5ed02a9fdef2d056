import Mathlib.Algebra.BigOperators.Fin
import Mathlib.Data.Fintype.BigOperators
import Mathlib.Data.Nat.Factorial.BigOperators
import Vivarium.Evolution.Program
import Vivarium.Proofs.Program.Locus

/-!
# Fair picks

A reservoir draws one rank for each candidate, the first below one, the second below two, and so on,
and nothing else. Its choice is the candidate at the last rank that is zero. Of all vectors of ranks
that can be drawn the same number leads to each candidate, so a node other than the root is picked
as often as any other.
-/

namespace Vivarium

/-- One rank for each of a number of candidates, below the number of those met by then. -/
abbrev Ranks (count : Nat) := (i : Fin count) → Fin (i + 1)

/-- The last candidate whose rank is zero, if there is one. -/
def lastZero {count : Nat} (ranks : Ranks count) : Option (Fin count) :=
  (List.finRange count).reverse.find? fun i => ranks i = 0

/-- Draw one rank for each candidate, in order. -/
def Draw.ranks {G : Type} [Source G] : (count : Nat) → Draw G (Ranks count)
  | 0 => return fun i => i.elim0
  | count + 1 => do
    let earlier ← ranks count
    let last ← Draw.below (count + 1) count.succ_pos
    return Fin.snoc (α := fun i : Fin (count + 1) => Fin (i + 1)) earlier last

/-- The paths to the nodes other than the root, in order. -/
def Tree.innerPaths (t : Tree) : List Path :=
  t.paths.filter (· ≠ [])

/-- The path at the last rank that is zero among the paths to the nodes other than the root. -/
def Tree.picked (t : Tree) (ranks : Ranks t.innerPaths.length) : Option Path :=
  (lastZero ranks).map fun i => t.innerPaths[i]

/-! ## The last zero -/

/-- One more rank is the last zero if it is zero, and leaves the last zero if it is not. -/
theorem lastZero_snoc {count : Nat} (ranks : Ranks count) (rank : Fin (count + 1)) :
    lastZero (Fin.snoc (α := fun i : Fin (count + 1) => Fin (i + 1)) ranks rank) =
      if rank.val = 0 then some (Fin.last count) else (lastZero ranks).map Fin.castSucc := by
  rw [lastZero, List.finRange_succ_last, List.reverse_append, List.reverse_singleton,
    List.singleton_append, List.find?_cons, Fin.snoc_last]
  by_cases zero : rank.val = 0
  · have same : rank = 0 := Fin.ext zero
    simp [same]
  · have apart : rank ≠ 0 := fun same => zero (congrArg Fin.val same)
    simp only [decide_eq_false apart, if_neg zero, ← List.map_reverse, List.find?_map, lastZero]
    congr 2
    funext i
    simp [Fin.snoc_castSucc]

/-- The last zero is a zero, and none comes after it. -/
theorem lastZero_eq_some_iff {count : Nat} {ranks : Ranks count} {i : Fin count} :
    lastZero ranks = some i ↔ ranks i = 0 ∧ ∀ j, i < j → ranks j ≠ 0 := by
  induction count with
  | zero => exact i.elim0
  | succ count ih =>
    rw [← Fin.snoc_init_self ranks, lastZero_snoc]
    generalize Fin.init (α := fun i : Fin (count + 1) => Fin (i + 1)) ranks = earlier
    generalize ranks (Fin.last count) = last
    by_cases zero : last.val = 0
    · have same : last = 0 := Fin.ext zero
      rw [if_pos zero, Option.some.injEq]
      cases i using Fin.lastCases with
      | last =>
        refine iff_of_true rfl ⟨?_, fun j later => absurd later (Fin.le_last j).not_gt⟩
        rw [Fin.snoc_last, same]
      | cast i =>
        refine iff_of_false (Fin.castSucc_ne_last i).symm fun h => ?_
        exact h.2 (Fin.last count) (Fin.castSucc_lt_last i) (by rw [Fin.snoc_last, same])
    · have apart : last ≠ 0 := fun same => zero (congrArg Fin.val same)
      rw [if_neg zero]
      cases i using Fin.lastCases with
      | last =>
        refine iff_of_false (fun found => ?_) fun h => apart ?_
        · obtain ⟨j, -, same⟩ := Option.map_eq_some_iff.mp found
          exact Fin.castSucc_ne_last j same
        · rw [← h.1, Fin.snoc_last]
      | cast i =>
        simp only [Option.map_eq_some_iff, Fin.castSucc_inj, exists_eq_right, ih,
          Fin.forall_fin_succ', Fin.snoc_castSucc, Fin.snoc_last, Fin.castSucc_lt_castSucc_iff]
        exact and_congr_right fun _ => (and_iff_left fun _ => apart).symm

/-- Without candidates there is no zero, and otherwise the first rank is one. -/
theorem lastZero_eq_none_iff {count : Nat} {ranks : Ranks count} :
    lastZero ranks = none ↔ count = 0 := by
  rw [lastZero, List.find?_eq_none]
  constructor
  · intro none
    by_contra positive
    have zero := Nat.lt_one_iff.mp (ranks ⟨0, Nat.pos_of_ne_zero positive⟩).isLt
    exact none _ (List.mem_reverse.mpr (List.mem_finRange _)) (decide_eq_true (Fin.ext zero))
  · rintro rfl i
    exact i.elim0

/-! ## Counting -/

/-- As many ranks can be drawn for the candidates before and after one of them as for all but one
candidate. -/
theorem prod_ranks {count i : Nat} (h : i < count) :
    (∏ j ∈ Finset.range count, if j < i then j + 1 else if j = i then 1 else j) =
      (count - 1).factorial := by
  induction count with
  | zero => contradiction
  | succ count ih =>
    rw [Finset.prod_range_succ, Nat.add_sub_cancel]
    rcases Nat.lt_succ_iff_lt_or_eq.mp h with earlier | rfl
    · rw [ih earlier, if_neg (by omega), if_neg (by omega), Nat.mul_comm,
        Nat.mul_factorial_pred (by omega)]
    · rw [if_neg (by omega), if_pos rfl, Nat.mul_one, ← Finset.prod_range_add_one_eq_factorial]
      exact Finset.prod_congr rfl fun j hj => if_pos (Finset.mem_range.mp hj)

/-- The vectors of ranks are as many as the orders of the candidates. -/
theorem card_ranks (count : Nat) : Fintype.card (Ranks count) = count.factorial := by
  simp only [Fintype.card_pi, Fintype.card_fin]
  rw [Fin.prod_univ_eq_prod_range (· + 1), Finset.prod_range_add_one_eq_factorial]

/-- Each candidate has the last zero in the same number of vectors of ranks. -/
theorem card_lastZero {count : Nat} (i : Fin count) :
    Fintype.card {ranks : Ranks count // lastZero ranks = some i} = (count - 1).factorial := by
  -- Ranks before the candidate are free, its own is zero, and later ones are anything but zero.
  let allowed (j : Fin count) : Finset (Fin (j + 1)) :=
    if j < i then Finset.univ else if j = i then {0} else Finset.univ.erase 0
  have free (ranks : Ranks count) :
      lastZero ranks = some i ↔ ranks ∈ Fintype.piFinset allowed := by
    rw [lastZero_eq_some_iff, Fintype.mem_piFinset]
    constructor
    · rintro ⟨zero, later⟩ j
      rcases lt_trichotomy j i with before | rfl | after
      · simp [allowed, before]
      · simp [allowed, zero]
      · simp [allowed, after.not_gt, after.ne', later j after]
    · intro all
      refine ⟨by simpa [allowed] using all i, fun j after => ?_⟩
      simpa [allowed, after.not_gt, after.ne'] using all j
  have size (j : Fin count) :
      (allowed j).card = if j.val < i.val then j.val + 1 else if j.val = i.val then 1 else j.val := by
    simp only [allowed, Fin.lt_def, Fin.ext_iff]
    split
    · simp
    · split <;> simp
  rw [Fintype.card_of_subtype _ fun ranks => (free ranks).symm, Fintype.card_piFinset,
    Finset.prod_congr rfl fun j _ => size j,
    Fin.prod_univ_eq_prod_range fun j => if j < i.val then j + 1 else if j = i.val then 1 else j]
  exact prod_ranks i.isLt

/-! ## Draws -/

section

variable {G α : Type} [Source G]

/-- The last candidate is chosen if its rank is zero, and otherwise the choice stays as it was. -/
theorem reservoir_append_singleton {seen bound : Nat} (chosen : Option α) (candidates : List α)
    (candidate : α) (h : seen + candidates.length + 1 = bound) (positive : 0 < bound) :
    (reservoir seen chosen (candidates ++ [candidate]) : Draw G (Option α)) = do
      let chosen ← reservoir seen chosen candidates
      let rank ← Draw.below bound positive
      return if rank.val = 0 then some candidate else chosen := by
  induction candidates generalizing seen chosen with
  | nil =>
    subst h
    rfl
  | cons first rest ih =>
    rw [List.length_cons] at h
    simp only [List.cons_append, reservoir, bind_assoc]
    exact bind_congr fun rank => ih _ (by omega)

/-- After each candidate the choice is the one at the last rank so far that is zero. -/
theorem reservoir_take (candidates : List α) {count : Nat} (h : count ≤ candidates.length) :
    (reservoir 0 none (candidates.take count) : Draw G (Option α)) =
      (fun ranks => (lastZero ranks).bind fun i => candidates[i.val]?) <$> Draw.ranks count := by
  induction count with
  | zero => rfl
  | succ count ih =>
    have bound : 0 + (candidates.take count).length + 1 = count + 1 := by simp; omega
    rw [List.take_succ_eq_append_getElem h,
      reservoir_append_singleton _ _ _ bound count.succ_pos, ih (by omega), Draw.ranks]
    simp only [map_eq_pure_bind, bind_assoc, pure_bind, lastZero_snoc]
    refine bind_congr fun earlier => bind_congr fun last => congrArg pure ?_
    split
    · exact (List.getElem?_eq_getElem h).symm
    · rw [Option.bind_map]
      rfl

end

/-! ## Picks -/

/-- The paths to the nodes other than the root are all but the first. -/
theorem innerPaths_eq_tail (t : Tree) : t.innerPaths = t.paths.tail :=
  t.tail_paths_eq_filter.symm

/-- A node other than the root is picked if its rank is the last zero. -/
theorem picked_eq_some_iff {t : Tree} {ranks : Ranks t.innerPaths.length}
    {i : Fin t.innerPaths.length} :
    t.picked ranks = some t.innerPaths[i] ↔ lastZero ranks = some i := by
  rw [Tree.picked, Option.map_eq_some_iff]
  constructor
  · rintro ⟨j, found, same⟩
    rwa [← Fin.ext ((t.nodup_paths.filter _).getElem_inj_iff.mp same)]
  · intro found
    exact ⟨i, found, rfl⟩

/-- A pick draws the ranks of the nodes other than the root, and nothing else. -/
theorem pickPath_eq_map_ranks {G : Type} [Source G] (t : Tree) :
    (pickPath t : Draw G (Option Path)) = t.picked <$> Draw.ranks t.innerPaths.length := by
  have picks := reservoir_take (G := G) t.innerPaths le_rfl
  rw [List.take_length] at picks
  rw [pickPath, ← innerPaths_eq_tail, picks]
  congr 1
  funext ranks
  rw [Tree.picked, Option.map_eq_bind]
  refine congrArg _ (funext fun i => ?_)
  exact List.getElem?_eq_getElem i.isLt

/-- A pick draws one rank for each node other than the root, below one for the first, below two for
the second and so on, and nothing else. It comes to nothing only if there is no such node, and
otherwise to the node at the last rank that is zero. Of the vectors of ranks that can be drawn, as
many as the orders of all nodes but one lead to each node. -/
theorem pick_uniform (t : Tree) :
    t.innerPaths.length + 1 = t.nodeCount ∧ t.innerPaths.Nodup ∧
    (∀ (G : Type) [Source G],
      (pickPath t : Draw G (Option Path)) = t.picked <$> Draw.ranks t.innerPaths.length) ∧
    (∀ ranks, t.picked ranks = none ↔ t.innerPaths.length = 0) ∧
    (∀ (ranks : Ranks t.innerPaths.length) (i : Fin t.innerPaths.length),
      t.picked ranks = some t.innerPaths[i] ↔ ranks i = 0 ∧ ∀ j, i < j → ranks j ≠ 0) ∧
    Fintype.card (Ranks t.innerPaths.length) = t.innerPaths.length.factorial ∧
    ∀ i : Fin t.innerPaths.length,
      Fintype.card {ranks : Ranks t.innerPaths.length // t.picked ranks = some t.innerPaths[i]} =
        (t.innerPaths.length - 1).factorial := by
  refine ⟨?_, t.nodup_paths.filter _, fun G _ => pickPath_eq_map_ranks t, fun ranks => ?_,
    fun ranks i => picked_eq_some_iff.trans lastZero_eq_some_iff, card_ranks _, fun i => ?_⟩
  · have positive := t.nodeCount_pos
    rw [innerPaths_eq_tail, List.length_tail, Tree.length_paths]
    omega
  · rw [Tree.picked, Option.map_eq_none_iff, lastZero_eq_none_iff]
  · simp only [picked_eq_some_iff, card_lastZero]

end Vivarium
