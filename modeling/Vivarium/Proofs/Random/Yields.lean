import Mathlib.Data.List.Perm.Basic
import Vivarium.Random.Source

/-!
# What draws yield

A draw yields a property when its value has it whatever the source hands out. Draws built from parts
yield what follows from what the parts yield.
-/

namespace Vivarium.Draw

variable {G : Type} {α β : Type}

/-- Whether every value that a draw can come to has a property. -/
def Yields (draw : Draw G α) (post : α → Prop) : Prop :=
  ∀ g, post (draw g).1

/-- A value without a draw has what is known of it. -/
theorem yields_pure {post : α → Prop} {a : α} (h : post a) :
    Yields (pure a : Draw G α) post :=
  fun _ => h

/-- What the first of two draws yields can be used for the second. -/
theorem Yields.bind {draw : Draw G α} {next : α → Draw G β} {middle : α → Prop} {post : β → Prop}
    (h : Yields draw middle) (h' : ∀ a, middle a → Yields (next a) post) :
    Yields (draw >>= next) post :=
  fun g => h' _ (h g) _

/-- A draw yields what follows from what it yields. -/
theorem Yields.mono {draw : Draw G α} {middle post : α → Prop} (h : Yields draw middle)
    (h' : ∀ a, middle a → post a) : Yields draw post :=
  fun g => h' _ (h g)

/-- Every draw yields something. -/
theorem yields_true (draw : Draw G α) : Yields draw fun _ => True :=
  fun _ => trivial

variable [Source G]

/-- An element that is drawn is one of the list. -/
theorem yields_choose (choices : List α) (h : choices ≠ []) :
    Yields (choose choices h : Draw G α) (· ∈ choices) :=
  fun _ => List.getElem_mem _

/-- An integer that is drawn lies between the ends. -/
theorem yields_between (low high : Int) (h : low ≤ high) :
    Yields (between low high h : Draw G Int) fun n => low ≤ n ∧ n ≤ high := by
  intro g
  have bound := (Source.below (high + 1 - low).toNat (by omega) g).1.isLt
  change low ≤ low + ((Source.below (high + 1 - low).toNat _ g).1.val : Int) ∧ _
  constructor
  · omega
  · change low + ((Source.below (high + 1 - low).toNat _ g).1.val : Int) ≤ high
    omega

/-- Exchanges do not change which elements there are. -/
theorem yields_shuffleFrom (items : Array α) (last : Nat) :
    Yields (shuffleFrom items last : Draw G (Array α)) fun shuffled =>
      shuffled.toList.Perm items.toList := by
  induction last generalizing items with
  | zero => exact yields_pure (List.Perm.refl _)
  | succ last ih =>
    refine (yields_true _).bind fun i _ g => (ih _ g).trans ?_
    rw [Array.swapIfInBounds_def]
    split
    · split
      · exact (Array.swap_perm _ _).toList
      · exact List.Perm.refl _
    · exact List.Perm.refl _

/-- A shuffled list has the elements that it had before. -/
theorem yields_shuffle (items : List α) :
    Yields (shuffle items : Draw G (List α)) fun shuffled => shuffled.Perm items := by
  refine (yields_shuffleFrom items.toArray _).bind fun shuffled h => yields_pure ?_
  simpa using h

end Vivarium.Draw
