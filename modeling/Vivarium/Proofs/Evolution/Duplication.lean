import Vivarium.Proofs.Program.Flattening
import Vivarium.Proofs.World.Replay

/-!
# Doubling a node

The mutation that doubles a node puts a copy in front of it where it is an element of a sequence, and
a sequence of both in its place elsewhere. For an element of a sequence both come to the same: whole
programs with the copy and with the sequence of both are resumed alike in every world.
-/

namespace Vivarium

open Vivarium.Tree

/-- An element that is put where the others start stands between the two parts of a list. -/
theorem insertIdx_length_append {α : Type} (before after : List α) (a : α) :
    (before ++ after).insertIdx before.length a = before ++ a :: after := by
  induction before with
  | nil => rfl
  | cons b before ih => simp [ih]

/-- A copy in front of an element of a sequence goes like a sequence of both in its place. -/
theorem alike_insertIdx_set {args : List Tree} {i : Nat} {node : Tree} (h : args[i]? = some node) :
    (apply (.control .sequence) (args.insertIdx i node)).Alike
      (apply (.control .sequence) (args.set i (apply (.control .sequence) [node, node]))) := by
  obtain ⟨below, same⟩ := List.getElem?_eq_some_iff.mp h
  obtain ⟨before, after, parts, rfl, set⟩ :=
    @List.exists_of_set _ _ (apply (.control .sequence) [node, node]) _ below
  rw [same] at parts
  rw [set, parts, insertIdx_length_append]
  exact alike_flatten before after (List.cons_ne_nil node [node])

variable {t node : Tree} {path : Path} {args : List Tree}

/-- An element of a sequence is replaced within the sequence. -/
theorem Tree.Reaches.exists_element (h : Reaches t path node) (below : path ≠ [])
    (parent : t.get path.dropLast = .ok (apply (.control .sequence) args)) :
    ∃ i, path.getLastD 0 = ((i + 1 : Nat) : Int) ∧ args[i]? = some node ∧
      Reaches t path.dropLast (apply (.control .sequence) args) ∧
      ∀ value, t.set path value =
        t.set path.dropLast (apply (.control .sequence) (args.set i value)) := by
  obtain ⟨head, args', i, reaches, found, last⟩ := h.exists_parent below
  rw [reaches.get_eq, Except.ok.injEq, Tree.form.injEq, List.cons.injEq] at parent
  obtain ⟨rfl, rfl⟩ := parent
  have bound := (List.getElem?_eq_some_iff.mp found).1
  refine ⟨i, last, found, reaches, fun value => ?_⟩
  have snoc : path = path.dropLast ++ [((i + 1 : Nat) : Int)] := by
    rw [← last, List.getLastD_eq_getLast?, List.getLast?_eq_some_getLast below, Option.getD_some,
      List.dropLast_append_getLast]
  conv_lhs => rw [snoc, set_append_singleton, reaches.get_eq]
  change (do t.set path.dropLast (← (Tree.form _).replacePart _ value)) = _
  rw [replacePart_argument bound]
  rfl

/-- Within a sequence, doubling an element puts a copy in front of it. -/
theorem duplicateAt_element (parent : t.get path.dropLast = .ok (apply (.control .sequence) args))
    {i : Nat} (last : path.getLastD 0 = ((i + 1 : Nat) : Int)) (node : Tree) :
    duplicateAt t path node =
      t.set path.dropLast (apply (.control .sequence) (args.insertIdx i node)) := by
  have place : (path.getLastD 0).toNat = i + 1 := by
    rw [last]
    exact Int.toNat_natCast _
  simp only [duplicateAt, parent, bind, Except.bind, operator?_symbol_name, if_true, place,
    List.insertIdx_succ_cons]

namespace World

variable {G : Type} [Source G]

/-- The two forms of doubling mean the same. For every program and every node of it that is an
element of a sequence, the mutation puts a copy of the node in front of it, and the program that
comes of it is resumed like the one in which a sequence of both takes the place of the node: from
every world in which an animal is resident and with every change of the world between two
resumptions that leaves it resident, each resumption is suspended or not, has the same value or
action or stops with the same fault, and leaves the same world. -/
theorem duplications_agree (hp : path ∈ t.paths) (below : path ≠ [])
    (parent : t.get path.dropLast = .ok (apply (.control .sequence) args)) :
    ∃ i node sibling nested, path.getLastD 0 = ((i + 1 : Nat) : Int) ∧ args[i]? = some node ∧
      t.get path = .ok node ∧ duplicateAt t path node = .ok sibling ∧
      t.set path.dropLast (apply (.control .sequence) (args.insertIdx i node)) = .ok sibling ∧
      t.set path (apply (.control .sequence) [node, node]) = .ok nested ∧
      ∀ id, ∀ world : World G, Resident id world → ∀ changes : List (World G → World G),
        (∀ change ∈ changes, Settles id change) →
          replay id sibling changes none world = replay id nested changes none world := by
  obtain ⟨node, reaches⟩ := exists_reaches_of_mem_paths hp
  obtain ⟨i, last, found, above, replaced⟩ := reaches.exists_element below parent
  obtain ⟨sibling, nested, copied, set, alike⟩ :=
    above.exists_set_alike (alike_insertIdx_set found)
  refine ⟨i, node, sibling, nested, last, found, reaches.get_eq, ?_, copied, ?_, ?_⟩
  · rw [duplicateAt_element parent last, copied]
  · rw [replaced, set]
  · intro id world hr changes hc
    exact (replay_eq_of_alike alike .idle hr hc).symm

/-- The turn in the body of a loop of the program that lineages start with is doubled in both ways,
and the same comes of it for an animal that loses energy after each of five resumptions. -/
theorem duplications_agree_loop :
    ∃ sibling nested, duplicateAt herbivore [1, 3, 3, 1, 2, 1] (apply (.action .turnLeft) []) =
        .ok sibling ∧
      herbivore.set [1, 3, 3, 1, 2, 1] (apply (.control .sequence)
        [apply (.action .turnLeft) [], apply (.action .turnLeft) []]) = .ok nested ∧
      replay 0 sibling (List.replicate 5 (tiring 0 [])) none (lone (Generator.ofSeed 7)) =
        replay 0 nested (List.replicate 5 (tiring 0 [])) none (lone (Generator.ofSeed 7)) := by
  have listed : [1, 3, 3, 1, 2, 1] ∈ herbivore.paths := by decide
  obtain ⟨i, node, sibling, nested, -, -, get, copied, -, set, same⟩ :=
    duplications_agree (G := Generator) listed (List.cons_ne_nil _ _) rfl
  obtain rfl : apply (.action .turnLeft) [] = node := Except.ok.inj get
  refine ⟨sibling, nested, copied, set, same 0 _ (resident_lone _) _ fun change hc => ?_⟩
  rw [List.eq_of_mem_replicate hc]
  exact fun world h => admits_tiring [] world h

end World

end Vivarium
