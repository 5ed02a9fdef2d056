import Vivarium.Proofs.Random.Yields
import Vivarium.Proofs.World.Replay

/-!
# Wrapping a node in a branch

The mutation that wraps a node in a branch, with the node in both arms, does not change what the
program does: its condition compares a sensor with a number, which reads but does nothing, and
whatever it finds, the node is what goes on. Whole programs with the wrapped node and with the plain
one are resumed alike in every world.
-/

namespace Vivarium

open Vivarium.Tree

/-- The comparison of a sensor with a number. -/
def measures (comparison : Comparison) (sensor : Sensor) (threshold : Int) : Tree :=
  apply (.comparison comparison) [apply (.sensor sensor) [], int threshold]

/-- A random comparison compares a sensor with a number. -/
theorem exists_measures {G : Type} [Source G] :
    Draw.Yields (randomComparison : Draw G Tree) fun condition =>
      ∃ comparison sensor threshold, condition = measures comparison sensor threshold := by
  refine (Draw.yields_true _).bind fun comparison _ => ?_
  have sensors : Draw.Yields (randomSensor : Draw G Tree) fun t =>
      ∃ sensor, t = apply (.sensor sensor) [] :=
    (Draw.yields_true _).bind fun sensor _ => Draw.yields_pure ⟨sensor, rfl⟩
  refine sensors.bind fun t ht => (Draw.yields_true _).bind fun threshold _ => ?_
  obtain ⟨sensor, rfl⟩ := ht
  exact Draw.yields_pure ⟨comparison, sensor, threshold, rfl⟩

variable {senses : Senses}

/-- A sensor form comes to the reading of its sensor. -/
theorem evaluate_sensor (sensor : Sensor) (args : List Tree) :
    evaluate senses (apply (.sensor sensor) args) =
      (do return .value (.number (.int (← senses.read sensor)))) := by
  rw [evaluate, lookup_symbol_name]
  rfl

/-- A comparison evaluates its operands from left to right. -/
theorem evaluate_comparison (comparison : Comparison) (args : List Tree) :
    evaluate senses (apply (.comparison comparison) args) = (do
      (← evaluate senses (argument args 0)).andThen
          (.leftOperand (.comparison comparison) (argument args 1)) fun a => do
        (← evaluate senses (argument args 1)).andThen
            (.rightOperand (.comparison comparison) a) fun b =>
          return .value (.bool (comparison.holds a.operand b.operand))) := by
  rw [evaluate, lookup_symbol_name, ← evaluateArgument_eq, ← evaluateArgument_eq]
  rfl

/-- A branch evaluates its condition and one of its arms. -/
theorem evaluate_branch (args : List Tree) :
    evaluate senses (apply (.control .branch) args) = (do
      (← evaluate senses (argument args 0)).andThen
          (.condition (argument args 1) (argument args 2)) fun condition =>
        if condition.isTrue then evaluate senses (argument args 1)
        else evaluate senses (argument args 2)) := by
  simp only [← evaluateArgument_eq]
  rw [evaluate, lookup_symbol_name]
  rfl

/-- The comparison of a sensor with a number comes to a truth value at once. -/
theorem exists_evaluate_measures (sound : senses.Sound) (comparison : Comparison) (sensor : Sensor)
    (threshold : Int) :
    ∃ b, evaluate senses (measures comparison sensor threshold) = .ok (.value (.bool b)) := by
  obtain ⟨value, read⟩ := sound.exists_read sensor
  have left : evaluate senses (argument [apply (.sensor sensor) [], int threshold] 0) =
      .ok (.value (.number (.int value))) := by
    change evaluate senses (apply (.sensor sensor) []) = _
    rw [evaluate_sensor, read]
    rfl
  have right : evaluate senses (argument [apply (.sensor sensor) [], int threshold] 1) =
      .ok (.value (.number (.int threshold))) := by
    change evaluate senses (int threshold) = _
    rw [evaluate]
    rfl
  refine ⟨comparison.holds (.int value) (.int threshold), ?_⟩
  rw [measures, evaluate_comparison, left, right]
  rfl

/-- A branch whose condition comes to a value at once and whose arms are the same tree goes on to
that tree. -/
theorem evaluate_branch_of_value {condition : Tree} {v : Atom}
    (h : evaluate senses condition = .ok (.value v)) (node : Tree) :
    evaluate senses (apply (.control .branch) [condition, node, node]) = evaluate senses node := by
  have first : evaluate senses (argument [condition, node, node] 0) = .ok (.value v) := h
  rw [evaluate_branch, first]
  exact ite_self (evaluate senses node)

/-- A node goes like itself wrapped in a branch with a comparison of a sensor with a number. -/
theorem alike_branch_measures (comparison : Comparison) (sensor : Sensor) (threshold : Int)
    (node : Tree) :
    node.Alike (apply (.control .branch) [measures comparison sensor threshold, node, node]) := by
  intro n senses sound
  obtain ⟨b, h⟩ := exists_evaluate_measures sound comparison sensor threshold
  rw [evaluate_branch_of_value h node]
  exact .refl (AlikeFor.refl n) _

namespace World

variable {G : Type} [Source G]

/-- Wrapping a node in a branch is neutral. For every program, every node of it and every comparison
that can be drawn, the program in which the node is replaced by a branch with the comparison and the
node in both arms is resumed like the original: from every world in which an animal is resident and
with every change of the world between two resumptions that leaves it resident, each resumption is
suspended or not, has the same value or action or stops with the same fault, and leaves the same
world. -/
theorem wrapping_neutral {H : Type} [Source H] (h : H) {t : Tree} {path : Path}
    (hp : path ∈ t.paths) :
    ∃ node result, t.get path = .ok node ∧
      t.set path (apply (.control .branch) [(randomComparison h).1, node, node]) = .ok result ∧
      ∀ id, ∀ world : World G, Resident id world → ∀ changes : List (World G → World G),
        (∀ change ∈ changes, Settles id change) →
          replay id result changes none world = replay id t changes none world := by
  obtain ⟨node, reaches⟩ := exists_reaches_of_mem_paths hp
  obtain ⟨comparison, sensor, threshold, drawn⟩ := exists_measures h
  rw [drawn]
  obtain ⟨result, set, alike⟩ :=
    reaches.exists_alike (alike_branch_measures comparison sensor threshold node)
  exact ⟨node, result, reaches.get_eq, set, fun id world hr changes hc =>
    replay_eq_of_alike alike .idle hr hc⟩

/-- The body of a loop in the program that lineages start with is wrapped, and nothing else comes of
it for an animal that loses energy after each of three resumptions. -/
theorem wrapping_neutral_loop :
    ∃ node result, herbivore.get [1, 3, 3, 2, 2] = .ok node ∧
      herbivore.set [1, 3, 3, 2, 2] (apply (.control .branch)
        [(randomComparison (Generator.ofSeed 7)).1, node, node]) = .ok result ∧
      replay 0 result (List.replicate 3 (tiring 0 [])) none (lone (Generator.ofSeed 7)) =
        replay 0 herbivore (List.replicate 3 (tiring 0 [])) none (lone (Generator.ofSeed 7)) := by
  have listed : [1, 3, 3, 2, 2] ∈ herbivore.paths := by decide
  obtain ⟨node, result, get, set, same⟩ :=
    wrapping_neutral (G := Generator) (Generator.ofSeed 7) listed
  refine ⟨node, result, get, set, same 0 _ (resident_lone _) _ fun change hc => ?_⟩
  rw [List.eq_of_mem_replicate hc]
  exact fun world h => admits_tiring [] world h

end World

end Vivarium
