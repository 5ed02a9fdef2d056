import Vivarium.Proofs.Evolution.Mutation
import Vivarium.Proofs.Program.Plain

/-!
# The language of evolved programs

Evolution starts with a program in which every operator has as many arguments as it takes, in which
all atoms are nil or numbers that are not negative, and which does not calculate. The grammars of
these conditions are closed, and so is the one without conditions.
-/

namespace Vivarium

open Vivarium.Tree

/-- Whether an operator takes so many arguments. -/
def Operator.Takes : Operator → Nat → Prop
  | .sensor _, n => n = 0
  | .action .fork, n => n = 1
  | .action _, n => n = 0
  | .comparison _, n => n = 2
  | .arithmetic _, n => n = 2
  | .control .branch, n => n = 3
  | .control .loop, n => n = 2
  | .control .sequence, n => 1 ≤ n

/-- Whether an atom is nil or an integer that is not negative. -/
def Atom.Counts : Atom → Prop
  | .nil => True
  | .number (.int n) => 0 ≤ n
  | _ => False

/-- The grammar of the trees in which every operator has the arguments that it takes and every atom
is nil or an integer that is not negative. -/
def regular : Grammar := ⟨Operator.Takes, Atom.Counts⟩

/-- The grammar of the trees without arithmetic operators. -/
def arithmeticFree : Grammar :=
  ⟨fun operator _ => ∀ arithmetic, operator ≠ .arithmetic arithmetic, fun _ => True⟩

/-- A moved integer is not negative. -/
theorem counts_nudge {n : Number} (h : (Atom.number n).Counts) (step : Int) :
    (Atom.number (nudge n step)).Counts := by
  match n with
  | .int n =>
    simp only [nudge]
    split
    · rename_i positive
      have above : 0 < n + step := by simpa using positive
      exact Int.le_of_lt above
    · exact Int.le_refl 0

/-- Every tree that an edit needs is well formed. -/
theorem closed_anyForm : anyForm.Closed :=
  ⟨trivial, fun _ _ => trivial, fun _ _ _ => trivial, fun _ => trivial, fun _ _ => trivial, trivial,
    fun _ => trivial, fun _ _ _ _ => trivial, trivial, fun _ _ => trivial, trivial,
    fun _ _ => trivial⟩

/-- Every tree that an edit needs has the arguments that it takes. -/
theorem closed_regular : regular.Closed where
  nil := trivial
  int _ h := h
  nudge _ step h := counts_nudge h step
  sensor _ := rfl
  action action h := by cases action <;> first | rfl | exact absurd rfl h
  fork := rfl
  comparison _ := rfl
  redraw _ _ _ h := h
  branch := rfl
  pad n h := by
    change n = 3 at h
    change max 3 n = 3
    omega
  loop := rfl
  sequence _ h := h

/-- No tree that an edit needs calculates. -/
theorem closed_arithmeticFree : arithmeticFree.Closed where
  nil := trivial
  int _ _ := trivial
  nudge _ _ _ := trivial
  sensor _ := nofun
  action _ _ := nofun
  fork := nofun
  comparison _ := nofun
  redraw _ _ _ _ := nofun
  branch := nofun
  pad _ _ := nofun
  loop := nofun
  sequence _ _ := nofun

/-- Whether a program is a sequence at its root, takes the arguments that its operators take, has
only atoms that are nil or not negative, and does not calculate. -/
structure Evolved (program : Tree) : Prop where
  root : ∃ steps, program = apply (.control .sequence) steps
  regular : Conforms regular program
  arithmeticFree : Conforms arithmeticFree program

/-- The program that lineages start with is evolved. -/
theorem evolved_herbivore : Evolved herbivore := by
  refine ⟨⟨_, rfl⟩, ?_, ?_⟩ <;>
    simp only [herbivore, herbivore.sequence, herbivore.branch, herbivore.loop, herbivore.act,
      herbivore.above, conforms_apply_iff, conforms_atom_iff, List.forall_mem_cons]
  · simp [Vivarium.regular, Operator.Takes, Atom.Counts]
  · simp [Vivarium.arithmeticFree]

/-- An evolved program is plain. -/
theorem Evolved.plain {program : Tree} (h : Evolved program) : Plain program := by
  have plain {t : Tree} (ht : Conforms Vivarium.regular t) : Plain t := by
    induction ht with
    | @atom a counts =>
      match a with
      | .nil | .number (.int _) => exact .atom trivial
    | form _ _ ih => exact .form _ ih
  exact plain h.regular

/-- A mutation of an evolved program is evolved. -/
theorem Evolved.mutateProgram {G : Type} [Source G] {program result : Tree} (h : Evolved program)
    {g g' : G} (hm : (mutateProgram program).outcome g = (.ok result, g')) : Evolved result := by
  obtain ⟨first, after, outcome, regular, root⟩ := exists_mutateProgram closed_regular h.regular g
  obtain ⟨second, last, outcome', free, -⟩ :=
    exists_mutateProgram closed_arithmeticFree h.arithmeticFree g
  rw [hm, Prod.mk.injEq, Except.ok.injEq] at outcome outcome'
  obtain ⟨steps, same⟩ := h.root
  exact ⟨outcome.1 ▸ root _ steps same, outcome.1 ▸ regular, outcome'.1 ▸ free⟩

end Vivarium
