import Mathlib.Data.List.Basic
import Vivarium.Program.Path
import Vivarium.Proofs.Attempt

/-!
# Grammars

A grammar tells which operators may head a form with so many arguments, and which atoms there may
be. Well-formed trees are those of the grammar without conditions. The parts of a tree of a grammar
are of the grammar, and so is what becomes of it when a part is replaced.
-/

namespace Vivarium.Tree

/-- A grammar of program trees. -/
structure Grammar where
  /-- Whether an operator may head a form with so many arguments. -/
  form : Operator → Nat → Prop
  /-- Whether there may be an atom. -/
  atom : Atom → Prop

/-- Whether a tree is of a grammar. -/
inductive Conforms (grammar : Grammar) : Tree → Prop where
  /-- An atom of the grammar. -/
  | atom {a : Atom} (h : grammar.atom a) : Conforms grammar (.atom a)
  /-- A form of the grammar with arguments of the grammar. -/
  | form {operator : Operator} {args : List Tree} (h : grammar.form operator args.length)
    (each : ∀ t ∈ args, Conforms grammar t) : Conforms grammar (apply operator args)

variable {grammar : Grammar} {operator : Operator} {args : List Tree}

/-- The operator of an applied form is found at its head. -/
@[simp] theorem operator?_symbol_name (operator : Operator) :
    (symbol operator.name).operator? = some operator :=
  Operator.ofName?_name operator

/-- A head that names an operator is the symbol of the operator. -/
theorem eq_symbol_of_operator? {head : Tree} (h : head.operator? = some operator) :
    head = symbol operator.name := by
  match head with
  | .atom (.symbol name) => rw [Operator.name_of_ofName? h]
  | .atom .nil | .atom (.bool _) | .atom (.number _) | .form _ => simp [operator?] at h

/-- An operator is looked up by its symbol. -/
theorem lookup_symbol_name (operator : Operator) :
    (symbol operator.name).lookup = .ok (some operator) :=
  congrArg Except.ok (operator?_symbol_name operator)

/-- A head under which an operator is found is the symbol of the operator. -/
theorem eq_symbol_of_lookup {head : Tree} (h : head.lookup = .ok (some operator)) :
    head = symbol operator.name := by
  match head with
  | .atom a => exact eq_symbol_of_operator? (Except.ok.inj h)
  | .form _ => contradiction

/-- An atom is of a grammar if the grammar has it. -/
theorem conforms_atom_iff {a : Atom} : Conforms grammar (.atom a) ↔ grammar.atom a := by
  constructor
  · intro h
    cases h with
    | atom h => exact h
  · exact .atom

/-- A form of a grammar is an operator applied to arguments of the grammar. -/
theorem conforms_form_iff {items : List Tree} :
    Conforms grammar (.form items) ↔
      ∃ operator args, items = symbol operator.name :: args ∧ grammar.form operator args.length ∧
        ∀ t ∈ args, Conforms grammar t := by
  constructor
  · intro h
    cases h with
    | form h each => exact ⟨_, _, rfl, h, each⟩
  · rintro ⟨operator, args, rfl, h, each⟩
    exact .form h each

/-- An applied operator is of a grammar if its arguments are as many as it may have, and of the
grammar. -/
theorem conforms_apply_iff :
    Conforms grammar (apply operator args) ↔
      grammar.form operator args.length ∧ ∀ t ∈ args, Conforms grammar t := by
  rw [conforms_form_iff]
  constructor
  · rintro ⟨other, found, same, h, each⟩
    obtain ⟨head, rfl⟩ := List.cons.inj same
    have names : operator.name = other.name := by simpa using head
    rw [Operator.name_injective names]
    exact ⟨h, each⟩
  · rintro ⟨h, each⟩
    exact ⟨operator, args, rfl, h, each⟩

/-- What holds of nil and of all arguments holds of the argument at a position, also of a missing
one. -/
theorem argument_of_forall {P : Tree → Prop} (nil : P .nil) (each : ∀ t ∈ args, P t) (i : Nat) :
    P (argument args i) := by
  rw [argument]
  cases found : args[i]? with
  | none => exact nil
  | some t => exact each t (List.mem_of_getElem? found)

/-- An argument of a form of a grammar is of the grammar, if nil is. -/
theorem conforms_argument (nil : grammar.atom .nil) (each : ∀ t ∈ args, Conforms grammar t)
    (i : Nat) : Conforms grammar (argument args i) :=
  argument_of_forall (.atom nil) each i

/-- A tree of a grammar is of every wider one. -/
theorem Conforms.mono {wider : Grammar} {t : Tree} (h : Conforms grammar t)
    (forms : ∀ operator n, grammar.form operator n → wider.form operator n)
    (atoms : ∀ a, grammar.atom a → wider.atom a) : Conforms wider t := by
  induction h with
  | atom h => exact .atom (atoms _ h)
  | form h _ ih => exact .form (forms _ _ h) ih

/-! ## Well-formed trees -/

/-- The grammar without conditions. -/
def anyForm : Grammar := ⟨fun _ _ => True, fun _ => True⟩

mutual

/-- A tree is well formed if it is of the grammar without conditions. -/
theorem wellFormed_iff (t : Tree) : t.wellFormed = .ok true ↔ Conforms anyForm t := by
  match t with
  | .atom a => exact ⟨fun _ => .atom trivial, fun _ => rfl⟩
  | .form [] =>
    rw [conforms_form_iff]
    simp [wellFormed]
  | .form (head :: args) =>
    have rest := allWellFormed_iff args
    rw [wellFormed, bind_eq_ok_iff]
    constructor
    · rintro ⟨found, hl, h⟩
      cases found with
      | none => exact absurd (Except.ok.inj h) (by decide)
      | some operator =>
        rw [eq_symbol_of_lookup hl]
        exact .form trivial (rest.mp h)
    · intro h
      obtain ⟨operator, _, same, -, each⟩ := conforms_form_iff.mp h
      obtain ⟨rfl, rfl⟩ := List.cons.inj same
      exact ⟨some operator, lookup_symbol_name operator, rest.mpr each⟩

/-- Trees are all well formed if each of them is of the grammar without conditions. -/
theorem allWellFormed_iff (ts : List Tree) :
    allWellFormed ts = .ok true ↔ ∀ t ∈ ts, Conforms anyForm t := by
  match ts with
  | [] => simp [allWellFormed]
  | t :: ts =>
    have first := wellFormed_iff t
    have rest := allWellFormed_iff ts
    rw [allWellFormed, bind_eq_ok_iff, List.forall_mem_cons, ← first, ← rest]
    constructor
    · rintro ⟨good, ht, hts⟩
      cases good with
      | true => exact ⟨ht, hts⟩
      | false => exact absurd (Except.ok.inj hts) (by decide)
    · rintro ⟨ht, hts⟩
      exact ⟨true, ht, hts⟩

end

end Vivarium.Tree
