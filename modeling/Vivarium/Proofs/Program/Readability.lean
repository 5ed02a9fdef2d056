import Mathlib.Data.List.Nodup
import Vivarium.Program.Text
import Vivarium.Proofs.Number.Characters

/-!
# Unique readability

The text of a tree can be read in one way only. The items of a form are words or stand between
parentheses, and no word goes on behind a space or a parenthesis. So of two texts with the same
characters, each followed by a rest that cannot continue it, the trees are the same and the rests
are the same. This takes atoms that are told apart by their words: numbers are whole, and the
symbols are those of operators, none of which is a word of another atom or has a digit in it.
-/

namespace Vivarium

/-! ## Composition -/

/-- Whether the forms of a tree are empty or headed by atoms of one kind, and its other atoms are of
another. -/
inductive Tree.Composed (head leaf : Atom → Prop) : Tree → Prop where
  /-- An atom that is no head. -/
  | atom {a : Atom} (h : leaf a) : Composed head leaf (.atom a)
  /-- The empty form. -/
  | empty : Composed head leaf (.form [])
  /-- A form with a head. -/
  | form {a : Atom} {args : List Tree} (h : head a) (each : ∀ t ∈ args, Composed head leaf t) :
    Composed head leaf (.form (.atom a :: args))

/-! ## Words -/

/-- Whether a character divides or encloses the items of a text. -/
def isDelimiter (c : Char) : Bool :=
  c = ' ' || c = '(' || c = ')'

/-- Whether a text is a word: it is not empty and nothing divides or encloses a part of it. -/
def IsWord (word : List Char) : Prop :=
  word ≠ [] ∧ ∀ c ∈ word, isDelimiter c = false

instance (word : List Char) : Decidable (IsWord word) :=
  @instDecidableAnd _ _ _ (List.decidableBAll _ _)

/-- Whether the rest of a text cannot continue the item before it. -/
def Closes (rest : List Char) : Prop :=
  ∀ c ∈ rest.head?, c = ' ' ∨ c = ')'

variable {word word' rest rest' : List Char}

/-- A rest that starts with a space or a closing parenthesis closes. -/
theorem closes_cons {c : Char} (h : c = ' ' ∨ c = ')') (rest : List Char) : Closes (c :: rest) := by
  rintro _ ⟨rfl⟩
  exact h

/-- A word ends where a rest that closes begins. -/
theorem IsWord.takeWhile_append (h : IsWord word) (closes : Closes rest) :
    (word ++ rest).takeWhile (!isDelimiter ·) = word := by
  rw [List.takeWhile_append_of_pos fun c hc => by simp [h.2 c hc]]
  cases rest with
  | nil => rw [List.takeWhile_nil, List.append_nil]
  | cons c rest =>
    have delimits : isDelimiter c := by
      rcases closes c rfl with rfl | rfl <;> rfl
    rw [List.takeWhile_cons_of_neg (by simp [delimits]), List.append_nil]

/-- Words in front of rests that close are read in one way. -/
theorem IsWord.append_inj (h : IsWord word) (h' : IsWord word') (closes : Closes rest)
    (closes' : Closes rest') (same : word ++ rest = word' ++ rest') :
    word = word' ∧ rest = rest' := by
  have first : word = word' := by
    rw [← h.takeWhile_append closes, same, h'.takeWhile_append closes']
  subst first
  exact ⟨rfl, List.append_cancel_left same⟩

/-- No word starts with a delimiter. -/
theorem IsWord.append_ne_cons (h : IsWord word) {c : Char} (delimits : isDelimiter c) :
    word ++ rest ≠ c :: rest' := by
  obtain ⟨first, others, rfl⟩ := List.exists_cons_of_ne_nil h.1
  intro same
  have off := h.2 first List.mem_cons_self
  rw [(List.cons.inj same).1, delimits] at off
  contradiction

/-- What may stand in the text of a number neither divides nor encloses anything. -/
theorem isDelimiter_of_isNumeral {c : Char} (h : isNumeral c) : isDelimiter c = false := by
  by_contra delimits
  simp only [isDelimiter, Bool.or_eq_true, decide_eq_true_eq, Bool.not_eq_false] at delimits
  rcases delimits with (rfl | rfl) | rfl <;> exact absurd h (by decide)

/-- The text of an integer is a word. -/
theorem isWord_toString (n : Int) : IsWord (toString n).toList := by
  obtain ⟨c, hc, -⟩ := exists_isDigit_mem_toString n
  exact ⟨List.ne_nil_of_mem hc, fun c hc => isDelimiter_of_isNumeral (numeral_toString n c hc)⟩

/-! ## Atoms -/

/-- Whether an atom is the symbol of an operator. -/
def Atom.IsOperator (a : Atom) : Prop :=
  ∃ operator : Operator, a = .symbol operator.name

/-- Whether an atom is nil, a truth value, an integer or the symbol of an operator. -/
inductive Atom.Legible : Atom → Prop where
  | nil : Legible .nil
  | bool (value : Bool) : Legible (.bool value)
  | int (value : Int) : Legible (.number (.int value))
  | operator (operator : Operator) : Legible (.symbol operator.name)

namespace Atom

/-- The legible atoms that are no numbers. -/
def named : List Atom :=
  .nil :: .bool true :: .bool false :: Operator.all.map fun operator => .symbol operator.name

/-- A legible atom is a number or one of the others. -/
theorem Legible.cases {a : Atom} (h : a.Legible) :
    (∃ n, a = .number (.int n)) ∨ a ∈ named := by
  cases h with
  | nil => exact .inr List.mem_cons_self
  | bool value => cases value <;> exact .inr (by decide)
  | int n => exact .inl ⟨n, rfl⟩
  | operator operator =>
    have listed : symbol operator.name ∈ Operator.all.map fun operator => symbol operator.name :=
      List.mem_map_of_mem (Operator.mem_all operator)
    exact .inr (List.mem_append_right [Atom.nil, .bool true, .bool false] listed)

/-- The atoms that are no numbers are words without digits. -/
theorem word_of_mem_named :
    ∀ a ∈ named, IsWord a.text.toList ∧ a.text.toList.any Char.isDigit = false := by
  decide

/-- The atoms that are no numbers are told apart by their words. -/
theorem nodup_map_text_named : (named.map text).Nodup := by
  decide

/-- A legible atom is a word. -/
theorem Legible.isWord {a : Atom} (h : a.Legible) : IsWord a.text.toList := by
  rcases h.cases with ⟨n, rfl⟩ | listed
  · exact isWord_toString n
  · exact (word_of_mem_named a listed).1

/-- An atom that is no number is not written as an integer, whose text has a digit in it. -/
theorem text_ne_toString {a : Atom} (h : a ∈ named) (n : Int) : a.text ≠ toString n := by
  intro same
  obtain ⟨c, hc, digit⟩ := exists_isDigit_mem_toString n
  rw [← same] at hc
  exact List.any_eq_false.mp (word_of_mem_named a h).2 c hc digit

/-- Legible atoms are told apart by their words. -/
theorem Legible.eq_of_text_eq {a b : Atom} (ha : a.Legible) (hb : b.Legible)
    (same : a.text = b.text) : a = b := by
  rcases ha.cases with ⟨m, rfl⟩ | ha <;> rcases hb.cases with ⟨n, rfl⟩ | hb
  · rw [toString_int_injective same]
  · exact absurd same.symm (text_ne_toString hb m)
  · exact absurd same (text_ne_toString ha n)
  · exact List.inj_on_of_nodup_map nodup_map_text_named ha hb same

/-- A head is shown as the symbol of its operator, which is a word. -/
theorem IsOperator.isWord {a : Atom} (h : a.IsOperator) : IsWord a.display.toList := by
  obtain ⟨operator, rfl⟩ := h
  exact (Legible.operator operator).isWord

end Atom

namespace Tree

/-! ## Trees -/

/-- Whether the forms of a tree are empty or headed by an operator and its atoms are legible. -/
abbrev Legible : Tree → Prop := Composed Atom.IsOperator Atom.Legible

variable {t u : Tree} {args args' : List Tree}

/-- What a form is written as behind its first parenthesis. -/
theorem toList_text_form (head : Tree) (args : List Tree) (rest : List Char) :
    (text (.form (head :: args))).toList ++ rest =
      '(' :: (head.display.toList ++ ((textOfArguments args).toList ++ ')' :: rest)) := by
  simp [text]

/-- The arguments of a form and its last parenthesis close what is before them. -/
theorem closes_textOfArguments (args : List Tree) (rest : List Char) :
    Closes ((textOfArguments args).toList ++ ')' :: rest) := by
  cases args with
  | nil => exact closes_cons (.inr rfl) rest
  | cons t ts =>
    simp only [textOfArguments, String.toList_append, List.append_assoc]
    exact closes_cons (.inl rfl) _

/-- Whether a tree is the only legible one that a text with its characters can start with. -/
def ReadsAlone (t : Tree) : Prop :=
  ∀ u rest rest', u.Legible → Closes rest → Closes rest' →
    t.text.toList ++ rest = u.text.toList ++ rest' → t = u ∧ rest = rest'

/-- Arguments are read one after the other. A parenthesis ends them, and a space begins one more. -/
theorem textOfArguments_append_inj (each : ∀ t ∈ args, t.ReadsAlone)
    (each' : ∀ t ∈ args', t.Legible)
    (same : (textOfArguments args).toList ++ ')' :: rest =
      (textOfArguments args').toList ++ ')' :: rest') : args = args' ∧ rest = rest' := by
  induction args generalizing args' with
  | nil =>
    cases args' with
    | nil => exact ⟨rfl, (List.cons.inj same).2⟩
    | cons u us =>
      simp only [textOfArguments, String.toList_append, List.append_assoc] at same
      exact absurd (List.cons.inj same).1 (by decide)
  | cons t ts ih =>
    rw [List.forall_mem_cons] at each
    cases args' with
    | nil =>
      simp only [textOfArguments, String.toList_append, List.append_assoc] at same
      exact absurd (List.cons.inj same).1 (by decide)
    | cons u us =>
      rw [List.forall_mem_cons] at each'
      simp only [textOfArguments, String.toList_append, List.append_assoc,
        List.append_cancel_left_eq] at same
      obtain ⟨rfl, later⟩ := each.1 u _ _ each'.1 (closes_textOfArguments ts rest)
        (closes_textOfArguments us rest') same
      obtain ⟨rfl, rests⟩ := ih each.2 each'.2 later
      exact ⟨rfl, rests⟩

/-- A legible tree is the only one that a text with its characters can start with. -/
theorem readsAlone (h : t.Legible) : t.ReadsAlone := by
  induction h with
  | @atom a ha =>
    intro u rest rest' hu closes closes' same
    cases hu with
    | atom hb =>
      obtain ⟨word, rests⟩ := ha.isWord.append_inj hb.isWord closes closes' same
      rw [ha.eq_of_text_eq hb (String.toList_inj.mp word)]
      exact ⟨rfl, rests⟩
    | empty => exact absurd same (ha.isWord.append_ne_cons rfl)
    | form =>
      rw [toList_text_form] at same
      exact absurd same (ha.isWord.append_ne_cons rfl)
  | empty =>
    intro u rest rest' hu closes closes' same
    cases hu with
    | atom hb => exact absurd same.symm (hb.isWord.append_ne_cons rfl)
    | empty => exact ⟨rfl, List.append_cancel_left same⟩
    | form hb =>
      rw [toList_text_form] at same
      exact absurd (List.cons.inj same).2.symm (hb.isWord.append_ne_cons rfl)
  | @form a args ha _ ih =>
    intro u rest rest' hu closes closes' same
    rw [toList_text_form] at same
    cases hu with
    | atom hb => exact absurd same.symm (hb.isWord.append_ne_cons rfl)
    | empty => exact absurd (List.cons.inj same).2 (ha.isWord.append_ne_cons rfl)
    | @form b args' hb each =>
      rw [toList_text_form] at same
      obtain ⟨word, later⟩ := ha.isWord.append_inj hb.isWord (closes_textOfArguments args rest)
        (closes_textOfArguments args' rest') (List.cons.inj same).2
      obtain ⟨operator, rfl⟩ := ha
      obtain ⟨operator', rfl⟩ := hb
      obtain ⟨rfl, rests⟩ := textOfArguments_append_inj ih each later
      have name : operator.name = operator'.name := String.toList_inj.mp word
      rw [name]
      exact ⟨rfl, rests⟩

/-- Two trees whose forms are empty or headed by an operator, and whose atoms are nil, truth values,
integers or symbols of operators, have the same text just if they are the same tree. -/
theorem text_eq_text_iff (ht : t.Legible) (hu : u.Legible) : t.text = u.text ↔ t = u := by
  constructor
  · intro same
    have closed : Closes [] := nofun
    exact (readsAlone ht u [] [] hu closed closed (by rw [same])).1
  · exact congrArg text

/-- A negative number and a bare minus sign before a number are different arguments, and so their
forms have different texts. -/
theorem text_eq_text_iff_minus :
    let minus : Tree := symbol "-"
    let rest : List Tree :=
      [.atom (.bool true), .form [symbol "move"], symbol "move-back", .form []]
    let t : Tree := .form (minus :: int (-1) :: rest)
    let u : Tree := .form (minus :: minus :: int 1 :: rest)
    t.Legible ∧ u.Legible ∧ t.text = "(- -1 true (move) move-back ())" ∧ t.text ≠ u.text := by
  intro minus rest t u
  have head : Atom.IsOperator (.symbol "-") := ⟨.arithmetic .subtract, rfl⟩
  have sign : minus.Legible := .atom (.operator (.arithmetic .subtract))
  have others : ∀ t ∈ rest, t.Legible := by
    simp only [rest, List.forall_mem_cons]
    exact ⟨.atom (.bool true), .form ⟨.action .move, rfl⟩ nofun,
      .atom (.operator (.action .moveBack)), .empty, nofun⟩
  have ht : t.Legible := .form head (List.forall_mem_cons.mpr ⟨.atom (.int (-1)), others⟩)
  have hu : u.Legible :=
    .form head (List.forall_mem_cons.mpr ⟨sign, List.forall_mem_cons.mpr ⟨.atom (.int 1), others⟩⟩)
  refine ⟨ht, hu, by decide, ?_⟩
  rw [Ne, text_eq_text_iff ht hu]
  decide

end Tree

end Vivarium
