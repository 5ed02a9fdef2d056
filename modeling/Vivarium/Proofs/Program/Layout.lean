import Mathlib.Data.List.Forall2
import Vivarium.Proofs.Program.Locus
import Vivarium.Proofs.Program.Readability

/-!
# Layouts

A layout over several lines is the text on one line with some of its spaces turned into line breaks,
each followed by a margin. Putting one space for every line break and the spaces behind it gives the
text back. Every line but the first begins with an argument, of which the margin shows the depth.
This takes trees whose heads are atoms, and symbols that bring no spaces and line breaks of their
own.
-/

namespace Vivarium

/-! ## Solid texts -/

/-- Whether a text is not empty and has neither spaces nor line breaks. -/
def IsSolid (text : String) : Prop :=
  text ≠ "" ∧ ∀ c ∈ text.toList, c ≠ ' ' ∧ c ≠ '\n'

instance (text : String) : Decidable (IsSolid text) :=
  @instDecidableAnd _ _ _ (List.decidableBAll _ _)

/-- A solid text has no line break. -/
theorem IsSolid.newline_notMem {text : String} (h : IsSolid text) : '\n' ∉ text.toList :=
  fun hc => (h.2 _ hc).2 rfl

/-- The text of a number is solid. -/
theorem Number.isSolid_text (n : Number) : IsSolid n.text := by
  refine ⟨n.text_ne_empty, fun c hc => ?_⟩
  have numeral := n.numeral_text c hc
  constructor
  · rintro rfl
    exact absurd numeral (by decide)
  · rintro rfl
    exact absurd numeral (by decide)

/-- Whether an atom is solid if it is a symbol. -/
def Atom.Solid : Atom → Prop
  | .symbol name => IsSolid name
  | _ => True

/-- A solid atom is a solid argument. -/
theorem Atom.Solid.isSolid_text {a : Atom} (h : a.Solid) : IsSolid a.text := by
  match a with
  | .nil => decide
  | .bool value => cases value <;> decide
  | .number n => exact n.isSolid_text
  | .symbol name => exact h

/-- A solid atom is a solid head. -/
theorem Atom.Solid.isSolid_display {a : Atom} (h : a.Solid) : IsSolid a.display := by
  match a with
  | .nil => decide
  | .bool value => cases value <;> decide
  | .number n => exact n.isSolid_text
  | .symbol name => exact h

/-! ## Line breaks and the spaces behind them -/

/-- A text with one space for every line break and the spaces behind it. Behind a line break spaces
are skipped. -/
def unbreak (skips : Bool) : List Char → List Char
  | [] => []
  | c :: cs =>
    if c = '\n' then ' ' :: unbreak true cs
    else if skips && c = ' ' then unbreak true cs
    else c :: unbreak false cs

/-- A text with one space for every line break and the spaces behind it. -/
def unbroken (text : String) : String :=
  String.ofList (unbreak false text.toList)

variable {cs rest : List Char} {c : Char}

/-- A part without line breaks is left as it is. -/
theorem unbreak_append (h : '\n' ∉ cs) (rest : List Char) :
    unbreak false (cs ++ rest) = cs ++ unbreak false rest := by
  induction cs with
  | nil => rfl
  | cons c cs ih =>
    rw [List.mem_cons, not_or] at h
    rw [List.cons_append, unbreak, if_neg (Ne.symm h.1), ih h.2]
    rfl

/-- Spaces behind a line break are skipped. -/
theorem unbreak_replicate (count : Nat) (rest : List Char) :
    unbreak true (List.replicate count ' ' ++ rest) = unbreak true rest := by
  induction count with
  | zero => rfl
  | succ count ih => exact ih

/-- Nothing else is skipped behind a line break. -/
theorem unbreak_true_cons (h : c ≠ ' ') (cs : List Char) :
    unbreak true (c :: cs) = unbreak false (c :: cs) := by
  simp only [unbreak, h, decide_false, Bool.and_false]

/-- Lines that are put one below the other are the lines of the whole. -/
theorem splitOn_append_flatMap {first : List Char} {lines : List (List Char)} (h : '\n' ∉ first)
    (each : ∀ line ∈ lines, '\n' ∉ line) :
    (first ++ lines.flatMap ('\n' :: ·)).splitOn '\n' = first :: lines := by
  have joined : first ++ lines.flatMap ('\n' :: ·) = ['\n'].intercalate (first :: lines) := by
    induction lines generalizing first with
    | nil => simp
    | cons line lines ih =>
      rw [List.forall_mem_cons] at each
      rw [List.intercalate_cons_cons, ← ih each.1 each.2]
      simp
  rw [joined]
  exact List.splitOn_intercalate '\n' (List.forall_mem_cons.mpr ⟨h, each⟩) (List.cons_ne_nil _ _)

namespace Tree

/-- Whether the heads of a tree are atoms and all its symbols are solid. -/
abbrev Solid : Tree → Prop := Composed Atom.Solid Atom.Solid

variable {t node : Tree} {path : Path} {args : List Tree} {level : Int}

/-- The nodes of a solid tree are solid. -/
theorem Solid.of_reaches (h : t.Solid) (reaches : Reaches t path node) : node.Solid := by
  induction reaches with
  | here => exact h
  | into found _ ih =>
    cases h with
    | form _ each => exact ih (each _ (List.mem_of_getElem? found))

/-! ## Texts on one line -/

/-- The text of arguments has no line break if those of the arguments have none. -/
theorem newline_notMem_textOfArguments (each : ∀ t ∈ args, '\n' ∉ t.text.toList) :
    '\n' ∉ (textOfArguments args).toList := by
  induction args with
  | nil => exact List.not_mem_nil
  | cons t ts ih =>
    rw [List.forall_mem_cons] at each
    simp [textOfArguments, each.1, ih each.2]

/-- The text of a solid tree has no line break. -/
theorem Solid.newline_notMem_text (h : t.Solid) : '\n' ∉ t.text.toList := by
  induction h with
  | atom ha => exact ha.isSolid_text.newline_notMem
  | empty => decide
  | @form a args ha _ ih =>
    have head : '\n' ∉ (display (.atom a)).toList := ha.isSolid_display.newline_notMem
    have arguments := newline_notMem_textOfArguments ih
    simp [text, head, arguments]

/-! ## Layouts on several lines -/

/-- What the layout of a form that takes several lines has behind its first parenthesis. -/
theorem toList_layout_form {head : Tree} (h : ¬staysOnLine head args) (level : Int)
    (rest : List Char) :
    (layout level (.form (head :: args))).toList ++ rest =
      '(' :: (head.display.toList ++
        ((layoutOfArguments (level + 1) args).toList ++ ')' :: rest)) := by
  rw [layout, if_neg h]
  simp

/-- What the layout of arguments has behind its first line break. -/
theorem toList_layoutOfArguments_cons (level : Int) (t : Tree) (ts : List Tree) (rest : List Char) :
    (layoutOfArguments level (t :: ts)).toList ++ rest =
      '\n' :: (List.replicate (2 * level.toNat) ' ' ++
        ((t.layout level).toList ++ ((layoutOfArguments level ts).toList ++ rest))) := by
  simp [layoutOfArguments, margin]

/-- A layout begins with a character that is neither a space nor a line break. -/
theorem Solid.exists_layout_eq_cons (h : t.Solid) (level : Int) :
    ∃ c cs, (t.layout level).toList = c :: cs ∧ c ≠ ' ' ∧ c ≠ '\n' := by
  cases h with
  | @atom a ha =>
    obtain ⟨nonempty, solid⟩ := ha.isSolid_text
    obtain ⟨c, cs, same⟩ := List.exists_cons_of_ne_nil (mt String.toList_eq_nil_iff.mp nonempty)
    exact ⟨c, cs, same, solid c (same ▸ List.mem_cons_self)⟩
  | empty => exact ⟨'(', [')'], by rw [layout]; rfl, by decide, by decide⟩
  | @form a args ha _ =>
    by_cases stays : staysOnLine (.atom a) args
    · rw [layout, if_pos stays, ← List.append_nil (text _).toList, toList_text_form]
      exact ⟨'(', _, rfl, by decide, by decide⟩
    · rw [← List.append_nil (layout _ _).toList, toList_layout_form stays]
      exact ⟨'(', _, rfl, by decide, by decide⟩

/-- Arguments on lines of their own are arguments behind spaces if that holds of each of them. -/
theorem unbreak_layoutOfArguments (solid : ∀ t ∈ args, t.Solid)
    (each : ∀ t ∈ args, ∀ rest, unbreak false ((t.layout level).toList ++ rest) =
      t.text.toList ++ unbreak false rest) (rest : List Char) :
    unbreak false ((layoutOfArguments level args).toList ++ rest) =
      (textOfArguments args).toList ++ unbreak false rest := by
  induction args with
  | nil => rfl
  | cons t ts ih =>
    rw [List.forall_mem_cons] at solid each
    obtain ⟨c, cs, same, visible, -⟩ := solid.1.exists_layout_eq_cons level
    have first := each.1 ((layoutOfArguments level ts).toList ++ rest)
    rw [same, List.cons_append, ← unbreak_true_cons visible, ih solid.2 each.2] at first
    rw [toList_layoutOfArguments_cons, unbreak, if_pos rfl, unbreak_replicate, same,
      List.cons_append, first]
    simp [textOfArguments]

/-- A layout becomes the text on one line. -/
theorem Solid.unbreak_layout (h : t.Solid) (level : Int) (rest : List Char) :
    unbreak false ((t.layout level).toList ++ rest) = t.text.toList ++ unbreak false rest := by
  induction h generalizing level rest with
  | @atom a ha =>
    rw [layout]
    exact unbreak_append ha.isSolid_text.newline_notMem rest
  | empty =>
    rw [layout]
    exact unbreak_append (by decide) rest
  | @form a args ha each ih =>
    by_cases stays : staysOnLine (.atom a) args
    · rw [layout, if_pos stays]
      exact unbreak_append (Solid.newline_notMem_text (.form ha each)) rest
    · have head : '\n' ∉ '(' :: (display (.atom a)).toList :=
        List.not_mem_cons_of_ne_of_not_mem (by decide) ha.isSolid_display.newline_notMem
      have arguments := unbreak_layoutOfArguments each (fun t ht rest => ih t ht (level + 1) rest)
        (')' :: rest)
      rw [toList_layout_form stays, ← List.cons_append, unbreak_append head, arguments,
        toList_text_form]
      rfl

/-! ## Lines -/

/-- The first line of a layout. -/
def firstLine (t : Tree) (level : Int) : List Char :=
  (t.layout level).toList.takeWhile (· ≠ '\n')

mutual

/-- The paths to the arguments with which the lines of a layout begin, but for the first line, in
the order of the lines. -/
def breaks : Tree → List Path
  | .atom _ => []
  | .form [] => []
  | .form (head :: args) => if staysOnLine head args then [] else argumentBreaks args 1

/-- The paths to the arguments with which lines begin of the arguments of a form, the first of which
is at the given position. -/
def argumentBreaks : List Tree → Nat → List Path
  | [], _ => []
  | t :: ts, i => ([] :: breaks t).map ((i : Int) :: ·) ++ argumentBreaks ts (i + 1)

end

/-- Whether a line begins, behind the margin of its depth, with the first line of the node that a
path leads to. What follows are the ends of forms. -/
def Begins (t : Tree) (level : Int) (path : Path) (line : List Char) : Prop :=
  ∃ node ends, Reaches t path node ∧
    line = List.replicate (2 * (level + path.length).toNat) ' ' ++
      (node.firstLine (level + path.length) ++ List.replicate ends ')')

/-- Whether a line begins with a node of an argument. The first argument is at the given position.
-/
def ArgumentBegins (args : List Tree) (first : Nat) (level : Int) (path : Path) (line : List Char) :
    Prop :=
  ∃ i t rest, args[i]? = some t ∧ path = ((first + i : Nat) : Int) :: rest ∧
    t.Begins level rest line

/-- Whether the lines of a layout behind its first line begin with the nodes at its breaks, also
when it is followed by the ends of forms. -/
def Lined (t : Tree) (level : Int) : Prop :=
  ∀ ends, ∃ more lines,
    (t.layout level).toList ++ List.replicate ends ')' =
      t.firstLine level ++ List.replicate more ')' ++ lines.flatMap ('\n' :: ·) ∧
    List.Forall₂ (t.Begins level) t.breaks lines

/-- There is no line break in a first line. -/
theorem newline_notMem_firstLine (t : Tree) (level : Int) : '\n' ∉ t.firstLine level := by
  intro hc
  simpa using List.mem_takeWhile_imp hc

/-- A layout without line breaks is a first line. -/
theorem firstLine_of_newline_notMem (h : '\n' ∉ (t.layout level).toList) :
    t.firstLine level = (t.layout level).toList := by
  rw [firstLine, List.takeWhile_eq_self_iff]
  intro c hc
  simpa using ne_of_mem_of_not_mem hc h

/-- A layout without line breaks has no line behind its first one. -/
theorem lined_of_newline_notMem (h : '\n' ∉ (t.layout level).toList) (none : t.breaks = []) :
    t.Lined level := by
  intro ends
  refine ⟨ends, [], ?_, none ▸ .nil⟩
  rw [firstLine_of_newline_notMem h, List.flatMap_nil, List.append_nil]

/-- The first line of a form that takes several lines ends behind its head. -/
theorem firstLine_form {a : Atom} (ha : a.Solid) (h : ¬staysOnLine (.atom a) args) (level : Int) :
    (Tree.form (.atom a :: args)).firstLine level = '(' :: (display (.atom a)).toList := by
  have head : ∀ c ∈ '(' :: (display (.atom a)).toList, decide (c ≠ '\n') = true := by
    rw [List.forall_mem_cons]
    exact ⟨rfl, fun c hc => decide_eq_true (ha.isSolid_display.2 c hc).2⟩
  match args with
  | [] => exact absurd (by simp [staysOnLine]) h
  | t :: ts =>
    rw [firstLine, ← List.append_nil (layout _ _).toList, toList_layout_form h,
      toList_layoutOfArguments_cons, ← List.cons_append, List.takeWhile_append_of_pos head]
    simp

/-- An argument on a line of its own begins the line. -/
theorem begins_argument {more : Nat} (t : Tree) (level : Int) :
    t.Begins level [] (List.replicate (2 * level.toNat) ' ' ++
      (t.firstLine level ++ List.replicate more ')')) :=
  ⟨t, more, .here, by simp⟩

/-- A node of an argument is a node of the form, one level up. -/
theorem ArgumentBegins.form {head : Tree} {line : List Char}
    (h : ArgumentBegins args 1 (level + 1) path line) :
    (Tree.form (head :: args)).Begins level path line := by
  obtain ⟨i, t, rest, found, rfl, node, ends, reaches, same⟩ := h
  rw [Nat.add_comm]
  refine ⟨node, ends, .into found reaches, ?_⟩
  have depth : level + 1 + rest.length = level + (((i + 1 : Nat) : Int) :: rest).length := by
    rw [List.length_cons]
    omega
  rwa [depth] at same

/-- Arguments on lines of their own begin their lines, and their nodes begin the others. -/
theorem exists_lines_layoutOfArguments (each : ∀ t ∈ args, t.Lined level) (ends first : Nat) :
    ∃ here lines,
      (layoutOfArguments level args).toList ++ List.replicate ends ')' =
        List.replicate here ')' ++ lines.flatMap ('\n' :: ·) ∧
      List.Forall₂ (ArgumentBegins args first level) (argumentBreaks args first) lines := by
  induction args generalizing first with
  | nil => exact ⟨ends, [], by simp [layoutOfArguments], .nil⟩
  | cons t ts ih =>
    rw [List.forall_mem_cons] at each
    obtain ⟨here, later, behind, laterBegin⟩ := ih each.2 (first + 1)
    obtain ⟨more, lines, inside, linesBegin⟩ := each.1 here
    refine ⟨0, ((List.replicate (2 * level.toNat) ' ' ++
      (t.firstLine level ++ List.replicate more ')')) :: lines) ++ later, ?_, ?_⟩
    · rw [toList_layoutOfArguments_cons, behind, ← List.append_assoc (layout level t).toList,
        inside]
      simp
    · refine List.rel_append (List.forall₂_map_left_iff.mpr ?_) ?_
      · have own (path : Path) (line : List Char) (h : t.Begins level path line) :
            ArgumentBegins (t :: ts) first level ((first : Int) :: path) line :=
          ⟨0, t, path, rfl, rfl, h⟩
        exact .cons (own _ _ (begins_argument t level)) (linesBegin.imp own)
      · refine laterBegin.imp fun path line => ?_
        rintro ⟨i, u, rest, found, rfl, begins⟩
        exact ⟨i + 1, u, rest, found, by rw [Nat.add_right_comm, Nat.add_assoc], begins⟩

/-- The lines of the layout of a solid tree begin with the nodes at its breaks. -/
theorem Solid.lined (h : t.Solid) (level : Int) : t.Lined level := by
  induction h generalizing level with
  | @atom a ha =>
    refine lined_of_newline_notMem ?_ (by rw [breaks])
    rw [layout]
    exact ha.isSolid_text.newline_notMem
  | empty =>
    refine lined_of_newline_notMem ?_ (by rw [breaks])
    rw [layout]
    decide
  | @form a args ha each ih =>
    by_cases stays : staysOnLine (.atom a) args
    · refine lined_of_newline_notMem ?_ (by rw [breaks, if_pos stays])
      rw [layout, if_pos stays]
      exact Solid.newline_notMem_text (.form ha each)
    · intro ends
      obtain ⟨here, lines, same, begin⟩ :=
        exists_lines_layoutOfArguments (fun t ht => ih t ht (level + 1)) (ends + 1) 1
      refine ⟨here, lines, ?_, ?_⟩
      · rw [toList_layout_form stays, firstLine_form ha stays, ← List.replicate_succ, same]
        simp
      · rw [breaks, if_neg stays]
        exact begin.imp fun _ _ => ArgumentBegins.form

/-- There is no line break in a line that begins with a node. -/
theorem Begins.newline_notMem {line : List Char} (h : t.Begins level path line) : '\n' ∉ line := by
  obtain ⟨node, ends, -, rfl⟩ := h
  simp [newline_notMem_firstLine]

/-- What begins a line behind its margin is no space, so the margin is all of the spaces. -/
theorem Begins.spaces {line : List Char} (h : t.Begins level path line) (solid : t.Solid) :
    line.takeWhile (· = ' ') = List.replicate (2 * (level + path.length).toNat) ' ' ∧
      ∃ node ends, t.get path = .ok node ∧
        line.dropWhile (· = ' ') =
          node.firstLine (level + path.length) ++ List.replicate ends ')' := by
  obtain ⟨node, ends, reaches, rfl⟩ := h
  obtain ⟨c, cs, same, visible, inLine⟩ :=
    (solid.of_reaches reaches).exists_layout_eq_cons (level + path.length)
  have first : node.firstLine (level + path.length) = c :: cs.takeWhile (· ≠ '\n') := by
    simp [firstLine, same, inLine]
  have margin : ∀ space ∈ List.replicate (2 * (level + path.length).toNat) ' ',
      decide (space = ' ') = true :=
    fun space hs => decide_eq_true (List.eq_of_mem_replicate hs)
  rw [List.takeWhile_append_of_pos margin, List.dropWhile_append_of_pos margin, first]
  simp only [List.cons_append, List.takeWhile_cons, List.dropWhile_cons, visible, decide_false,
    Bool.false_eq_true, if_false, List.append_nil, true_and]
  exact ⟨node, ends, reaches.get_eq, by rw [first, List.cons_append]⟩

/-- The breaks of arguments are at nodes of them, in the order of the nodes. -/
theorem argumentBreaks_sublist (each : ∀ t ∈ args, t.breaks.Sublist t.paths.tail) (first : Nat) :
    (argumentBreaks args first).Sublist (argumentPaths args first) := by
  induction args generalizing first with
  | nil => exact .refl _
  | cons t ts ih =>
    rw [List.forall_mem_cons] at each
    rw [argumentBreaks, argumentPaths, paths_eq_cons]
    exact ((each.1.cons_cons []).map _).append (ih each.2 (first + 1))

/-- The breaks of a layout are at nodes other than the root, in the order of the nodes. -/
theorem breaks_sublist (t : Tree) : t.breaks.Sublist t.paths.tail := by
  induction t using Tree.induction with
  | atom a => simp [breaks]
  | form items ih =>
    match items with
    | [] => simp [breaks]
    | head :: args =>
      rw [List.forall_mem_cons] at ih
      rw [breaks, paths, List.tail_cons]
      split
      · exact List.nil_sublist _
      · exact argumentBreaks_sublist ih.2 1

/-- The margins of a layout can be made if that of the first break can. -/
theorem layoutFrom_eq_ok (h : t.isSpread → fitsWord (level + 1) ∧ 2 * (level + 1) < memoryLimit) :
    t.layoutFrom level = .ok (t.layout level) := by
  by_cases spread : t.isSpread
  · obtain ⟨word, room⟩ := h spread
    simp [layoutFrom, marginFault?, spread, word, room]
  · exact layoutFrom_of_not_isSpread (Bool.not_eq_true _ ▸ spread) level

/-- Let the heads of a tree be atoms, and let its symbols be neither empty nor have spaces or line
breaks in them. With one space for every line break and the spaces behind it, the layout of the tree
is its text on one line, at every level, also below zero. Every line but the first begins with an
argument, from the first to the last in the order of the nodes, behind just as many spaces as its
depth in the tree and the level ask for. The layout can be had at every level at which its first
margin fits into memory, and at all others if it has no margins. -/
theorem layout_breaks_text (solid : t.Solid) (level : Int) :
    unbroken (t.layout level) = t.text ∧
    t.breaks.Sublist t.paths.tail ∧
    List.Forall₂
      (fun path line => 1 ≤ path.length ∧
        line.takeWhile (· = ' ') = List.replicate (2 * (level + path.length).toNat) ' ' ∧
        ∃ node ends, t.get path = .ok node ∧
          line.dropWhile (· = ' ') =
            node.firstLine (level + path.length) ++ List.replicate ends ')')
      t.breaks ((t.layout level).toList.splitOn '\n').tail ∧
    ((t.isSpread → fitsWord (level + 1) ∧ 2 * (level + 1) < memoryLimit) →
      t.layoutFrom level = .ok (t.layout level)) := by
  refine ⟨?_, breaks_sublist t, ?_, layoutFrom_eq_ok⟩
  · have joined := solid.unbreak_layout level []
    rw [List.append_nil, unbreak, List.append_nil] at joined
    rw [unbroken, joined, String.ofList_toList]
  · obtain ⟨more, lines, same, begin⟩ := solid.lined level 0
    have first : '\n' ∉ t.firstLine level ++ List.replicate more ')' := by
      simp [newline_notMem_firstLine]
    have inLines : ∀ line ∈ lines, '\n' ∉ line :=
      ((List.forall₂_and_left _ _).mp (begin.flip.imp fun _ _ h => ⟨Begins.newline_notMem h, h⟩)).1
    rw [List.replicate_zero, List.append_nil] at same
    rw [same, splitOn_append_flatMap first inLines, List.tail_cons]
    have lined := begin.imp fun _ _ h => h.spaces solid
    refine (List.forall₂_and_left _ _).mpr ⟨fun path hp => ?_, lined⟩
    have below := (of_mem_tail_paths ((breaks_sublist t).subset hp)).2
    exact List.length_pos_iff.mpr below

/-- A form with forms and atoms among its arguments takes seven lines, which begin with arguments of
three depths. -/
theorem layout_breaks_text_nested :
    let condition : Tree :=
      .form [symbol ">", .form [symbol "food-ahead"], .atom (.number (.double (.finite (-1 / 2))))]
    let t : Tree :=
      .form [symbol "begin", .form [symbol "if", condition, .form [symbol "move"], .form []], nil]
    t.Solid ∧ t.breaks = [[1], [1, 1], [1, 1, 1], [1, 1, 2], [1, 2], [1, 3], [2]] ∧
      unbroken (t.layout 1) = "(begin (if (> (food-ahead) -0.5) (move) ()) nil)" ∧
      t.layoutFrom 1 = .ok (t.layout 1) ∧
      ((t.layout 1).toList.splitOn '\n').tail.map (fun line => (line.takeWhile (· = ' ')).length) =
        [4, 6, 8, 8, 6, 6, 4] := by
  intro condition t
  have symbols (name : String) (h : IsSolid name) : Atom.Solid (.symbol name) := h
  have lone (name : String) (h : IsSolid name) : Solid (.form [symbol name]) :=
    .form (symbols name h) nofun
  have comparison : condition.Solid := .form (symbols ">" (by decide)) <| by
    simp only [List.forall_mem_cons]
    exact ⟨lone "food-ahead" (by decide), .atom trivial, nofun⟩
  have branch : Solid (.form [symbol "if", condition, .form [symbol "move"], .form []]) :=
    .form (symbols "if" (by decide)) <| by
      simp only [List.forall_mem_cons]
      exact ⟨comparison, lone "move" (by decide), .empty, nofun⟩
  have solid : t.Solid := .form (symbols "begin" (by decide)) <| by
    simp only [List.forall_mem_cons]
    exact ⟨branch, .atom trivial, nofun⟩
  have breaks : t.breaks = [[1], [1, 1], [1, 1, 1], [1, 1, 2], [1, 2], [1, 3], [2]] := by decide
  have text : t.text = "(begin (if (> (food-ahead) -0.5) (move) ()) nil)" := by decide +kernel
  obtain ⟨joined, -, begin, made⟩ := layout_breaks_text solid 1
  refine ⟨solid, breaks, joined.trans text, made fun _ => by decide, ?_⟩
  have widths : t.breaks.map (fun path => 2 * (1 + (path.length : Int)).toNat) =
      ((t.layout 1).toList.splitOn '\n').tail.map fun line =>
        (line.takeWhile (· = ' ')).length := by
    rw [← List.forall₂_eq_eq_eq, List.forall₂_map_left_iff, List.forall₂_map_right_iff]
    exact begin.imp fun path line h => by rw [h.2.1, List.length_replicate]
  rw [← widths, breaks]
  decide

end Tree

end Vivarium
