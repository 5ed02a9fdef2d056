import Mathlib.Data.List.Nodup
import Vivarium.Proofs.Program.Grammar

/-!
# Nodes of a tree

A path leads to a node if it passes by arguments only. Every listed path does, and the paths are
listed in order, so none is listed twice. What a path leads to can be read and replaced without a
fault, and replacing a node leaves the root as it is, unless the node is the root.
-/

namespace Vivarium.Tree

/-- How a path leads from a tree to one of its nodes. -/
inductive Reaches : Tree → Path → Tree → Prop where
  /-- The empty path leads nowhere else. -/
  | here {t : Tree} : Reaches t [] t
  /-- A position leads to an argument. -/
  | into {head : Tree} {args : List Tree} {i : Nat} {t node : Tree} {path : Path}
    (h : args[i]? = some t) (rest : Reaches t path node) :
    Reaches (.form (head :: args)) (((i + 1 : Nat) : Int) :: path) node

variable {t node value : Tree} {path : Path} {grammar : Grammar}

/-- A path of an argument starts with the position of the argument. -/
theorem exists_of_mem_argumentPaths {args : List Tree} {first : Nat}
    (h : path ∈ argumentPaths args first) :
    ∃ i t rest, args[i]? = some t ∧ rest ∈ t.paths ∧ path = ((first + i : Nat) : Int) :: rest := by
  induction args generalizing first with
  | nil => simp [argumentPaths] at h
  | cons t args ih =>
    rw [argumentPaths, List.mem_append, List.mem_map] at h
    rcases h with ⟨rest, member, rfl⟩ | later
    · exact ⟨0, t, rest, rfl, member, rfl⟩
    · obtain ⟨i, u, rest, found, member, rfl⟩ := ih later
      exact ⟨i + 1, u, rest, found, member, by rw [Nat.add_right_comm, Nat.add_assoc]⟩

/-- Every listed path leads to a node. -/
theorem exists_reaches_of_mem_paths (h : path ∈ t.paths) : ∃ node, Reaches t path node := by
  induction t using Tree.induction generalizing path with
  | atom a =>
    rw [paths, List.mem_singleton] at h
    subst h
    exact ⟨_, .here⟩
  | form items ih =>
    match items with
    | [] =>
      rw [paths, List.mem_singleton] at h
      subst h
      exact ⟨_, .here⟩
    | head :: args =>
      rw [paths, List.mem_cons] at h
      rcases h with rfl | h
      · exact ⟨_, .here⟩
      · obtain ⟨i, u, rest, found, member, rfl⟩ := exists_of_mem_argumentPaths h
        have listed := List.mem_cons_of_mem head (List.mem_of_getElem? found)
        obtain ⟨node, reaches⟩ := ih u listed member
        refine ⟨node, ?_⟩
        rw [Nat.add_comm]
        exact .into found reaches

/-- The paths but the first are those of other nodes than the root. -/
theorem of_mem_tail_paths (h : path ∈ t.paths.tail) : path ∈ t.paths ∧ path ≠ [] := by
  refine ⟨List.mem_of_mem_tail h, ?_⟩
  match t with
  | .atom _ | .form [] => simp [paths] at h
  | .form (head :: args) =>
    rw [paths, List.tail_cons] at h
    obtain ⟨i, u, rest, -, -, rfl⟩ := exists_of_mem_argumentPaths h
    exact List.cons_ne_nil _ _

/-- The paths of the arguments are in order, for each starts with the position of its argument. -/
theorem pairwise_argumentPaths {args : List Tree} (h : ∀ t ∈ args, t.paths.Pairwise (· < ·))
    (first : Nat) : (argumentPaths args first).Pairwise (· < ·) := by
  induction args generalizing first with
  | nil => exact .nil
  | cons t args ih =>
    rw [List.forall_mem_cons] at h
    rw [argumentPaths, List.pairwise_append, List.pairwise_map]
    refine ⟨h.1.imp fun before => List.cons_lt_cons_iff.mpr (.inr ⟨rfl, before⟩),
      ih h.2 (first + 1), fun path within later among => ?_⟩
    obtain ⟨rest, -, rfl⟩ := List.mem_map.mp within
    obtain ⟨i, u, inner, -, -, rfl⟩ := exists_of_mem_argumentPaths among
    exact List.cons_lt_cons_iff.mpr (.inl (by omega))

/-- The paths are in order: that of a form before those of its arguments, and those of an argument
before those of the next one. -/
theorem pairwise_paths (t : Tree) : t.paths.Pairwise (· < ·) := by
  induction t using Tree.induction with
  | atom a => exact List.pairwise_singleton _ _
  | form items ih =>
    match items with
    | [] => exact List.pairwise_singleton _ _
    | head :: args =>
      rw [List.forall_mem_cons] at ih
      rw [paths, List.pairwise_cons]
      refine ⟨fun path among => ?_, pairwise_argumentPaths ih.2 1⟩
      obtain ⟨i, u, rest, -, -, rfl⟩ := exists_of_mem_argumentPaths among
      exact List.nil_lt_cons _ _

/-- No path is listed twice. -/
theorem nodup_paths (t : Tree) : t.paths.Nodup :=
  t.pairwise_paths.nodup

/-- The first path is that of the root. -/
theorem paths_eq_cons (t : Tree) : t.paths = [] :: t.paths.tail := by
  cases t with
  | atom => rfl
  | form items => cases items <;> rfl

/-- The paths but the first are those that are not empty. -/
theorem tail_paths_eq_filter (t : Tree) : t.paths.tail = t.paths.filter (· ≠ []) := by
  rw [paths_eq_cons t, List.filter_cons_of_neg (by simp), List.tail_cons, eq_comm,
    List.filter_eq_self]
  exact fun path member => decide_eq_true (of_mem_tail_paths member).2

/-- An argument is the part after the head. -/
theorem part_argument {head : Tree} {args : List Tree} {i : Nat} (h : args[i]? = some t) :
    (Tree.form (head :: args)).part ((i + 1 : Nat) : Int) = .ok t := by
  obtain ⟨below, rfl⟩ := List.getElem?_eq_some_iff.mp h
  have bound : i + 1 < (head :: args).length := Nat.succ_lt_succ below
  simp only [part, place?_natCast bound]
  rfl

/-- An argument can be replaced. -/
theorem replacePart_argument {head : Tree} {args : List Tree} {i : Nat} (h : i < args.length)
    (value : Tree) :
    (Tree.form (head :: args)).replacePart ((i + 1 : Nat) : Int) value =
      .ok (.form (head :: args.set i value)) := by
  have bound : i + 1 < (head :: args).length := Nat.succ_lt_succ h
  simp only [replacePart, place?_natCast bound]
  rfl

/-- A node is found at its path. -/
theorem Reaches.get_eq (h : Reaches t path node) : t.get path = .ok node := by
  induction h with
  | here => rfl
  | into h _ ih =>
    rw [get, part_argument h]
    exact ih

/-- A part is replaced within its part. -/
theorem set_cons {part : Tree} {i : Int} (h : t.part i = .ok part) (rest : Path) (value : Tree) :
    t.set (i :: rest) value = (part.set rest value >>= t.replacePart i) := by
  match rest with
  | [] => rfl
  | j :: rest =>
    rw [set, h]
    · rfl
    · exact List.cons_ne_nil j rest

/-- The replacement of a node below the root is one within an argument. -/
theorem set_argument {head : Tree} {args : List Tree} {i : Nat} {inner : Tree} {rest : Path}
    (h : args[i]? = some t) (hs : t.set rest value = .ok inner) :
    (Tree.form (head :: args)).set (((i + 1 : Nat) : Int) :: rest) value =
      .ok (.form (head :: args.set i inner)) := by
  have below := (List.getElem?_eq_some_iff.mp h).1
  rw [set_cons (part_argument h), hs]
  exact replacePart_argument below inner

/-- A node that is replaced by itself leaves the tree as it is. -/
theorem Reaches.set_self (h : Reaches t path node) : t.set path node = .ok t := by
  induction h with
  | here => rfl
  | into found _ ih =>
    obtain ⟨below, same⟩ := List.getElem?_eq_some_iff.mp found
    rw [set_argument found ih, ← same, List.set_getElem_self]

/-- The last position of a path replaces a part of the tree that the others lead to. -/
theorem set_append_singleton (t : Tree) (path : Path) (i : Int) (value : Tree) :
    t.set (path ++ [i]) value =
      (do t.set path (← (← t.get path).replacePart i value)) := by
  induction path generalizing t with
  | nil => exact (bind_pure _).symm
  | cons j path ih =>
    rw [List.cons_append, get]
    cases found : t.part j with
    | error fault =>
      rw [set, found]
      · rfl
      · exact List.append_ne_nil_of_right_ne_nil path (List.cons_ne_nil i [])
    | ok part =>
      rw [set_cons found, ih, bind_assoc]
      refine bind_congr fun parent => ?_
      rw [bind_assoc]
      exact bind_congr fun inner => (set_cons found path inner).symm

/-- A node of a tree of a grammar is of the grammar. -/
theorem Reaches.conforms (h : Reaches t path node) (ht : Conforms grammar t) :
    Conforms grammar node := by
  induction h with
  | here => exact ht
  | into h _ ih =>
    obtain ⟨operator, args, same, -, each⟩ := conforms_form_iff.mp ht
    obtain ⟨rfl, rfl⟩ := List.cons.inj same
    exact ih (each _ (List.mem_of_getElem? h))

/-- What is left of a form when something below it changes: its head. -/
def SameRoot (t u : Tree) : Prop :=
  ∀ operator args, t = apply operator args → ∃ args', u = apply operator args'

/-- A node can be replaced by a tree of the grammar. The whole is of the grammar then, and unless
the node is the root, the root keeps its operator. -/
theorem Reaches.exists_set (h : Reaches t path node) (value : Tree) :
    ∃ result, t.set path value = .ok result ∧
      (Conforms grammar t → Conforms grammar value → Conforms grammar result) ∧
      (path ≠ [] → SameRoot t result) := by
  induction h with
  | here => exact ⟨value, rfl, fun _ hv => hv, fun h => absurd rfl h⟩
  | @into head args i t node path h _ ih =>
    obtain ⟨inner, hs, conforms, -⟩ := ih
    refine ⟨_, set_argument h hs, fun ht hv => ?_, fun _ operator rest same => ?_⟩
    · obtain ⟨operator, rest, same, form, each⟩ := conforms_form_iff.mp ht
      obtain ⟨rfl, rfl⟩ := List.cons.inj same
      refine .form (by rwa [List.length_set]) fun u hu => ?_
      rcases List.mem_or_eq_of_mem_set hu with old | rfl
      · exact each u old
      · exact conforms (each t (List.mem_of_getElem? h)) hv
    · obtain ⟨rfl, rfl⟩ := List.cons.inj (Tree.form.inj same)
      exact ⟨_, rfl⟩

/-- A node can be replaced. -/
theorem exists_set_of_reaches (h : Reaches t path node) (value : Tree) :
    ∃ result, t.set path value = .ok result := by
  obtain ⟨result, outcome, -⟩ := @Reaches.exists_set _ _ _ anyForm h value
  exact ⟨result, outcome⟩

/-- A node other than the root is an argument of a form. -/
theorem Reaches.exists_parent (h : Reaches t path node) (below : path ≠ []) :
    ∃ head args i, Reaches t path.dropLast (.form (head :: args)) ∧ args[i]? = some node ∧
      path.getLastD 0 = ((i + 1 : Nat) : Int) := by
  induction h with
  | here => exact absurd rfl below
  | @into head args i t node path h rest ih =>
    cases path with
    | nil =>
      cases rest
      exact ⟨head, args, i, .here, h, rfl⟩
    | cons j path =>
      obtain ⟨head', args', i', reaches, found, last⟩ := ih (List.cons_ne_nil _ _)
      exact ⟨head', args', i', .into h reaches, found, last⟩

end Vivarium.Tree
