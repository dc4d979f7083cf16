import PegParser.Tree

namespace PegParser.Tree

variable {label : String} {ts ts' : List Tree} {t : Token} {fallback : Span}

def leavesOf (ts : List Tree) : List Tree :=
  filterAll isLeaf ts

@[simp]
theorem leavesOf_nil : leavesOf [] = [] := by
  simp [leavesOf, filterAll]

@[simp]
theorem leavesOf_cons {tree : Tree} : leavesOf (tree :: ts) = tree.leaves ++ leavesOf ts := by
  simp [leavesOf, filterAll, leaves]

theorem leavesOf_singleton {tree : Tree} : leavesOf [tree] = tree.leaves := by
  simp

@[simp]
theorem leavesOf_append : leavesOf (ts ++ ts') = leavesOf ts ++ leavesOf ts' := by
  induction ts <;> simp_all

@[simp]
theorem leaves_leaf : (leaf t).leaves = [leaf t] := by
  simp [leaves, leaf, filter, filterAll, isLeaf]

@[simp]
theorem leaves_node : (node label ts fallback).leaves = leavesOf ts := by
  simp [leaves, node, filter, leavesOf, isLeaf]

def nodes (tree : Tree) : List Tree :=
  tree.filter fun _ => true

def nodesOf (ts : List Tree) : List Tree :=
  filterAll (fun _ => true) ts

@[simp]
theorem nodesOf_nil : nodesOf [] = [] := by
  simp [nodesOf, filterAll]

@[simp]
theorem nodesOf_cons {tree : Tree} : nodesOf (tree :: ts) = tree.nodes ++ nodesOf ts := by
  simp [nodesOf, filterAll, nodes]

theorem nodesOf_singleton {tree : Tree} : nodesOf [tree] = tree.nodes := by
  simp

@[simp]
theorem nodesOf_append : nodesOf (ts ++ ts') = nodesOf ts ++ nodesOf ts' := by
  induction ts <;> simp_all

theorem nodesOf_ne_nil (h : ts ≠ []) : nodesOf ts ≠ [] := by
  cases ts
  case nil => contradiction
  case cons tree _ =>
    cases tree
    simp [nodes, filter]

theorem mem_nodes_self (tree : Tree) : tree ∈ tree.nodes := by
  cases tree
  simp [nodes, filter]

theorem mem_nodesOf_of_mem {tree : Tree} (h : tree ∈ ts) : tree ∈ nodesOf ts := by
  induction h
  case head      => simp [mem_nodes_self]
  case tail hi   => simp [hi]

@[simp]
theorem nodes_leaf : (leaf t).nodes = [leaf t] := by
  simp [nodes, leaf, filter, filterAll]

@[simp]
theorem nodes_node : (node label ts fallback).nodes = node label ts fallback :: nodesOf ts := by
  simp [nodes, node, filter, nodesOf]

mutual

theorem filter_eq_filter_nodes (p : Tree → Bool) : (tree : Tree) →
    tree.filter p = tree.nodes.filter p
  | ⟨label, value, children, span⟩ => by
    have h := filterAll_eq_filter_nodesOf p children
    rw [nodesOf] at h
    simp only [nodes, filter, if_true, List.filter_cons, h]

theorem filterAll_eq_filter_nodesOf (p : Tree → Bool) : (ts : List Tree) →
    filterAll p ts = (nodesOf ts).filter p
  | []      => by simp [filterAll]
  | t :: ts => by
    rw [filterAll, filter_eq_filter_nodes p t, filterAll_eq_filter_nodesOf p ts, nodesOf_cons,
      List.filter_append]

end

theorem leaves_eq_filter_nodes (tree : Tree) : tree.leaves = tree.nodes.filter isLeaf :=
  filter_eq_filter_nodes isLeaf tree

theorem getLast?_leaves {tree last : Tree} (h : tree.nodes.getLast? = some last)
    (hl : last.isLeaf) : tree.leaves.getLast? = some last := by
  have ⟨before, hn⟩ := List.getLast?_eq_some_iff.mp h
  simp [leaves_eq_filter_nodes, hn, hl]

end PegParser.Tree
