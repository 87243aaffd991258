import Mathlib.Algebra.GroupWithZero.Nat
import SenderAudit.Spf.Outcome

/-!
Outcomes as trees: the children of a node are the outcomes of its includes, in the order
of the record, and then that of its redirect.
-/
namespace SenderAudit.Spf.Outcome

def children (o : Outcome) : List Outcome :=
  o.includes ++ o.redirect.toList

mutual

/-- The nodes of a tree, each before those below it. -/
def nodes : Outcome → List Outcome
  | ⟨domain, valid, record, parsed, effective, includes, redirect, lookups, problems, warnings⟩ =>
      ⟨domain, valid, record, parsed, effective, includes, redirect, lookups, problems,
        warnings⟩ :: (nodesOfAll includes ++ nodesOfAny redirect)

def nodesOfAll : List Outcome → List Outcome
  | [] => []
  | o :: rest => o.nodes ++ nodesOfAll rest

def nodesOfAny : Option Outcome → List Outcome
  | none => []
  | some o => o.nodes

end

theorem nodesOfAll_eq (os : List Outcome) : nodesOfAll os = os.flatMap nodes := by
  induction os with
  | nil => rfl
  | cons o rest ih => rw [nodesOfAll, ih, List.flatMap_cons]

theorem nodesOfAny_eq (child : Option Outcome) :
    nodesOfAny child = child.toList.flatMap nodes := by
  cases child <;> simp [nodesOfAny]

def descendants (o : Outcome) : List Outcome :=
  o.children.flatMap nodes

theorem nodes_eq (o : Outcome) : o.nodes = o :: o.descendants := by
  obtain ⟨_, _, _, _, _, includes, redirect, _, _, _⟩ := o
  rw [nodes, nodesOfAll_eq, nodesOfAny_eq, descendants, children, List.flatMap_append]

theorem nodes_length (o : Outcome) : o.nodes.length = o.descendants.length + 1 := by
  rw [nodes_eq, List.length_cons]

theorem mem_nodes (o node : Outcome) :
    node ∈ o.nodes ↔ node = o ∨ ∃ child ∈ o.children, node ∈ child.nodes := by
  rw [nodes_eq, List.mem_cons, descendants, List.mem_flatMap]

theorem self_mem_nodes (o : Outcome) : o ∈ o.nodes :=
  (mem_nodes o o).mpr (Or.inl rfl)

theorem mem_nodes_of_child (o child node : Outcome) (isChild : child ∈ o.children)
    (inChild : node ∈ child.nodes) : node ∈ o.nodes :=
  (mem_nodes o node).mpr (Or.inr ⟨child, isChild, inChild⟩)

theorem nodes_length_lt (o child : Outcome) (isChild : child ∈ o.children) :
    child.nodes.length < o.nodes.length := by
  obtain ⟨elders, youngers, split⟩ := List.append_of_mem isChild
  rw [nodes_length o, descendants, split, List.flatMap_append, List.length_append,
    List.flatMap_cons, List.length_append]
  omega

/-- What passes from the children of a node to the node holds of every tree. -/
theorem children_induction {motive : Outcome → Prop}
    (step : ∀ o, (∀ child ∈ o.children, motive child) → motive o) (o : Outcome) : motive o := by
  induction size : o.nodes.length using Nat.strongRecOn generalizing o with
  | ind size ih =>
      apply step
      intro child isChild
      exact ih child.nodes.length (size ▸ nodes_length_lt o child isChild) child rfl

theorem nodes_of_node (o node : Outcome) (inTree : node ∈ o.nodes) :
    ∀ other ∈ node.nodes, other ∈ o.nodes := by
  induction o using children_induction with
  | step o ih =>
      intro other below
      rcases (mem_nodes o node).mp inTree with rfl | ⟨child, isChild, inChild⟩
      · exact below
      · exact mem_nodes_of_child o child other isChild (ih child isChild inChild other below)

theorem descendants_length (o : Outcome) :
    o.descendants.length = (o.includes.map (·.nodes.length)).sum +
      (o.redirect.toList.map (·.nodes.length)).sum := by
  simp [descendants, children, List.length_flatMap]

theorem sum_nodes_length (os : List Outcome) :
    (os.map (·.nodes.length)).sum = os.length + (os.map (·.descendants.length)).sum := by
  induction os with
  | nil => rfl
  | cons o rest ih =>
      rw [List.map_cons, List.sum_cons, ih, nodes_length, List.map_cons, List.sum_cons,
        List.length_cons]
      omega

def adopt (o : Outcome) (relation : Relation) (child : Outcome) : Outcome :=
  match relation with
  | .included => o.addInclude child
  | .redirected => o.redirectTo child

theorem adopt_valid (o child : Outcome) (relation : Relation) :
    (o.adopt relation child).valid = (o.valid && child.valid) := by
  cases relation <;> rfl

theorem failed_descendants (domain : String) (p : Problem) :
    (failed domain p).descendants = [] := rfl

theorem fail_descendants (o : Outcome) (p : Problem) :
    (o.fail p).descendants = o.descendants := rfl

-- A redirect's target takes the place of an earlier one, so this is no equation.
theorem adopt_descendants_le (o child : Outcome) (relation : Relation) :
    (o.adopt relation child).descendants.length ≤
      o.descendants.length + child.nodes.length := by
  cases relation with
  | included =>
      simp only [adopt, addInclude, absorb, descendants, children, List.flatMap_append,
        List.length_append, List.flatMap_singleton]
      omega
  | redirected =>
      simp only [adopt, redirectTo, absorb, descendants, children, List.flatMap_append,
        List.length_append, Option.toList_some, List.flatMap_singleton]
      omega

/-- What a node itself has found, without what its children have. -/
def owned {Cause : Type} (findings : List (Finding Cause)) : List Cause :=
  (findings.filter (·.path.isEmpty)).map (·.cause)

def ownProblems (o : Outcome) : List Problem :=
  owned o.problems

def allTerms (o : Outcome) : List String :=
  o.effective.toList.map Qualifier.allTerm

section Owned

variable {Cause : Type}

theorem owned_append (first second : List (Finding Cause)) :
    owned (first ++ second) = owned first ++ owned second := by
  simp [owned]

theorem owned_own (causes : List Cause) : owned (causes.map .own) = causes := by
  induction causes with
  | nil => rfl
  | cons cause rest ih => exact congrArg (cause :: ·) ih

theorem owned_seenVia (step : Via) (findings : List (Finding Cause)) :
    owned (findings.map (·.seenVia step)) = [] := by
  simp [owned, Finding.seenVia]

end Owned

theorem mem_ownProblems_fail (o : Outcome) (p : Problem) : p ∈ (o.fail p).ownProblems := by
  rw [ownProblems, fail, owned_append]
  exact List.mem_append_right _ (List.mem_singleton.mpr rfl)

end SenderAudit.Spf.Outcome
