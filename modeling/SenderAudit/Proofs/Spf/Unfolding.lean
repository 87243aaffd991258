import Mathlib.Data.Set.Card
import SenderAudit.Proofs.Spf.Visit

/-!
The tree that the records of a zone unfold to, without regard to any limit. It may be
infinite, so its nodes are told apart by their positions: the numbers of the children that
lead to them from the root.
-/
namespace SenderAudit.Spf

def recordAt (resolver : Resolver) (name : DomainName) : Option Record :=
  firstRecord name (resolver name).texts

/-- The children of a name: the targets of the includes in the order of its record, and
then that of the redirect. -/
def childrenOf (resolver : Resolver) (name : DomainName) : List DomainName :=
  match recordAt resolver name with
  | none => []
  | some record => record.includes ++ record.redirect.toList

/-- At `position` below `root` stands `name`; `above` are its ancestors, `root` first. -/
inductive NodeAt (resolver : Resolver) :
    (root : DomainName) → (position : List Nat) → (above : List DomainName) →
      (name : DomainName) → Prop
  | self (name : DomainName) : NodeAt resolver name [] [] name
  | child {root kid name : DomainName} {number : Nat} {position : List Nat}
      {above : List DomainName} (isChild : (childrenOf resolver root)[number]? = some kid)
      (node : NodeAt resolver kid position above name) :
      NodeAt resolver root (number :: position) (root :: above) name

def Publishes (resolver : Resolver) (name : DomainName) : Prop :=
  ∃ answers text record warnings, (resolver name).texts = .ok answers ∧
    candidates answers = [text] ∧
    Record.parse name.text (String.ofList text) = .ok (record, warnings)

/-- The positions of all nodes but the root. Each is the end of one edge. -/
def edges (resolver : Resolver) (root : DomainName) : Set (List Nat) :=
  {position | position ≠ [] ∧ ∃ above name, NodeAt resolver root position above name}

theorem publishes_iff (resolver : Resolver) (name : DomainName) :
    Publishes resolver name ↔
      Unambiguous (resolver name).texts ∧ ∃ record, recordAt resolver name = some record := by
  unfold Publishes Unambiguous recordAt firstRecord
  constructor
  · rintro ⟨answers, text, record, warnings, found, only, parsed⟩
    refine ⟨⟨answers, text, found, only⟩, record, ?_⟩
    simp only [found, only, parsed]
  · rintro ⟨⟨answers, text, found, only⟩, record, read⟩
    simp only [found, only] at read
    split at read
    · cases read
    · rename_i parsed
      exact ⟨answers, text, _, _, found, only, parsed⟩

/-! Counting the edges: those to the children of the root, and those below each child. -/

def branches {Child : Type} (children : List Child) (below : Child → Set (List Nat)) :
    Set (List Nat) :=
  {position | ∃ number rest child, position = number :: rest ∧
    children[number]? = some child ∧ rest ∈ below child}

def moveOn : List Nat → List Nat
  | [] => []
  | number :: rest => (number + 1) :: rest

theorem moveOn_injective : Function.Injective moveOn := by
  intro left right same
  cases left <;> cases right <;> simp_all [moveOn]

theorem branches_cons {Child : Type} (child : Child) (children : List Child)
    (below : Child → Set (List Nat)) :
    branches (child :: children) below =
      List.cons 0 '' below child ∪ moveOn '' branches children below := by
  ext position
  constructor
  · rintro ⟨number, rest, kid, rfl, found, inside⟩
    -- Numbers of children after the first are one less without it.
    cases number with
    | zero =>
        cases found
        exact Or.inl ⟨rest, inside, rfl⟩
    | succ number => exact Or.inr ⟨number :: rest, ⟨number, rest, kid, rfl, found, inside⟩, rfl⟩
  · rintro (⟨rest, inside, rfl⟩ | ⟨_, ⟨number, rest, kid, rfl, found, inside⟩, rfl⟩)
    · exact ⟨0, rest, child, rfl, rfl, inside⟩
    · exact ⟨number + 1, rest, kid, rfl, found, inside⟩

theorem encard_branches {Child : Type} (children : List Child)
    (below : Child → Set (List Nat)) :
    (branches children below).encard = (children.map fun child => (below child).encard).sum := by
  induction children with
  | nil => simp [branches]
  | cons child rest ih =>
      have apart : Disjoint (List.cons 0 '' below child) (moveOn '' branches rest below) := by
        rw [Set.disjoint_left]
        rintro _ ⟨first, _, rfl⟩ ⟨_, ⟨number, _, _, rfl, _, _⟩, same⟩
        cases same
      rw [branches_cons, Set.encard_union_eq apart, moveOn_injective.encard_image,
        List.cons_injective.encard_image, ih, List.map_cons, List.sum_cons]

theorem edges_eq_branches (resolver : Resolver) (root : DomainName) :
    edges resolver root =
      branches (childrenOf resolver root) fun child => insert [] (edges resolver child) := by
  ext position
  constructor
  · rintro ⟨nonempty, above, name, node⟩
    cases node with
    | self => exact absurd rfl nonempty
    | @child _ child _ number rest _ isChild node =>
        refine ⟨number, rest, child, rfl, isChild, ?_⟩
        -- An edge ends at the child itself or below it.
        cases rest with
        | nil => exact Or.inl rfl
        | cons next others => exact Or.inr ⟨List.cons_ne_nil _ _, _, name, node⟩
  · rintro ⟨number, rest, child, rfl, isChild, atChild | ⟨_, above, name, node⟩⟩
    · rw [atChild]
      exact ⟨List.cons_ne_nil _ _, _, child, .child isChild (.self child)⟩
    · exact ⟨List.cons_ne_nil _ _, _, name, .child isChild node⟩

theorem encard_edges (resolver : Resolver) (root : DomainName) :
    (edges resolver root).encard =
      ((childrenOf resolver root).map fun child => (edges resolver child).encard + 1).sum := by
  have notRoot : ∀ child, [] ∉ edges resolver child := fun _ isEdge => isEdge.1 rfl
  rw [edges_eq_branches, encard_branches]
  simp only [Set.encard_insert_of_notMem (notRoot _)]

end SenderAudit.Spf
