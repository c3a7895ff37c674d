import Mathlib.Data.List.Lex
import Glean.Html.Node

/-!
# Glean.Proofs.Html.Below

Elements below an element.  `Located.Below` says by the places that are taken on the way down
which elements these are, and an element lists exactly them (`Located.mem_descendants_iff`).
The way goes through fragments too, so what stands in the content of a template is below it.

An address is the way down from the document, outermost place first.  In document order one
element precedes another if its address is less, place by place, so an element precedes what
is below it; the list of the elements below is in this order, which repeats none
(`Located.pairwise_descendants`).
-/

namespace Glean.Html

/-! ## Induction over trees -/

/-- What holds of a node whenever it holds of the nodes directly in it holds of every node. -/
theorem Node.nested_induction {motive : Node → Prop}
    (text : ∀ content, motive (.text content)) (comment : ∀ content, motive (.comment content))
    (doctype : ∀ name, motive (.doctype name))
    (element : ∀ label children, (∀ n ∈ children, motive n) → motive (.element label children))
    (fragment : ∀ children, (∀ n ∈ children, motive n) → motive (.fragment children))
    (n : Node) : motive n := by
  match n with
  | .text content => exact text content
  | .comment content => exact comment content
  | .doctype name => exact doctype name
  | .element label children =>
      refine element label children fun n hn => ?_
      have hlt := List.sizeOf_lt_of_mem hn
      exact Node.nested_induction text comment doctype element fragment n
  | .fragment children =>
      refine fragment children fun n hn => ?_
      have hlt := List.sizeOf_lt_of_mem hn
      exact Node.nested_induction text comment doctype element fragment n
termination_by sizeOf n
decreasing_by
  · simp only [Node.element.sizeOf_spec]
    omega
  · simp only [Node.fragment.sizeOf_spec]
    omega

/-! ## Elements in a list of nodes -/

/-- The element `x` stands in a list of nodes that `holder` holds below the levels `above`:
directly, or in the content of an element or a fragment that stands directly there. -/
inductive StandsIn (x : Located) : Holder → List Node → List Level → Prop where
  | directly {holder : Holder} {nodes : List Node} {above : List Level} {i : Nat}
      {label : Label} {children : List Node} (taken : nodes[i]? = some (.element label children))
      (place : x = ⟨label, children, ⟨holder, nodes, i⟩ :: above⟩) : StandsIn x holder nodes above
  | inElement {holder : Holder} {nodes : List Node} {above : List Level} {i : Nat}
      {label : Label} {children : List Node} (taken : nodes[i]? = some (.element label children))
      (inside : StandsIn x (.element label) children (⟨holder, nodes, i⟩ :: above)) :
      StandsIn x holder nodes above
  | inFragment {holder : Holder} {nodes : List Node} {above : List Level} {i : Nat}
      {children : List Node} (taken : nodes[i]? = some (.fragment children))
      (inside : StandsIn x .fragment children (⟨holder, nodes, i⟩ :: above)) :
      StandsIn x holder nodes above

/-- The element `x` is a strict descendant of `e`. -/
def Located.Below (x e : Located) : Prop := StandsIn x (.element e.label) e.children e.levels

/-- The elements in a list of nodes are those at and below each of them, which knows its place. -/
theorem mem_elementsIn {x : Located} {holder : Holder} {nodes : List Node} {above : List Level}
    {position : Nat} {rest : List Node} :
    x ∈ elementsIn holder nodes above position rest ↔
      ∃ (i : Nat) (n : Node), rest[i]? = some n ∧ x ∈ n.elements (⟨holder, nodes, position + i⟩ :: above) := by
  induction rest generalizing position with
  | nil => simp [elementsIn]
  | cons n rest ih =>
      rw [elementsIn, List.mem_append, ih]
      constructor
      · rintro (hx | ⟨i, m, hm, hx⟩)
        · exact ⟨0, n, rfl, hx⟩
        · have hplace : position + 1 + i = position + (i + 1) := by omega
          exact ⟨i + 1, m, hm, hplace ▸ hx⟩
      · rintro ⟨i, m, hm, hx⟩
        cases i with
        | zero =>
            obtain rfl : n = m := Option.some.inj hm
            exact .inl hx
        | succ i =>
            have hplace : position + (i + 1) = position + 1 + i := by omega
            exact .inr ⟨i, m, hm, hplace ▸ hx⟩

theorem mem_elementsIn_zero {x : Located} {holder : Holder} {nodes : List Node}
    {above : List Level} :
    x ∈ elementsIn holder nodes above 0 nodes ↔
      ∃ (i : Nat) (n : Node), nodes[i]? = some n ∧ x ∈ n.elements (⟨holder, nodes, i⟩ :: above) := by
  rw [mem_elementsIn]
  simp only [Nat.zero_add]

/-- What stands in a list of nodes is listed there. -/
theorem StandsIn.mem_elementsIn {x : Located} {holder : Holder} {nodes : List Node}
    {above : List Level} (h : StandsIn x holder nodes above) :
    x ∈ elementsIn holder nodes above 0 nodes := by
  induction h with
  | directly taken place =>
      refine mem_elementsIn_zero.2 ⟨_, _, taken, ?_⟩
      rw [Node.elements, place]
      exact List.mem_cons_self
  | inElement taken _ ih =>
      refine mem_elementsIn_zero.2 ⟨_, _, taken, ?_⟩
      rw [Node.elements]
      exact List.mem_cons_of_mem _ ih
  | inFragment taken _ ih =>
      refine mem_elementsIn_zero.2 ⟨_, _, taken, ?_⟩
      rwa [Node.elements]

/-- What is listed at and below a node in its place stands in the list of which it is a node. -/
theorem Node.standsIn_of_mem_elements {n : Node} {x : Located} {holder : Holder}
    {nodes : List Node} {above : List Level} {i : Nat} (taken : nodes[i]? = some n)
    (h : x ∈ n.elements (⟨holder, nodes, i⟩ :: above)) : StandsIn x holder nodes above := by
  induction n using Node.nested_induction generalizing holder nodes above i with
  | text | comment | doctype => simp [Node.elements] at h
  | element label children ih =>
      rw [Node.elements, List.mem_cons, mem_elementsIn_zero] at h
      rcases h with hx | ⟨j, m, hm, hx⟩
      · exact .directly taken hx
      · exact .inElement taken (ih m (List.mem_of_getElem? hm) hm hx)
  | fragment children ih =>
      rw [Node.elements, mem_elementsIn_zero] at h
      obtain ⟨j, m, hm, hx⟩ := h
      exact .inFragment taken (ih m (List.mem_of_getElem? hm) hm hx)

theorem mem_elementsIn_iff {x : Located} {holder : Holder} {nodes : List Node}
    {above : List Level} :
    x ∈ elementsIn holder nodes above 0 nodes ↔ StandsIn x holder nodes above := by
  constructor
  · intro h
    obtain ⟨i, n, hn, hx⟩ := mem_elementsIn_zero.1 h
    exact Node.standsIn_of_mem_elements hn hx
  · exact StandsIn.mem_elementsIn

namespace Located

/-- An element lists exactly the elements below it. -/
theorem mem_descendants_iff {x e : Located} : x ∈ e.descendants ↔ x.Below e :=
  mem_elementsIn_iff

/-- What is below an element is below everything that this element stands in. -/
theorem Below.standsIn {x y : Located} (hxy : x.Below y) {holder : Holder} {nodes : List Node}
    {above : List Level} (hy : StandsIn y holder nodes above) : StandsIn x holder nodes above := by
  induction hy with
  | directly taken place =>
      subst place
      exact .inElement taken hxy
  | inElement taken _ ih => exact .inElement taken ih
  | inFragment taken _ ih => exact .inFragment taken ih

theorem Below.trans {x y z : Located} (hxy : x.Below y) (hyz : y.Below z) : x.Below z :=
  hxy.standsIn hyz

end Located

/-! ## Height -/

mutual

/-- How many elements, at most, stand at and below a node, each below the one before. -/
def Node.height : Node → Nat
  | .element _ children => heightIn children + 1
  | .fragment children => heightIn children
  | .text _ => 0
  | .comment _ => 0
  | .doctype _ => 0

/-- How many elements, at most, stand in a list of nodes, each below the one before. -/
def heightIn : List Node → Nat
  | [] => 0
  | n :: rest => max n.height (heightIn rest)

end

/-- The height of the tree of elements below an element. -/
def Located.height (e : Located) : Nat := heightIn e.children

theorem height_le_heightIn {n : Node} {nodes : List Node} (h : n ∈ nodes) :
    n.height ≤ heightIn nodes := by
  induction nodes with
  | nil => cases h
  | cons m rest ih =>
      rw [heightIn]
      rcases List.mem_cons.1 h with rfl | hrest
      · omega
      · have := ih hrest
        omega

theorem StandsIn.height_lt {x : Located} {holder : Holder} {nodes : List Node}
    {above : List Level} (h : StandsIn x holder nodes above) : x.height < heightIn nodes := by
  induction h with
  | directly taken place =>
      have hle := height_le_heightIn (List.mem_of_getElem? taken)
      rw [Node.height] at hle
      subst place
      exact hle
  | inElement taken _ ih =>
      have hle := height_le_heightIn (List.mem_of_getElem? taken)
      rw [Node.height] at hle
      omega
  | inFragment taken _ ih =>
      have hle := height_le_heightIn (List.mem_of_getElem? taken)
      rw [Node.height] at hle
      omega

/-- The tree below an element is higher than that below any of its strict descendants. -/
theorem Located.Below.height_lt {x e : Located} (h : x.Below e) : x.height < e.height :=
  StandsIn.height_lt h

/-! ## Document order -/

namespace Located

/-- The positions taken on the way down, outermost first. -/
def address (e : Located) : List Nat := e.path.reverse

/-- The element `x` stands before `y` in document order: in front of it, or above it. -/
def Precedes (x y : Located) : Prop := List.Lex (· < ·) x.address y.address

/-- An element that precedes another stands at another place. -/
theorem Precedes.address_ne {x y : Located} (h : x.Precedes y) : x.address ≠ y.address := by
  intro heq
  have hlex : List.Lex (· < ·) x.address x.address := by
    rw [Precedes, ← heq] at h
    exact h
  exact Std.Asymm.asymm _ _ hlex hlex

end Located

/-- The way down that levels describe, outermost first. -/
def way (levels : List Level) : List Nat := (levels.map (·.position)).reverse

theorem Located.address_eq (e : Located) : e.address = way e.levels := rfl

theorem way_cons (level : Level) (above : List Level) :
    way (level :: above) = way above ++ [level.position] := by
  simp [way]

/-- A way precedes the same way continued. -/
theorem lex_append_cons (front : List Nat) (i : Nat) (rest : List Nat) :
    List.Lex (· < ·) front (front ++ i :: rest) := by
  have h : List.Lex (· < ·) (front ++ []) (front ++ i :: rest) :=
    List.Lex.append_left _ .nil front
  rwa [List.append_nil] at h

/-- What stands at and below a node is reached on a way through the node. -/
theorem Node.address_of_mem_elements {n : Node} {x : Located} {levels : List Level}
    (h : x ∈ n.elements levels) : ∃ rest, x.address = way levels ++ rest := by
  induction n using Node.nested_induction generalizing levels with
  | text | comment | doctype => simp [Node.elements] at h
  | element label children ih =>
      rw [Node.elements, List.mem_cons, mem_elementsIn_zero] at h
      rcases h with rfl | ⟨i, m, hm, hx⟩
      · exact ⟨[], by rw [Located.address_eq, List.append_nil]⟩
      · obtain ⟨rest, hrest⟩ := ih m (List.mem_of_getElem? hm) hx
        exact ⟨i :: rest, by rw [hrest, way_cons, List.append_assoc]; rfl⟩
  | fragment children ih =>
      rw [Node.elements, mem_elementsIn_zero] at h
      obtain ⟨i, m, hm, hx⟩ := h
      obtain ⟨rest, hrest⟩ := ih m (List.mem_of_getElem? hm) hx
      exact ⟨i :: rest, by rw [hrest, way_cons, List.append_assoc]; rfl⟩

/-- What stands in a list of nodes is reached on a way through a position there. -/
theorem address_of_mem_elementsIn {x : Located} {holder : Holder} {nodes : List Node}
    {above : List Level} {position : Nat} {rest : List Node}
    (h : x ∈ elementsIn holder nodes above position rest) :
    ∃ i more, position ≤ i ∧ x.address = way above ++ i :: more := by
  obtain ⟨i, n, -, hx⟩ := mem_elementsIn.1 h
  obtain ⟨more, hmore⟩ := Node.address_of_mem_elements hx
  refine ⟨position + i, more, by omega, ?_⟩
  rw [hmore, way_cons, List.append_assoc]
  rfl

/-- Of two elements in a list of nodes, the one at the lower position precedes. -/
theorem pairwise_elementsIn {holder : Holder} {nodes : List Node} {above : List Level}
    {position : Nat} {rest : List Node}
    (h : ∀ n ∈ rest, ∀ levels, (n.elements levels).Pairwise Located.Precedes) :
    (elementsIn holder nodes above position rest).Pairwise Located.Precedes := by
  induction rest generalizing position with
  | nil => simp [elementsIn]
  | cons n rest ih =>
      obtain ⟨hn, hrest⟩ := List.forall_mem_cons.1 h
      rw [elementsIn, List.pairwise_append]
      refine ⟨hn _, ih hrest, fun x hx y hy => ?_⟩
      obtain ⟨xrest, hxrest⟩ := Node.address_of_mem_elements hx
      obtain ⟨j, yrest, hj, hyrest⟩ := address_of_mem_elementsIn hy
      rw [way_cons, List.append_assoc] at hxrest
      rw [Located.Precedes, hxrest, hyrest]
      exact List.Lex.append_left _ (.rel (Nat.lt_of_succ_le hj)) _

/-- What stands at and below a node is listed in document order. -/
theorem Node.pairwise_elements (n : Node) (levels : List Level) :
    (n.elements levels).Pairwise Located.Precedes := by
  induction n using Node.nested_induction generalizing levels with
  | text | comment | doctype => simp [Node.elements]
  | element label children ih =>
      rw [Node.elements, List.pairwise_cons]
      refine ⟨fun x hx => ?_, pairwise_elementsIn ih⟩
      obtain ⟨i, more, -, hmore⟩ := address_of_mem_elementsIn hx
      rw [Located.Precedes, hmore, Located.address_eq]
      exact lex_append_cons (way levels) i more
  | fragment children ih =>
      rw [Node.elements]
      exact pairwise_elementsIn ih

namespace Located

/-- An element precedes everything below it. -/
theorem Below.precedes {x e : Located} (h : x.Below e) : e.Precedes x := by
  obtain ⟨i, more, -, hmore⟩ := address_of_mem_elementsIn (mem_descendants_iff.2 h)
  rw [Precedes, hmore, address_eq]
  exact lex_append_cons (way e.levels) i more

/-- An element lists what is below it in document order. -/
theorem pairwise_descendants (e : Located) : e.descendants.Pairwise Precedes :=
  pairwise_elementsIn fun n _ => n.pairwise_elements

end Located

end Glean.Html
