import Glean.Proofs.Extraction.Shape
import Glean.Proofs.Schema.Checked

/-!
# Glean.Proofs.Extraction.Nested

Where the records inside a record come from.  `Field.Reads` says which nodes a field reads at a
root, through its alternatives; each text and each record in the value of the field is made of
one of them (`Field.exists_reads_of_resolve`).  `Schema.Reaches` goes on from there: a record
inside is what a nested schema yields at such a node, and the nodes that have been taken on the
way are kept, innermost first, down to the root.

Everything that occurs in what a schema yields is a record that is reached, or stands in a
field of one (`Schema.placed_of_occurs`).  What holds of reached records therefore holds at
every depth.
-/

namespace Glean

variable {ν : Type} [Source ν]

/-! ## Nodes that a field reads -/

/-- The field reads the node by the strategy: a selector that it tries at the root matches the
node, and the match is one of those that are kept. -/
inductive Field.Reads (root : ν) (strategy : Strategy) (node : ν) : Field → Prop where
  | select {selector : String} {flags : Flags} {nodes : List ν}
      (selected : Source.select root selector = .ok nodes) (kept : flags.Reads nodes node) :
      Reads root strategy node (.select selector strategy flags)
  | alternative {f : Field} {alternatives : List Field} {flags : Flags}
      (member : f ∈ alternatives) (reads : Reads root strategy node f) :
      Reads root strategy node (.firstOf alternatives flags)

/-- What a field reads at a root is a match of some selector there. -/
theorem Field.Reads.exists_select {f : Field} {root node : ν} {strategy : Strategy}
    (h : f.Reads root strategy node) :
    ∃ selector nodes, Source.select root selector = .ok nodes ∧ node ∈ nodes := by
  induction h with
  | @select selector flags nodes selected kept =>
      refine ⟨selector, nodes, selected, ?_⟩
      rw [Flags.Reads] at kept
      split at kept
      · exact kept
      · exact List.mem_of_mem_head? kept
  | alternative _ _ ih => exact ih

/-- The schema that is applied to a node is one that the field applies. -/
theorem Field.Reads.mem_schemas {f : Field} {root node : ν} {t : Schema}
    (h : f.Reads root (.nested t) node) : t ∈ f.schemas := by
  induction h with
  | select _ _ => rw [Field.mem_schemas_select]
  | alternative member _ ih => exact Field.mem_schemas_firstOf.2 ⟨_, member, ih⟩

/-- No strategy makes a list of a node. -/
theorem Strategy.Makes.ne_list {strategy : Strategy} {node : ν} {v : Value}
    (h : strategy.Makes node v) (items : List Value) : v ≠ .list items := by
  cases h <;> simp

/-- Nothing but itself stands in an empty value. -/
theorem Value.IsOrHolds.eq_of_isEmpty {v w : Value} (h : v.IsOrHolds w) (hv : v.isEmpty = true) :
    w = v := by
  rcases h with rfl | ⟨items, rfl, hmem⟩
  · rfl
  · rw [Value.isEmpty, List.isEmpty_iff] at hv
    subst hv
    cases hmem

/-- What stands in the value of a selector is nothing, a list, or made of a match that is kept. -/
theorem exists_makes_of_resolve_select {selector : String} {strategy : Strategy} {flags : Flags}
    {name : String} {root : ν} {v w : Value}
    (h : (Field.select selector strategy flags).resolve name root = .ok v) (hw : v.IsOrHolds w) :
    w = .absent ∨ (∃ items, w = .list items) ∨
      ∃ nodes node, Source.select root selector = .ok nodes ∧ flags.Reads nodes node ∧
        strategy.Makes node w := by
  rcases resolve_select_ok_cases h with
    ⟨-, -, rfl⟩ | ⟨first, more, items, hselect, hlist, rfl, hitems⟩ |
      ⟨first, more, hselect, hlist, hfirst, -⟩
  · have hsame := hw.eq_of_isEmpty (by cases flags.asList <;> rfl)
    cases hlist : flags.asList with
    | true => exact .inr (.inl ⟨[], by rw [hsame, if_pos hlist]⟩)
    | false => exact .inl (by rw [hsame, if_neg (by simp [hlist])])
  · rcases hw with rfl | ⟨items', hsame, hmem⟩
    · exact .inr (.inl ⟨items, rfl⟩)
    · obtain rfl : items = items' := by simpa using hsame
      obtain ⟨node, hnode, hread⟩ := exists_mem_of_mem_collect (collect_eq_ok_iff.2 hitems) hmem
      have hkept : flags.Reads (first :: more) node := by
        rw [Flags.Reads, if_pos hlist]
        exact hnode
      exact .inr (.inr ⟨_, node, hselect, hkept, Strategy.read_eq_ok_iff.1 hread⟩)
  · have hmakes : strategy.Makes first v := Strategy.read_eq_ok_iff.1 hfirst
    have hkept : flags.Reads (first :: more) first := by
      rw [Flags.Reads, if_neg (by simp [hlist])]
      rfl
    rcases hw with rfl | ⟨items, hitems, -⟩
    · exact .inr (.inr ⟨_, first, hselect, hkept, hmakes⟩)
    · exact absurd hitems (hmakes.ne_list items)

/-- What stands in the value of a field is nothing, a list, or made of a node that the field
reads. -/
theorem Field.exists_reads_of_resolve {f : Field} {name : String} {root : ν} {v w : Value}
    (h : f.resolve name root = .ok v) (hw : v.IsOrHolds w) :
    w = .absent ∨ (∃ items, w = .list items) ∨
      ∃ strategy node, f.Reads root strategy node ∧ strategy.Makes node w := by
  induction f using Field.nested_induction generalizing v with
  | select selector strategy flags _ =>
      rcases exists_makes_of_resolve_select h hw with
        habsent | hitems | ⟨nodes, node, hselect, hkept, hmakes⟩
      · exact .inl habsent
      · exact .inr (.inl hitems)
      · exact .inr (.inr ⟨strategy, node, .select hselect hkept, hmakes⟩)
  | firstOf alternatives flags ih =>
      rcases resolve_firstOf_ok_cases h with ⟨f, hf, hres, -⟩ | ⟨-, -, rfl⟩
      · rcases ih f hf hres hw with habsent | hitems | ⟨strategy, node, hreads, hmakes⟩
        · exact .inl habsent
        · exact .inr (.inl hitems)
        · exact .inr (.inr ⟨strategy, node, .alternative hf hreads, hmakes⟩)
      · exact .inl (hw.eq_of_isEmpty rfl)

/-! ## Records that are reached -/

/-- The value stands in a field of the record, as it is or in a list. -/
def Record.Shows (r : Record) (w : Value) : Prop := ∃ p ∈ r.fields, p.2.IsOrHolds w

/-- The record `q` stands inside `r`, which `s` yields at `root`: it is what `t` yields at the
first of the nodes, and every one of them has been read below the next by a field with a
nested schema, down to the root. -/
inductive Schema.Reaches (s : Schema) (root : ν) (r : Record) : Schema → List ν → Record → Prop where
  | whole : Reaches s root r s [root] r
  | nested {t u : Schema} {node inner : ν} {around : List ν} {q q' : Record} {p : String × Field}
      {v : Value} (outer : Reaches s root r t (node :: around) q) (declared : p ∈ t.fields)
      (value : (p.1, v) ∈ q.fields) (shown : v.IsOrHolds (.record q'))
      (reads : p.2.Reads node (.nested u) inner) (extracted : u.extract inner = .ok q') :
      Reaches s root r u (inner :: node :: around) q'

namespace Schema.Reaches

variable {s t : Schema} {root node : ν} {r q : Record} {around : List ν}

/-- A reached record is what its schema yields at its node. -/
theorem extract_eq (hr : s.extract root = .ok r) (h : s.Reaches root r t (node :: around) q) :
    t.extract node = .ok q := by
  cases h with
  | whole => exact hr
  | nested _ _ _ _ _ extracted => exact extracted

/-- The node of a record that is reached from another is read at the node of this one. -/
theorem exists_reads {inner : ν} (h : s.Reaches root r t (inner :: node :: around) q) :
    ∃ (f : Field) (strategy : Strategy), f.Reads node strategy inner := by
  cases h with
  | nested _ _ _ _ reads _ => exact ⟨_, _, reads⟩

/-- The schemas of reached records are sound if that of the whole record is. -/
theorem sound (hs : s.Sound) {nodes : List ν} (h : s.Reaches root r t nodes q) : t.Sound := by
  induction h with
  | whole => exact hs
  | nested _ declared _ _ reads _ ih =>
      cases ih with
      | intro _ inner => exact inner _ declared _ reads.mem_schemas

/-- A record that stands in a field of a reached one is reached from there. -/
theorem exists_of_shows (hr : s.extract root = .ok r)
    (h : s.Reaches root r t (node :: around) q) {q' : Record} (hshows : q.Shows (.record q')) :
    ∃ u inner, s.Reaches root r u (inner :: node :: around) q' := by
  obtain ⟨⟨name, v⟩, hv, hshown⟩ := hshows
  obtain ⟨p, hp, rfl, hres⟩ := Schema.exists_field_of_mem_fields (h.extract_eq hr) hv
  rcases Field.exists_reads_of_resolve hres hshown with
    habsent | ⟨items, hitems⟩ | ⟨strategy, inner, hreads, hmakes⟩
  · contradiction
  · contradiction
  · cases hmakes with
    | @nested u _ extracted => exact ⟨u, inner, .nested h hp hv hshown hreads extracted⟩

end Schema.Reaches

/-- The value is a record that is reached, or stands in a field of one. -/
def Schema.Placed (s : Schema) (root : ν) (r : Record) (w : Value) : Prop :=
  ∃ t node around q, s.Reaches root r t (node :: around) q ∧ (w = .record q ∨ q.Shows w)

namespace Schema.Placed

variable {s : Schema} {root : ν} {r : Record}

/-- What has a place occurs with all that stands in it. -/
theorem of_occurs (hr : s.extract root = .ok r) {v w : Value} (hw : w.Occurs v)
    (h : s.Placed root r v) : s.Placed root r w := by
  induction hw with
  | here => exact h
  | @item x items member _ ih =>
      obtain ⟨t, node, around, q, hreaches, hsame | ⟨p, hp, hshown⟩⟩ := h
      · contradiction
      · refine ih ⟨t, node, around, q, hreaches, .inr ⟨p, hp, ?_⟩⟩
        rcases hshown with hvalue | ⟨outer, houter, hinner⟩
        · exact .inr ⟨items, hvalue.symm, member⟩
        · -- A field never has a list in a list.
          obtain ⟨f, -, -, hres⟩ := Schema.exists_field_of_mem_fields (hreaches.extract_eq hr) hp
          have hconf := Field.conforms_of_resolve hres
          rw [houter] at hconf
          exact absurd hinner hconf.flat
  | @field x name q' member _ ih =>
      obtain ⟨t, node, around, q, hreaches, hsame | hshows⟩ := h
      · obtain rfl : q' = q := Value.record.inj hsame
        exact ih ⟨t, node, around, q', hreaches, .inr ⟨(name, x), member, .inl rfl⟩⟩
      · obtain ⟨u, inner, hinner⟩ := hreaches.exists_of_shows hr hshows
        exact ih ⟨u, inner, node :: around, q', hinner, .inr ⟨(name, x), member, .inl rfl⟩⟩

/-- A record that has a place is reached. -/
theorem exists_reaches (hr : s.extract root = .ok r) {q : Record}
    (h : s.Placed root r (.record q)) :
    ∃ t node around, s.Reaches root r t (node :: around) q := by
  obtain ⟨t, node, around, q', hreaches, hsame | hshows⟩ := h
  · obtain rfl : q = q' := Value.record.inj hsame
    exact ⟨t, node, around, hreaches⟩
  · obtain ⟨u, inner, hinner⟩ := hreaches.exists_of_shows hr hshows
    exact ⟨u, inner, node :: around, hinner⟩

end Schema.Placed

/-- Everything that occurs in what a schema yields has its place in a reached record. -/
theorem Schema.placed_of_occurs {s : Schema} {root : ν} {r : Record} {w : Value}
    (hr : s.extract root = .ok r) (hw : w.Occurs (.record r)) : s.Placed root r w :=
  .of_occurs hr hw ⟨s, root, [], r, .whole, .inl rfl⟩

/-! ## Levels -/

mutual

/-- How many records of a value, at most, stand one in another. -/
def Value.levels : Value → Nat
  | .absent => 0
  | .text _ => 0
  | .list items => itemLevels items
  | .record r => r.levels + 1

/-- How many records in a record, at most, stand one in another. -/
def Record.levels : Record → Nat
  | ⟨_, fields⟩ => fieldLevels fields

/-- How many records of the items, at most, stand one in another. -/
def itemLevels : List Value → Nat
  | [] => 0
  | v :: rest => max v.levels (itemLevels rest)

/-- How many records of the named values, at most, stand one in another. -/
def fieldLevels : List (String × Value) → Nat
  | [] => 0
  | (_, v) :: rest => max v.levels (fieldLevels rest)

end

theorem itemLevels_le_iff {items : List Value} {n : Nat} :
    itemLevels items ≤ n ↔ ∀ v ∈ items, v.levels ≤ n := by
  induction items with
  | nil => simp [itemLevels]
  | cons v rest ih => rw [itemLevels, Nat.max_le, ih, List.forall_mem_cons]

theorem Record.levels_le_iff {r : Record} {n : Nat} :
    r.levels ≤ n ↔ ∀ p ∈ r.fields, p.2.levels ≤ n := by
  obtain ⟨name, fields⟩ := r
  rw [Record.levels]
  induction fields with
  | nil => simp [fieldLevels]
  | cons p rest ih =>
      obtain ⟨key, v⟩ := p
      rw [fieldLevels, Nat.max_le, ih, List.forall_mem_cons]

/-- A value without a list in a list has one level more than the records in it. -/
theorem Value.levels_le {v : Value} {n : Nat}
    (hflat : ∀ items, v = .list items → ∀ inner, Value.list inner ∉ items)
    (h : ∀ q, v.IsOrHolds (.record q) → q.levels < n) : v.levels ≤ n := by
  cases v with
  | absent | text => exact Nat.zero_le n
  | record q => exact h q (.inl rfl)
  | list items =>
      rw [Value.levels, itemLevels_le_iff]
      intro w hw
      cases w with
      | absent | text => exact Nat.zero_le n
      | record q => exact h q (.inr ⟨items, rfl, hw⟩)
      | list inner => exact absurd hw (hflat items rfl inner)

/-- Where matches are lower than the node below which they are found, a reached record has no
more levels than its node is high. -/
theorem Schema.Reaches.levels_le {height : ν → Nat}
    (hlower : ∀ (root : ν) selector nodes, Source.select root selector = .ok nodes →
      ∀ node ∈ nodes, height node < height root)
    {s t : Schema} {root node : ν} {r q : Record} {around : List ν} (hr : s.extract root = .ok r)
    (h : s.Reaches root r t (node :: around) q) : q.levels ≤ height node := by
  -- The induction is on the height of the node, which falls with every level.
  induction hn : height node using Nat.strongRecOn generalizing t node around q with
  | ind n ih =>
      rw [Record.levels_le_iff]
      intro p hp
      obtain ⟨f, -, -, hres⟩ := Schema.exists_field_of_mem_fields (h.extract_eq hr) hp
      have hconf := Field.conforms_of_resolve hres
      refine Value.levels_le (fun items hitems inner => ?_) fun q' hshown => ?_
      · rw [hitems] at hconf
        exact hconf.flat
      · obtain ⟨u, inner, hinner⟩ := h.exists_of_shows hr ⟨p, hp, hshown⟩
        obtain ⟨g, strategy, hreads⟩ := hinner.exists_reads
        obtain ⟨selector, nodes, hselect, hmem⟩ := hreads.exists_select
        have hlt : height inner < n := hn ▸ hlower node selector nodes hselect inner hmem
        have hle : q'.levels ≤ height inner := ih (height inner) hlt hinner rfl
        omega

end Glean
