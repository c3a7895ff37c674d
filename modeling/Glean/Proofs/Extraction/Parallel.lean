import Mathlib.Data.List.Perm.Basic
import Glean.Proofs.Extraction.Outcome
import Glean.Proofs.Schema.Declared

/-!
# Glean.Proofs.Extraction.Parallel

Two runs side by side.  `Parallel R E` says of two outcomes that both are results which
`R` relates, or both are failures which `E` relates.  Every walker takes outcomes that
are related on the way to an outcome that is related, provided that the relation of
values goes through lists and keeps what extraction looks at (`Value.Congruent`).

A run along the same list in another order succeeds in the same cases, with the same
answers in that order (`exists_collect_perm`).
-/

namespace Glean

/-! ## Outcomes -/

/-- Both have the same name, and under it they are related. -/
inductive Named {α β : Type} (R : α → β → Prop) : String × α → String × β → Prop where
  | intro {name : String} {x : α} {y : β} (related : R x y) : Named R (name, x) (name, y)

theorem Named.name_eq {α β : Type} {R : α → β → Prop} {p : String × α} {q : String × β}
    (h : Named R p q) : p.1 = q.1 := by
  cases h with
  | intro related => rfl

theorem Named.related {α β : Type} {R : α → β → Prop} {p : String × α} {q : String × β}
    (h : Named R p q) : R p.2 q.2 := by
  cases h with
  | intro related => exact related

/-- Both are results that are related, or both are failures that are related. -/
inductive Parallel {α β ε δ : Type} (R : α → β → Prop) (E : ε → δ → Prop) :
    Except ε α → Except δ β → Prop where
  | ok {x : α} {y : β} (related : R x y) : Parallel R E (.ok x) (.ok y)
  | error {d : ε} {e : δ} (related : E d e) : Parallel R E (.error d) (.error e)

namespace Parallel

variable {α α' β β' ε δ : Type} {R : α → β → Prop} {E : ε → δ → Prop}

theorem exists_ok_iff {x : Except ε α} {y : Except δ β} (h : Parallel R E x y) :
    (∃ a, x = .ok a) ↔ ∃ b, y = .ok b := by
  cases h <;> simp

theorem exists_of_ok {x : Except ε α} {b : β} (h : Parallel R E x (.ok b)) :
    ∃ a, x = .ok a ∧ R a b := by
  cases h with
  | ok related => exact ⟨_, rfl, related⟩

theorem exists_of_error {x : Except ε α} {e : δ} (h : Parallel R E x (.error e)) :
    ∃ d, x = .error d ∧ E d e := by
  cases h with
  | error related => exact ⟨_, rfl, related⟩

theorem map {R' : α' → β' → Prop} {x : Except ε α} {y : Except δ β} {k : α → α'} {l : β → β'}
    (h : Parallel R E x y) (hkl : ∀ a b, R a b → R' (k a) (l b)) :
    Parallel R' E (x.map k) (y.map l) := by
  cases h with
  | ok related => exact .ok (hkl _ _ related)
  | error related => exact .error related

/-- What is related more closely is related, where the failure may be looked at too. -/
theorem imp {R' : α → β → Prop} {E' : ε → δ → Prop} {x : Except ε α} {y : Except δ β}
    (h : Parallel R E x y) (hR : ∀ a b, R a b → R' a b)
    (hE : ∀ d e, x = .error d → E d e → E' d e) : Parallel R' E' x y := by
  cases h with
  | ok related => exact .ok (hR _ _ related)
  | error related => exact .error (hE _ _ rfl related)

/-- Runs along two lists are related if they are at every step. -/
theorem collect {f : α' → Except ε α} {g : β' → Except δ β} {xs : List α'} {ys : List β'}
    (h : List.Forall₂ (fun x y => Parallel R E (f x) (g y)) xs ys) :
    Parallel (List.Forall₂ R) E (collect f xs) (collect g ys) := by
  induction h with
  | nil => exact .ok .nil
  | @cons x y xs ys hxy _ ih =>
      rw [Glean.collect, Glean.collect]
      generalize f x = fx at hxy
      generalize g y = gy at hxy
      cases hxy with
      | ok related => exact ih.map fun _ _ hrest => .cons related hrest
      | error related => exact .error related

end Parallel

/-- A run along the same elements in another order succeeds too, with the same answers
in that order. -/
theorem exists_collect_perm {α β ε : Type} {f : α → Except ε β} {xs ys : List α} {us : List β}
    (hperm : xs.Perm ys) (h : collect f xs = .ok us) :
    ∃ vs, collect f ys = .ok vs ∧ us.Perm vs := by
  obtain ⟨vs, hvs, hperm'⟩ := List.perm_comp_forall₂ hperm.symm (collect_eq_ok_iff.1 h)
  exact ⟨vs, collect_eq_ok_iff.2 hvs, hperm'.symm⟩

/-! ## Values -/

/-- A relation of values that extraction goes along with: it relates values without parts
to themselves, goes through lists, and keeps whether a value is absent or empty. -/
structure Value.Congruent (R : Value → Value → Prop) : Prop where
  absent : R .absent .absent
  text (content : String) : R (.text content) (.text content)
  list {xs ys : List Value} (items : List.Forall₂ R xs ys) : R (.list xs) (.list ys)
  isAbsent {v w : Value} (h : R v w) : v.isAbsent = w.isAbsent
  isEmpty {v w : Value} (h : R v w) : v.isEmpty = w.isEmpty

variable {ν μ : Type} [Source ν] [Source μ] {R : Value → Value → Prop}
  {E E' : ExtractionError → ExtractionError → Prop} {name name' : String}

/-! ## Strategies and fields -/

/-- A strategy without a nested schema reads a node alike under any name. -/
theorem Strategy.read_parallel (hR : Value.Congruent R) {strategy : Strategy}
    (hplain : strategy.schemas = []) (node : ν) :
    Parallel R E (strategy.read name node) (strategy.read name' node) := by
  cases strategy with
  | text | any | content => exact .ok (hR.text _)
  | attr key =>
      rw [Strategy.read, Strategy.read]
      cases Source.attr? node key with
      | none => exact .ok hR.absent
      | some value => exact .ok (hR.text value)
  | nested s => simp [Strategy.schemas] at hplain

/-- Nested schemas with related records, or with errors that are related under the names of
their fields, are read in related ways. -/
theorem Strategy.read_nested_parallel {s s' : Schema} {a : ν} {b : μ}
    (hwithin : ∀ d e, E d e → E' (d.within name) (e.within name'))
    (h : Parallel (fun r r' => R (.record r) (.record r')) E (s.extract a) (s'.extract b)) :
    Parallel R E' ((Strategy.nested s).read name a) ((Strategy.nested s').read name' b) := by
  rw [Strategy.read, Strategy.read]
  generalize s.extract a = x at h
  generalize s'.extract b = y at h
  cases h with
  | ok related => exact .ok related
  | error related => exact .error (hwithin _ _ related)

/-- Fields that select the same nodes and read them in related ways have related outcomes. -/
theorem resolve_select_parallel (hR : Value.Congruent R) {selector : String}
    {strategy strategy' : Strategy} {flags : Flags} {root : ν}
    (hrefused : ∀ e, Source.select root selector = .error e → E e e)
    (hmissing : ∀ shown, E (.missing name shown) (.missing name' shown))
    (hdescribe : strategy.describe selector = strategy'.describe selector)
    (hread : ∀ node : ν, Parallel R E (strategy.read name node) (strategy'.read name' node)) :
    Parallel R E ((Field.select selector strategy flags).resolve name root)
      ((Field.select selector strategy' flags).resolve name' root) := by
  cases hselect : Source.select root selector with
  | error e =>
      rw [resolve_select_of_error hselect, resolve_select_of_error hselect]
      exact .error (hrefused e hselect)
  | ok nodes =>
      cases nodes with
      | nil =>
          rw [resolve_select_of_nil hselect, resolve_select_of_nil hselect]
          cases flags.required with
          | true => exact .error (hmissing selector)
          | false =>
              cases flags.asList with
              | true => exact .ok (hR.list .nil)
              | false => exact .ok hR.absent
      | cons first more =>
          cases hlist : flags.asList with
          | true =>
              rw [resolve_list_of_matches hselect hlist, resolve_list_of_matches hselect hlist]
              have hall : List.Forall₂ (fun x y => Parallel R E (strategy.read name x)
                  (strategy'.read name' y)) (first :: more) (first :: more) :=
                List.forall₂_same.2 fun node _ => hread node
              exact (Parallel.collect hall).map fun _ _ hitems => hR.list hitems
          | false =>
              rw [resolve_single_of_matches hselect hlist, resolve_single_of_matches hselect hlist,
                ← hdescribe]
              have hfirst := hread first
              generalize strategy.read name first = x at hfirst
              generalize strategy'.read name' first = y at hfirst
              cases hfirst with
              | error related => exact .error related
              | @ok v w related =>
                  simp only [← hR.isAbsent related]
                  cases flags.required && v.isAbsent with
                  | true => exact .error (hmissing (strategy.describe selector))
                  | false => exact .ok related

/-- Fallbacks whose alternatives have related outcomes have related findings. -/
theorem firstFound_parallel (hR : Value.Congruent R)
    (hE : ∀ d e, E d e → d.isMissing = e.isMissing) {a : ν} {b : μ}
    {alternatives alternatives' : List Field}
    (h : List.Forall₂ (fun f g => Parallel R E (f.resolve name a) (g.resolve name' b))
      alternatives alternatives') :
    Parallel (Option.Rel R) E (firstFound name a alternatives)
      (firstFound name' b alternatives') := by
  induction h with
  | nil =>
      rw [firstFound, firstFound]
      exact .ok .none
  | @cons f g rest rest' hfg _ ih =>
      cases hg : g.resolve name' b with
      | ok w =>
          rw [hg] at hfg
          obtain ⟨v, hf, related⟩ := hfg.exists_of_ok
          rw [firstFound, firstFound, hf, hg]
          simp only [← hR.isEmpty related]
          cases v.isEmpty with
          | true => exact ih
          | false => exact .ok (.some related)
      | error e =>
          rw [hg] at hfg
          obtain ⟨d, hf, related⟩ := hfg.exists_of_error
          have hsame := hE d e related
          cases hmissing : d.isMissing with
          | true =>
              rw [firstFound_of_passedOver (.inr ⟨d, hf, hmissing⟩),
                firstFound_of_passedOver (.inr ⟨e, hg, hsame ▸ hmissing⟩)]
              exact ih
          | false =>
              rw [firstFound_of_failed hf hmissing, firstFound_of_failed hg (hsame ▸ hmissing)]
              exact .error related

/-- Fallbacks with related findings have related outcomes. -/
theorem resolve_firstOf_parallel (hR : Value.Congruent R) {a : ν} {b : μ}
    {alternatives alternatives' : List Field} {flags : Flags}
    (hmissing : E (.missing name (Field.firstOf alternatives flags).describe)
      (.missing name' (Field.firstOf alternatives' flags).describe))
    (h : Parallel (Option.Rel R) E (firstFound name a alternatives)
      (firstFound name' b alternatives')) :
    Parallel R E ((Field.firstOf alternatives flags).resolve name a)
      ((Field.firstOf alternatives' flags).resolve name' b) := by
  rw [resolve_firstOf_eq, resolve_firstOf_eq]
  generalize firstFound name a alternatives = x at h
  generalize firstFound name' b alternatives' = y at h
  cases h with
  | error related => exact .error related
  | ok related =>
      cases related with
      | some related => exact .ok related
      | none =>
          cases flags.required with
          | true => exact .error hmissing
          | false => exact .ok hR.absent

/-! ## Schemas -/

/-- Fields with related outcomes that are declared under the same name have related values
under that name. -/
theorem resolveDeclared_parallel {a : ν} {b : μ} {f g : Field}
    (h : Parallel R E (f.resolve name a) (g.resolve name b)) :
    Parallel (Named R) E (resolveDeclared a (name, f)) (resolveDeclared b (name, g)) :=
  h.map fun _ _ related => .intro related

end Glean
