import Mathlib.Data.List.Forall2
import Glean.Extraction.Source

/-!
# Glean.Proofs.Extraction.Collecting

Running a fallible function along a list.  `collect` is the only loop that
extraction has: over the declared fields, over the matches of a list field, and
over the matches of a selector that yields many records.  It succeeds exactly
if every element does, answers element by element, and otherwise fails with the
first failure; nothing behind that failure is looked at.
-/

namespace Glean

variable {α α' β ε : Type} {f : α → Except ε β}

/-! ## Lists side by side -/

/-- A relation along two lists may be weakened where the first list has the element. -/
theorem forall₂_imp_of_mem {R S : α → β → Prop} {xs : List α} {ys : List β}
    (h : List.Forall₂ R xs ys) (himp : ∀ x ∈ xs, ∀ y, R x y → S x y) : List.Forall₂ S xs ys :=
  ((List.forall₂_and_left xs ys).2 ⟨himp, h⟩).imp fun _ y hxy => hxy.1 y hxy.2

/-- What is related in two lists stands at the same position in both. -/
theorem forall₂_at_position {R : α → β → Prop} {xs : List α} {ys : List β}
    (h : List.Forall₂ R xs ys) :
    List.Forall₂ (fun x y => R x y ∧ ∃ i : Nat, xs[i]? = some x ∧ ys[i]? = some y) xs ys := by
  induction h with
  | nil => exact .nil
  | @cons x y xs ys hxy _ ih =>
      refine .cons ⟨hxy, 0, rfl, rfl⟩ (ih.imp fun u w huw => ?_)
      obtain ⟨hR, i, hu, hw⟩ := huw
      exact ⟨hR, i + 1, hu, hw⟩

/-- Lists that have the same image element by element have the same image. -/
theorem map_eq_map_of_forall₂ {γ : Type} {g : α → γ} {k : β → γ} {xs : List α} {ys : List β}
    (h : List.Forall₂ (fun x y => g x = k y) xs ys) : xs.map g = ys.map k := by
  rw [← List.forall₂_eq_eq_eq, List.forall₂_map_left_iff, List.forall₂_map_right_iff]
  exact h

theorem forall₂_of_map_eq_map {γ : Type} {g : α → γ} {k : β → γ} {xs : List α} {ys : List β}
    (h : xs.map g = ys.map k) : List.Forall₂ (fun x y => g x = k y) xs ys := by
  rw [← List.forall₂_eq_eq_eq, List.forall₂_map_left_iff, List.forall₂_map_right_iff] at h
  exact h

/-- A relation that says of the elements that their images are the same says so of the lists. -/
theorem forall₂_iff_map_eq_map {γ : Type} {R : α → β → Prop} {g : α → γ} {k : β → γ}
    {xs : List α} {ys : List β} (h : ∀ x ∈ xs, ∀ y, R x y ↔ g x = k y) :
    List.Forall₂ R xs ys ↔ xs.map g = ys.map k := by
  constructor
  · intro hR
    exact map_eq_map_of_forall₂ (forall₂_imp_of_mem hR fun x hx y => (h x hx y).1)
  · intro hmap
    exact forall₂_imp_of_mem (forall₂_of_map_eq_map hmap) fun x hx y => (h x hx y).2

/-- Two lists beside the same list are equal if their elements are that stand at the same
position. -/
theorem eq_of_forall₂ {R : α → β → Prop} {S : β → β → Prop} {xs : List α} {ys zs : List β}
    (hys : List.Forall₂ R xs ys) (hzs : List.Forall₂ R xs zs) (hS : List.Forall₂ S ys zs)
    (heq : ∀ x ∈ xs, ∀ y z, R x y → R x z → S y z → y = z) : ys = zs := by
  induction hys generalizing zs with
  | nil => cases hzs; rfl
  | @cons x y xs ys hxy _ ih =>
      cases hzs with
      | @cons _ z _ zs hxz hzs =>
          cases hS with
          | cons hyz hS =>
              obtain ⟨hx, hxs⟩ := List.forall_mem_cons.1 heq
              rw [hx y z hxy hxz hyz, ih hzs hS hxs]

/-! ## Success -/

/-- A successful run answers element by element. -/
theorem collect_eq_ok_iff {xs : List α} {ys : List β} :
    collect f xs = .ok ys ↔ List.Forall₂ (fun x y => f x = .ok y) xs ys := by
  induction xs generalizing ys with
  | nil => cases ys <;> simp [collect]
  | cons x rest ih =>
      cases hx : f x with
      | error e =>
          rw [collect_cons_error hx]
          cases ys <;> simp [hx]
      | ok y =>
          rw [collect_cons_ok hx]
          cases hr : collect f rest with
          | error e =>
              cases ys with
              | nil => simp [Except.map]
              | cons z zs => simp [Except.map, ← ih, hr]
          | ok zs => cases ys <;> simp [Except.map, ← ih, hr, hx]

/-- A run succeeds exactly if the function succeeds on every element. -/
theorem exists_collect_eq_ok_iff {xs : List α} :
    (∃ ys, collect f xs = .ok ys) ↔ ∀ x ∈ xs, ∃ y, f x = .ok y := by
  induction xs with
  | nil => simp [collect]
  | cons x rest ih =>
      rw [List.forall_mem_cons, ← ih]
      cases hx : f x with
      | error e => simp [collect_cons_error hx]
      | ok y =>
          rw [collect_cons_ok hx]
          cases collect f rest <;> simp [Except.map]

/-- Every answer of a successful run is the answer for some element. -/
theorem exists_mem_of_mem_collect {xs : List α} {ys : List β} (h : collect f xs = .ok ys)
    {y : β} (hy : y ∈ ys) : ∃ x ∈ xs, f x = .ok y := by
  have hall := collect_eq_ok_iff.1 h
  induction hall with
  | nil => cases hy
  | @cons x z rest zs hx hrest ih =>
      rcases List.mem_cons.1 hy with rfl | hy
      · exact ⟨x, List.mem_cons_self, hx⟩
      · obtain ⟨w, hw, hwy⟩ := ih (collect_eq_ok_iff.2 hrest) hy
        exact ⟨w, List.mem_cons_of_mem x hw, hwy⟩

/-- The answer for every element is among the answers of a successful run. -/
theorem mem_of_collect {xs : List α} {ys : List β} (h : collect f xs = .ok ys) {x : α} {y : β}
    (hx : x ∈ xs) (hxy : f x = .ok y) : y ∈ ys := by
  have hall := collect_eq_ok_iff.1 h
  induction hall with
  | nil => cases hx
  | @cons z w rest ws hz hrest ih =>
      rcases List.mem_cons.1 hx with rfl | hx
      · obtain rfl : w = y := Except.ok.inj (hz.symm.trans hxy)
        exact List.mem_cons_self
      · exact List.mem_cons_of_mem w (ih (collect_eq_ok_iff.2 hrest) hx)

/-- What is true of every answer separately is true of all of them in a row. -/
theorem map_eq_map_of_collect {γ : Type} {g : β → γ} {k : α → γ} {xs : List α} {ys : List β}
    (h : collect f xs = .ok ys) (hg : ∀ x ∈ xs, ∀ y, f x = .ok y → g y = k x) :
    ys.map g = xs.map k := by
  have hall : List.Forall₂ (fun x y => k x = g y) xs ys :=
    forall₂_imp_of_mem (collect_eq_ok_iff.1 h) fun x hx y hxy => (hg x hx y hxy).symm
  exact (map_eq_map_of_forall₂ hall).symm

/-! ## Failure -/

theorem map_eq_error_iff {x : Except ε α} {k : α → β} {e : ε} :
    x.map k = .error e ↔ x = .error e := by
  cases x <;> simp [Except.map]

theorem collect_cons_eq_error_iff {x : α} {rest : List α} {e : ε} :
    collect f (x :: rest) = .error e ↔
      f x = .error e ∨ (∃ y, f x = .ok y) ∧ collect f rest = .error e := by
  cases hx : f x with
  | error d => simp [collect_cons_error hx]
  | ok y =>
      rw [collect_cons_ok hx]
      cases collect f rest <;> simp [Except.map]

/-- A run fails with the first failure, whatever comes behind it. -/
theorem collect_eq_error_iff {xs : List α} {e : ε} :
    collect f xs = .error e ↔
      ∃ before x after, xs = before ++ x :: after ∧
        (∀ z ∈ before, ∃ y, f z = .ok y) ∧ f x = .error e := by
  induction xs with
  | nil => simp [collect]
  | cons x rest ih =>
      rw [collect_cons_eq_error_iff, ih]
      constructor
      · rintro (hx | ⟨hok, before, z, after, rfl, hbefore, hz⟩)
        · exact ⟨[], x, rest, rfl, by simp, hx⟩
        · exact ⟨x :: before, z, after, rfl, List.forall_mem_cons.2 ⟨hok, hbefore⟩, hz⟩
      · rintro ⟨before, z, after, hsplit, hbefore, hz⟩
        cases before with
        | nil =>
            injection hsplit with hxz hrest
            subst hxz
            exact .inl hz
        | cons w ws =>
            injection hsplit with hxw hrest
            subst hxw
            obtain ⟨hok, hws⟩ := List.forall_mem_cons.1 hbefore
            exact .inr ⟨hok, ws, z, after, hrest, hws, hz⟩

/-- The failure of a run is the failure of some element. -/
theorem exists_mem_of_collect_error {xs : List α} {e : ε} (h : collect f xs = .error e) :
    ∃ x ∈ xs, f x = .error e := by
  obtain ⟨before, x, after, rfl, -, hx⟩ := collect_eq_error_iff.1 h
  exact ⟨x, by simp, hx⟩

/-! ## Two runs -/

/-- Two runs that get the same answers along the way have the same outcome. -/
theorem collect_congr {g : α' → Except ε β} {xs : List α} {ys : List α'}
    (h : List.Forall₂ (fun x y => f x = g y) xs ys) : collect f xs = collect g ys := by
  induction h with
  | nil => rfl
  | cons hxy _ ih => rw [collect, collect, hxy, ih]

/-- A run with every answer and every failure put into another form stops where the run itself
does, and its outcome is put into that form. -/
theorem collect_mapped {γ δ : Type} {g : α → Except δ γ} {k : β → γ} {m : ε → δ}
    (h : ∀ x, g x = ((f x).map k).mapError m) (xs : List α) :
    collect g xs = ((collect f xs).map (List.map k)).mapError m := by
  induction xs with
  | nil => rfl
  | cons x rest ih =>
      cases hx : f x with
      | error e =>
          have hg : g x = .error (m e) := by rw [h, hx]; rfl
          rw [collect_cons_error hx, collect_cons_error hg]
          rfl
      | ok y =>
          have hg : g x = .ok (k y) := by rw [h, hx]; rfl
          rw [collect_cons_ok hx, collect_cons_ok hg, ih]
          cases collect f rest <;> rfl

end Glean
