/-!
# Glean.Proofs.Text.Separate

Written forms that need no mark at their end.  A form is separate if it is told apart from
that of anything else, and ends in one place only, whatever text stands behind it; what is
put together from separate forms is separate in turn.  A list in brackets, with a mark
in front of every element but the first, is separate if its elements are
(`eq_of_bracketed`).

Some forms are separate only among things of one sort, or only before certain texts: a word
does not end where another letter follows.  `SeparateBefore` is told what may stand behind,
and a list in brackets keeps to that as long as its mark and its closing bracket do.
-/

namespace Glean.Text

variable {α : Type} {f : α → List Char} {P : α → Prop} {E : List Char → Prop}

/-- Whatever stands behind it, the form of `x` is no beginning of that of another, nor
can it end elsewhere. -/
def Separate (f : α → List Char) (x : α) : Prop :=
  ∀ y s t, f x ++ s = f y ++ t → x = y ∧ s = t

/-- Before texts that satisfy `E`, the form of `x` is no beginning of that of another thing
that satisfies `P`, nor can it end elsewhere. -/
def SeparateBefore (P : α → Prop) (E : List Char → Prop) (f : α → List Char) (x : α) : Prop :=
  ∀ y, P y → ∀ s t, E s → E t → f x ++ s = f y ++ t → x = y ∧ s = t

theorem Separate.before {x : α} (h : Separate f x) : SeparateBefore P E f x :=
  fun y _ s t _ _ heq => h y s t heq

/-- Something in front of every form does no harm. -/
theorem SeparateBefore.behind {x : α} (h : SeparateBefore P E f x) (gap : List Char) :
    SeparateBefore P E (fun y => gap ++ f y) x := by
  intro y hy s t hs ht heq
  rw [List.append_assoc, List.append_assoc] at heq
  exact h y hy s t hs ht (List.append_cancel_left heq)

/-- A run of characters of one sort ends where one of another sort follows, or nothing. -/
theorem eq_of_run {p : Char → Bool} {a b s t : List Char} (ha : ∀ c ∈ a, p c = true)
    (hb : ∀ c ∈ b, p c = true) (hs : s.takeWhile p = []) (ht : t.takeWhile p = [])
    (heq : a ++ s = b ++ t) : a = b ∧ s = t := by
  have hab : a = b := by
    calc
      a = (a ++ s).takeWhile p := by rw [List.takeWhile_append_of_pos ha, hs, List.append_nil]
      _ = (b ++ t).takeWhile p := by rw [heq]
      _ = b := by rw [List.takeWhile_append_of_pos hb, ht, List.append_nil]
  subst hab
  exact ⟨rfl, List.append_cancel_left heq⟩

/-- One form after the other, and then a character with which none begins. -/
theorem eq_of_closed {close : Char} {xs ys : List α} (hys : ∀ y ∈ ys, P y)
    (h : ∀ x ∈ xs, P x ∧ SeparateBefore P E f x) (hbegin : ∀ x, P x → ∀ s t, f x ++ s ≠ close :: t)
    (hends : ∀ (zs : List α) s, E (zs.flatMap f ++ close :: s)) {s t : List Char}
    (heq : xs.flatMap f ++ close :: s = ys.flatMap f ++ close :: t) : xs = ys ∧ s = t := by
  induction xs generalizing ys with
  | nil =>
      cases ys with
      | nil =>
          injection heq with _ hst
          exact ⟨rfl, hst⟩
      | cons y ys =>
          rw [List.flatMap_cons, List.append_assoc] at heq
          exact absurd heq.symm (hbegin y (hys y List.mem_cons_self) _ _)
  | cons x xs ih =>
      obtain ⟨⟨hx, hsep⟩, hxs⟩ := List.forall_mem_cons.1 h
      rw [List.flatMap_cons, List.append_assoc] at heq
      cases ys with
      | nil => exact absurd heq (hbegin x hx _ _)
      | cons y ys =>
          obtain ⟨hy, hmore⟩ := List.forall_mem_cons.1 hys
          rw [List.flatMap_cons, List.append_assoc] at heq
          obtain ⟨rfl, hrest⟩ := hsep y hy _ _ (hends xs s) (hends ys t) heq
          obtain ⟨rfl, rfl⟩ := ih hmore hxs hrest
          exact ⟨rfl, rfl⟩

/-- What stands between brackets, with a mark and a gap in front of every element but the
first; no element begins like the closing bracket, and elements are separate before the mark
and the bracket. -/
theorem eq_of_bracketed_before {inside : List α → List Char} {mark close : Char}
    (gap : List Char) (hnil : inside [] = [])
    (hcons : ∀ x xs, inside (x :: xs) = f x ++ xs.flatMap fun y => mark :: (gap ++ f y))
    (hmark : mark ≠ close) (hends : ∀ s, E (mark :: s) ∧ E (close :: s))
    (hbegin : ∀ x, P x → ∀ s t, f x ++ s ≠ close :: t) {xs ys : List α} (hys : ∀ y ∈ ys, P y)
    (h : ∀ x ∈ xs, P x ∧ SeparateBefore P E f x) {s t : List Char}
    (heq : inside xs ++ close :: s = inside ys ++ close :: t) : xs = ys ∧ s = t := by
  cases xs with
  | nil =>
      cases ys with
      | nil =>
          rw [hnil] at heq
          injection heq with _ hst
          exact ⟨rfl, hst⟩
      | cons y ys =>
          rw [hnil, hcons, List.append_assoc] at heq
          exact absurd heq.symm (hbegin y (hys y List.mem_cons_self) _ _)
  | cons x xs =>
      obtain ⟨⟨hx, hsep⟩, hxs⟩ := List.forall_mem_cons.1 h
      cases ys with
      | nil =>
          rw [hnil, hcons, List.append_assoc] at heq
          exact absurd heq (hbegin x hx _ _)
      | cons y ys =>
          obtain ⟨hy, hmore⟩ := List.forall_mem_cons.1 hys
          rw [hcons, hcons, List.append_assoc, List.append_assoc] at heq
          have hrests : ∀ (zs : List α) s,
              E ((zs.flatMap fun z => mark :: (gap ++ f z)) ++ close :: s) := by
            intro zs s
            cases zs with
            | nil => exact (hends s).2
            | cons z zs => exact (hends _).1
          obtain ⟨rfl, hrest⟩ := hsep y hy _ _ (hrests xs s) (hrests ys t) heq
          have hmarked : ∀ z ∈ xs, P z ∧ SeparateBefore P E (fun z => mark :: (gap ++ f z)) z :=
            fun z hz => ⟨(hxs z hz).1, (hxs z hz).2.behind (mark :: gap)⟩
          have hnone : ∀ z, P z → ∀ s t, (mark :: (gap ++ f z)) ++ s ≠ close :: t := by
            intro z _ s t hclose
            injection hclose with hclose _
            exact hmark hclose
          obtain ⟨rfl, rfl⟩ := eq_of_closed hmore hmarked hnone hrests hrest
          exact ⟨rfl, rfl⟩

/-- What stands between brackets, with a mark and a gap in front of every element but the
first; no element begins like the closing bracket. -/
theorem eq_of_bracketed {inside : List α → List Char} {mark close : Char} (gap : List Char)
    (hnil : inside [] = [])
    (hcons : ∀ x xs, inside (x :: xs) = f x ++ xs.flatMap fun y => mark :: (gap ++ f y))
    (hmark : mark ≠ close) (hbegin : ∀ x s t, f x ++ s ≠ close :: t) {xs ys : List α}
    (h : ∀ x ∈ xs, Separate f x) {s t : List Char}
    (heq : inside xs ++ close :: s = inside ys ++ close :: t) : xs = ys ∧ s = t :=
  eq_of_bracketed_before (P := fun _ => True) (E := fun _ => True) gap hnil hcons hmark
    (fun _ => ⟨trivial, trivial⟩) (fun x _ => hbegin x) (fun _ _ => trivial)
    (fun x hx => ⟨trivial, (h x hx).before⟩) heq

end Glean.Text
