import Glean.Proofs.Json.Shape
import Glean.Proofs.Text.Separate

/-!
# Glean.Proofs.Json.Unambiguous

No two documents have the same compact text (`Json.render_injective`).  More than that,
the text of a document is separate: whatever stands behind it, the document can be told
and so can its end (`Json.separate_text`), which is what carries the induction through
arrays and objects.
-/

namespace Glean.Json

open Text (Separate eq_of_bracketed)

/-! ## Induction -/

/-- What holds of an array whenever it holds of the items, and of an object whenever it
holds of the values of its members, holds of every document if it holds of the rest. -/
theorem nested_induction {motive : Json → Prop} (null : motive .null)
    (bool : ∀ value, motive (.bool value)) (string : ∀ value, motive (.string value))
    (array : ∀ items, (∀ j ∈ items, motive j) → motive (.array items))
    (object : ∀ members, (∀ p ∈ members, motive p.2) → motive (.object members))
    (j : Json) : motive j := by
  match j with
  | .null => exact null
  | .bool value => exact bool value
  | .string value => exact string value
  | .array items =>
      refine array items fun j hj => ?_
      have hlt := List.sizeOf_lt_of_mem hj
      exact nested_induction null bool string array object j
  | .object members =>
      refine object members fun p hp => ?_
      have hlt : sizeOf p < sizeOf members := List.sizeOf_lt_of_mem hp
      exact nested_induction null bool string array object p.2
termination_by sizeOf j
decreasing_by
  · simp only [Json.array.sizeOf_spec]
    omega
  · obtain ⟨key, x⟩ := p
    simp only [Prod.mk.sizeOf_spec] at hlt
    simp only [Json.object.sizeOf_spec]
    omega

/-! ## Strings and members -/

/-- Strings are separate, since one reader reads them all. -/
theorem separate_stringText (s : String) : Separate stringText s := by
  intro s' t t' heq
  have hread := Reader.reads_text "" s t
  rw [heq] at hread
  exact hread.unique (Reader.reads_text "" s' t')

/-- A member is separate if its value is. -/
theorem separate_memberText {p : String × Json} (h : Separate text p.2) :
    Separate memberText p := by
  intro q s t heq
  rw [memberText, memberText, List.append_assoc, List.append_assoc] at heq
  obtain ⟨hkey, hrest⟩ := separate_stringText p.1 q.1 _ _ heq
  injection hrest with _ hvalue
  obtain ⟨hdoc, hst⟩ := h q.2 s t hvalue
  exact ⟨Prod.ext hkey hdoc, hst⟩

/-! ## Documents -/

/-- The character that the text of a document begins with. -/
def opening : Json → Char
  | .null => 'n'
  | .bool value => if value then 't' else 'f'
  | .string _ => '"'
  | .array _ => '['
  | .object _ => '\x7b'

theorem text_eq_opening_cons (j : Json) : ∃ t, j.text = j.opening :: t := by
  cases j with
  | null => exact ⟨_, rfl⟩
  | bool value => cases value <;> exact ⟨_, rfl⟩
  | string value => exact ⟨_, rfl⟩
  | array items => exact ⟨_, by rw [text]; rfl⟩
  | object members => exact ⟨_, by rw [text]; rfl⟩

/-- Texts that begin alike open alike. -/
theorem opening_eq {a b : Json} {s t : List Char} (h : a.text ++ s = b.text ++ t) :
    a.opening = b.opening := by
  obtain ⟨u, hu⟩ := text_eq_opening_cons a
  obtain ⟨w, hw⟩ := text_eq_opening_cons b
  rw [hu, hw] at h
  injection h

theorem text_ne_close (j : Json) (s t : List Char) : j.text ++ s ≠ ']' :: t := by
  obtain ⟨c, u, htext, -, hend⟩ := exists_text_eq_cons j
  rw [htext]
  intro h
  injection h with hc _
  exact hend hc

theorem memberText_ne_close (p : String × Json) (s t : List Char) :
    memberText p ++ s ≠ '\x7d' :: t := by
  intro h
  injection h with hc _
  exact absurd hc (by decide)

/-- The text of an array is separate if those of the items are. -/
theorem separate_array {items : List Json} (h : ∀ j ∈ items, Separate text j)
    {items' : List Json} {s t : List Char}
    (heq : (Json.array items).text ++ s = (Json.array items').text ++ t) :
    items = items' ∧ s = t := by
  rw [text, text, List.append_assoc, List.append_assoc] at heq
  injection heq with _ hinside
  exact eq_of_bracketed [] rfl itemsText_cons (by decide) text_ne_close h hinside

/-- The text of an object is separate if those of its values are. -/
theorem separate_object {members : List (String × Json)} (h : ∀ p ∈ members, Separate text p.2)
    {members' : List (String × Json)} {s t : List Char}
    (heq : (Json.object members).text ++ s = (Json.object members').text ++ t) :
    members = members' ∧ s = t := by
  rw [text, text, List.append_assoc, List.append_assoc] at heq
  injection heq with _ hinside
  exact eq_of_bracketed [] rfl membersText_cons (by decide) memberText_ne_close
    (fun p hp => separate_memberText (h p hp)) hinside

/-- The text of every document is separate. -/
theorem separate_text (a : Json) : Separate text a := by
  induction a using nested_induction with
  | null =>
      intro b s t heq
      have hopen := opening_eq heq
      cases b with
      | null => exact ⟨rfl, List.append_cancel_left heq⟩
      | _ => grind [opening]
  | bool value =>
      intro b s t heq
      have hopen := opening_eq heq
      cases b with
      | bool value' =>
          obtain rfl : value = value' := by grind [opening]
          exact ⟨rfl, List.append_cancel_left heq⟩
      | _ => grind [opening]
  | string value =>
      intro b s t heq
      have hopen := opening_eq heq
      cases b with
      | string value' =>
          obtain ⟨hvalue, hst⟩ := separate_stringText value value' s t heq
          exact ⟨by rw [hvalue], hst⟩
      | _ => grind [opening]
  | array items ih =>
      intro b s t heq
      have hopen := opening_eq heq
      cases b with
      | array items' =>
          obtain ⟨hitems, hst⟩ := separate_array ih heq
          exact ⟨by rw [hitems], hst⟩
      | _ => grind [opening]
  | object members ih =>
      intro b s t heq
      have hopen := opening_eq heq
      cases b with
      | object members' =>
          obtain ⟨hmembers, hst⟩ := separate_object ih heq
          exact ⟨by rw [hmembers], hst⟩
      | _ => grind [opening]

/-- Documents with the same compact text are the same. -/
theorem render_injective : Function.Injective render := by
  intro a b h
  have htext : a.text ++ [] = b.text ++ [] := by
    rw [List.append_nil, List.append_nil]
    exact String.ofList_inj.1 h
  exact (separate_text a b [] [] htext).1

end Glean.Json
