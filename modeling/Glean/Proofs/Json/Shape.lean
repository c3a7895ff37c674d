import Mathlib.Data.List.Forall2
import Mathlib.Data.List.Nodup
import Glean.Proofs.Json.Reading

/-!
# Glean.Proofs.Json.Shape

Values, lists and objects are read back from compact text.  A list is, if its items are
(`reads_list`).  An object with known keys is, in whatever order its keys are written and
whichever of them are left out: `known seen` stands for what is known of the value once the
keys in `seen` have been read, and every member adds its key to these (`Shape.reads_read`).
-/

namespace Glean.Json

/-! ## Text of documents -/

/-- The text of a document begins with what cannot be mistaken for a blank or an end. -/
theorem exists_text_eq_cons (j : Json) :
    ∃ c t, j.text = c :: t ∧ Cursor.isSpace c = false ∧ c ≠ ']' := by
  cases j with
  | null => exact ⟨'n', _, rfl, rfl, by decide⟩
  | bool value => cases value with
    | true => exact ⟨'t', _, rfl, rfl, by decide⟩
    | false => exact ⟨'f', _, rfl, rfl, by decide⟩
  | string value => exact ⟨'"', _, rfl, rfl, by decide⟩
  | array items => exact ⟨'[', _, by rw [text]; rfl, rfl, by decide⟩
  | object members => exact ⟨'\x7b', _, by rw [text]; rfl, rfl, by decide⟩

/-- A member of an object as it is written. -/
def memberText (p : String × Json) : List Char := stringText p.1 ++ ':' :: p.2.text

theorem itemsText_cons (j : Json) (rest : List Json) :
    itemsText (j :: rest) = j.text ++ rest.flatMap fun k => ',' :: k.text := by
  induction rest generalizing j with
  | nil => simp [itemsText]
  | cons k rest ih => rw [itemsText, ih, List.flatMap_cons, List.cons_append]

theorem membersText_cons (p : String × Json) (rest : List (String × Json)) :
    membersText (p :: rest) = memberText p ++ rest.flatMap fun q => ',' :: memberText q := by
  induction rest generalizing p with
  | nil => simp [membersText, memberText]
  | cons q rest ih => simp [membersText, memberText, ih]

namespace Reader

variable {α κ : Type}

/-! ## Simple values -/

theorem reads_bool (b : Bool) (t : List Char) : Reads bool ((Json.bool b).text ++ t) b t := by
  cases b with
  | true =>
      refine (reads_valueStart rfl _).bind ((reads_advance 't' _).bind ?_)
      exact (reads_keyword ['r', 'u', 'e'] t).bind (.pure true t)
  | false =>
      refine (reads_valueStart rfl _).bind ((reads_advance 'f' _).bind ?_)
      exact (reads_keyword ['a', 'l', 's', 'e'] t).bind (.pure false t)

theorem reads_optional_null (inner : Reader α) (t : List Char) :
    Reads (optional inner) (Json.null.text ++ t) none t := by
  refine (reads_token rfl _).bind ((reads_advance 'n' _).bind ?_)
  exact (reads_keyword ['u', 'l', 'l'] t).bind (.pure none t)

/-- What does not begin like null is read as a value. -/
theorem reads_optional {inner : Reader α} {c : Char} {u t : List Char} {x : α}
    (hspace : Cursor.isSpace c = false) (hnull : c ≠ 'n') (h : Reads inner (c :: u) x t) :
    Reads (optional inner) (c :: u) (some x) t := by
  refine (reads_token hspace u).bind ?_
  split
  · next hc =>
      injection hc with hc
      exact absurd hc hnull
  · exact h.map

theorem reads_enter {r : Reader α} {c : Char} {s t : List Char} {x : α} (h : Reads r s x t) :
    Reads (enter (some r)) (c :: s) x t :=
  (reads_advance c s).bind h

/-! ## Lists -/

theorem reads_anotherItem_end (first : Bool) (t : List Char) :
    Reads (anotherItem first) (']' :: t) false (']' :: t) :=
  (reads_token rfl t).bind (.pure false _)

theorem reads_anotherItem_first (j : Json) (t : List Char) :
    Reads (anotherItem true) (j.text ++ t) true (j.text ++ t) := by
  obtain ⟨c, u, htext, hspace, hend⟩ := exists_text_eq_cons j
  rw [htext]
  refine (reads_token hspace _).bind ?_
  split
  · next hnone => cases hnone
  · next hc =>
      injection hc with hc
      exact absurd hc hend
  · exact .pure true _

theorem reads_anotherItem_comma (j : Json) (t : List Char) :
    Reads (anotherItem false) (',' :: j.text ++ t) true (j.text ++ t) := by
  obtain ⟨c, u, htext, hspace, hend⟩ := exists_text_eq_cons j
  rw [htext]
  refine (reads_token rfl _).bind ((reads_advance ',' _).bind ((reads_token hspace _).bind ?_))
  split
  · next hc =>
      injection hc with hc
      exact absurd hc hend
  · exact .pure true _
  · next hnone => cases hnone

theorem reads_closeList (t : List Char) : Reads closeList (']' :: t) () t :=
  (reads_token rfl t).bind (reads_advance ']' t)

/-- Each document is read as the value beside it. -/
def ReadsEach (item : Reader α) (docs : List Json) (xs : List α) : Prop :=
  List.Forall₂ (fun j x => ∀ t, Reads item (j.text ++ t) x t) docs xs

/-- The items behind the first one. -/
theorem reads_items_behind {item : Reader α} {docs : List Json} {xs : List α}
    (h : ReadsEach item docs xs) {bound : Nat} (hbound : docs.length < bound) (seen : List α)
    (t : List Char) :
    Reads (items item bound false seen) (docs.flatMap (fun j => ',' :: j.text) ++ ']' :: t)
      (seen.reverse ++ xs) (']' :: t) := by
  induction h generalizing bound seen with
  | nil =>
      cases bound with
      | zero => cases hbound
      | succ bound =>
          rw [List.append_nil]
          exact (reads_anotherItem_end false t).bind (.pure seen.reverse _)
  | @cons j x docs xs hj _ ih =>
      cases bound with
      | zero => cases hbound
      | succ bound =>
          have hrest := ih (Nat.lt_of_succ_lt_succ hbound) (x :: seen)
          rw [List.reverse_cons, List.append_assoc] at hrest
          rw [List.flatMap_cons, List.append_assoc]
          exact (reads_anotherItem_comma j _).bind ((hj _).bind hrest)

theorem reads_items {item : Reader α} {docs : List Json} {xs : List α}
    (h : ReadsEach item docs xs) {bound : Nat} (hbound : docs.length < bound) (t : List Char) :
    Reads (items item bound true []) (itemsText docs ++ ']' :: t) xs (']' :: t) := by
  cases bound with
  | zero => cases hbound
  | succ bound =>
      cases h with
      | nil => exact (reads_anotherItem_end true t).bind (.pure [] _)
      | @cons j x docs xs hj hdocs =>
          have hrest := reads_items_behind hdocs (Nat.lt_of_succ_lt_succ hbound) [x] t
          rw [itemsText_cons, List.append_assoc]
          exact (reads_anotherItem_first j _).bind ((hj _).bind hrest)

/-- There are not more items than the text has characters, but for the first. -/
theorem length_le_length_itemsText (docs : List Json) :
    docs.length ≤ (itemsText docs).length + 1 := by
  cases docs with
  | nil => exact Nat.zero_le _
  | cons j rest =>
      have hle := length_le_length_flatMap (f := fun k : Json => ',' :: k.text) (by simp) rest
      rw [itemsText_cons, List.length_append, List.length_cons]
      omega

/-- A list is read back if its items are. -/
theorem reads_list {item : Reader α} {docs : List Json} {xs : List α}
    (h : ReadsEach item docs xs) (t : List Char) :
    Reads (list (some item)) ((Json.array docs).text ++ t) xs t := by
  have htext : (Json.array docs).text ++ t = '[' :: (itemsText docs ++ ']' :: t) := by
    rw [Json.text]
    simp
  rw [htext]
  refine (reads_valueStart rfl _).bind (reads_enter (.of_get fun cursor hc => ?_))
  have hbound : docs.length < cursor.rest.length + 1 := by
    have hle := length_le_length_itemsText docs
    rw [hc, List.length_append, List.length_cons]
    omega
  exact (reads_items h hbound t).bind ((reads_closeList t).bind (.pure xs t))

/-! ## Objects -/

theorem reads_anotherMember_end (first : Bool) (t : List Char) :
    Reads (anotherMember first) ('\x7d' :: t) false ('\x7d' :: t) :=
  (reads_token rfl t).bind (.pure false _)

theorem reads_anotherMember_first (t : List Char) :
    Reads (anotherMember true) ('"' :: t) true ('"' :: t) :=
  (reads_token rfl t).bind (.pure true _)

theorem reads_anotherMember_comma (t : List Char) :
    Reads (anotherMember false) (',' :: '"' :: t) true ('"' :: t) :=
  (reads_token rfl _).bind ((reads_advance ',' _).bind ((reads_token rfl t).bind (.pure true _)))

theorem reads_closeObject (t : List Char) : Reads closeObject ('\x7d' :: t) () t :=
  (reads_token rfl t).bind (reads_advance '\x7d' t)

theorem reads_colon (t : List Char) : Reads colon (':' :: t) () t :=
  (reads_token rfl t).bind (reads_advance ':' t)

end Reader

namespace Shape

open Reader

variable {α κ : Type} [DecidableEq κ] {s : Shape κ} {read : κ → α → Reader α}

/-- A key with its value, as a member. -/
def member (s : Shape κ) (p : κ × Json) : String × Json := (s.word p.1, p.2)

/-- A member whose key has not been seen is read, and then the others are. -/
theorem reads_members_cons {first : Bool} {bound : Nat} {seen : List κ} {x x' : α}
    {y : Except Cause α} {p : κ × Json} {before after t : List Char}
    (hmore : Reads (anotherMember first) before true (memberText (s.member p) ++ after))
    (hkey : s.key? (s.word p.1) = some p.1) (hseen : p.1 ∉ seen)
    (hread : Reads (read p.1 x) (p.2.text ++ after) x' after)
    (hrest : Reads (s.members read bound false (p.1 :: seen) x') after y t) :
    Reads (s.members read (bound + 1) first seen x) before y t := by
  have htext : memberText (s.member p) ++ after =
      '"' :: ((s.word p.1).toList.flatMap escapeChar ++ '"' :: ':' :: (p.2.text ++ after)) := by
    simp [memberText, member, stringText]
  rw [htext] at hmore
  refine hmore.bind ((reads_advance '"' _).bind ((reads_string (s.word p.1) _).bind ?_))
  rw [hkey]
  simp only [List.contains_eq_mem, hseen, decide_false, Bool.false_eq_true, if_false]
  exact (reads_colon _).bind (hread.bind hrest)

theorem reads_members_end {first : Bool} {bound : Nat} {seen : List κ} {x : α}
    (hseen : s.lacking seen = none) (t : List Char) :
    Reads (s.members read (bound + 1) first seen x) ('\x7d' :: t) (.ok x) ('\x7d' :: t) := by
  refine (reads_anotherMember_end first t).bind ?_
  rw [hseen]
  exact .pure _ _

/-- Every key adds its value to what is known. -/
def ReadsKeys (read : κ → α → Reader α) (known : List κ → α) (members : List (κ × Json)) : Prop :=
  ∀ p ∈ members, ∀ seen t, Reads (read p.1 (known seen)) (p.2.text ++ t) (known (p.1 :: seen)) t

variable {known : List κ → α} {members : List (κ × Json)}

/-- The members behind the first one. -/
theorem reads_members_behind (hkeys : ∀ k, s.key? (s.word k) = some k)
    (hread : ReadsKeys read known members) {bound : Nat} (hbound : members.length < bound)
    {seen : List κ} (hnodup : ((members.map Prod.fst).reverse ++ seen).Nodup)
    (hlacking : s.lacking ((members.map Prod.fst).reverse ++ seen) = none) (t : List Char) :
    Reads (s.members read bound false seen (known seen))
      (members.flatMap (fun p => ',' :: memberText (s.member p)) ++ '\x7d' :: t)
      (.ok (known ((members.map Prod.fst).reverse ++ seen))) ('\x7d' :: t) := by
  induction members generalizing bound seen with
  | nil =>
      cases bound with
      | zero => cases hbound
      | succ bound => exact reads_members_end hlacking t
  | cons p rest ih =>
      cases bound with
      | zero => cases hbound
      | succ bound =>
          obtain ⟨hp, hrest⟩ := List.forall_mem_cons.1 hread
          -- The keys that have been seen are the same before and after the step.
          have hkeep : ((p :: rest).map Prod.fst).reverse ++ seen =
              (rest.map Prod.fst).reverse ++ (p.1 :: seen) := by simp
          rw [hkeep] at hnodup hlacking ⊢
          have hseen : p.1 ∉ seen := (List.nodup_cons.1 (List.nodup_append.1 hnodup).2.1).1
          rw [List.flatMap_cons, List.append_assoc]
          refine reads_members_cons (reads_anotherMember_comma _) (hkeys p.1) hseen (hp seen _) ?_
          exact ih hrest (Nat.lt_of_succ_lt_succ hbound) hnodup hlacking

theorem reads_members (hkeys : ∀ k, s.key? (s.word k) = some k)
    (hread : ReadsKeys read known members) {bound : Nat} (hbound : members.length < bound)
    (hnodup : (members.map Prod.fst).reverse.Nodup)
    (hlacking : s.lacking (members.map Prod.fst).reverse = none) (t : List Char) :
    Reads (s.members read bound true [] (known []))
      (membersText (members.map s.member) ++ '\x7d' :: t)
      (.ok (known (members.map Prod.fst).reverse)) ('\x7d' :: t) := by
  cases bound with
  | zero => cases hbound
  | succ bound =>
      cases members with
      | nil => exact reads_members_end hlacking t
      | cons p rest =>
          obtain ⟨hp, hrest⟩ := List.forall_mem_cons.1 hread
          have hlast : ((p :: rest).map Prod.fst).reverse =
              (rest.map Prod.fst).reverse ++ [p.1] := by simp
          rw [hlast] at hnodup hlacking ⊢
          rw [List.map_cons, membersText_cons, List.flatMap_map, List.append_assoc]
          refine reads_members_cons (reads_anotherMember_first _) (hkeys p.1) (by simp) (hp [] _) ?_
          exact reads_members_behind hkeys hrest (Nat.lt_of_succ_lt_succ hbound) hnodup hlacking t

/-- There are not more members than the text has characters, but for the first. -/
theorem length_le_length_membersText (members : List (String × Json)) :
    members.length ≤ (membersText members).length + 1 := by
  cases members with
  | nil => exact Nat.zero_le _
  | cons p rest =>
      have hle := length_le_length_flatMap (f := fun q => ',' :: memberText q) (by simp) rest
      rw [membersText_cons, List.length_append, List.length_cons]
      omega

theorem lacking_eq_none {seen : List κ} (h : ∀ k ∈ s.keys, s.needed k = true → k ∈ seen) :
    s.lacking seen = none := by
  rw [lacking, List.find?_eq_none]
  intro k hk
  simp only [Bool.and_eq_true, Bool.not_eq_true', List.contains_eq_mem, decide_eq_false_iff_not,
    not_and, not_not]
  exact h k hk

/-- An object is read back from its members in any order, if each key adds its value to what
is known and none is missing that has to be there. -/
theorem reads_read (hkeys : ∀ k, s.key? (s.word k) = some k)
    (hread : ReadsKeys read known members) (hnodup : (members.map Prod.fst).Nodup)
    (hneeded : ∀ k ∈ s.keys, s.needed k = true → k ∈ members.map Prod.fst) (t : List Char) :
    Reads (s.read (known []) (some read)) ((Json.object (members.map s.member)).text ++ t)
      (known (members.map Prod.fst).reverse) t := by
  have htext : (Json.object (members.map s.member)).text ++ t =
      '\x7b' :: (membersText (members.map s.member) ++ '\x7d' :: t) := by
    rw [text]
    simp
  rw [htext]
  refine (reads_valueStart rfl _).bind (reads_enter (.of_get fun cursor hc => ?_))
  have hbound : members.length < cursor.rest.length + 1 := by
    have hle := length_le_length_membersText (members.map s.member)
    rw [List.length_map] at hle
    rw [hc, List.length_append, List.length_cons]
    omega
  have hlacking : s.lacking (members.map Prod.fst).reverse = none :=
    lacking_eq_none fun k hk hneed => List.mem_reverse.2 (hneeded k hk hneed)
  refine (reads_members hkeys hread hbound (List.nodup_reverse.2 hnodup) hlacking t).bind ?_
  exact (reads_closeObject t).bind (.pure _ t)

end Shape

/-! ## Whole texts -/

/-- A text is read back whole. -/
theorem Reader.Reads.run_render {α : Type} {r : Reader α} {j : Json} {x : α}
    (h : Reads r (j.text ++ []) x []) : r.run j.render = .ok x := by
  have hwhole : Reads (Reader.run.whole r) (j.text ++ []) x [] :=
    h.bind (reads_token_nil.bind (.pure x []))
  obtain ⟨c, hc, -⟩ := hwhole (Cursor.ofString j.render) (by simp [Cursor.ofString, render])
  change (Prod.fst <$> Reader.run.whole r (Cursor.ofString j.render)) = _
  rw [hc]
  rfl

end Glean.Json
