import Mathlib.Data.List.Nodup
import Mathlib.Data.List.Perm.Basic
import Glean.Proofs.Extraction.Collecting
import Glean.Proofs.Schema.Checked
import Glean.Value.Json

/-!
# Glean.Proofs.Value.Sorted

Objects with sorted keys do not remember in which order their members came.  Members
with different keys can be put into an object in either order (`Json.put_comm`), so
fields with distinct names make the same object in any order (`sortedMembers_perm`).
But for their order nothing of the fields is lost: they are the members of the object, with
ascending keys (`sortedMembers_nil_spec`), and the object has under each name what the
field has (`lookup_sortedMembers`), so where the names are known the object tells the
documents of the values (`forall₂_toJson_of_sortedMembers`).
-/

namespace Glean

/-! ## One member -/

/-- Members with different keys can be put into an object in either order. -/
theorem Json.put_comm_of_lt {k l : String} (h : k < l) (x y : Json)
    (members : List (String × Json)) :
    put k x (put l y members) = put l y (put k x members) := by
  have hlk : ¬ l < k := String.lt_asymm h
  have hne : ¬ l = k := fun hlk' => String.lt_irrefl l (hlk' ▸ h)
  induction members with
  | nil => simp [put, h, hlk, hne]
  | cons m rest ih =>
      obtain ⟨key, z⟩ := m
      by_cases hl : l < key
      · have hk : k < key := String.lt_trans h hl
        simp [put, h, hl, hk, hlk, hne]
      · by_cases hkl : l = key
        · subst hkl
          simp [put, h, hlk, hne]
        · by_cases hk : k < key
          · simp [put, hl, hkl, hk, hlk, hne]
          · by_cases hkk : k = key
            · subst hkk
              simp [put, hlk, hne]
            · simp [put, hl, hkl, hk, hkk, ih]

theorem Json.put_comm {k l : String} (h : k ≠ l) (x y : Json) (members : List (String × Json)) :
    put k x (put l y members) = put l y (put k x members) := by
  by_cases hkl : k < l
  · exact put_comm_of_lt hkl x y members
  · have hlk : l < k := Std.lt_of_le_of_ne (String.not_lt.1 hkl) (Ne.symm h)
    exact (put_comm_of_lt hlk y x members).symm

theorem lookup_cons_ite {α : Type} (key : String) (x : α) (rest : List (String × α))
    (name : String) :
    ((key, x) :: rest).lookup name = if name = key then some x else rest.lookup name := by
  rw [List.lookup_cons]
  by_cases hname : name = key
  · simp [hname]
  · rw [if_neg hname, beq_eq_false_iff_ne.2 hname]

/-- What has been put into an object is found under its key, and all else is kept. -/
theorem Json.lookup_put (k : String) (x : Json) (members : List (String × Json)) (name : String) :
    (put k x members).lookup name = if name = k then some x else members.lookup name := by
  induction members with
  | nil => rw [put, lookup_cons_ite]
  | cons m rest ih =>
      obtain ⟨l, y⟩ := m
      rw [put]
      by_cases hlt : k < l
      · rw [if_pos hlt, lookup_cons_ite]
      · rw [if_neg hlt]
        by_cases hkl : k = l
        · subst hkl
          rw [if_pos rfl, lookup_cons_ite, lookup_cons_ite]
          by_cases hname : name = k <;> simp [hname]
        · rw [if_neg hkl, lookup_cons_ite, lookup_cons_ite, ih]
          by_cases hname : name = k <;> simp [hname, hkl]

/-- A member with a new key is one more among the others. -/
theorem Json.put_perm {k : String} {members : List (String × Json)}
    (hnew : k ∉ members.map Prod.fst) (x : Json) :
    (put k x members).Perm ((k, x) :: members) := by
  induction members with
  | nil => exact .refl _
  | cons m rest ih =>
      obtain ⟨l, y⟩ := m
      obtain ⟨hne, hrest⟩ := not_or.1 (List.mem_cons.not.1 hnew)
      rw [put]
      by_cases hlt : k < l
      · rw [if_pos hlt]
      · rw [if_neg hlt, if_neg hne]
        exact ((ih hrest).cons (l, y)).trans (.swap (k, x) (l, y) rest)

/-- Keys that ascend still do when a member with a new key has been put among them. -/
theorem Json.ascending_put {k : String} {members : List (String × Json)}
    (hnew : k ∉ members.map Prod.fst) (x : Json)
    (h : members.Pairwise fun p q => p.1 < q.1) :
    (put k x members).Pairwise fun p q => p.1 < q.1 := by
  induction members with
  | nil => exact List.pairwise_singleton _ _
  | cons m rest ih =>
      obtain ⟨l, y⟩ := m
      obtain ⟨hne, hrest⟩ := not_or.1 (List.mem_cons.not.1 hnew)
      obtain ⟨hleast, hbehind⟩ := List.pairwise_cons.1 h
      rw [put]
      by_cases hlt : k < l
      · rw [if_pos hlt, List.pairwise_cons]
        refine ⟨fun p hp => ?_, h⟩
        obtain rfl | hp := List.mem_cons.1 hp
        · exact hlt
        · exact String.lt_trans hlt (hleast p hp)
      · rw [if_neg hlt, if_neg hne, List.pairwise_cons]
        refine ⟨fun p hp => ?_, ih hrest hbehind⟩
        obtain rfl | hp := List.mem_cons.1 ((put_perm hrest x).mem_iff.1 hp)
        · exact Std.lt_of_le_of_ne (String.not_lt.1 hlt) (Ne.symm hne)
        · exact hleast p hp

/-! ## All members -/

/-- The fields of a record become members one after the other. -/
theorem sortedMembers_eq_foldl (members : List (String × Json)) (fields : List (String × Value)) :
    sortedMembers members fields =
      (fields.map fun p => (p.1, p.2.toJson)).foldl (fun ms m => Json.put m.1 m.2 ms) members := by
  induction fields generalizing members with
  | nil => rw [sortedMembers, List.map_nil, List.foldl_nil]
  | cons p rest ih => rw [sortedMembers, ih, List.map_cons, List.foldl_cons]

/-- Fields with distinct names make the same object in any order. -/
theorem sortedMembers_perm {fields fields' : List (String × Value)} (h : fields.Perm fields')
    (hnodup : (fields.map Prod.fst).Nodup) (members : List (String × Json)) :
    sortedMembers members fields = sortedMembers members fields' := by
  rw [sortedMembers_eq_foldl, sortedMembers_eq_foldl]
  refine (h.map _).foldl_eq' ?_ members
  simp only [List.forall_mem_map]
  intro p hp q hq ms
  by_cases hkey : p.1 = q.1
  · rw [List.inj_on_of_nodup_map hnodup hp hq hkey]
  · exact Json.put_comm (Ne.symm hkey) q.2.toJson p.2.toJson ms

/-- Under a name of the fields the object has the document of the value there, and under
another name what it had before. -/
theorem lookup_sortedMembers {fields : List (String × Value)}
    (hnodup : (fields.map Prod.fst).Nodup) (members : List (String × Json)) (name : String) :
    (sortedMembers members fields).lookup name =
      ((fields.lookup name).map Value.toJson).or (members.lookup name) := by
  induction fields generalizing members with
  | nil => simp [sortedMembers]
  | cons p rest ih =>
      obtain ⟨key, v⟩ := p
      rw [List.map_cons, List.nodup_cons] at hnodup
      rw [sortedMembers, ih hnodup.2, Json.lookup_put]
      by_cases hname : name = key
      · subst hname
        have hnone : rest.lookup name = none := by
          rw [List.lookup_eq_none_iff]
          intro q hq
          have hne : name ≠ q.1 := fun h => hnodup.1 (List.mem_map.2 ⟨q, hq, h.symm⟩)
          simpa using hne
        rw [hnone, lookup_cons_ite, if_pos rfl, if_pos rfl]
        rfl
      · rw [lookup_cons_ite, if_neg hname, if_neg hname]

/-- The keys of an object stay distinct from the names that are still to be put into it. -/
theorem nodup_keys_put {k : String} {names : List String} {members : List (String × Json)}
    (h : ((k :: names) ++ members.map Prod.fst).Nodup) (x : Json) :
    k ∉ members.map Prod.fst ∧ (names ++ (Json.put k x members).map Prod.fst).Nodup := by
  rw [List.cons_append, List.nodup_cons, List.mem_append, not_or] at h
  obtain ⟨⟨hfree, hnew⟩, hrest⟩ := h
  refine ⟨hnew, ?_⟩
  have hkeys : (names ++ (Json.put k x members).map Prod.fst).Perm
      (k :: (names ++ members.map Prod.fst)) :=
    (((Json.put_perm hnew x).map Prod.fst).append_left names).trans List.perm_middle
  rw [hkeys.nodup_iff, List.nodup_cons, List.mem_append, not_or]
  exact ⟨⟨hfree, hnew⟩, hrest⟩

/-- Under distinct names every field is a member, and no member is lost. -/
theorem sortedMembers_perm_append {fields : List (String × Value)}
    {members : List (String × Json)}
    (hnodup : (fields.map Prod.fst ++ members.map Prod.fst).Nodup) :
    (sortedMembers members fields).Perm ((fields.map fun p => (p.1, p.2.toJson)) ++ members) := by
  induction fields generalizing members with
  | nil => exact .refl _
  | cons p rest ih =>
      obtain ⟨hnew, hrest⟩ := nodup_keys_put hnodup p.2.toJson
      rw [sortedMembers, List.map_cons, List.cons_append]
      exact (ih hrest).trans <|
        ((Json.put_perm hnew _).append_left _).trans List.perm_middle

/-- The keys of the object ascend. -/
theorem ascending_sortedMembers {fields : List (String × Value)} {members : List (String × Json)}
    (hnodup : (fields.map Prod.fst ++ members.map Prod.fst).Nodup)
    (h : members.Pairwise fun p q => p.1 < q.1) :
    (sortedMembers members fields).Pairwise fun p q => p.1 < q.1 := by
  induction fields generalizing members with
  | nil => exact h
  | cons p rest ih =>
      obtain ⟨hnew, hrest⟩ := nodup_keys_put hnodup p.2.toJson
      rw [sortedMembers]
      exact ih hrest (Json.ascending_put hnew _ h)

/-- The members of an object are the fields in some order, and their keys ascend. -/
theorem sortedMembers_nil_spec {fields : List (String × Value)}
    (hnodup : (fields.map Prod.fst).Nodup) :
    (sortedMembers [] fields).Perm (fields.map fun p => (p.1, p.2.toJson)) ∧
      (sortedMembers [] fields).Pairwise fun p q => p.1 < q.1 := by
  have hfree : (fields.map Prod.fst ++ ([] : List (String × Json)).map Prod.fst).Nodup := by
    simpa using hnodup
  have hperm := sortedMembers_perm_append hfree
  rw [List.append_nil] at hperm
  exact ⟨hperm, ascending_sortedMembers hfree .nil⟩

/-- Fields with the same distinct names whose objects are the same have the same documents,
one by one. -/
theorem forall₂_toJson_of_sortedMembers {xs ys : List (String × Value)}
    (hnames : xs.map Prod.fst = ys.map Prod.fst) (hnodup : (xs.map Prod.fst).Nodup)
    (h : sortedMembers [] xs = sortedMembers [] ys) :
    List.Forall₂ (fun p q => p.1 = q.1 ∧ p.2.toJson = q.2.toJson) xs ys := by
  refine (forall₂_at_position (forall₂_of_map_eq_map hnames)).imp fun p q hpq => ?_
  obtain ⟨hkey, i, hp, hq⟩ := hpq
  have hleft : (sortedMembers [] xs).lookup p.1 = some p.2.toJson := by
    rw [lookup_sortedMembers hnodup, lookup_of_nodup hnodup (List.mem_of_getElem? hp)]
    rfl
  have hright : (sortedMembers [] ys).lookup q.1 = some q.2.toJson := by
    rw [lookup_sortedMembers (hnames ▸ hnodup),
      lookup_of_nodup (hnames ▸ hnodup) (List.mem_of_getElem? hq)]
    rfl
  rw [h, hkey, hright] at hleft
  exact ⟨hkey, (Option.some.inj hleft).symm⟩

end Glean
