import Glean.Proofs.Extraction.Distinct
import Glean.Proofs.Extraction.Nested
import Glean.Proofs.Schema.Obtained

/-!
# Glean.Proofs.Extraction.Lookup

Looking up a name in a record.  A schema and the records that it yields search two lists for
the first entry under a name.  Since no name is declared twice, either search finds the one
entry there is, so looking up a name in a record is looking up the field that is declared
under it and resolving this field (`Schema.LooksUp`).  This holds of the records inside as
well, for the schemas that they come from and the nodes at which these were applied.
-/

namespace Glean

variable {ν : Type} [Source ν]

/-- Under distinct keys a search finds an entry exactly if it is there. -/
theorem lookup_eq_some_iff_mem {α β : Type} [BEq α] [LawfulBEq α] {entries : List (α × β)}
    (hnodup : (entries.map Prod.fst).Nodup) {key : α} {x : β} :
    entries.lookup key = some x ↔ (key, x) ∈ entries := by
  constructor
  · intro h
    obtain ⟨before, after, rfl, -⟩ := List.lookup_eq_some_iff.1 h
    simp
  · exact fun h => lookup_of_nodup hnodup h

/-- A search finds nothing exactly if the key is none of the keys. -/
theorem lookup_eq_none_iff_not_mem {α β : Type} [BEq α] [LawfulBEq α] {entries : List (α × β)}
    {key : α} : entries.lookup key = none ↔ key ∉ entries.map Prod.fst := by
  rw [List.lookup_eq_none_iff, List.mem_map, not_exists]
  refine forall_congr' fun p => ?_
  rw [not_and, bne_iff_ne, ne_comm]

/-- The entries of a record are the values of the declared fields, under their names. -/
theorem Schema.mem_fields_iff {s : Schema} {root : ν} {r : Record} (h : s.extract root = .ok r)
    {name : String} {v : Value} :
    (name, v) ∈ r.fields ↔ ∃ f, (name, f) ∈ s.fields ∧ f.resolve name root = .ok v := by
  constructor
  · intro hv
    obtain ⟨⟨key, f⟩, hf, rfl, hres⟩ := Schema.exists_field_of_mem_fields h hv
    exact ⟨f, hf, hres⟩
  · rintro ⟨f, hf, hres⟩
    have hcollect : collect (resolveDeclared root) s.fields = .ok r.fields := by
      rw [collect_eq_ok_iff]
      simp only [resolveDeclared_eq_ok_iff]
      exact (Schema.extract_eq_ok_iff.1 h).2
    exact mem_of_collect hcollect hf (resolveDeclared_eq_ok_iff.2 ⟨rfl, hres⟩)

/-- Names in the record are looked up as they are declared in the schema and resolved at the
root. -/
structure Schema.LooksUp (s : Schema) (root : ν) (r : Record) : Prop where
  get?_iff (name : String) (v : Value) :
    r.get? name = some v ↔ ∃ f, s.field? name = some f ∧ f.resolve name root = .ok v
  contains_iff (name : String) : r.contains name = true ↔ name ∈ s.fields.map Prod.fst
  /-- A lookup that insists fails exactly for a name that is not declared. -/
  demand_error_iff (name : String) :
    r.demand name = .error ⟨s.name, name⟩ ↔ name ∉ s.fields.map Prod.fst
  demand_ok_iff (name : String) (v : Value) : r.demand name = .ok v ↔ r.get? name = some v
  /-- The entries in order are what is found under the declared names in order. -/
  entries_eq :
    r.fields.map (fun q => (q.1, some q.2)) = s.fields.map fun p => (p.1, r.get? p.1)
  once : r.names.Nodup
  size_eq : r.size = s.fields.length

theorem Record.demand_eq (r : Record) (name : String) :
    r.demand name = match r.get? name with
      | some v => .ok v
      | none => .error ⟨r.schema, name⟩ := rfl

/-- The entries of a record are what is found under its names, if these are distinct. -/
theorem Record.entries_eq {r : Record} (hnodup : r.names.Nodup) :
    r.fields.map (fun q => (q.1, some q.2)) = r.names.map fun name => (name, r.get? name) := by
  rw [Record.names, List.map_map]
  refine List.map_congr_left fun q hq => ?_
  rw [Function.comp_apply, Record.get?, lookup_of_nodup hnodup hq]

/-- A record of a sound schema is looked up as the schema declares. -/
theorem Schema.Sound.looksUp {s : Schema} (hs : s.Sound) {root : ν} {r : Record}
    (h : s.extract root = .ok r) : s.LooksUp root r := by
  have hdeclared : (s.fields.map Prod.fst).Nodup := hs.checked.nodup
  have hnames : r.fields.map Prod.fst = s.fields.map Prod.fst := Schema.names_of_extract h
  have hnodup : (r.fields.map Prod.fst).Nodup := hnames ▸ hdeclared
  have hget : ∀ name, r.get? name = none ↔ name ∉ s.fields.map Prod.fst := by
    intro name
    rw [Record.get?, lookup_eq_none_iff_not_mem, hnames]
  have hcases : ∀ name, r.contains name = true ↔ ¬ r.get? name = none := by
    intro name
    rw [Record.contains, Option.isSome_iff_ne_none]
  refine ⟨fun name v => ?_, fun name => ?_, fun name => ?_, fun name v => ?_, ?_, hnodup, ?_⟩
  · rw [Record.get?, lookup_eq_some_iff_mem hnodup, Schema.mem_fields_iff h]
    simp only [Schema.field?, lookup_eq_some_iff_mem hdeclared]
  · rw [hcases, hget, not_not]
  · have hschema : r.schema = s.name := (Schema.extract_eq_ok_iff.1 h).1
    rw [← hget, Record.demand_eq, hschema]
    cases r.get? name <;> simp
  · rw [Record.demand_eq]
    cases r.get? name <;> simp
  · rw [Record.entries_eq hnodup, Record.names, hnames, List.map_map]
    rfl
  · have hlength := congrArg List.length hnames
    rwa [List.length_map, List.length_map] at hlength

/-- **Lookup agrees with declaration and resolution**: names in a record that a schema yields
are looked up as the schema declares them and resolved at the root; and every record inside,
at any depth, is reached, and looked up as its own schema declares at its own node. -/
theorem Schema.lookups_agree {s : Schema} (hs : s.Obtained) {root : ν} {r : Record}
    (h : s.extract root = .ok r) :
    s.LooksUp root r ∧
      (∀ q, (Value.record q).Occurs (.record r) →
        ∃ t node around, s.Reaches root r t (node :: around) q) ∧
      ∀ t node around q, s.Reaches root r t (node :: around) q →
        t.extract node = .ok q ∧ t.LooksUp node q := by
  refine ⟨hs.sound.looksUp h, fun q hq => (Schema.placed_of_occurs h hq).exists_reaches h, ?_⟩
  intro t node around q hreaches
  have hq : t.extract node = .ok q := hreaches.extract_eq h
  exact ⟨hq, (hreaches.sound hs.sound).looksUp hq⟩

namespace Lookup

/-- A person, by name. -/
def person : Schema := ⟨"Person", [
  ("name", .select "b" .text { required := true }), ("home", .select "a" (.attr "href") {})]⟩

/-- A page with its authors, and with whoever leads it if nothing is said about that. -/
def page : Schema := ⟨"Page", [
  ("authors", .select "li" (.nested person) { asList := true }),
  ("lead", .firstOf [.select "p" .text {}, .select "dl" (.nested person) {}] {})]⟩

theorem obtained_page : page.Obtained := by
  have hperson : person.Obtained :=
    .built (b := ⟨person.name, person.fields⟩) rfl (by simp [person])
  exact .built (b := ⟨page.name, page.fields⟩) rfl (by simpa [page] using hperson)

/-- What stands in the details: a name, and a link that leads nowhere. -/
def details : Listed := .node "" [] [("b", [.leaf "y"]), ("a", [.leaf "home"])]

/-- A page with one author and details. -/
def source : Listed :=
  .node "" [] [("li", [.node "" [] [("b", [.leaf "x"])]]), ("dl", [details])]

/-- The person in the details. -/
def lead : Record := ⟨"Person", [("name", .text "y"), ("home", .absent)]⟩

/-- What the page yields. -/
def yielded : Record := ⟨"Page", [
  ("authors", .list [.record ⟨"Person", [("name", .text "x"), ("home", .absent)]⟩]),
  ("lead", .record lead)]⟩

theorem extract_page_lead : page.extract source = .ok yielded := rfl

theorem reaches_lead : page.Reaches source yielded person [details, source] lead :=
  .nested (p := ("lead", .firstOf [.select "p" .text {},
      .select "dl" (.nested person) {}] {})) (v := .record lead) .whole (by simp [page])
    (by simp [yielded]) (.inl rfl)
    (.alternative (List.mem_cons_of_mem _ List.mem_cons_self) (.select rfl rfl)) rfl

/-- The page and the person whom its fallback finds are looked up as they are declared. -/
theorem lookups_agree_page :
    (page.Obtained ∧ page.extract source = .ok yielded ∧ page.LooksUp source yielded) ∧
      (∃ t node around, page.Reaches source yielded t (node :: around) lead) ∧
      page.Reaches source yielded person [details, source] lead ∧ person.LooksUp details lead := by
  obtain ⟨hlooks, hinside, hreached⟩ := Schema.lookups_agree obtained_page extract_page_lead
  have hlead : ("lead", Value.record lead) ∈ yielded.fields := by simp [yielded]
  have hoccurs : (Value.record lead).Occurs (.record yielded) := .field hlead .here
  exact ⟨⟨obtained_page, extract_page_lead, hlooks⟩, hinside lead hoccurs, reaches_lead,
    (hreached _ _ _ _ reaches_lead).2⟩

end Lookup

end Glean
