import Glean.Proofs.Json.Unambiguous
import Glean.Proofs.Schema.Obtained
import Glean.Proofs.Value.Documents

/-!
# Glean.Proofs.Extraction.Determined

JSON tells records of one schema apart.  Objects name no schema, but the place where an
object stands does: the record there is one of the nested schema of its field, and under
distinct names it is read back from the object field by field.  So absent values, empty
texts, empty lists and lists with absent items are never taken for one another.

A fallback spoils this if one of its alternatives applies a schema, since the object does
not tell which alternative it came from; with plain alternatives (`Schema.PlainFallbacks`)
the values of a fallback have no records inside, and are told by their documents alone.
-/

namespace Glean

/-! ## Plain fallbacks -/

/-- No alternative of a fallback applies a schema, in the schema itself and in all that it
applies. -/
def Schema.PlainFallbacks (s : Schema) : Prop :=
  ∀ t, s.Applies t → ∀ p ∈ t.fields, ∀ alternatives flags,
    p.2 = .firstOf alternatives flags → p.2.schemas = []

namespace Schema.PlainFallbacks

variable {s : Schema} {p : String × Field}

theorem declared (h : s.PlainFallbacks) (hp : p ∈ s.fields) {alternatives : List Field}
    {flags : Flags} (hfirst : p.2 = .firstOf alternatives flags) : p.2.schemas = [] :=
  h s .here p hp alternatives flags hfirst

theorem inner (h : s.PlainFallbacks) (hp : p ∈ s.fields) {t : Schema} (ht : t ∈ p.2.schemas) :
    t.PlainFallbacks :=
  fun u hu => h u (.nested hp ht hu)

end Schema.PlainFallbacks

/-! ## Values without records -/

theorem Strategy.Conforms.recordFree {strategy : Strategy} (hplain : strategy.schemas = [])
    {v : Value} (h : strategy.Conforms v) : v.RecordFree := by
  cases strategy with
  | nested s => simp [Strategy.schemas] at hplain
  | _ =>
      obtain ⟨content, rfl⟩ := h
      exact .text content

/-- A field that applies no schema yields no records. -/
theorem Field.Conforms.recordFree {f : Field} (hplain : f.schemas = []) {v : Value}
    (h : f.Conforms v) : v.RecordFree := by
  induction f using Field.nested_induction with
  | select selector strategy flags _ =>
      rw [Field.schemas] at hplain
      rw [Field.Conforms] at h
      split at h
      · obtain ⟨items, rfl, -, hitems⟩ := h
        refine .list fun item hitem => ?_
        obtain hconf | ⟨-, rfl⟩ := hitems item hitem
        · exact hconf.recordFree hplain
        · exact .absent
      · obtain ⟨rfl, -⟩ | hconf := h
        · exact .absent
        · exact hconf.recordFree hplain
  | firstOf alternatives flags ih =>
      rw [Field.Conforms, someConforms_iff] at h
      obtain ⟨rfl, -⟩ | ⟨-, f, hf, hconf⟩ := h
      · exact .absent
      · rw [Field.schemas, schemasOf_eq_flatMap, List.flatMap_eq_nil_iff] at hplain
        exact ih f hf (hplain f hf) hconf

/-! ## Records -/

/-- The document of a value tells the value among all that the field can have. -/
def Field.Told (f : Field) : Prop :=
  ∀ v w, f.Conforms v → f.Conforms w → v.toJson = w.toJson → v = w

/-- Where the values of the fields are told by their documents, so are the records. -/
theorem Schema.Conforms.eq_of_toJson {s : Schema} (hnodup : (s.fields.map Prod.fst).Nodup)
    (hfields : ∀ p ∈ s.fields, p.2.Told) {r r' : Record} (h : s.Conforms r) (h' : s.Conforms r')
    (hjson : r.toJson = r'.toJson) : r = r' := by
  obtain ⟨hschema, hvalues⟩ := Schema.conforms_iff.1 h
  obtain ⟨hschema', hvalues'⟩ := Schema.conforms_iff.1 h'
  have hnames : s.fields.map Prod.fst = r.fields.map Prod.fst :=
    map_eq_map_of_forall₂ (hvalues.imp fun _ _ hpq => hpq.1.symm)
  have hnames' : s.fields.map Prod.fst = r'.fields.map Prod.fst :=
    map_eq_map_of_forall₂ (hvalues'.imp fun _ _ hpq => hpq.1.symm)
  rw [Record.toJson_eq, Record.toJson_eq] at hjson
  injection hjson with hmembers
  have hdocs := forall₂_toJson_of_sortedMembers (hnames.symm.trans hnames') (hnames ▸ hnodup)
    hmembers
  have hsame : r.fields = r'.fields := by
    refine eq_of_forall₂ hvalues hvalues' hdocs ?_
    rintro p hp ⟨name, v⟩ ⟨name', w⟩ ⟨-, hv⟩ ⟨-, hw⟩ ⟨hname, hdoc⟩
    exact Prod.ext hname (hfields p hp v w hv hw hdoc)
  obtain ⟨schema, fields⟩ := r
  obtain ⟨schema', fields'⟩ := r'
  rw [Record.mk.injEq]
  exact ⟨hschema.trans hschema'.symm, hsame⟩

/-- Records of a nested schema that are told by their documents are so in a field. -/
theorem told_of_nested {selector : String} {s : Schema} {flags : Flags}
    (h : ∀ r r', s.Conforms r → s.Conforms r' → r.toJson = r'.toJson → r = r') :
    (Field.select selector (.nested s) flags).Told := by
  have hitem : ∀ v w, (Strategy.nested s).Conforms v → (Strategy.nested s).Conforms w →
      v.toJson = w.toJson → v = w := by
    rintro _ _ ⟨r, rfl, hr⟩ ⟨r', rfl, hr'⟩ hjson
    rw [Value.toJson, Value.toJson] at hjson
    rw [h r r' hr hr' hjson]
  intro v w hv hw hjson
  rw [Field.Conforms] at hv hw
  by_cases hlist : flags.asList = true
  · rw [if_pos hlist] at hv hw
    obtain ⟨xs, rfl, -, hxs⟩ := hv
    obtain ⟨ys, rfl, -, hys⟩ := hw
    rw [Value.toJson, Value.toJson, sortedItems_eq_map, sortedItems_eq_map] at hjson
    injection hjson with hitems
    have hall : List.Forall₂ (· = ·) xs ys := by
      refine (forall₂_at_position (forall₂_of_map_eq_map hitems)).imp fun x y hxy => ?_
      obtain ⟨hdoc, i, hx, hy⟩ := hxy
      obtain hconf | ⟨⟨_, hattr⟩, -⟩ := hxs x (List.mem_of_getElem? hx)
      · obtain hconf' | ⟨⟨_, hattr⟩, -⟩ := hys y (List.mem_of_getElem? hy)
        · exact hitem x y hconf hconf' hdoc
        · contradiction
      · contradiction
    rw [List.forall₂_eq_eq_eq] at hall
    rw [hall]
  · rw [if_neg hlist] at hv hw
    obtain ⟨rfl, -⟩ | hconf := hv
    · exact Value.RecordFree.absent.eq_of_toJson hjson
    · obtain ⟨rfl, -⟩ | hconf' := hw
      · exact (Value.RecordFree.absent.eq_of_toJson hjson.symm).symm
      · exact hitem v w hconf hconf' hjson

/-- Documents tell the values of a field with plain fallbacks. -/
theorem Field.told_of_plain {f : Field} (hsound : ∀ t ∈ f.schemas, t.Sound)
    (hplain : ∀ t ∈ f.schemas, t.PlainFallbacks)
    (hfirst : ∀ alternatives flags, f = .firstOf alternatives flags → f.schemas = []) :
    f.Told := by
  induction f using Field.nested_induction with
  | select selector strategy flags ih =>
      by_cases hnone : (Field.select selector strategy flags).schemas = []
      · exact fun v w hv _ hjson => (hv.recordFree hnone).eq_of_toJson hjson
      · obtain ⟨s, hs⟩ := List.exists_mem_of_ne_nil _ hnone
        have hsnd := hsound s hs
        have hpln := hplain s hs
        obtain rfl := Field.mem_schemas_select.1 hs
        refine told_of_nested fun r r' hr hr' hjson => ?_
        refine hr.eq_of_toJson hsnd.checked.nodup (fun p hp => ?_) hr' hjson
        refine ih s rfl p hp (fun t ht => ?_) (fun t ht => hpln.inner hp ht)
          fun _ _ hfirst => hpln.declared hp hfirst
        cases hsnd with
        | intro _ inner => exact inner p hp t ht
  | firstOf alternatives flags _ =>
      have hnone := hfirst alternatives flags rfl
      exact fun v w hv _ hjson => (hv.recordFree hnone).eq_of_toJson hjson

/-- Documents tell the records of a sound schema with plain fallbacks. -/
theorem Schema.Sound.eq_of_toJson {s : Schema} (h : s.Sound) (hplain : s.PlainFallbacks)
    {r r' : Record} (hr : s.Conforms r) (hr' : s.Conforms r') (hjson : r.toJson = r'.toJson) :
    r = r' := by
  refine hr.eq_of_toJson h.checked.nodup (fun p hp => ?_) hr' hjson
  refine Field.told_of_plain (fun t ht => ?_) (fun t ht => hplain.inner hp ht)
    fun _ _ hfirst => hplain.declared hp hfirst
  cases h with
  | intro _ inner => exact inner p hp t ht

/-- Records with the same text have the same document with sorted keys. -/
theorem Record.toJson_eq_of_serialized {r r' : Record} (h : r.serialized = r'.serialized) :
    r.toJson = r'.toJson := by
  have hordered : (Value.record r).toOrderedJson = (Value.record r').toOrderedJson := by
    rw [Value.toOrderedJson, Value.toOrderedJson]
    exact Json.render_injective h
  have hsorted := Value.toJson_eq_of_toOrderedJson hordered
  rwa [Value.toJson, Value.toJson] at hsorted

/-- **JSON tells the records of a schema apart**: where no alternative of a fallback applies
a schema, two records that one schema yields, on whatever sources, are equal exactly if
their documents with sorted keys are, and exactly if their texts are. -/
theorem Schema.extract_told_by_json {ν μ : Type} [Source ν] [Source μ] {s : Schema}
    (hs : s.Obtained) (hplain : s.PlainFallbacks) {a : ν} {b : μ} {r r' : Record}
    (hr : s.extract a = .ok r) (hr' : s.extract b = .ok r') :
    (r == r' ↔ r.toJson = r'.toJson) ∧ (r.toJson = r'.toJson ↔ r.serialized = r'.serialized) := by
  have htold : r.toJson = r'.toJson → r = r' :=
    hs.sound.eq_of_toJson hplain (.of_extract hr) (.of_extract hr')
  rw [beq_iff_eq]
  refine ⟨⟨fun hsame => by rw [hsame], htold⟩, fun hjson => ?_, Record.toJson_eq_of_serialized⟩
  rw [htold hjson]

namespace Determined

/-- Where a link leads. -/
def link : Schema := ⟨"Link", [("to", .select "a" (.attr "href") {})]⟩

/-- Links, marks, and a title that is a heading or else the names of the pictures. -/
def card : Schema := ⟨"Card", [
  ("links", .select "li" (.nested link) { asList := true }),
  ("marks", .select "b" (.attr "id") { asList := true }),
  ("title", .firstOf [.select "h1" .text {}, .select "img" (.attr "alt") { asList := true }] {})]⟩

theorem obtained_card : card.Obtained := by
  have hlink : link.Obtained := .built (b := ⟨link.name, link.fields⟩) rfl (by simp [link])
  exact .built (b := ⟨card.name, card.fields⟩) rfl (by simpa [card] using hlink)

theorem plainFallbacks_card : card.PlainFallbacks := by
  have hlink : ∀ t, link.Applies t → t = link := by
    intro t ht
    cases ht with
    | here => rfl
    | nested declared inner _ => simp_all [link]
  intro t ht p hp alternatives flags hfirst
  cases ht with
  | here =>
      simp only [card, List.mem_cons, List.not_mem_nil, or_false] at hp
      obtain rfl | rfl | rfl := hp
      · contradiction
      · contradiction
      · rfl
  | @nested _ u _ q declared inner rest =>
      have hu : u = link := by
        simp only [card, List.mem_cons, List.not_mem_nil, or_false] at declared
        obtain rfl | rfl | rfl := declared <;> simp_all [schemasOf, Field.schemas, Strategy.schemas]
      subst hu
      obtain rfl := hlink t rest
      simp only [link, List.mem_cons, List.not_mem_nil, or_false] at hp
      subst hp
      contradiction

/-- A link that leads nowhere and a mark without a name. -/
def lacking : Listed := .node "" [] [("li", [.node "" [] [("a", [.leaf ""])]]), ("b", [.leaf ""])]

/-- A link with an empty address and a picture without a name. -/
def empty : Listed :=
  .node "" [] [("li", [.node "" [] [("a", [.node "" [("href", "")] []])]]), ("img", [.leaf ""])]

/-- What lacks an attribute is not taken for what has an empty one, nor is a list of
absent items for one without items. -/
theorem told_card :
    card.Obtained ∧ card.PlainFallbacks ∧
      ∃ r r', card.extract lacking = .ok r ∧ card.extract empty = .ok r' ∧
        r ≠ r' ∧
        (r == r' ↔ r.toJson = r'.toJson) ∧
        (r.toJson = r'.toJson ↔ r.serialized = r'.serialized) := by
  have hlacking : card.extract lacking = .ok ⟨"Card", [
      ("links", .list [.record ⟨"Link", [("to", .absent)]⟩]), ("marks", .list [.absent]),
      ("title", .absent)]⟩ := rfl
  have hempty : card.extract empty = .ok ⟨"Card", [
      ("links", .list [.record ⟨"Link", [("to", .text "")]⟩]), ("marks", .list []),
      ("title", .list [.absent])]⟩ := rfl
  refine ⟨obtained_card, plainFallbacks_card, _, _, hlacking, hempty, by simp, ?_⟩
  exact Schema.extract_told_by_json obtained_card plainFallbacks_card hlacking hempty

end Determined

end Glean
