import Glean.Config.Decode
import Glean.Config.Render
import Glean.Proofs.Config.Translation
import Glean.Proofs.Json.Shape

/-!
# Glean.Proofs.Config.Written

Configurations are read back from what they are written as.  A document is a written form
of a configuration (`SchemaConfig.Written`) if every object in it lists its keys in some
order, each at most once, and leaves out only keys whose option has its default; what
`SchemaConfig.render` writes is one such form.  Every written form whose brackets nest no
deeper than is allowed is decoded to the configuration (`SchemaConfig.decode_render`).

Readers recurse on the brackets that may still be opened, so what they read back is said
for each such number (`ReadsBack`), and one bracket more is one step.
-/

namespace Glean

open Json

/-! ## Depth -/

mutual

/-- How deep the arrays and objects of a document nest. -/
def Json.depth : Json → Nat
  | .array items => itemsDepth items + 1
  | .object members => membersDepth members + 1
  | _ => 0

def itemsDepth : List Json → Nat
  | [] => 0
  | j :: rest => max j.depth (itemsDepth rest)

def membersDepth : List (String × Json) → Nat
  | [] => 0
  | (_, j) :: rest => max j.depth (membersDepth rest)

end

theorem depth_le_itemsDepth {items : List Json} {j : Json} (h : j ∈ items) :
    j.depth ≤ itemsDepth items := by
  induction items with
  | nil => cases h
  | cons k rest ih =>
      rw [itemsDepth]
      rcases List.mem_cons.1 h with rfl | h
      · exact Nat.le_max_left _ _
      · exact Nat.le_trans (ih h) (Nat.le_max_right _ _)

theorem depth_le_membersDepth {members : List (String × Json)} {p : String × Json}
    (h : p ∈ members) : p.2.depth ≤ membersDepth members := by
  induction members with
  | nil => cases h
  | cons q rest ih =>
      obtain ⟨word, k⟩ := q
      rw [membersDepth]
      rcases List.mem_cons.1 h with rfl | h
      · exact Nat.le_max_left _ _
      · exact Nat.le_trans (ih h) (Nat.le_max_right _ _)

/-! ## Options under some keys -/

/-- The schema with its options under these keys, and the defaults elsewhere. -/
def SchemaConfig.only (c : SchemaConfig) (keys : List SchemaKey) : SchemaConfig where
  name := if .name ∈ keys then c.name else ""
  fields := if .fields ∈ keys then c.fields else []

/-- The field with its options under these keys, and the defaults elsewhere. -/
def FieldConfig.only (c : FieldConfig) (keys : List FieldKey) : FieldConfig where
  name := if .name ∈ keys then c.name else ""
  kind := if .kind ∈ keys then c.kind else .text
  selector := if .selector ∈ keys then c.selector else ""
  required := if .required ∈ keys then c.required else false
  asList := if .asList ∈ keys then c.asList else false
  attr := if .attr ∈ keys then c.attr else none
  schema := if .schema ∈ keys then c.schema else none
  alternatives := if .alternatives ∈ keys then c.alternatives else []

@[simp] theorem SchemaConfig.only_nil (c : SchemaConfig) : c.only [] = { name := "" } := by
  simp [SchemaConfig.only]

@[simp] theorem FieldConfig.only_nil (c : FieldConfig) : c.only [] = {} := by
  simp [FieldConfig.only]

@[simp] theorem SchemaConfig.only_keys (c : SchemaConfig) : c.only SchemaConfig.shape.keys = c := by
  cases c
  rfl

@[simp] theorem FieldConfig.only_keys (c : FieldConfig) : c.only FieldConfig.shape.keys = c := by
  cases c
  rfl

@[simp] theorem SchemaConfig.only_reverse (c : SchemaConfig) (keys : List SchemaKey) :
    c.only keys.reverse = c.only keys := by
  simp [SchemaConfig.only]

@[simp] theorem FieldConfig.only_reverse (c : FieldConfig) (keys : List FieldKey) :
    c.only keys.reverse = c.only keys := by
  simp [FieldConfig.only]

/-! ## Written forms -/

mutual

/-- The document is a written form of the schema: its keys are listed in some order, the
name among them, and what is left out has its default. -/
inductive SchemaConfig.Written : SchemaConfig → Json → Prop where
  | intro {c : SchemaConfig} {members : List (SchemaKey × Json)}
      (distinct : (members.map Prod.fst).Nodup) (named : SchemaKey.name ∈ members.map Prod.fst)
      (leftOut : c.only (members.map Prod.fst) = c)
      (options : ∀ p ∈ members, SchemaConfig.OptionWritten c p.1 p.2) :
      SchemaConfig.Written c (.object (members.map SchemaConfig.shape.member))

/-- The document is a written form of what the schema has under the key. -/
inductive SchemaConfig.OptionWritten : SchemaConfig → SchemaKey → Json → Prop where
  | name {c : SchemaConfig} : SchemaConfig.OptionWritten c .name (.string c.name)
  | fields {c : SchemaConfig} {docs : List Json}
      (each : List.Forall₂ FieldConfig.Written c.fields docs) :
      SchemaConfig.OptionWritten c .fields (.array docs)

/-- The document is a written form of the field: its keys are listed in some order, and
what is left out has its default. -/
inductive FieldConfig.Written : FieldConfig → Json → Prop where
  | intro {c : FieldConfig} {members : List (FieldKey × Json)}
      (distinct : (members.map Prod.fst).Nodup) (leftOut : c.only (members.map Prod.fst) = c)
      (options : ∀ p ∈ members, FieldConfig.OptionWritten c p.1 p.2) :
      FieldConfig.Written c (.object (members.map FieldConfig.shape.member))

/-- The document is a written form of what the field has under the key. -/
inductive FieldConfig.OptionWritten : FieldConfig → FieldKey → Json → Prop where
  | name {c : FieldConfig} : FieldConfig.OptionWritten c .name (.string c.name)
  | kind {c : FieldConfig} : FieldConfig.OptionWritten c .kind (.string c.kind.word)
  | selector {c : FieldConfig} : FieldConfig.OptionWritten c .selector (.string c.selector)
  | required {c : FieldConfig} : FieldConfig.OptionWritten c .required (.bool c.required)
  | asList {c : FieldConfig} : FieldConfig.OptionWritten c .asList (.bool c.asList)
  | noAttr {c : FieldConfig} (absent : c.attr = none) : FieldConfig.OptionWritten c .attr .null
  | attr {c : FieldConfig} {key : String} (given : c.attr = some key) :
      FieldConfig.OptionWritten c .attr (.string key)
  | noSchema {c : FieldConfig} (absent : c.schema = none) :
      FieldConfig.OptionWritten c .schema .null
  | schema {c : FieldConfig} {s : SchemaConfig} {doc : Json} (given : c.schema = some s)
      (written : SchemaConfig.Written s doc) : FieldConfig.OptionWritten c .schema doc
  | alternatives {c : FieldConfig} {docs : List Json}
      (each : List.Forall₂ FieldConfig.Written c.alternatives docs) :
      FieldConfig.OptionWritten c .alternatives (.array docs)

end

/-! ## What is rendered is a written form -/

theorem fieldDocuments_eq_map (cs : List FieldConfig) :
    fieldDocuments cs = cs.map FieldConfig.toJson := by
  induction cs with
  | nil => rfl
  | cons c rest ih => rw [fieldDocuments, ih, List.map_cons]

/-- Every key of a schema with its option. -/
def SchemaConfig.members (c : SchemaConfig) : List (SchemaKey × Json) := [
  (.name, .string c.name),
  (.fields, .array (fieldDocuments c.fields))]

/-- Every key of a field with its option. -/
def FieldConfig.members (c : FieldConfig) : List (FieldKey × Json) := [
  (.name, .string c.name),
  (.kind, .string c.kind.word),
  (.selector, .string c.selector),
  (.required, .bool c.required),
  (.asList, .bool c.asList),
  (.attr, (c.attr.map Json.string).getD .null),
  (.schema, schemaDocument c.schema),
  (.alternatives, .array (fieldDocuments c.alternatives))]

theorem SchemaConfig.toJson_eq (c : SchemaConfig) :
    c.toJson = .object (c.members.map SchemaConfig.shape.member) := by
  cases c
  rw [SchemaConfig.toJson]
  rfl

theorem FieldConfig.toJson_eq (c : FieldConfig) :
    c.toJson = .object (c.members.map FieldConfig.shape.member) := by
  cases c
  rw [FieldConfig.toJson]
  rfl

theorem forall₂_written_documents {cs : List FieldConfig} (h : ∀ c ∈ cs, c.Written c.toJson) :
    List.Forall₂ FieldConfig.Written cs (fieldDocuments cs) := by
  rw [fieldDocuments_eq_map, List.forall₂_map_right_iff, List.forall₂_same]
  exact h

theorem SchemaConfig.written_toJson_of_fields {c : SchemaConfig}
    (h : ∀ d ∈ c.fields, d.Written d.toJson) : c.Written c.toJson := by
  have hkeys : c.members.map Prod.fst = SchemaConfig.shape.keys := rfl
  rw [SchemaConfig.toJson_eq]
  refine .intro (by rw [hkeys]; decide) (by rw [hkeys]; decide) (hkeys ▸ c.only_keys) ?_
  simp only [SchemaConfig.members, List.forall_mem_cons]
  exact ⟨.name, .fields (forall₂_written_documents h), by simp⟩

/-- A field is rendered as one of its written forms. -/
theorem FieldConfig.written_toJson (c : FieldConfig) : c.Written c.toJson := by
  induction c using FieldConfig.nested_induction with
  | step c ihschema ihalternatives =>
      have hkeys : c.members.map Prod.fst = FieldConfig.shape.keys := rfl
      have hattr : c.OptionWritten .attr ((c.attr.map Json.string).getD .null) := by
        cases hc : c.attr with
        | none => exact .noAttr hc
        | some key => exact .attr hc
      have hschema : c.OptionWritten .schema (schemaDocument c.schema) := by
        cases hc : c.schema with
        | none => exact .noSchema hc
        | some s => exact .schema hc (SchemaConfig.written_toJson_of_fields (ihschema s hc))
      have halternatives := forall₂_written_documents ihalternatives
      rw [FieldConfig.toJson_eq]
      refine .intro (by rw [hkeys]; decide) (hkeys ▸ c.only_keys) ?_
      simp only [FieldConfig.members, List.forall_mem_cons]
      exact ⟨.name, .kind, .selector, .required, .asList, hattr, hschema,
        .alternatives halternatives, by simp⟩

/-- A schema is rendered as one of its written forms. -/
theorem SchemaConfig.written_toJson (c : SchemaConfig) : c.Written c.toJson :=
  SchemaConfig.written_toJson_of_fields fun d _ => d.written_toJson

/-! ## Reading written forms -/

open Json.Reader

/-- With so many brackets that may still be opened, written forms are read back. -/
structure ReadsBack (n : Nat) : Prop where
  schema {c : SchemaConfig} {j : Json} (h : c.Written j) (hdepth : j.depth ≤ n) (t : List Char) :
    Reads (SchemaConfig.read n) (j.text ++ t) c t
  field {c : FieldConfig} {j : Json} (h : c.Written j) (hdepth : j.depth ≤ n) (t : List Char) :
    Reads (FieldConfig.read n) (j.text ++ t) c t
  all {cs : List FieldConfig} {docs : List Json} (h : List.Forall₂ FieldConfig.Written cs docs)
    (hdepth : (Json.array docs).depth ≤ n) (t : List Char) :
    Reads (FieldConfig.readAll n) ((Json.array docs).text ++ t) cs t

/-- The word for a kind of field is read back. -/
theorem FieldKind.reads_word (kind : FieldKind) (depth : Nat) (t : List Char) :
    Reads (FieldKind.read depth) ((Json.string kind.word).text ++ t) kind t := by
  have hword : Reads (FieldKind.readWord "variant identifier") (stringText kind.word ++ t)
      kind t := by
    refine (reads_text _ kind.word t).bind ?_
    rw [FieldKind.ofWord?_word]
    exact .pure kind t
  exact (reads_valueStart rfl _).bind hword

theorem SchemaConfig.Written.reads_optional {s : SchemaConfig} {j : Json} (h : s.Written j)
    {r : Reader SchemaConfig} {t : List Char} (hread : Reads r (j.text ++ t) s t) :
    Reads (optional r) (j.text ++ t) (some s) t := by
  cases h with
  | @intro _ members _ _ _ _ =>
      rw [Json.text] at hread ⊢
      exact Reader.reads_optional rfl (by decide) hread

/-- What is written under a key of a schema adds to what is known of it. -/
theorem ReadsBack.schemaOption {n : Nat} (h : ReadsBack n) {c : SchemaConfig} {key : SchemaKey}
    {j : Json} (hoption : c.OptionWritten key j) (hdepth : j.depth ≤ n) (seen : List SchemaKey)
    (t : List Char) :
    Reads (SchemaConfig.readOption (FieldConfig.readAll n) key (c.only seen)) (j.text ++ t)
      (c.only (key :: seen)) t := by
  cases hoption with
  | name => exact (reads_text _ c.name t).bind (.pure_of_eq (by simp [SchemaConfig.only]) t)
  | fields each => exact (h.all each hdepth t).bind (.pure_of_eq (by simp [SchemaConfig.only]) t)

/-- What is written under a key of a field adds to what is known of it. -/
theorem ReadsBack.fieldOption {n : Nat} (h : ReadsBack n) {c : FieldConfig} {key : FieldKey}
    {j : Json} (hoption : c.OptionWritten key j) (hdepth : j.depth ≤ n) (seen : List FieldKey)
    (t : List Char) :
    Reads (FieldConfig.readOption n (SchemaConfig.read n) (FieldConfig.readAll n) key (c.only seen))
      (j.text ++ t) (c.only (key :: seen)) t := by
  cases hoption with
  | name => exact (reads_text _ c.name t).bind (.pure_of_eq (by simp [FieldConfig.only]) t)
  | kind => exact (c.kind.reads_word n t).bind (.pure_of_eq (by simp [FieldConfig.only]) t)
  | selector => exact (reads_text _ c.selector t).bind (.pure_of_eq (by simp [FieldConfig.only]) t)
  | required => exact (reads_bool c.required t).bind (.pure_of_eq (by simp [FieldConfig.only]) t)
  | asList => exact (reads_bool c.asList t).bind (.pure_of_eq (by simp [FieldConfig.only]) t)
  | noAttr absent =>
      exact (reads_optional_null _ t).bind (.pure_of_eq (by simp [FieldConfig.only, absent]) t)
  | @attr _ label given =>
      have hread : Reads (optional (text "a string")) (stringText label ++ t) (some label) t :=
        reads_optional rfl (by decide) (reads_text _ label t)
      exact hread.bind (.pure_of_eq (by simp [FieldConfig.only, given]) t)
  | noSchema absent =>
      exact (reads_optional_null _ t).bind (.pure_of_eq (by simp [FieldConfig.only, absent]) t)
  | schema given written =>
      have hread := written.reads_optional (h.schema written hdepth t)
      exact hread.bind (.pure_of_eq (by simp [FieldConfig.only, given]) t)
  | alternatives each =>
      exact (h.all each hdepth t).bind (.pure_of_eq (by simp [FieldConfig.only]) t)

/-- What is written under a key nests less deep than the object. -/
theorem depth_le_of_mem_members {κ : Type} {s : Shape κ} {members : List (κ × Json)} {n : Nat}
    (hdepth : (Json.object (members.map s.member)).depth ≤ n + 1) {p : κ × Json}
    (hp : p ∈ members) : p.2.depth ≤ n := by
  rw [Json.depth] at hdepth
  have hmember : (s.member p).2.depth ≤ membersDepth (members.map s.member) :=
    depth_le_membersDepth (List.mem_map_of_mem hp)
  exact Nat.le_trans hmember (Nat.le_of_succ_le_succ hdepth)

theorem SchemaKey.key?_word (k : SchemaKey) :
    SchemaConfig.shape.key? (SchemaConfig.shape.word k) = some k := by
  cases k <;> rfl

theorem FieldKey.key?_word (k : FieldKey) :
    FieldConfig.shape.key? (FieldConfig.shape.word k) = some k := by
  cases k <;> rfl

namespace ReadsBack

/-- Whatever is written needs a bracket. -/
theorem zero : ReadsBack 0 where
  schema h hdepth := by
    cases h
    simp [Json.depth] at hdepth
  field h hdepth := by
    cases h
    simp [Json.depth] at hdepth
  all _ hdepth := by simp [Json.depth] at hdepth

/-- A bracket more is enough for what has been read back inside it. -/
theorem succ {n : Nat} (h : ReadsBack n) : ReadsBack (n + 1) where
  schema {c j} hwritten hdepth t := by
    cases hwritten with
    | @intro _ members distinct named leftOut options =>
        have hread : Shape.ReadsKeys (SchemaConfig.readOption (FieldConfig.readAll n)) c.only
            members := fun p hp =>
          h.schemaOption (options p hp) (depth_le_of_mem_members hdepth hp)
        have hneeded : ∀ k ∈ SchemaConfig.shape.keys, SchemaConfig.shape.needed k = true →
            k ∈ members.map Prod.fst := by
          intro k _ hk
          obtain rfl : k = .name := by simpa [SchemaConfig.shape] using hk
          exact named
        have hall := Shape.reads_read SchemaKey.key?_word hread distinct hneeded t
        rwa [SchemaConfig.only_nil, SchemaConfig.only_reverse, leftOut] at hall
  field {c j} hwritten hdepth t := by
    cases hwritten with
    | @intro _ members distinct leftOut options =>
        have hread : Shape.ReadsKeys (FieldConfig.readOption n (SchemaConfig.read n)
            (FieldConfig.readAll n)) c.only members := fun p hp =>
          h.fieldOption (options p hp) (depth_le_of_mem_members hdepth hp)
        have hneeded : ∀ k ∈ FieldConfig.shape.keys, FieldConfig.shape.needed k = true →
            k ∈ members.map Prod.fst := fun k _ hk => by cases hk
        have hall := Shape.reads_read FieldKey.key?_word hread distinct hneeded t
        rwa [FieldConfig.only_nil, FieldConfig.only_reverse, leftOut] at hall
  all {cs docs} hwritten hdepth t := by
    rw [Json.depth] at hdepth
    have hdocs : ∀ j ∈ docs, j.depth ≤ n := fun j hj =>
      Nat.le_trans (depth_le_itemsDepth hj) (Nat.le_of_succ_le_succ hdepth)
    have heach : ReadsEach (FieldConfig.read n) docs cs :=
      forall₂_imp_of_mem hwritten.flip fun j hj _ hjc => h.field hjc (hdocs j hj)
    exact reads_list heach t

theorem of_nat (n : Nat) : ReadsBack n := by
  induction n with
  | zero => exact zero
  | succ n ih => exact ih.succ

end ReadsBack

/-- **Decoding undoes encoding**: a configuration is decoded from its text, and from every
written form of it, as long as the brackets nest fewer than 128 deep; so the text declares
the same schema as the configuration, or fails to with the same error. -/
theorem SchemaConfig.decode_render (c : SchemaConfig) :
    (c.toJson.depth < 128 →
        SchemaConfig.decode c.render = .ok c ∧ Schema.ofJson c.render = c.toSchema) ∧
      ∀ j, c.Written j → j.depth < 128 →
        SchemaConfig.decode j.render = .ok c ∧ Schema.ofJson j.render = c.toSchema := by
  have hall : ∀ j, c.Written j → j.depth < 128 →
      SchemaConfig.decode j.render = .ok c ∧ Schema.ofJson j.render = c.toSchema := by
    intro j hwritten hdepth
    have hdecode : SchemaConfig.decode j.render = .ok c :=
      ((ReadsBack.of_nat nestingLimit).schema hwritten (Nat.le_of_lt_succ hdepth) []).run_render
    exact ⟨hdecode, by rw [Schema.ofJson, hdecode]⟩
  exact ⟨hall c.toJson c.written_toJson, hall⟩

namespace Written

/-- A link that is tried in two ways, and notes, under a name that has to be escaped. -/
def page : SchemaConfig := { name := "\"é\n\x01\\", fields := [
  { name := "link", kind := .firstOf, required := true
    alternatives := [{ kind := .attr, selector := "a", attr := some "href" }, {}] },
  { name := "notes", kind := .nested, selector := "li", asList := true
    schema := some { name := "Note" } }] }

/-- The first alternative, its keys in another order and without defaults. -/
def anchor : Json := .object (List.map FieldConfig.shape.member [
  (.attr, .string "href"), (.selector, .string "a"), (.kind, .string "attr")])

example : anchor.render =
    "\x7b\"attribute\":\"href\",\"selector\":\"a\",\"kind\":\"attr\"\x7d" := by
  decide +kernel

def link : Json := .object (List.map FieldConfig.shape.member [
  (.alternatives, .array [anchor, .object (List.map FieldConfig.shape.member [])]),
  (.required, .bool true), (.kind, .string "first_of"), (.attr, .null), (.name, .string "link")])

def notes : Json := .object (List.map FieldConfig.shape.member [
  (.schema, .object (List.map SchemaConfig.shape.member [(.name, .string "Note")])),
  (.asList, .bool true), (.kind, .string "nested"), (.name, .string "notes"),
  (.selector, .string "li")])

/-- The fields come first, and each leaves out what has its default. -/
def document : Json := .object (List.map SchemaConfig.shape.member [
  (.fields, .array [link, notes]), (.name, .string "\"é\n\x01\\")])

theorem written_anchor :
    FieldConfig.Written { kind := .attr, selector := "a", attr := some "href" } anchor := by
  refine .intro (by decide) rfl ?_
  simp only [List.forall_mem_cons]
  exact ⟨.attr rfl, .selector, .kind, by simp⟩

theorem written_document : page.Written document := by
  have hnone : FieldConfig.Written {} (.object (List.map FieldConfig.shape.member [])) :=
    .intro (by decide) rfl (by simp)
  have hnote : SchemaConfig.Written { name := "Note" }
      (.object (List.map SchemaConfig.shape.member [(.name, .string "Note")])) := by
    refine .intro (by decide) (by decide) rfl ?_
    simp only [List.forall_mem_cons]
    exact ⟨.name, by simp⟩
  refine .intro (by decide) (by decide) rfl ?_
  simp only [List.forall_mem_cons]
  refine ⟨.fields (.cons ?_ (.cons ?_ .nil)), .name, by simp⟩
  · refine .intro (by decide) rfl ?_
    simp only [List.forall_mem_cons]
    exact ⟨.alternatives (.cons written_anchor (.cons hnone .nil)), .required, .kind, .noAttr rfl,
      .name, by simp⟩
  · refine .intro (by decide) rfl ?_
    simp only [List.forall_mem_cons]
    exact ⟨.schema rfl hnote, .asList, .kind, .name, .selector, by simp⟩

/-- The page is decoded from what it is rendered as, and from a shorter form. -/
theorem decode_page :
    page.Written document ∧
      page.toJson.depth < 128 ∧ SchemaConfig.decode page.render = .ok page ∧
      Schema.ofJson page.render = page.toSchema ∧ document.depth < 128 ∧
      SchemaConfig.decode document.render = .ok page ∧
      Schema.ofJson document.render = page.toSchema := by
  have hpage : page.toJson.depth < 128 := by decide
  have hdocument : document.depth < 128 := by decide
  have h := SchemaConfig.decode_render page
  exact ⟨written_document, hpage, (h.1 hpage).1, (h.1 hpage).2, hdocument,
    h.2 document written_document hdocument⟩

end Written

end Glean
