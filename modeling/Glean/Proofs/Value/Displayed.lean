import Glean.Proofs.Text.Quoted
import Glean.Proofs.Value.Reordered
import Glean.Value.Display

/-!
# Glean.Proofs.Value.Displayed

The text of a value for people is as good as the value.  As long as the names in it are
words, no other value has the same text (`Value.display_unambiguous`): what stands between
quotes cannot be taken for a bracket, a comma or the word `None`, however much it looks
like one.

The text of a value is nearly separate.  Only `None` and the name of a schema do not end
by themselves: they go on with letters, and a bracket behind `None` would make a record of
it.  Inside lists and records neither can follow (`Text.Ends`), and that is what carries
the induction through them.
-/

namespace Glean

/-! ## Words -/

namespace Text

/-- The letters and digits of ASCII, and the underscore. -/
def isWordChar (c : Char) : Bool := c.isAlphanum || c == '_'

/-- Nothing stands in the text but letters, digits and underscores. -/
def IsWord (s : String) : Prop := ∀ c ∈ s.toList, isWordChar c = true

instance (s : String) : Decidable (IsWord s) :=
  decidable_of_iff (s.toList.all isWordChar = true) List.all_eq_true

/-- What can stand behind a value: it does not go on with a word, nor does it open a record. -/
def Ends (s : List Char) : Prop := s.takeWhile isWordChar = [] ∧ s.head? ≠ some '('

end Text

open Text (isWordChar IsWord Ends SeparateBefore eq_of_run eq_of_bracketed_before)

/-- In every record that stands in the value, at any depth, the schema and the fields have
words for names. -/
def Value.WordNamed (v : Value) : Prop :=
  ∀ r, (Value.record r).Occurs v → IsWord r.schema ∧ ∀ name ∈ r.names, IsWord name

namespace Value.WordNamed

theorem absent : Value.WordNamed .absent := fun _ h => by cases h

theorem text (content : String) : Value.WordNamed (.text content) := fun _ h => by cases h

theorem list {items : List Value} (h : ∀ v ∈ items, v.WordNamed) :
    Value.WordNamed (.list items) := by
  intro r hr
  cases hr with
  | item member inside => exact h _ member r inside

theorem record {r : Record} (hschema : IsWord r.schema)
    (hfields : ∀ p ∈ r.fields, IsWord p.1 ∧ p.2.WordNamed) : Value.WordNamed (.record r) := by
  intro r' hr'
  cases hr' with
  | here =>
      refine ⟨hschema, fun name hname => ?_⟩
      obtain ⟨p, hp, rfl⟩ := List.mem_map.1 hname
      exact (hfields p hp).1
  | field member inside => exact (hfields _ member).2 r' inside

theorem item {items : List Value} (h : (Value.list items).WordNamed) {v : Value}
    (hv : v ∈ items) : v.WordNamed :=
  fun r hr => h r (.item hv hr)

theorem schema {r : Record} (h : (Value.record r).WordNamed) : IsWord r.schema :=
  (h r .here).1

theorem field {r : Record} (h : (Value.record r).WordNamed) {p : String × Value}
    (hp : p ∈ r.fields) : IsWord p.1 ∧ p.2.WordNamed :=
  ⟨(h r .here).2 p.1 (List.mem_map_of_mem hp), fun r' hr' => h r' (.field hp hr')⟩

end Value.WordNamed

/-! ## Text of values -/

/-- A field of a record as it is written. -/
def fieldText (p : String × Value) : List Char := p.1.toList ++ '=' :: p.2.displayText

theorem displayItems_cons (v : Value) (rest : List Value) :
    displayItems (v :: rest) =
      v.displayText ++ rest.flatMap fun w => ',' :: ([' '] ++ w.displayText) := by
  induction rest generalizing v with
  | nil => simp [displayItems]
  | cons w rest ih => simp [displayItems, ih]

theorem displayFields_cons (p : String × Value) (rest : List (String × Value)) :
    displayFields (p :: rest) =
      fieldText p ++ rest.flatMap fun q => ',' :: ([' '] ++ fieldText q) := by
  induction rest generalizing p with
  | nil => simp [displayFields, fieldText]
  | cons q rest ih => simp [displayFields, fieldText, ih]

theorem displayText_record (r : Record) :
    (Value.record r).displayText = r.schema.toList ++ '(' :: (displayFields r.fields ++ [')']) := by
  obtain ⟨schema, fields⟩ := r
  simp [Value.displayText, Record.displayText]

/-- The characters with which the text of a value begins. -/
def Value.Opens (c : Char) : Value → Prop
  | .absent => c = 'N'
  | .text _ => c = '"'
  | .list _ => c = '['
  | .record _ => isWordChar c = true ∨ c = '('

theorem Value.WordNamed.opens {v : Value} (h : v.WordNamed) :
    ∃ c rest, v.displayText = c :: rest ∧ v.Opens c := by
  cases v with
  | absent => exact ⟨_, _, rfl, rfl⟩
  | text content => exact ⟨_, _, rfl, rfl⟩
  | list items => exact ⟨_, _, by rw [displayText]; rfl, rfl⟩
  | record r =>
      have hword := h.schema
      rw [displayText_record]
      unfold IsWord at hword
      cases hschema : r.schema.toList with
      | nil => exact ⟨_, _, rfl, .inr rfl⟩
      | cons c rest =>
          rw [hschema] at hword
          exact ⟨_, _, rfl, .inl (hword c List.mem_cons_self)⟩

/-- Values whose texts begin alike open alike. -/
theorem Value.WordNamed.opens_same {v w : Value} (hv : v.WordNamed) (hw : w.WordNamed)
    {s t : List Char} (heq : v.displayText ++ s = w.displayText ++ t) :
    ∃ c, v.Opens c ∧ w.Opens c := by
  obtain ⟨c, rest, htext, hopens⟩ := hv.opens
  obtain ⟨d, rest', htext', hopens'⟩ := hw.opens
  rw [htext, htext'] at heq
  injection heq with hcd _
  subst hcd
  exact ⟨c, hopens, hopens'⟩

theorem Value.WordNamed.ne_close {v : Value} (h : v.WordNamed) (s t : List Char) :
    v.displayText ++ s ≠ ']' :: t := by
  obtain ⟨c, rest, htext, hopens⟩ := h.opens
  rw [htext]
  intro heq
  injection heq with hclose _
  subst hclose
  cases v <;> exact absurd hopens (by simp only [Opens]; decide)

theorem fieldText_ne_close {p : String × Value} (h : IsWord p.1) (s t : List Char) :
    fieldText p ++ s ≠ ')' :: t := by
  intro heq
  unfold IsWord at h
  rw [fieldText] at heq
  cases hname : p.1.toList with
  | nil =>
      rw [hname] at heq
      injection heq with hclose _
      exact absurd hclose (by decide)
  | cons c rest =>
      rw [hname] at heq h
      injection heq with hclose _
      subst hclose
      exact absurd (h ')' List.mem_cons_self) (by decide)

/-! ## Values apart -/

/-- What stands behind `None` opens no record, so that it is no name of a schema. -/
theorem absent_ne_record {r : Record} (h : IsWord r.schema) {s t : List Char} (hs : Ends s) :
    Value.absent.displayText ++ s ≠ (Value.record r).displayText ++ t := by
  intro heq
  rw [displayText_record, List.append_assoc] at heq
  have hnone : ∀ c ∈ Value.absent.displayText, isWordChar c = true := List.all_eq_true.1 rfl
  obtain ⟨-, hbehind⟩ := eq_of_run hnone h hs.1 rfl heq
  rw [hbehind] at hs
  exact hs.2 rfl

/-- Values whose texts begin alike are of the same kind. -/
theorem Value.WordNamed.kind_eq {v w : Value} (hv : v.WordNamed) (hw : w.WordNamed)
    {s t : List Char} (hs : Ends s) (ht : Ends t)
    (heq : v.displayText ++ s = w.displayText ++ t) : v.kind = w.kind := by
  obtain ⟨c, hopens, hopens'⟩ := hv.opens_same hw heq
  cases v with
  | absent =>
      cases hopens
      cases w with
      | absent => rfl
      | record r => exact absurd heq (absent_ne_record hw.schema hs)
      | text content | list items => exact absurd hopens' (by simp only [Opens]; decide)
  | text content =>
      cases hopens
      cases w with
      | text content' => rfl
      | _ => exact absurd hopens' (by simp only [Opens]; decide)
  | list items =>
      cases hopens
      cases w with
      | list items' => rfl
      | _ => exact absurd hopens' (by simp only [Opens]; decide)
  | record r =>
      cases w with
      | record r' => rfl
      | absent => exact absurd heq.symm (absent_ne_record hv.schema ht)
      | text content | list items =>
          cases hopens'
          exact absurd hopens (by simp only [Opens]; decide)

/-- A field is separate if its value is. -/
theorem separate_fieldText {p : String × Value} (hname : IsWord p.1)
    (h : SeparateBefore Value.WordNamed Ends Value.displayText p.2) :
    SeparateBefore (fun q => IsWord q.1 ∧ q.2.WordNamed) Ends fieldText p := by
  rintro q ⟨hname', hq⟩ s t hs ht heq
  rw [fieldText, fieldText, List.append_assoc, List.append_assoc] at heq
  obtain ⟨hkey, hrest⟩ := eq_of_run hname hname' rfl rfl heq
  injection hrest with _ hvalue
  obtain ⟨hv, hst⟩ := h q.2 hq s t hs ht hvalue
  exact ⟨Prod.ext (String.toList_inj.1 hkey) hv, hst⟩

/-- A list is separate if its items are. -/
theorem separate_list {items : List Value} (hnamed : ∀ v ∈ items, v.WordNamed)
    (h : ∀ v ∈ items, SeparateBefore Value.WordNamed Ends Value.displayText v)
    {items' : List Value} (hnamed' : ∀ v ∈ items', v.WordNamed) {s t : List Char}
    (heq : (Value.list items).displayText ++ s = (Value.list items').displayText ++ t) :
    items = items' ∧ s = t := by
  rw [Value.displayText, Value.displayText, List.append_assoc, List.append_assoc] at heq
  injection heq with _ hinside
  have hends : ∀ s, Ends (',' :: s) ∧ Ends (']' :: s) :=
    fun s => ⟨⟨rfl, by simp⟩, rfl, by simp⟩
  exact eq_of_bracketed_before [' '] rfl displayItems_cons (by decide) hends
    (fun _ hv => hv.ne_close) hnamed' (fun v hv => ⟨hnamed v hv, h v hv⟩) hinside

/-- A record is separate if the values of its fields are. -/
theorem separate_record {r r' : Record} (hr : (Value.record r).WordNamed)
    (hr' : (Value.record r').WordNamed)
    (h : ∀ p ∈ r.fields, SeparateBefore Value.WordNamed Ends Value.displayText p.2)
    {s t : List Char}
    (heq : (Value.record r).displayText ++ s = (Value.record r').displayText ++ t) :
    r = r' ∧ s = t := by
  rw [displayText_record, displayText_record, List.append_assoc, List.append_assoc] at heq
  obtain ⟨hschema, hrest⟩ := eq_of_run hr.schema hr'.schema rfl rfl heq
  rw [List.cons_append, List.cons_append, List.append_assoc, List.append_assoc] at hrest
  injection hrest with _ hinside
  have hends : ∀ s, Ends (',' :: s) ∧ Ends (')' :: s) :=
    fun s => ⟨⟨rfl, by simp⟩, rfl, by simp⟩
  obtain ⟨hfields, hst⟩ := eq_of_bracketed_before [' '] rfl displayFields_cons (by decide) hends
    (fun _ hp => fieldText_ne_close hp.1) (fun _ => hr'.field)
    (fun p hp => ⟨hr.field hp, separate_fieldText (hr.field hp).1 (h p hp)⟩) hinside
  obtain ⟨schema, fields⟩ := r
  obtain ⟨schema', fields'⟩ := r'
  rw [Record.mk.injEq]
  exact ⟨⟨String.toList_inj.1 hschema, hfields⟩, hst⟩

/-- The text of every value is separate, as long as nothing stands behind it that could be
part of it. -/
theorem separate_displayText {v : Value} (hv : v.WordNamed) :
    SeparateBefore Value.WordNamed Ends Value.displayText v := by
  induction v using Value.nested_induction with
  | absent =>
      intro w hw s t hs ht heq
      have hkind := hv.kind_eq hw hs ht heq
      cases w with
      | absent => exact ⟨rfl, List.append_cancel_left heq⟩
      | _ => cases hkind
  | text content =>
      intro w hw s t hs ht heq
      have hkind := hv.kind_eq hw hs ht heq
      cases w with
      | text content' =>
          rw [Value.displayText, Value.displayText] at heq
          obtain ⟨hchars, hst⟩ := Text.separate_quoteList content.toList content'.toList s t heq
          exact ⟨by rw [String.toList_inj.1 hchars], hst⟩
      | _ => cases hkind
  | list items ih =>
      intro w hw s t hs ht heq
      have hkind := hv.kind_eq hw hs ht heq
      cases w with
      | list items' =>
          obtain ⟨hitems, hst⟩ := separate_list (fun _ => hv.item)
            (fun x hx => ih x hx (hv.item hx)) (fun _ => hw.item) heq
          exact ⟨by rw [hitems], hst⟩
      | _ => cases hkind
  | record r ih =>
      intro w hw s t hs ht heq
      have hkind := hv.kind_eq hw hs ht heq
      cases w with
      | record r' =>
          obtain ⟨hsame, hst⟩ := separate_record hv hw
            (fun p hp => ih p hp (hv.field hp).2) heq
          exact ⟨by rw [hsame], hst⟩
      | _ => cases hkind

/-- Values with the same text are the same, if the names in them are words. -/
theorem Value.WordNamed.eq_of_displayText {v w : Value} (hv : v.WordNamed) (hw : w.WordNamed)
    (h : v.displayText = w.displayText) : v = w := by
  have hend : Ends [] := ⟨rfl, by simp⟩
  have heq : v.displayText ++ [] = w.displayText ++ [] := by rw [h]
  exact (separate_displayText hv w hw [] [] hend hend heq).1

/-- **The text of a value is unambiguous**: where schemas and fields have words for names,
values are equal exactly if they have the same text, and so are records. -/
theorem Value.display_unambiguous :
    (∀ v w : Value, v.WordNamed → w.WordNamed → (v.display = w.display ↔ v == w)) ∧
      ∀ r r' : Record, (Value.record r).WordNamed → (Value.record r').WordNamed →
        (r.display = r'.display ↔ r == r') := by
  refine ⟨fun v w hv hw => ?_, fun r r' hr hr' => ?_⟩
  · rw [beq_iff_eq]
    refine ⟨fun h => ?_, fun h => by rw [h]⟩
    exact hv.eq_of_displayText hw (String.ofList_inj.1 h)
  · rw [beq_iff_eq]
    refine ⟨fun h => ?_, fun h => by rw [h]⟩
    have htext : (Value.record r).displayText = (Value.record r').displayText := by
      rw [Value.displayText, Value.displayText]
      exact String.ofList_inj.1 h
    exact Value.record.inj (hr.eq_of_displayText hr' htext)

/-- With other names the text of a field can be taken for that of several. -/
example : (⟨"Page", [("a=None, b", .absent)]⟩ : Record).display =
    (⟨"Page", [("a", .absent), ("b", .absent)]⟩ : Record).display := rfl

namespace Displayed

/-- A record, nothing, an empty list and a gap between items. -/
def plain : Record := ⟨"Page", [
  ("link", .record ⟨"None", [("to", .text "1")]⟩),
  ("names", .list [.absent, .list [], .text "a", .text "b"])]⟩

/-- Texts that look like these. -/
def posing : Record := ⟨"Page", [
  ("link", .text "None(to=\"1\")"),
  ("names", .list [.text "None", .text "[]", .text "a\", \"b"])]⟩

theorem wordNamed_plain : (Value.record plain).WordNamed := by
  refine .record (by decide) fun p hp => ?_
  simp only [plain, List.mem_cons, List.not_mem_nil, or_false] at hp
  obtain rfl | rfl := hp
  · refine ⟨by decide, .record (by decide) fun q hq => ?_⟩
    obtain rfl := List.mem_singleton.1 hq
    exact ⟨by decide, .text _⟩
  · refine ⟨by decide, .list fun v hv => ?_⟩
    simp only [List.mem_cons, List.not_mem_nil, or_false] at hv
    obtain rfl | rfl | rfl | rfl := hv
    · exact .absent
    · exact .list (by simp)
    · exact .text _
    · exact .text _

theorem wordNamed_posing : (Value.record posing).WordNamed := by
  refine .record (by decide) fun p hp => ?_
  simp only [posing, List.mem_cons, List.not_mem_nil, or_false] at hp
  obtain rfl | rfl := hp
  · exact ⟨by decide, .text _⟩
  · refine ⟨by decide, .list fun v hv => ?_⟩
    simp only [List.mem_cons, List.not_mem_nil, or_false] at hv
    obtain rfl | rfl | rfl := hv <;> exact .text _

/-- Texts that pose as records, lists, gaps and nothing are told from them. -/
theorem display_posing :
    (Value.record plain).WordNamed ∧ (Value.record posing).WordNamed ∧
      (Value.record plain).display ≠ (Value.record posing).display ∧
      plain.display ≠ posing.display := by
  obtain ⟨hvalues, hrecords⟩ := Value.display_unambiguous
  have hne : plain ≠ posing := by simp [plain, posing]
  refine ⟨wordNamed_plain, wordNamed_posing, fun h => ?_, fun h => ?_⟩
  · have hsame := (hvalues _ _ wordNamed_plain wordNamed_posing).1 h
    rw [beq_iff_eq] at hsame
    exact hne (Value.record.inj hsame)
  · have hsame := (hrecords _ _ wordNamed_plain wordNamed_posing).1 h
    exact hne (beq_iff_eq.1 hsame)

end Displayed

end Glean
