import PropertyGraph.Proofs.KeyLookup
import PropertyGraph.Proofs.LetterCase

/-!
# Names before tags

A declared name leads to its own field, whatever else there is (`resolve_name`).  For all other
keys the declaration order could decide, because a field's name in one case may be another field's
name in that case.  It does not where the names are ASCII texts that differ in more than case
(`NamesApart`): then at most one field is spelled by a key, in whatever order the fields are.

> Main result (`resolve_precedence`): a key finds the field that it spells, or else the one that
> the last tag with this key names, or else the one whose name differs from it in case only.

A tag without text is no tag, and nothing is found by it (`resolve_emptyTag`).
-/

namespace PropertyGraph

/-- A key spells a field: it is its name as it stands, or in upper or in lower case. -/
def Spells (field key : String) : Prop :=
  key = field ∨ key = Text.upper field ∨ key = Text.lower field

instance (field key : String) : Decidable (Spells field key) :=
  inferInstanceAs (Decidable (key = field ∨ key = Text.upper field ∨ key = Text.lower field))

/-- The last tag with a key is for a field.  An empty text is no key. -/
def LastTag (tags : List Tag) (key field : String) : Prop :=
  ∃ before t after, tags = before ++ t :: after ∧ t.field = field ∧ t.key = key ∧ t.key ≠ "" ∧
    ∀ later ∈ after, later.key ≠ key

/-! ## Spellings of ASCII names -/

section Spellings

variable {field key : String} (h : Text.IsAscii field)

include h

/-- A key that spells a field has its lower-case form. -/
theorem Spells.lower_eq (hspells : Spells field key) : Text.lower key = Text.lower field := by
  rcases hspells with rfl | rfl | rfl
  · rfl
  · exact Text.lower_upper h
  · exact Text.lower_eq_self h.lower

theorem Spells.isAscii (hspells : Spells field key) : Text.IsAscii key := by
  rcases hspells with rfl | rfl | rfl
  · exact h
  · exact h.upper
  · exact h.lower

/-- The lower-case form of a key spells a field exactly if it is that of the field's name. -/
theorem spells_lower_iff : Spells field (Text.lower key) ↔ Text.lower field = Text.lower key := by
  refine ⟨fun hspells => ?_, fun heq => Or.inr (Or.inr heq.symm)⟩
  rw [← hspells.lower_eq h]
  exact Text.lower_eq_self (hspells.isAscii h)

end Spellings

theorem isCaseForm_iff (key field : String) :
    FieldIndex.isCaseForm key field = true ↔ key = Text.upper field ∨ key = Text.lower field := by
  simp [FieldIndex.isCaseForm]

/-! ## Tags -/

theorem taggedLast?_eq_some_iff {tags : List Tag} {key field : String} :
    taggedLast? tags key = some field ↔ LastTag tags key field := by
  unfold taggedLast?
  rw [Option.map_eq_some_iff]
  constructor
  · rintro ⟨t, hfind, hfield⟩
    obtain ⟨htest, after, before, hsplit, hafter⟩ := List.find?_eq_some_iff_append.1 hfind
    simp only [Bool.and_eq_true, beq_iff_eq, Bool.not_eq_eq_eq_not, Bool.not_true,
      String.isEmpty_eq_false_iff] at htest
    refine ⟨before.reverse, t, after.reverse, ?_, hfield, htest.1, htest.2, ?_⟩
    · rw [← List.reverse_reverse tags, hsplit, List.reverse_append, List.reverse_cons,
        List.append_assoc, List.singleton_append]
    · intro later hlater hkey
      have hother := hafter later (List.mem_reverse.1 hlater)
      simp [hkey, ← htest.1, htest.2] at hother
  · rintro ⟨before, t, after, rfl, hfield, hkey, hne, hafter⟩
    refine ⟨t, ?_, hfield⟩
    rw [List.find?_eq_some_iff_append]
    refine ⟨by simp [hkey ▸ hne, hkey], after.reverse, before.reverse, by simp, ?_⟩
    intro later hlater
    simp [hafter later (List.mem_reverse.1 hlater)]

theorem taggedLast?_eq_none_iff {tags : List Tag} {key : String} :
    taggedLast? tags key = none ↔ ∀ t ∈ tags, t.key ≠ "" → t.key ≠ key := by
  unfold taggedLast?
  rw [Option.map_eq_none_iff, List.find?_eq_none]
  refine forall_congr' fun t => ?_
  rw [List.mem_reverse]
  refine imp_congr_right fun _ => ?_
  simp only [Bool.and_eq_true, beq_iff_eq, Bool.not_eq_eq_eq_not, Bool.not_true,
    String.isEmpty_eq_false_iff, not_and]
  exact ⟨fun h hne heq => h heq hne, fun h heq hne => h hne heq⟩

/-! ## Names -/

namespace Shape

variable {s : Shape}

/-- The names are ASCII texts of which no two differ in case only. -/
structure NamesApart (s : Shape) : Prop where
  ascii : ∀ f ∈ s.fields, Text.IsAscii f
  caseless : (s.fields.map Text.lower).Nodup

/-- A key that spells no field names none. -/
theorem named?_eq_none {key : String} (h : ∀ f ∈ s.fields, ¬ Spells f key) :
    s.named? key = none := by
  unfold named?
  rw [if_neg fun hkey => h key hkey (Or.inl rfl), List.find?_eq_none]
  intro f hf hform
  exact h f hf (Or.inr ((isCaseForm_iff key f).1 hform))

/-- A key names a field that it spells. -/
theorem spells_of_named? {key field : String} (h : s.named? key = some field) :
    Spells field key := by
  unfold named? at h
  split at h
  next => exact Or.inl (Option.some.inj h)
  next => exact Or.inr ((isCaseForm_iff key field).1 (List.find?_some h))

namespace NamesApart

variable (h : s.NamesApart)

include h

/-- Fields whose names differ in case only are one field. -/
theorem eq_of_lower {f g : String} (hf : f ∈ s.fields) (hg : g ∈ s.fields)
    (heq : Text.lower f = Text.lower g) : f = g :=
  List.inj_on_of_nodup_map h.caseless hf hg heq

/-- A key names the field that it spells, whatever the declaration order. -/
theorem named?_eq_some {key field : String} (hfield : field ∈ s.fields)
    (hspells : Spells field key) : s.named? key = some field := by
  cases hnamed : s.named? key with
  | none =>
    unfold named? at hnamed
    split at hnamed
    next => cases hnamed
    next hkey =>
      have hnot := List.find?_eq_none.1 hnamed field hfield
      rw [isCaseForm_iff] at hnot
      rcases hspells with rfl | hform
      · exact absurd hfield hkey
      · exact absurd hform hnot
  | some other =>
    have hother := mem_of_named? hnamed
    have hlower := (spells_of_named? hnamed).lower_eq (h.ascii other hother)
    rw [hspells.lower_eq (h.ascii field hfield)] at hlower
    rw [h.eq_of_lower hfield hother hlower]

/-- The lower-case form of a key names the field whose name has it. -/
theorem named?_lower {key field : String} (hfield : field ∈ s.fields)
    (heq : Text.lower field = Text.lower key) : s.named? (Text.lower key) = some field :=
  h.named?_eq_some hfield ((spells_lower_iff (h.ascii field hfield)).2 heq)

/-- The lower-case form of a key names nothing if no name has it. -/
theorem named?_lower_eq_none {key : String}
    (hno : ∀ f ∈ s.fields, Text.lower f ≠ Text.lower key) : s.named? (Text.lower key) = none :=
  named?_eq_none fun f hf hspells => hno f hf ((spells_lower_iff (h.ascii f hf)).1 hspells)

end NamesApart

end Shape

/-! ## The rule -/

namespace FieldIndex

variable {s : Shape}

/-- A declared name leads to its own field. -/
theorem resolve_name (tags : List Tag) {field : String} (h : field ∈ s.fields) :
    (ofShape s tags).resolve field = some field := by
  rw [resolve_eq, Shape.named?_self h]
  rfl

/-- **Names before tags, and tags before the disregard of case.**  A declared name leads to its own
field, even where names differ in case only and whatever the tags say.  Where names are ASCII texts
of which no two differ in case only, any key leads to the field that it spells, if there is one; or
else to the field of the last tag with this key, empty tags not counted; or else to the field whose
name has the same lower-case form; and else nowhere. -/
theorem resolve_precedence (s : Shape) (tags : List Tag) :
    (∀ field ∈ s.fields, (ofShape s tags).resolve field = some field) ∧
    (s.NamesApart → ∀ key,
      (∀ field ∈ s.fields, Spells field key → (ofShape s tags).resolve key = some field) ∧
      ((∀ field ∈ s.fields, ¬ Spells field key) →
        (∀ field, LastTag tags key field → (ofShape s tags).resolve key = some field) ∧
        ((∀ t ∈ tags, t.key ≠ "" → t.key ≠ key) →
          (∀ field ∈ s.fields, Text.lower field = Text.lower key →
            (ofShape s tags).resolve key = some field) ∧
          ((∀ field ∈ s.fields, Text.lower field ≠ Text.lower key) →
            (ofShape s tags).resolve key = none)))) := by
  refine ⟨fun field hfield => resolve_name tags hfield, fun apart key => ?_⟩
  rw [resolve_eq]
  refine ⟨fun field hfield hspells => ?_, fun hunspelled => ?_⟩
  · rw [apart.named?_eq_some hfield hspells]
    rfl
  · rw [Shape.named?_eq_none hunspelled, Option.none_or]
    refine ⟨fun field hlast => ?_, fun huntagged => ?_⟩
    · rw [taggedLast?_eq_some_iff.2 hlast]
      rfl
    · rw [taggedLast?_eq_none_iff.2 huntagged, Option.none_or]
      exact ⟨fun field hfield heq => apart.named?_lower hfield heq, apart.named?_lower_eq_none⟩

/-- A contact whose name goes by several tags, two of them without text. -/
def Sample.contact : Shape := ⟨"Contact", ["name", "Age", "city"]⟩

@[inherit_doc Sample.contact]
def Sample.contactTags : List Tag :=
  [⟨"name", ""⟩, ⟨"name", "fullName"⟩, ⟨"Age", ""⟩, ⟨"name", "alias"⟩, ⟨"city", "alias"⟩]

theorem Sample.namesApart_contact : Sample.contact.NamesApart where
  ascii := by simp [contact, Text.IsAscii]
  caseless := by decide +kernel

/-- Keys of contacts: a name in one case, a tag that was given to two fields, and a name in mixed
case. -/
theorem resolve_precedence_contact :
    Sample.contact.NamesApart ∧
      (Spells "Age" "AGE" ∧
        (ofShape Sample.contact Sample.contactTags).resolve "AGE" = some "Age") ∧
      (LastTag Sample.contactTags "alias" "city" ∧
        (ofShape Sample.contact Sample.contactTags).resolve "alias" = some "city") ∧
      (Text.lower "city" = Text.lower "cItY" ∧
        (ofShape Sample.contact Sample.contactTags).resolve "cItY" = some "city") := by
  have apart := Sample.namesApart_contact
  have hrule := (resolve_precedence Sample.contact Sample.contactTags).2 apart
  have hage : Spells "Age" "AGE" := Or.inr (Or.inl (by decide +kernel))
  have halias : LastTag Sample.contactTags "alias" "city" :=
    ⟨Sample.contactTags.take 4, ⟨"city", "alias"⟩, [], rfl, rfl, rfl, by decide, nofun⟩
  have hcity : Text.lower "city" = Text.lower "cItY" := by decide +kernel
  refine ⟨apart, ⟨hage, (hrule "AGE").1 "Age" (by decide) hage⟩, ⟨halias, ?_⟩, hcity, ?_⟩
  · exact ((hrule "alias").2 (by decide +kernel)).1 "city" halias
  · exact (((hrule "cItY").2 (by decide +kernel)).2 (by decide)).1 "city" (by decide) hcity

/-- The last tag without text is for the age of a contact, but the key without text leads
nowhere. -/
theorem resolve_emptyTag :
    Sample.contact.NamesApart ∧ (∀ field ∈ Sample.contact.fields, ¬ Spells field "") ∧
      (∃ before after, Sample.contactTags = before ++ ⟨"Age", ""⟩ :: after ∧
        ∀ later ∈ after, later.key ≠ "") ∧
      (ofShape Sample.contact Sample.contactTags).resolve "" = none := by
  refine ⟨Sample.namesApart_contact, by decide +kernel, ?_, by decide +kernel⟩
  exact ⟨[⟨"name", ""⟩, ⟨"name", "fullName"⟩], [⟨"name", "alias"⟩, ⟨"city", "alias"⟩], rfl,
    by decide⟩

end FieldIndex
end PropertyGraph
