import Mathlib.Data.List.Forall2
import PropertyGraph.Json.Source
import PropertyGraph.Proofs.DictLookup

/-!
# Reading what a source shows

Typed reading asks a source what it is: a text, a number, the fields of a struct.  Whatever is
read depends on the answers only, and not on what kind of source gives them.  A source *shows* a
JSON value (`Shows`) if it answers as the value itself would, and so do its parts.

> `Shows.struct?`: the fields of a struct are found under their names, and what was left out is
> missing.

So a type whose values are written as structs is read back from anything that shows the struct.
Values show themselves (`shows_value`).
-/

namespace PropertyGraph

variable {τ α : Type}

/-- Things that a source answers for as JSON values would: `R` tells which value a thing shows. -/
structure Shows (src : ValueSource τ) (R : τ → Json → Prop) : Prop where
  null? : ∀ {t j}, R t j → src.null? t = some j.isNull
  text? : ∀ {t s}, R t (.string s) → src.text? t = some s
  choice? : ∀ {t s}, R t (.string s) → src.choice? t = some s
  natural? : ∀ {t n} bits, R t (.integer n) → src.natural? bits t = boundedNatural? bits n
  items? : ∀ {t items}, R t (.array items) → ∃ ts, src.items? t = some ts ∧
    List.Forall₂ R ts items
  members? : ∀ {t members}, R t (.object members) → ∃ ts, src.members? t = some ts ∧
    src.fields? t = some (.named ts) ∧
    List.Forall₂ (fun a b => a.1 = b.1 ∧ R a.2 b.2) ts members
  value? : ∀ {t j}, R t j → src.value? t = some j

/-- Values show themselves. -/
theorem shows_value : Shows Json.source Eq where
  null? := by rintro _ j rfl; rfl
  text? := by rintro _ s rfl; rfl
  choice? := by rintro _ s rfl; rfl
  natural? := by rintro _ n bits rfl; rfl
  items? := by
    rintro _ items rfl
    exact ⟨items, rfl, List.forall₂_same.2 fun _ _ => rfl⟩
  members? := by
    rintro _ members rfl
    exact ⟨members, rfl, rfl, List.forall₂_same.2 fun _ _ => ⟨rfl, rfl⟩⟩
  value? := by rintro _ j rfl; rfl

/-- A list is read if its elements are. -/
theorem mapM_eq_some_of_forall₂ {β γ : Type} {f : β → Option γ} {xs : List β} {ys : List γ}
    (h : List.Forall₂ (fun x y => f x = some y) xs ys) : xs.mapM f = some ys := by
  induction h with
  | nil => rfl
  | cons head _ ih => simp [List.mapM_cons, head, ih]

namespace Source

/-- What a field shows: a value where there is one, and otherwise it is missing. -/
def PartShows (R : τ → Json → Prop) : Part τ → Option Json → Prop
  | .given t, some j => R t j
  | .absent, none => True
  | _, _ => False

variable {R : τ → Json → Prop} {part : Part τ}

/-- A field that shows a value is there. -/
theorem exists_of_shows {j : Json} (h : PartShows R part (some j)) :
    ∃ t, part = .given t ∧ R t j := by
  cases part with
  | given t => exact ⟨t, rfl, h⟩
  | absent => exact h.elim
  | beyond => exact h.elim

theorem required?_of_shows {read : τ → Option α} {j : Json} {x : α}
    (h : PartShows R part (some j)) (hread : ∀ t, R t j → read t = some x) :
    required? read part = some x := by
  obtain ⟨t, rfl, ht⟩ := exists_of_shows h
  exact hread t ht

theorem defaulted?_of_shows {read : τ → Option α} {j : Json} {x default : α}
    (h : PartShows R part (some j)) (hread : ∀ t, R t j → read t = some x) :
    defaulted? default read part = some x := by
  obtain ⟨t, rfl, ht⟩ := exists_of_shows h
  exact hread t ht

theorem defaulted?_of_none (default : α) (read : τ → Option α) (h : PartShows R part none) :
    defaulted? default read part = some default := by
  cases part with
  | given t => exact h.elim
  | absent => rfl
  | beyond => rfl

end Source

namespace Json

/-- The fields of a struct that are written. -/
def present (fields : List (String × Option Json)) : List (String × Json) :=
  fields.filterMap fun f => f.2.map fun v => (f.1, v)

theorem mem_present_iff {fields : List (String × Option Json)} {name : String} {v : Json} :
    (name, v) ∈ present fields ↔ (name, some v) ∈ fields := by
  rw [present, List.mem_filterMap]
  constructor
  · rintro ⟨f, hf, hmap⟩
    obtain ⟨w, hw, heq⟩ := Option.map_eq_some_iff.1 hmap
    obtain ⟨rfl, rfl⟩ := Prod.mk.inj heq
    rwa [← hw]
  · exact fun hf => ⟨_, hf, rfl⟩

variable {fields : List (String × Option Json)} (distinct : (fields.map Prod.fst).Nodup)

include distinct

theorem nodup_present : ((present fields).map Prod.fst).Nodup := by
  refine List.pairwise_map.2 ((List.pairwise_map.1 distinct).filterMap _ ?_)
  intro f g hne m hm m' hm' heq
  obtain ⟨v, -, rfl⟩ := Option.map_eq_some_iff.1 hm
  obtain ⟨w, -, rfl⟩ := Option.map_eq_some_iff.1 hm'
  exact hne heq

/-- A struct has every field that is written, and no other. -/
theorem lookup_struct {name : String} {o : Option Json} (hf : (name, o) ∈ fields) :
    (Dict.collect (present fields)).lookup name = o := by
  refine Option.ext fun v => ?_
  show (Dict.ofList (present fields)).get? name = some v ↔ o = some v
  rw [Dict.get?_ofList_eq_some_iff (nodup_present distinct), mem_present_iff]
  constructor
  · intro hv
    exact congrArg Prod.snd (List.inj_on_of_nodup_map distinct hf hv rfl)
  · rintro rfl
    exact hf

end Json

/-- What is looked up shows what would be found among the members. -/
theorem lookup_of_forall₂ {R : τ → Json → Prop} {ts : List (String × τ)}
    {members : List (String × Json)}
    (hall : List.Forall₂ (fun a b => a.1 = b.1 ∧ R a.2 b.2) ts members) (name : String) :
    Option.Rel R (ts.lookup name) (members.lookup name) := by
  induction hall with
  | nil => exact .none
  | @cons a b _ _ hab _ ih =>
    obtain ⟨key, t⟩ := a
    obtain ⟨key', j⟩ := b
    obtain ⟨rfl, ht⟩ := hab
    rw [List.lookup_cons, List.lookup_cons]
    cases name == key with
    | true => exact .some ht
    | false => exact ih

/-- No declared name is given twice if no name is. -/
theorem fits_of_nodup (names : List String) {ts : List (String × τ)}
    (h : (ts.map Prod.fst).Nodup) : Source.fits names (.named ts) = true := by
  unfold Source.fits
  rw [List.all_eq_true]
  intro name _
  have hcount := List.nodup_iff_count_le_one.1 h name
  rw [List.count_eq_countP, List.countP_map, List.countP_eq_length_filter] at hcount
  exact decide_eq_true hcount

namespace Shows

open Source (PartShows)

variable {src : ValueSource τ} {R : τ → Json → Prop} (h : Shows src R)

include h

/-! ## Lists and maps -/

theorem texts? {t : τ} {ss : List String} (ht : R t (Json.texts ss)) :
    src.texts? t = some ss := by
  obtain ⟨ts, hitems, hall⟩ := h.items? ht
  unfold Source.texts?
  rw [hitems, Option.bind_some]
  refine mapM_eq_some_of_forall₂ ?_
  rw [List.forall₂_map_right_iff] at hall
  exact hall.imp fun _ _ htext => h.text? htext

/-- A map is read value by value. -/
theorem dict? {t : τ} {write : α → Json} {read : τ → Option α} {d : Dict α}
    (hread : ∀ t x, R t (write x) → read t = some x) (ht : R t (Json.ofDict (d.map write))) :
    src.dict? read t = some d := by
  obtain ⟨ts, hmembers, -, hall⟩ := h.members? ht
  have hentries : ts.mapM (fun m => (read m.2).map fun v => (m.1, v)) = some d.entries := by
    refine mapM_eq_some_of_forall₂ ?_
    rw [Dict.map, List.forall₂_map_right_iff] at hall
    refine hall.imp fun m e hm => ?_
    rw [hread m.2 e.2 hm.2, Option.map_some, hm.1]
  have hread : src.dict? read t = (ts.mapM fun m => (read m.2).map fun v => (m.1, v)).bind
      fun entries => some (Dict.ofList entries) := by
    unfold Source.dict?
    rw [hmembers]
    rfl
  rw [hread, hentries, Option.bind_some, Dict.ofList_entries]

theorem properties? {t : τ} {properties : PropertyMap} (ht : R t (Json.ofDict properties)) :
    src.properties? t = some properties := by
  have hsame : properties.map id = properties := by
    refine Dict.ext ?_
    rw [Dict.map]
    exact List.map_id properties.entries
  have hmapped : R t (Json.ofDict (properties.map id)) := by rwa [hsame]
  exact h.dict? (fun _ _ hvalue => h.value? hvalue) hmapped

/-! ## Structs -/

theorem nullable? {t : τ} {write : α → Json} {read : τ → Option α} {x : α}
    (hread : ∀ t x, R t (write x) → read t = some x) (hset : (write x).isNull = false)
    (ht : R t (write x)) : src.nullable? read t = some (some x) := by
  unfold Source.nullable?
  rw [h.null? ht, hset]
  dsimp only
  rw [hread t x ht, Option.map_some]

/-- An optional field is read back, also if it was left out. -/
theorem optional? {part : Part τ} {write : α → Json} {read : τ → Option α} {o : Option α}
    (hread : ∀ t x, R t (write x) → read t = some x) (hset : ∀ x, (write x).isNull = false)
    (hpart : PartShows R part (o.map write)) : src.optional? read part = some o := by
  cases o with
  | none =>
    cases part with
    | given t => exact hpart.elim
    | absent => rfl
    | beyond => exact hpart.elim
  | some x =>
    obtain ⟨t, rfl, ht⟩ := Source.exists_of_shows hpart
    exact h.nullable? hread (hset x) ht

/-- An optional field whose default is to be missing is read back, also if it was left out. -/
theorem defaulted?_nullable? {part : Part τ} {write : α → Json} {read : τ → Option α}
    {o : Option α} (hread : ∀ t x, R t (write x) → read t = some x)
    (hset : ∀ x, (write x).isNull = false) (hpart : PartShows R part (o.map write)) :
    Source.defaulted? none (src.nullable? read) part = some o := by
  cases o with
  | none => exact Source.defaulted?_of_none none _ hpart
  | some x => exact Source.defaulted?_of_shows hpart fun t ht => h.nullable? hread (hset x) ht

/-- **Structs.**  The fields of a struct are found under their names, each as it was written. -/
theorem struct? (names : List String) {t : τ} {fields : List (String × Option Json)}
    (distinct : (fields.map Prod.fst).Nodup) (ht : R t (Json.struct fields)) :
    ∃ part, src.struct? names t = some part ∧ ∀ f ∈ fields, PartShows R (part f.1) f.2 := by
  obtain ⟨ts, -, hfields, hall⟩ := h.members? ht
  have hkeys : ts.map Prod.fst = (Dict.collect (Json.present fields)).map Prod.fst := by
    have hpaired : List.Forall₂ Eq (ts.map Prod.fst)
        ((Dict.collect (Json.present fields)).map Prod.fst) :=
      List.forall₂_map_left_iff.2 (List.forall₂_map_right_iff.2 (hall.imp fun _ _ hm => hm.1))
    rwa [List.forall₂_eq_eq_eq] at hpaired
  have hnodup : (ts.map Prod.fst).Nodup := by
    rw [hkeys]
    exact Dict.nodup_keys_of_ascending (Dict.collect_ascending _)
  refine ⟨Source.partOf names (.named ts), ?_, fun f hf => ?_⟩
  · unfold Source.struct?
    rw [hfields]
    exact if_pos (fits_of_nodup names hnodup)
  · have hfound : Option.Rel R (ts.lookup f.1) f.2 := by
      rw [← Json.lookup_struct distinct hf]
      exact lookup_of_forall₂ hall f.1
    unfold Source.partOf
    dsimp only
    generalize ts.lookup f.1 = found at hfound ⊢
    generalize f.2 = shown at hfound ⊢
    cases hfound with
    | none => trivial
    | some hshown => exact hshown

end Shows
end PropertyGraph
