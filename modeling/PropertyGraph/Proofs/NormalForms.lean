import PropertyGraph.Proofs.DictLookup
import PropertyGraph.Proofs.GraphSearch
import PropertyGraph.Record.Schema

/-!
# Normal forms

Reading a value brings it into a normal form.  This file says that it is one: what was read is
read again as it stands (`FieldType.read_read`), for the types of fields as for the records of a
schema.  Structs are where that needs a reason.  They are read from objects and from arrays but
always become objects of all their fields, and those are read again one by one, each by its name,
which no other field may have (`FieldType.distinctNames`).

> `FieldReader.readStruct_readStruct`: a struct of fields that are read as they stand is read as
> it stands.

> Main result (`Schema.decode_read`): so is a record of a schema.
-/

namespace PropertyGraph

/-- An element is found by its name, if no other has it. -/
theorem find?_name {α : Type} {name : α → String} {xs : List α} (distinct : (xs.map name).Nodup)
    {x : α} (h : x ∈ xs) : xs.find? (name · == name x) = some x := by
  cases hfind : xs.find? (name · == name x) with
  | none => simpa using List.find?_eq_none.1 hfind x h
  | some found =>
    have hname : name found = name x := by simpa using List.find?_some hfind
    rw [List.inj_on_of_nodup_map distinct (List.mem_of_find?_eq_some hfind) h hname]

/-- If elements are read again as they stand, then so are lists. -/
theorem mapM_mapM {α : Type} {read : α → Except String α}
    (again : ∀ x y, read x = .ok y → read y = .ok y) {xs ys : List α}
    (h : xs.mapM read = .ok ys) : ys.mapM read = .ok ys := by
  rw [mapM_eq_ok_iff] at h ⊢
  refine List.forall₂_same.2 fun y hy => ?_
  obtain ⟨x, -, hx⟩ := (exists_mem_of_forall₂ h).1 y hy
  exact again x y hx

/-- Elements and what belongs to them, with the fact that it does. -/
theorem forall₂_mem_right {α β : Type} {R : α → β → Prop} {xs : List α} {ys : List β}
    (h : List.Forall₂ R xs ys) : List.Forall₂ (fun x y => y ∈ ys ∧ R x y) xs ys :=
  ((List.forall₂_and_left _ _).2 ⟨fun _ hy => hy, h.flip⟩).flip

/-- Entries under the names of elements have these names as keys. -/
theorem keys_of_forall₂ {α β : Type} {name : α → String} {R : α → String × β → Prop}
    {xs : List α} {values : List (String × β)}
    (h : List.Forall₂ (fun x e => e.1 = name x ∧ R x e) xs values) :
    values.map Prod.fst = xs.map name :=
  (map_eq_of_forall₂ h fun hxe => hxe.1.symm).symm

/-! ## Structs -/

namespace FieldReader

/-- What a field of a struct is read as: its member, or what takes the place of a missing one. -/
def readMember (f : FieldReader) : Option Json → Except String Json
  | some value => f.read value
  | none =>
    match f.unmentioned with
    | some value => .ok value
    | none => .error (Expectation.missingField f.name)

theorem readMember_none_of_eq_some {f : FieldReader} {v : Json} (h : f.unmentioned = some v) :
    f.readMember none = .ok v := by
  simp only [readMember, h]

theorem readMember_none_of_eq_none {f : FieldReader} (h : f.unmentioned = none) :
    f.readMember none = .error (Expectation.missingField f.name) := by
  simp only [readMember, h]

/-- The values of an object are those of the fields, each read on its own. -/
theorem fromMembers_eq_mapM (members : List (String × Json)) (readers : List FieldReader) :
    fromMembers members readers =
      readers.mapM fun f => do return (f.name, ← f.readMember (members.lookup f.name)) := by
  induction readers with
  | nil => rfl
  | cons f rest ih =>
    rw [List.mapM_cons, ← ih, fromMembers]
    cases members.lookup f.name with
    | some value => simp [readMember]
    | none =>
      cases hdefault : f.unmentioned with
      | some value => rw [readMember_none_of_eq_some hdefault]; rfl
      | none => rw [readMember_none_of_eq_none hdefault]; rfl

/-- The values that were read from an object, each by its own field. -/
theorem fromMembers_eq_ok_iff {members : List (String × Json)} {readers : List FieldReader}
    {values : List (String × Json)} : fromMembers members readers = .ok values ↔
      List.Forall₂ (fun f e => e.1 = f.name ∧ f.readMember (members.lookup f.name) = .ok e.2)
        readers values := by
  rw [fromMembers_eq_mapM, mapM_eq_ok_iff]
  refine iff_of_eq (congrArg (List.Forall₂ · readers values) ?_)
  funext f e
  rw [bind_eq_ok_iff]
  refine propext ⟨?_, ?_⟩
  · rintro ⟨value, hvalue, heq⟩
    cases heq
    exact ⟨rfl, hvalue⟩
  · rintro ⟨hname, hvalue⟩
    exact ⟨e.2, hvalue, by rw [← hname]; rfl⟩

/-- A field that reads again as they stand the values that it reads and those that it takes for
granted. -/
structure Stable (f : FieldReader) : Prop where
  read : ∀ v w, f.read v = .ok w → f.read w = .ok w
  unmentioned : ∀ w, f.unmentioned = some w → f.read w = .ok w
  beyond : ∀ w, f.beyond = some w → f.read w = .ok w

theorem Stable.readMember {f : FieldReader} (h : f.Stable) {member : Option Json} {w : Json}
    (hread : f.readMember member = .ok w) : f.read w = .ok w := by
  cases member with
  | some v => exact h.read v w hread
  | none =>
    cases hdefault : f.unmentioned with
    | none => cases hread.symm.trans (readMember_none_of_eq_none hdefault)
    | some v =>
      cases hread.symm.trans (readMember_none_of_eq_some hdefault)
      exact h.unmentioned w hdefault

/-- Values under the names of the fields, each of which its field reads as it stands. -/
def NormalValues (readers : List FieldReader) (values : List (String × Json)) : Prop :=
  List.Forall₂ (fun f e => e.1 = f.name ∧ f.read e.2 = .ok e.2) readers values

theorem normalValues_of_fromMembers {readers : List FieldReader} {values : List (String × Json)}
    {members : List (String × Json)} (stable : ∀ f ∈ readers, f.Stable)
    (h : fromMembers members readers = .ok values) : NormalValues readers values := by
  have hvalues := (List.forall₂_and_left _ _).2 ⟨stable, fromMembers_eq_ok_iff.1 h⟩
  exact hvalues.imp fun f e he => ⟨he.2.1, he.1.readMember he.2.2⟩

/-- The induction is on the fields; those beyond the end of the array take their defaults. -/
theorem normalValues_of_fromItems {expected : String} : ∀ {readers : List FieldReader}
    {values : List (String × Json)} {index : Nat} {items : List Json}, (∀ f ∈ readers, f.Stable) →
      fromItems expected index readers items = .ok values → NormalValues readers values
  | [], _, _, [], _, h => by cases h; exact .nil
  | [], _, _, _ :: _, _, h => by cases h
  | f :: rest, values, index, [], stable, h => by
    obtain ⟨hf, hrest⟩ := List.forall_mem_cons.1 stable
    unfold fromItems at h
    cases hbeyond : f.beyond with
    | none => rw [hbeyond] at h; cases h
    | some v =>
      rw [hbeyond] at h
      obtain ⟨more, hmore, heq⟩ := bind_eq_ok_iff.1 h
      cases heq
      exact .cons ⟨rfl, hf.beyond v hbeyond⟩ (normalValues_of_fromItems hrest hmore)
  | f :: rest, values, index, v :: items, stable, h => by
    obtain ⟨hf, hrest⟩ := List.forall_mem_cons.1 stable
    unfold fromItems at h
    obtain ⟨w, hw, h⟩ := bind_eq_ok_iff.1 h
    obtain ⟨more, hmore, heq⟩ := bind_eq_ok_iff.1 h
    cases heq
    exact .cons ⟨rfl, hf.read v w hw⟩ (normalValues_of_fromItems hrest hmore)

variable {readers : List FieldReader} {values : List (String × Json)}

/-- Members that are values of the fields are accepted, in any order. -/
theorem checkMembers_eq_ok (distinct : (readers.map (·.name)).Nodup) {strict : Bool} :
    ∀ {members : List (String × Json)},
      (∀ m ∈ members, ∃ f ∈ readers, m.1 = f.name ∧ f.read m.2 = .ok m.2) →
        checkMembers readers strict members = .ok ()
  | [], _ => rfl
  | (key, value) :: rest, h => by
    obtain ⟨f, hf, (rfl : key = f.name), hread⟩ := h (key, value) List.mem_cons_self
    unfold checkMembers
    rw [find?_name distinct hf]
    dsimp only at hread ⊢
    rw [hread]
    exact checkMembers_eq_ok distinct fun m hm => h m (List.mem_cons_of_mem _ hm)

/-- Normal values make an object that is read as it stands. -/
theorem readStruct_of_normalValues {name : String} {strict : Bool}
    (distinct : (readers.map (·.name)).Nodup) (h : NormalValues readers values) :
    readStruct name strict readers (.ofDict (Dict.ofList values)) =
      .ok (.ofDict (Dict.ofList values)) := by
  have hcheck : checkMembers readers strict (Dict.ofList values).entries = .ok () :=
    checkMembers_eq_ok distinct fun m hm =>
      (exists_mem_of_forall₂ h).1 m (Dict.mem_of_mem_ofList hm)
  have hkeys : (values.map Prod.fst).Nodup := keys_of_forall₂ h ▸ distinct
  have hvalues : fromMembers (Dict.ofList values).entries readers = .ok values := by
    rw [fromMembers_eq_ok_iff]
    refine (forall₂_mem_right h).imp fun f e ⟨hmem, hname, hread⟩ => ⟨hname, ?_⟩
    have hget : (Dict.ofList values).get? f.name = some e.2 :=
      (Dict.get?_ofList_eq_some_iff hkeys f.name e.2).2 (hname ▸ hmem)
    rw [← hread, ← Dict.get?, hget]
    rfl
  unfold readStruct Json.ofDict
  dsimp only
  rw [hcheck, hvalues]
  rfl

/-- A struct becomes an object of normal values, whether it is read from one or from an array. -/
theorem exists_normalValues {name : String} {strict : Bool} (stable : ∀ f ∈ readers, f.Stable)
    {v w : Json} (h : readStruct name strict readers v = .ok w) :
    ∃ values, NormalValues readers values ∧ w = .ofDict (Dict.ofList values) := by
  unfold readStruct at h
  split at h
  case h_1 members =>
    obtain ⟨_, -, h⟩ := bind_eq_ok_iff.1 h
    obtain ⟨values, hvalues, heq⟩ := bind_eq_ok_iff.1 h
    exact ⟨values, normalValues_of_fromMembers stable hvalues, (Except.ok.inj heq).symm⟩
  case h_2 items =>
    obtain ⟨values, hvalues, heq⟩ := bind_eq_ok_iff.1 h
    exact ⟨values, normalValues_of_fromItems stable hvalues, (Except.ok.inj heq).symm⟩
  case h_3 => cases h

/-- A struct of fields that read their values as they stand is read as it stands. -/
theorem readStruct_readStruct {name : String} {strict : Bool} (stable : ∀ f ∈ readers, f.Stable)
    (distinct : (readers.map (·.name)).Nodup) {v w : Json}
    (h : readStruct name strict readers v = .ok w) : readStruct name strict readers w = .ok w := by
  obtain ⟨values, hvalues, rfl⟩ := exists_normalValues stable h
  exact readStruct_of_normalValues distinct hvalues

end FieldReader

/-! ## Types of fields -/

namespace FieldType

mutual
/-- No struct within the type has two fields of one name. -/
def distinctNames : FieldType → Bool
  | .option type => type.distinctNames
  | .list type => type.distinctNames
  | .map type => type.distinctNames
  | .tuple types => itemsDistinct types
  | .struct _ fields => decide (fields.map Prod.fst).Nodup && membersDistinct fields
  | _ => true

/-- No struct within the types has two fields of one name. -/
def itemsDistinct : List FieldType → Bool
  | [] => true
  | type :: rest => type.distinctNames && itemsDistinct rest

/-- No struct within the types of the fields has two fields of one name. -/
def membersDistinct : List (String × FieldType) → Bool
  | [] => true
  | (_, type) :: rest => type.distinctNames && membersDistinct rest
end

theorem readers_names : ∀ fields : List (String × FieldType),
    (readers fields).map (·.name) = fields.map Prod.fst
  | [] => rfl
  | (name, _) :: rest => congrArg (name :: ·) (readers_names rest)

/-- Only null takes the place of a field that is missing, and only where it can be read. -/
theorem read_unmentioned {type : FieldType} {w : Json} (h : type.unmentioned = some w) :
    type.read w = .ok w := by
  unfold unmentioned at h
  split at h <;> cases h
  rfl

theorem readChoice_readChoice {names : List String} {v w : Json}
    (h : readChoice names v = .ok w) : readChoice names w = .ok w := by
  suffices hname : ∃ name, names.contains name = true ∧ w = .string name by
    obtain ⟨name, hmem, rfl⟩ := hname
    exact if_pos hmem
  unfold readChoice at h
  split at h
  case h_1 name =>
    split at h
    next hmem => exact ⟨name, hmem, (Except.ok.inj h).symm⟩
    next => cases h
  case h_2 name content =>
    split at h
    next hmem =>
      split at h
      next => exact ⟨name, hmem, (Except.ok.inj h).symm⟩
      next => cases h
    next => cases h
  case h_3 => cases h
  case h_4 => cases h

/-- Members that are read as they stand make a map that is. -/
theorem readMap_readMap {read : Json → Except String Json}
    (again : ∀ v w, read v = .ok w → read w = .ok w) {members values : List (String × Json)}
    (h : (members.mapM fun m => do return (m.1, ← read m.2)) = .ok values) :
    ((Dict.ofList values).entries.mapM fun m => do return (m.1, ← read m.2)) =
      .ok (Dict.ofList values).entries := by
  rw [mapM_eq_ok_iff] at h ⊢
  refine List.forall₂_same.2 fun m hm => ?_
  obtain ⟨m', -, hread⟩ := (exists_mem_of_forall₂ h).1 m (Dict.mem_of_mem_ofList hm)
  obtain ⟨w, hw, heq⟩ := bind_eq_ok_iff.1 hread
  cases heq
  exact bind_eq_ok_iff.2 ⟨w, again m'.2 w hw, rfl⟩

mutual
/-- What a type reads it reads again as it stands. -/
theorem read_read : ∀ (type : FieldType), type.distinctNames = true →
    ∀ v w, type.read v = .ok w → type.read w = .ok w
  | .bool, _, v, w, h => by
    unfold read at h
    split at h <;> cases h
    rfl
  | .integer signed bits, _, v, w, h => by
    unfold read at h
    split at h
    next n =>
      split at h
      next hrange =>
        cases h
        unfold read
        exact if_pos hrange
      next => cases h
    next => cases h
  | .float, _, v, w, h => by
    unfold read at h
    split at h <;> cases h <;> rfl
  | .char, _, v, w, h => by
    unfold read at h
    split at h
    next s =>
      split at h
      next hlength =>
        cases h
        unfold read
        exact if_pos hlength
      next => cases h
    next => cases h
  | .text, _, v, w, h => by
    unfold read at h
    split at h <;> cases h
    rfl
  | .any, _, v, w, _ => rfl
  | .option type, hdistinct, v, w, h => by
    have again := read_read type hdistinct
    unfold read at h ⊢
    split at h
    next => cases h; rfl
    next =>
      -- What the inner type reads may itself be null, which the option then reads first.
      split
      next => rfl
      next => exact again v w h
  | .list type, hdistinct, v, w, h => by
    have again := read_read type hdistinct
    unfold read at h
    split at h
    next items =>
      obtain ⟨values, hvalues, heq⟩ := bind_eq_ok_iff.1 h
      cases heq
      unfold read
      exact bind_eq_ok_iff.2 ⟨values, mapM_mapM again hvalues, rfl⟩
    next => cases h
  | .map type, hdistinct, v, w, h => by
    have again := read_read type hdistinct
    unfold read at h
    split at h
    next members =>
      obtain ⟨values, hvalues, heq⟩ := bind_eq_ok_iff.1 h
      cases heq
      unfold read
      refine bind_eq_ok_iff.2 ⟨_, readMap_readMap again hvalues, ?_⟩
      exact congrArg (fun d : Dict Json => Except.ok (Json.object d.entries))
        (Dict.ofList_entries (Dict.ofList values))
    next => cases h
  | .tuple types, hdistinct, v, w, h => by
    unfold read at h
    split at h
    next items =>
      obtain ⟨values, hvalues, heq⟩ := bind_eq_ok_iff.1 h
      cases heq
      unfold read
      exact bind_eq_ok_iff.2 ⟨values, readItems_readItems types hdistinct hvalues, rfl⟩
    next => cases h
  | .choice names, _, v, w, h => by
    unfold read at h ⊢
    exact readChoice_readChoice h
  | .struct name fields, hdistinct, v, w, h => by
    obtain ⟨hnames, hfields⟩ := Bool.and_eq_true_iff.1 hdistinct
    unfold read at h ⊢
    refine FieldReader.readStruct_readStruct (stable_of_mem_readers fields hfields) ?_ h
    rw [readers_names]
    exact of_decide_eq_true hnames

/-- What the types of a tuple read they read again as it stands. -/
theorem readItems_readItems {expected : String} : ∀ (types : List FieldType),
    itemsDistinct types = true → ∀ {index : Nat} {vs ws : List Json},
      readItems expected index types vs = .ok ws → readItems expected index types ws = .ok ws
  | [], _, index, [], ws, h => by cases h; rfl
  | [], _, index, _ :: _, ws, h => by cases h
  | _ :: _, _, index, [], ws, h => by cases h
  | type :: rest, hdistinct, index, v :: vs, ws, h => by
    obtain ⟨htype, hrest⟩ := Bool.and_eq_true_iff.1 hdistinct
    unfold readItems at h
    obtain ⟨w, hw, h⟩ := bind_eq_ok_iff.1 h
    obtain ⟨more, hmore, heq⟩ := bind_eq_ok_iff.1 h
    cases heq
    unfold readItems
    rw [read_read type htype v w hw, readItems_readItems rest hrest hmore]
    rfl

/-- The fields of a struct read again as they stand the values that they read. -/
theorem stable_of_mem_readers : ∀ (fields : List (String × FieldType)),
    membersDistinct fields = true → ∀ f ∈ readers fields, f.Stable
  | [], _, f, hf => by cases hf
  | (name, type) :: rest, hdistinct, f, hf => by
    obtain ⟨htype, hrest⟩ := Bool.and_eq_true_iff.1 hdistinct
    rcases List.mem_cons.1 hf with rfl | hf
    · exact ⟨read_read type htype, fun w h => read_unmentioned h, nofun⟩
    · exact stable_of_mem_readers rest hrest f hf
end

end FieldType

/-! ## Records -/

namespace Schema

/-- A schema as it would describe a type: no struct has two fields of one name, and the value that
a field has in want of another is one of its own. -/
structure Proper (s : Schema) : Prop where
  distinct : (s.fields.map (·.name)).Nodup
  types : ∀ f ∈ s.fields, f.type.distinctNames = true
  defaults : ∀ f ∈ s.fields, ∀ v, f.default? = some v → f.type.read v = .ok v

variable {s : Schema} (proper : s.Proper)

include proper

theorem Proper.stable : ∀ f ∈ s.fields.map Field.reader, f.Stable := by
  refine List.forall_mem_map.2 fun f hf => ⟨f.type.read_read (proper.types f hf), ?_, ?_⟩
  · intro w (h : (f.default? <|> f.type.unmentioned) = some w)
    cases hdefault : f.default? with
    | some v =>
      rw [hdefault] at h
      exact proper.defaults f hf w (hdefault.trans h)
    | none =>
      rw [hdefault] at h
      exact FieldType.read_unmentioned h
  · exact proper.defaults f hf

/-- **Records are in normal form.** What a schema reads, from an object or from an array, is an
object of fields that is decoded as it stands. -/
theorem decode_read {v record : Json} (h : s.read v = .ok record) :
    ∃ fields : Dict Json, record = .ofDict fields ∧ s.recordType.decode fields = .ok record := by
  obtain ⟨values, hvalues, rfl⟩ := FieldReader.exists_normalValues proper.stable h
  have hnames : ((s.fields.map Field.reader).map (·.name)).Nodup := by
    rw [List.map_map]
    exact proper.distinct
  have hread : s.read (.ofDict (Dict.ofList values)) = .ok (.ofDict (Dict.ofList values)) :=
    FieldReader.readStruct_of_normalValues hnames hvalues
  exact ⟨Dict.ofList values, rfl, hread⟩

end Schema
end PropertyGraph
