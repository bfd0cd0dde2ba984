import LanguageClient.Proofs.Json.Values
import Mathlib.Data.List.Nodup

namespace LanguageClient

variable {α β : Type} {name : String} {members pairs : Members} {v : Option Json} {j : Json}

def Members.Gives (members : Members) (name : String) (v : Option Json) : Prop :=
  ∀ j, (name, j) ∈ members ↔ v = some j

theorem Members.Gives.get? (h : members.Gives name v) : Members.get? name members = v := by
  cases hf : Members.get? name members
  case none =>
    rw [Members.get?, Option.map_eq_none_iff, List.find?_eq_none] at hf
    cases v
    case none   => rfl
    case some j => exact absurd (hf _ ((h j).mpr rfl)) (by simp)
  case some j => exact ((h j).mp (mem_of_get? hf)).symm

theorem Members.gives_of_nodup (h : (members.map (·.1)).Nodup) : members.Gives name (get? name members) := by
  intro j
  constructor
  case mpr => exact mem_of_get?
  case mp  =>
    intro hj
    have hs : (get? name members).isSome := by
      rw [get?, Option.isSome_map, List.find?_isSome]
      exact ⟨_, hj, by simp⟩
    obtain ⟨i, hi⟩ := Option.isSome_iff_exists.mp hs
    have he := List.inj_on_of_nodup_map h (mem_of_get? hi) hj rfl
    rw [hi, (Prod.mk.inj he).right]

theorem Members.Ordered.nodup (h : Ordered members) : (members.map (·.1)).Nodup :=
  List.Pairwise.imp ne_of_lt h

theorem Members.Gives.ofList (h : Gives pairs name v) : (ofList pairs).Gives name v := by
  have hr : Gives pairs.reverse name v := fun j => List.mem_reverse.trans (h j)
  intro j
  constructor
  case mp  => exact fun hj => (h j).mp (mem_ofList hj)
  case mpr => exact fun hj => mem_of_get? (get?_ofList.trans (hr.get?.trans hj))

namespace Reader

variable {read : Reader α} {a : α} {b : β}

theorem string_eq_ok_iff {s : String} : string j = .ok s ↔ j = .str s := by
  cases j
  all_goals simp [string]

theorem integer_eq_ok_iff {expected : String} {low high n : Int} :
    integer expected low high j = .ok n ↔ j = .int n ∧ low ≤ n ∧ n ≤ high := by
  constructor
  case mp =>
    intro h
    unfold integer at h
    split at h
    case h_1 =>
      split_ifs at h with hn
      cases h
      exact ⟨rfl, hn⟩
    case h_2 => cases h
  case mpr =>
    rintro ⟨rfl, h⟩
    exact if_pos h

theorem map_eq_ok {ε : Type} {f : α → β} {x : Except ε α} (h : x.map f = .ok b) :
    ∃ a, x = .ok a ∧ f a = b := by
  cases x
  case error => cases h
  case ok a  => exact ⟨a, rfl, Except.ok.inj h⟩

theorem mapError_eq_ok {ε ε' : Type} {f : ε → ε'} {x : Except ε α} {a : α} (h : x.mapError f = .ok a) :
    x = .ok a := by
  cases x
  case error => cases h
  case ok    => exact congrArg Except.ok (Except.ok.inj h)

theorem optional_of_ne_null (h : j ≠ .null) : optional read j = (read j).map some := by
  cases j
  case null => contradiction
  all_goals rfl

theorem items_map {read : Reader β} {write : α → Json} {f : α → β} {as : List α}
    (h : ∀ a ∈ as, read (write a) = .ok (f a)) : items read (as.map write) = .ok (as.map f) := by
  induction as
  case nil          => rfl
  case cons a as hi =>
    have ⟨ha, has⟩ := List.forall_mem_cons.mp h
    rw [List.map_cons, items, ha, hi has]
    rfl

theorem firstOf_cases {type : String} {first second : Reader α} (h : firstOf type [first, second] j = .ok a) :
    first j = .ok a ∨ second j = .ok a := by
  simp only [firstOf] at h
  split at h
  case h_1 hf => exact .inl (hf.trans h)
  case h_2 =>
    split at h
    case h_1 hs => exact .inr (hs.trans h)
    case h_2    => cases h

end Reader

namespace Fields

variable {read : Reader α} {fields : Fields α} {a default : α} {g : α → β} {type : String}

-- The members of an object are read as a record.
structure Reads (fields : Fields α) (members : Members) (a : α) : Prop where
  accepted : ∀ slot ∈ fields.slots, ∀ j, (slot.name, j) ∈ members → slot.complain j = none
  built    : fields.build (fun k => Members.get? k members) = .ok a

theorem complaint_eq_none (h : read j = .ok a) : complaint read j = none := by
  rw [complaint, h]

theorem reads_map (h : fields.Reads members a) : (g <$> fields).Reads members (g a) where
  accepted := h.accepted
  built := by
    have hb : (g <$> fields).build (fun k => Members.get? k members) =
        (fields.build fun k => Members.get? k members).map g := rfl
    rw [hb, h.built]
    rfl

theorem reads_seq {f : Fields (α → β)} (hf : f.Reads members g) (hx : fields.Reads members a) :
    (f <*> fields).Reads members (g a) where
  accepted := by
    intro slot hs
    obtain hs | hs := List.mem_append.mp hs
    · exact hf.accepted slot hs
    · exact hx.accepted slot hs
  built := by
    simp only [Seq.seq, hf.built, hx.built]
    rfl

theorem reads_required (h : members.Gives name (some j)) (hr : read j = .ok a) :
    (required name read).Reads members a where
  accepted := by
    intro slot hs i hi
    cases List.mem_singleton.mp hs
    cases (h i).mp hi
    exact complaint_eq_none hr
  built := by
    simp only [required, h.get?, hr]

theorem reads_defaulting (h : members.Gives name v) (hr : v.elim (.ok default) read = .ok a) :
    (defaulting name read default).Reads members a where
  accepted := by
    intro slot hs i hi
    cases List.mem_singleton.mp hs
    cases (h i).mp hi
    exact complaint_eq_none hr
  built := by
    simp only [defaulting, h.get?]
    cases v
    all_goals exact hr

theorem reads_optional {a : Option α} (h : members.Gives name v)
    (hr : v.elim (.ok none) (Reader.optional read) = .ok a) : (optional name read).Reads members a where
  accepted := by
    intro slot hs i hi
    cases List.mem_singleton.mp hs
    cases (h i).mp hi
    exact complaint_eq_none hr
  built := by
    simp only [optional, h.get?]
    cases v
    all_goals exact hr

theorem memberComplaint_eq_none {slots : List Slot}
    (h : ∀ slot ∈ slots, ∀ j, (slot.name, j) ∈ members → slot.complain j = none) :
    memberComplaint slots members = none := by
  rw [memberComplaint, List.findSome?_eq_none_iff]
  intro (k, j) hj
  rw [Option.bind_eq_none_iff]
  intro slot hs
  have hk : slot.name = k := by simpa using List.find?_some hs
  exact h slot (List.mem_of_find?_eq_some hs) j (hk ▸ hj)

theorem record_of_reads (h : fields.Reads members a) : record type fields (.obj members) = .ok a := by
  simp only [record, memberComplaint_eq_none h.accepted, h.built]

theorem record_of_complaint {slot : Slot} (hs : fields.slots.find? (·.name = name) = some slot)
    (hj : (name, j) ∈ members) (hc : slot.complain j ≠ none) :
    ∃ e, record type fields (.obj members) = .error e := by
  cases hm : memberComplaint fields.slots members
  case some e => exact ⟨e, by simp only [record, hm]⟩
  case none   =>
    rw [memberComplaint, List.findSome?_eq_none_iff] at hm
    have hn := hm _ hj
    simp only [hs, Option.bind_some] at hn
    exact absurd hn hc

section Built

variable {get : String → Option Json} {b : β}

theorem built_of_record (h : record type fields (.obj members) = .ok a) :
    fields.build (fun k => Members.get? k members) = .ok a := by
  simp only [record] at h
  split at h
  · cases h
  · exact h

theorem built_map (h : (g <$> fields).build get = .ok b) : ∃ a, fields.build get = .ok a ∧ b = g a := by
  have hb : (g <$> fields).build get = (fields.build get).map g := rfl
  rw [hb] at h
  cases ha : fields.build get
  case error => simp [ha, Except.map] at h
  case ok a  => exact ⟨a, rfl, by simpa [ha, Except.map, eq_comm] using h⟩

theorem built_seq {f : Fields (α → β)} (h : (f <*> fields).build get = .ok b) :
    ∃ g a, f.build get = .ok g ∧ fields.build get = .ok a ∧ b = g a := by
  simp only [Seq.seq] at h
  split at h
  case h_1    => cases h
  case h_2 hg =>
    obtain ⟨a, ha, hb⟩ := built_map h
    exact ⟨_, a, hg, ha, hb⟩

theorem built_required {read : Reader α} {name : String} (h : (required name read).build get = .ok a) :
    ∃ j, get name = some j ∧ read j = .ok a := by
  simp only [required] at h
  cases hg : get name
  case none   => simp [hg] at h
  case some j => exact ⟨j, rfl, by simpa [hg] using h⟩

theorem built_defaulting (h : (defaulting name read default).build get = .ok a) :
    (get name).elim (.ok default) read = .ok a := by
  simp only [defaulting] at h
  cases hg : get name
  all_goals simpa [hg] using h

theorem built_optional {a : Option α} (h : (optional name read).build get = .ok a) :
    (get name).elim (.ok none) (Reader.optional read) = .ok a := by
  simp only [optional] at h
  cases hg : get name
  all_goals simpa [hg] using h

end Built

section Exact

variable {b : β} {read : Reader α}

theorem reads_map_iff : (g <$> fields).Reads members b ↔ ∃ a, fields.Reads members a ∧ b = g a := by
  constructor
  case mp =>
    intro h
    obtain ⟨a, ha, hb⟩ := built_map h.built
    exact ⟨a, ⟨h.accepted, ha⟩, hb⟩
  case mpr =>
    rintro ⟨a, h, rfl⟩
    exact reads_map h

theorem reads_seq_iff {f : Fields (α → β)} :
    (f <*> fields).Reads members b ↔ ∃ g a, f.Reads members g ∧ fields.Reads members a ∧ b = g a := by
  constructor
  case mp =>
    intro h
    obtain ⟨g, a, hg, ha, hb⟩ := built_seq h.built
    exact ⟨g, a, ⟨fun s hs => h.accepted s (List.mem_append_left _ hs), hg⟩,
      ⟨fun s hs => h.accepted s (List.mem_append_right _ hs), ha⟩, hb⟩
  case mpr =>
    rintro ⟨g, a, hg, ha, rfl⟩
    exact reads_seq hg ha

theorem reads_required_iff (hk : (members.map (·.1)).Nodup) : (required name read).Reads members a ↔
    ∃ j, Members.get? name members = some j ∧ read j = .ok a := by
  constructor
  case mp  => exact fun h => built_required h.built
  case mpr =>
    rintro ⟨j, hj, hr⟩
    exact reads_required (hj ▸ Members.gives_of_nodup hk) hr

theorem reads_defaulting_iff (hk : (members.map (·.1)).Nodup) : (defaulting name read default).Reads members a ↔
    (Members.get? name members).elim (.ok default) read = .ok a where
  mp h  := built_defaulting h.built
  mpr h := reads_defaulting (Members.gives_of_nodup hk) h

theorem reads_optional_iff {a : Option α} (hk : (members.map (·.1)).Nodup) :
    (optional name read).Reads members a ↔
    (Members.get? name members).elim (.ok none) (Reader.optional read) = .ok a where
  mp h  := built_optional h.built
  mpr h := reads_optional (Members.gives_of_nodup hk) h

theorem find?_slot {slots : List Slot} {slot : Slot} (hn : (slots.map (·.name)).Nodup) (hs : slot ∈ slots) :
    slots.find? (·.name = slot.name) = some slot := by
  obtain ⟨found, hf⟩ : ∃ found, slots.find? (·.name = slot.name) = some found :=
    Option.isSome_iff_exists.mp (List.find?_isSome.mpr ⟨slot, hs, by simp⟩)
  have he : found.name = slot.name := by simpa using List.find?_some hf
  rw [hf, List.inj_on_of_nodup_map hn (List.mem_of_find?_eq_some hf) hs he]

theorem record_obj_iff (hn : (fields.slots.map (·.name)).Nodup) :
    record type fields (.obj members) = .ok a ↔ fields.Reads members a := by
  constructor
  case mpr => exact record_of_reads
  case mp  =>
    intro h
    refine ⟨fun slot hs j hj => ?_, built_of_record h⟩
    by_contra hc
    have ⟨e, he⟩ : ∃ e, record type fields (.obj members) = .error e :=
      record_of_complaint (find?_slot hn hs) hj hc
    cases h.symm.trans he

theorem go_eq_none_iff {all slots : List Slot} {items js : List Json} {n : Nat} :
    itemComplaint.go type all items n slots js = none ↔
    js.length = slots.length ∧ ∀ p ∈ slots.zip js, p.1.complain p.2 = none := by
  induction slots generalizing n js
  case nil =>
    cases js
    all_goals simp [itemComplaint.go]
  case cons slot slots hi =>
    cases js
    case nil       => simp [itemComplaint.go]
    case cons j js => simp [itemComplaint.go, hi, and_left_comm]

theorem nodup_named {slots : List Slot} {items : List Json} (hn : (slots.map (·.name)).Nodup)
    (hl : items.length = slots.length) : ((named slots items).map (·.1)).Nodup := by
  rwa [named, List.map_fst_zip (by simp [hl])]

theorem record_arr_iff {items : List Json} (hn : (fields.slots.map (·.name)).Nodup) :
    record type fields (.arr items) = .ok a ↔
    items.length = fields.slots.length ∧ fields.Reads (named fields.slots items) a := by
  have hc : itemComplaint type fields.slots items = none ↔
      items.length = fields.slots.length ∧ ∀ p ∈ fields.slots.zip items, p.1.complain p.2 = none :=
    go_eq_none_iff
  have hm : ∀ {slot j}, (slot, j) ∈ fields.slots.zip items → (slot.name, j) ∈ named fields.slots items := by
    intro slot j hj
    rw [named, List.zip_map_left]
    exact List.mem_map_of_mem hj
  constructor
  case mp =>
    intro h
    simp only [record] at h
    split at h
    case h_1    => cases h
    case h_2 he =>
      have ⟨hl, ha⟩ := hc.mp he
      refine ⟨hl, fun slot hs j hj => ?_, h⟩
      rw [named, List.zip_map_left, List.mem_map] at hj
      obtain ⟨⟨slot', i⟩, hi, he⟩ := hj
      obtain ⟨hk, rfl⟩ := Prod.mk.inj he
      -- No two fields have the same name, so that the item is the one of this field.
      rw [← List.inj_on_of_nodup_map hn (List.of_mem_zip hi).left hs hk]
      exact ha _ hi
  case mpr =>
    intro ⟨hl, h⟩
    have he := hc.mpr ⟨hl, fun p hp => h.accepted p.1 (List.of_mem_zip hp).left p.2 (hm hp)⟩
    simp only [record, he, h.built]

end Exact

end Fields
end LanguageClient
