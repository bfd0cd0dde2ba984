import LanguageClient.Proofs.Json.Records

namespace LanguageClient

variable {α β : Type} {read : Reader α} {write : α → Json} {name : String} {members : Members} {v : Option Json}

-- What is written for a value that was read is read as this value, and is no `null` unless the value was.
structure Rereads (read : Reader α) (write : α → Json) : Prop where
  again  {j : Json} {a : α} (h : read j = .ok a) : read (write a) = .ok a
  filled {j : Json} {a : α} (hj : j ≠ .null) (h : read j = .ok a) : write a ≠ .null

theorem rereads_json : Rereads Reader.json id where
  again _ := rfl
  filled hj h := by
    cases h
    exact hj

theorem rereads_string : Rereads Reader.string .str where
  again _    := rfl
  filled _ _ := nofun

theorem rereads_bool : Rereads Reader.bool .bool where
  again _    := rfl
  filled _ _ := nofun

theorem rereads_integer {expected : String} {low high : Int} :
    Rereads (Reader.integer expected low high) .int where
  again h    := if_pos (Reader.integer_eq_ok_iff.mp h).right
  filled _ _ := nofun

theorem rereads_nat32 : Rereads Reader.nat32 .nat where
  again {j n} h := by
    cases hi : Reader.integer "u32" 0 4294967295 j
    case error e => simp [Reader.nat32, hi, Except.map] at h
    case ok i =>
      have hn : i.toNat = n := by simpa [Reader.nat32, hi, Except.map] using h
      have hr : ((n : Nat) : Int) = i := by
        have := Reader.integer_eq_ok_iff.mp hi
        omega
      rw [Reader.nat32, Json.nat, hr, rereads_integer.again hi, ← hn]
      rfl
  filled _ _ := nofun

theorem exists_of_items {js : List Json} {as : List α} (h : Reader.items read js = .ok as) :
    ∀ a ∈ as, ∃ j, read j = .ok a := by
  induction js generalizing as
  case nil =>
    cases h
    nofun
  case cons j js hi =>
    rw [Reader.items] at h
    split at h
    case h_1 => cases h
    case h_2 a ha =>
      cases hs : Reader.items read js
      case error => simp [hs, Except.map] at h
      case ok as' =>
        have he : a :: as' = as := by simpa [hs, Except.map] using h
        exact he ▸ List.forall_mem_cons.mpr ⟨⟨j, ha⟩, hi hs⟩

theorem Rereads.list (h : Rereads read write) : Rereads (Reader.list read) fun as => .arr (as.map write) where
  again {j as} hl := by
    cases j
    case arr js =>
      have hr : ∀ a ∈ as, read (write a) = .ok (id a) := fun a ha =>
        have ⟨_, hj⟩ := exists_of_items hl a ha
        h.again hj
      exact (Reader.items_map hr).trans (by rw [List.map_id])
    all_goals cases hl
  filled _ _ := nofun

theorem Rereads.map {f : α → β} {write : β → Json} (h : Rereads read fun a => write (f a)) :
    Rereads (fun j => (read j).map f) write where
  again hj := by
    obtain ⟨a, ha, rfl⟩ := Reader.map_eq_ok hj
    show (read (write (f a))).map f = .ok (f a)
    rw [h.again ha]
    rfl
  filled hn hj := by
    obtain ⟨a, ha, rfl⟩ := Reader.map_eq_ok hj
    exact h.filled hn ha

-- What the second alternative reads must not be written in a form that the first one takes.
theorem Rereads.firstOf {type : String} {first second : Reader α} (h₁ : Rereads first write)
    (h₂ : Rereads second write) (hr : ∀ j a, second j = .ok a → ∃ e, first (write a) = .error e) :
    Rereads (Reader.firstOf type [first, second]) write := by
  constructor
  case again =>
    intro j a h
    obtain hf | hs := Reader.firstOf_cases h
    · simp only [Reader.firstOf, h₁.again hf]
    · obtain ⟨e, he⟩ := hr j a hs
      simp only [Reader.firstOf, he, h₂.again hs]
  case filled =>
    intro j a hn h
    obtain hf | hs := Reader.firstOf_cases h
    · exact h₁.filled hn hf
    · exact h₂.filled hn hs

theorem Members.gives_filterMap {pairs : List (String × Option Json)} (hn : (pairs.map (·.1)).Nodup)
    (hm : (name, v) ∈ pairs) : Gives (pairs.filterMap fun (k, v) => v.map (k, ·)) name v := by
  intro j
  simp only [List.mem_filterMap, Option.map_eq_some_iff, Prod.mk.injEq, Prod.exists]
  constructor
  case mp =>
    rintro ⟨k, w, hw, _, rfl, rfl, rfl⟩
    have he := List.inj_on_of_nodup_map hn hm hw rfl
    exact (Prod.mk.inj he).right
  case mpr =>
    rintro rfl
    exact ⟨name, _, hm, j, rfl, rfl, rfl⟩

namespace Fields

variable {fields : Fields α} {type : String} {get : String → Option Json} {a : α}

-- What is so for every record that may be built from the members.
def ForAll (fields : Fields α) (get : String → Option Json) (p : α → Prop) : Prop :=
  ∀ a, fields.build get = .ok a → p a

theorem forAll_map {g : α → β} {p : β → Prop} (h : fields.ForAll get fun a => p (g a)) :
    (g <$> fields).ForAll get p := by
  intro b hb
  obtain ⟨a, ha, rfl⟩ := built_map hb
  exact h a ha

theorem forAll_seq {f : Fields (α → β)} {p : β → Prop}
    (h : f.ForAll get fun g => fields.ForAll get fun a => p (g a)) : (f <*> fields).ForAll get p := by
  intro b hb
  obtain ⟨g, a, hg, ha, rfl⟩ := built_seq hb
  exact h g hg a ha

theorem forall_record {p : α → Prop} (h : ∀ get, fields.ForAll get p) {j : Json}
    (hr : record type fields j = .ok a) : p a := by
  cases j
  case obj members => exact h _ a (built_of_record hr)
  case arr items =>
    simp only [record] at hr
    split at hr
    case h_1 => cases hr
    case h_2 => exact h _ a hr
  all_goals cases hr

-- What is written for a record is an object in which the fields are read as its values.
def Rewrites (fields : Fields α) (write : α → Json) (a : α) : Prop :=
  ∃ pairs, write a = .object pairs ∧ fields.Reads (Members.ofList pairs) a

theorem rewrites_objectOf {write : α → Json} {pairs : List (String × Option Json)}
    (hw : write a = .objectOf pairs) (hn : (pairs.map (·.1)).Nodup)
    (hr : ∀ members : Members, (∀ p ∈ pairs, members.Gives p.1 p.2) → fields.Reads members a) :
    fields.Rewrites write a :=
  ⟨_, hw, hr _ fun _ hp => .ofList (Members.gives_filterMap hn hp)⟩

theorem rereads_record (h : ∀ get, fields.ForAll get (fields.Rewrites write)) :
    Rereads (record type fields) write where
  again hr := by
    obtain ⟨pairs, hw, hp⟩ := forall_record h hr
    rw [hw]
    exact record_of_reads hp
  filled _ hr hn := by
    obtain ⟨pairs, hw, _⟩ := forall_record h hr
    cases hw.symm.trans hn

theorem rereads_required (h : Rereads read write) (hb : (required name read).build get = .ok a)
    (hg : members.Gives name (some (write a))) : (required name read).Reads members a :=
  have ⟨_, _, hr⟩ := built_required hb
  reads_required hg (h.again hr)

theorem rereads_optional {a : Option α} (h : Rereads read write) (hb : (optional name read).build get = .ok a)
    (hg : members.Gives name (a.map write)) : (optional name read).Reads members a := by
  refine reads_optional hg ?_
  cases a
  case none   => rfl
  case some a =>
    -- The value was read from something else than `null`, so that it is written as something else.
    obtain ⟨j, hj, hr⟩ : ∃ j, j ≠ .null ∧ read j = .ok a := by
      simp only [optional] at hb
      split at hb
      case h_1     => cases hb
      case h_2 j _ =>
        by_cases hj : j = .null
        case pos =>
          rw [hj] at hb
          cases hb
        case neg =>
          rw [Reader.optional_of_ne_null hj] at hb
          obtain ⟨_, hr, he⟩ := Reader.map_eq_ok hb
          exact ⟨j, hj, Option.some.inj he ▸ hr⟩
    rw [Option.map_some, Option.elim_some, Reader.optional_of_ne_null (h.filled hj hr), h.again hr]
    rfl

end Fields
end LanguageClient
