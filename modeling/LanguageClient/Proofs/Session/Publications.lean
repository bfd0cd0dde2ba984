import LanguageClient.Proofs.Json.Records
import LanguageClient.Proofs.Uri.File
import LanguageClient.Session.Bulletin

namespace LanguageClient
open Protocol

namespace Bulletin

variable {b b' b'' : Bulletin} {number : Nat} {name uri : String} {reactions : List Reaction}
variable {publish : Publish} {subscribers : List Subscriber}

-- What holds of a bulletin after the subscribers have done something: it has the same diagnostics,
-- and a number that was given out and is free stays free.
structure Keeps (b b' : Bulletin) : Prop where
  latest : b'.latest = b.latest
  issued : b.issued ≤ b'.issued
  free   : ∀ number < b.issued, ¬b.isSubscribed number → ¬b'.isSubscribed number

theorem Keeps.refl : b.Keeps b :=
  ⟨rfl, Nat.le_refl _, fun _ _ h => h⟩

theorem Keeps.trans (h : b.Keeps b') (h' : b'.Keeps b'') : b.Keeps b'' where
  latest := h'.latest.trans h.latest
  issued := Nat.le_trans h.issued h'.issued
  free number hn hf := h'.free number (Nat.lt_of_lt_of_le hn h.issued) (h.free number hn hf)

theorem keeps_subscribe : b.Keeps (b.subscribe name reactions) where
  latest := rfl
  issued := Nat.le_succ _
  free number hn hf := by
    have hi : b.issued ≠ number := Nat.ne_of_gt hn
    simp only [isSubscribed, List.any_eq_true, not_exists, not_and] at hf
    simpa [isSubscribed, subscribe, hi] using hf

theorem keeps_remove : b.Keeps (b.remove number) where
  latest := rfl
  issued := Nat.le_refl _
  free n _ hf := by
    simp only [isSubscribed, List.any_eq_true, not_exists, not_and] at hf ⊢
    exact fun s hs => hf s (List.mem_filter.mp hs).left

theorem keeps_unsubscribe : b.Keeps (b.unsubscribe name) := by
  rw [unsubscribe]
  split
  · exact keeps_remove
  · exact .refl

theorem keeps_react : b.Keeps (b.react reactions).1 := by
  fun_induction react b reactions
  case case1 => exact .refl
  case case2 => exact .refl
  case case3 => exact .refl
  case case4 hi => exact keeps_unsubscribe.trans hi
  case case5 hi => exact keeps_subscribe.trans hi

theorem keeps_tell : b.Keeps (b.tell publish subscribers).1 := by
  induction subscribers generalizing b
  case nil => exact .refl
  case cons s rest hi =>
    rw [tell]
    split
    · exact keeps_react.trans hi
    · exact hi

-- A subscriber is called, unless it has been removed when its turn comes.
theorem tell_calls {s : Subscriber} (hs : s ∈ subscribers) (hn : s.number < b.issued) :
    (∃ verdict, ⟨s.number, s.name, publish, verdict⟩ ∈ (b.tell publish subscribers).2) ∨
    ¬(b.tell publish subscribers).1.isSubscribed s.number := by
  induction subscribers generalizing b
  case nil => cases hs
  case cons r rest hi =>
    rw [tell]
    split
    case isTrue hr =>
      obtain rfl | hs := List.mem_cons.mp hs
      · exact .inl ⟨_, List.mem_cons_self ..⟩
      · have hk : b.Keeps (b.react r.reactions).1 := keeps_react
        obtain ⟨verdict, hd⟩ | hf := hi hs (Nat.lt_of_lt_of_le hn hk.issued)
        · exact .inl ⟨verdict, List.mem_cons_of_mem _ hd⟩
        · exact .inr hf
    case isFalse hr =>
      obtain rfl | hs := List.mem_cons.mp hs
      · exact .inr (keeps_tell.free s.number hn hr)
      · exact hi hs hn

theorem diagnostics_publish :
    (b.publish publish).1.diagnostics publish.uri = publish.diagnostics := by
  have hl : (b.publish publish).1.latest = (b.put publish).latest :=
    keeps_tell.latest
  rw [diagnostics, hl]
  simp [put]

structure Announces (n : Rpc.Notification) (uri : String) (ds : List Diagnostic) : Prop where
  method : n.method = Publish.method
  params : ∃ (members : Members) (js : List Json) (version : Option Json) (v : Option Int),
    n.params = .obj members ∧
    members.Gives "uri" (some (.str uri)) ∧
    members.Gives "diagnostics" (some (.arr js)) ∧ Reader.items Diagnostic.read js = .ok ds ∧
    members.Gives "version" version ∧
      version.elim (.ok none) (Reader.optional Reader.int32) = .ok v

structure Hears (b : Bulletin) (n : Rpc.Notification) (uri : String) (ds : List Diagnostic) : Prop where
  kept   : (b.receive n).bulletin.diagnostics uri = ds
  called : ∀ s ∈ b.subscribers, s.number < b.issued →
    (∃ d ∈ (b.receive n).deliveries,
      d.number = s.number ∧ d.name = s.name ∧ d.publish.uri = uri ∧ d.publish.diagnostics = ds) ∨
    ¬(b.receive n).bulletin.isSubscribed s.number

section Publications

variable {n : Rpc.Notification} {ds : List Diagnostic}

theorem readUri_of_isOk (h : (Uri.Reference.check uri.toList).isOk) : readUri (.str uri) = .ok uri := by
  simp only [readUri, Reader.string]
  split
  case h_1 he => simp [he, Except.isOk, Except.toBool] at h
  case h_2    => rfl

theorem readUri_of_not_isOk (h : ¬(Uri.Reference.check uri.toList).isOk) :
    ∃ e, readUri (.str uri) = .error e := by
  simp only [readUri, Reader.string]
  split
  case h_1    => exact ⟨_, rfl⟩
  case h_2 he => simp [he, Except.isOk, Except.toBool] at h

theorem Announces.receive_eq (h : Announces n uri ds) (hu : (Uri.Reference.check uri.toList).isOk) :
    ∃ p : Publish, p.uri = uri ∧ p.diagnostics = ds ∧ (b.receive n).bulletin = (b.publish p).1 ∧
      (b.receive n).deliveries = (b.publish p).2 := by
  have ⟨members, js, version, v, hp, hmu, hmd, hd, hmv, hv⟩ := h.params
  have hr : Publish.read (.obj members) = .ok ⟨uri, ds, v⟩ :=
    Fields.record_of_reads <| Fields.reads_seq (Fields.reads_seq (Fields.reads_map
      (Fields.reads_required hmu (readUri_of_isOk hu))) (Fields.reads_required hmd hd))
      (Fields.reads_optional hmv hv)
  refine ⟨⟨uri, ds, v⟩, rfl, rfl, ?_, ?_⟩
  all_goals simp only [receive, h.method, ↓reduceIte, hp, hr]

theorem Announces.hears (h : Announces n uri ds) (hu : (Uri.Reference.check uri.toList).isOk) :
    b.Hears n uri ds := by
  have ⟨p, hpu, hpd, hb, hd⟩ := h.receive_eq (b := b) hu
  subst hpu hpd
  constructor
  · rw [hb, diagnostics_publish]
  · intro s hs hn
    rw [hb, hd]
    have hp : (b.put p).issued = b.issued := rfl
    obtain ⟨verdict, hm⟩ | hf := tell_calls (b := b.put p) hs hn
    · exact .inl ⟨_, hm, rfl, rfl, rfl, rfl⟩
    · exact .inr hf

theorem Announces.receive_of_not_isOk (h : Announces n uri ds)
    (hu : ¬(Uri.Reference.check uri.toList).isOk) :
    (b.receive n).bulletin = b ∧ (b.receive n).deliveries = [] := by
  have ⟨members, js, version, v, hp, hmu, hmd, hd, hmv, hv⟩ := h.params
  have ⟨e, he⟩ := readUri_of_not_isOk hu
  have ⟨m, hm⟩ : ∃ m, Publish.read (.obj members) = .error m := by
    refine Fields.record_of_complaint rfl ((hmu _).mpr rfl) ?_
    simp [Fields.complaint, he]
  simp only [receive, h.method, ↓reduceIte, hp, hm, and_self]

end Publications

def allClear (uri : String) : Rpc.Notification :=
  ⟨Rpc.version, Publish.method, .obj [("diagnostics", .arr []), ("uri", .str uri)]⟩

theorem announces_allClear (uri : String) : Announces (allClear uri) uri [] := by
  refine ⟨rfl, _, [], none, none, rfl, ?_, ?_, rfl, ?_, rfl⟩
  all_goals simp [Members.Gives, eq_comm]

theorem not_hears_allClear (hu : ¬(Uri.Reference.check uri.toList).isOk) :
    ¬(empty.subscribe name []).Hears (allClear uri) uri [] := by
  intro h
  have ⟨hb, hd⟩ := (announces_allClear uri).receive_of_not_isOk (b := empty.subscribe name []) hu
  have hs : ⟨0, name, []⟩ ∈ (empty.subscribe name []).subscribers := List.mem_singleton_self _
  obtain ⟨d, hm, _⟩ | hf := h.called _ hs Nat.zero_lt_one
  · rw [hd] at hm
    cases hm
  · rw [hb] at hf
    exact hf rfl

-- Publications for the URI of a path are heard if and only if its text, behind an address in brackets,
-- has only percent signs that stand before two hexadecimal digits, at most one number sign, and none of
-- the characters that a reference may not have.
theorem hears_ofPath_iff (path : String) :
    (∀ b n ds, Announces n (Uri.File.ofPath path) ds → Hears b n (Uri.File.ofPath path) ds) ↔
    Uri.Reference.Tidy (Uri.File.behindAddress ((Uri.File.ofPath path).toList.drop 7)) := by
  rw [← Uri.File.isOk_check_ofPath]
  constructor
  case mpr => exact fun hu b n ds h => h.hears hu
  case mp =>
    intro h
    -- One publication, of no diagnostics, is enough to tell.
    by_contra hu
    exact not_hears_allClear hu (h (empty.subscribe "" []) _ _ (announces_allClear _))

theorem hears_ofPath_of_isLocal {path : String} (hl : Uri.File.IsLocal path)
    (hc : ∀ c ∈ path.toList, ¬Uri.File.isSpared c) (h : Announces n (Uri.File.ofPath path) ds) :
    Hears b n (Uri.File.ofPath path) ds :=
  h.hears (hl.isOk_check hc)

theorem lost_of_brackets :
    ∃ b n ds, Announces n (Uri.File.ofPath "/a[1].ts") ds ∧
      ¬Hears b n (Uri.File.ofPath "/a[1].ts") ds := by
  have hu : ¬(Uri.Reference.check (Uri.File.ofPath "/a[1].ts").toList).isOk := by
    decide
  exact ⟨empty.subscribe "" [], _, _, announces_allClear _, not_hears_allClear hu⟩

end Bulletin

end LanguageClient
