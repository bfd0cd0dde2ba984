import LanguageClient.Proofs.Json.Recognition
import LanguageClient.Proofs.Rpc.RoundTrip

namespace LanguageClient.Rpc

open Fields

variable {j v : Json} {members : Members}

inductive Optionally {α : Type} (p : Json → α → Prop) : Option Json → Option α → Prop
  | absent : Optionally p none none
  | null   : Optionally p (some .null) none
  | given {j : Json} {a : α} (h : p j a) : Optionally p (some j) (some a)

inductive Versions : Option Json → String → Prop
  | absent : Versions none version
  | given {s : String} : Versions (some (.str s)) s

inductive Identifies : Json → RequestId → Prop
  | number {n : Int} (h : IsInt64 n) : Identifies (.int n) (.number n)
  | text {s : String} : Identifies (.str s) (.text s)

-- An error is an object or the list of its code, message and data.
inductive Reports : Json → ErrorObject → Prop
  | named {members : Members} {n : Int} {s : String} (hc : Members.get? "code" members = some (.int n))
      (hn : IsInt64 n) (hm : Members.get? "message" members = some (.str s)) :
    Reports (.obj members) ⟨n, s, (Members.get? "data" members).bind present?⟩
  | listed {n : Int} {s : String} {data : Json} (hn : IsInt64 n) :
    Reports (.arr [.int n, .str s, data]) ⟨n, s, present? data⟩

-- The message that the members of an object mean, by what is there of a method, an id, a result and an error.
inductive Means (members : Members) : Message → Prop
  | request {version method : String} {id : RequestId} {j : Json}
      (hv : Versions (Members.get? "jsonrpc" members) version)
      (hm : Members.get? "method" members = some (.str method)) (hj : Members.get? "id" members = some j)
      (hi : Identifies j id) :
    Means members (.request ⟨version, id, method, (Members.get? "params" members).getD .null⟩)
  | notification {version method : String} (hv : Versions (Members.get? "jsonrpc" members) version)
      (hm : Members.get? "method" members = some (.str method))
      (hi : Members.get? "id" members = none ∨ Members.get? "id" members = some .null) :
    Means members (.notification ⟨version, method, (Members.get? "params" members).getD .null⟩)
  | response {version : String} {id : Option RequestId} {error : Option ErrorObject}
      (hv : Versions (Members.get? "jsonrpc" members) version) (hm : Members.get? "method" members = none)
      (hr : Members.get? "result" members ≠ none ∨ Members.get? "error" members ≠ none)
      (hi : Optionally Identifies (Members.get? "id" members) id)
      (he : Optionally Reports (Members.get? "error" members) error) :
    Means members (.response ⟨version, id, (Members.get? "result" members).bind present?, error⟩)

theorem int64_eq_ok_iff {n : Int} : Reader.int64 j = .ok n ↔ j = .int n ∧ IsInt64 n :=
  Reader.integer_eq_ok_iff

theorem identifies_iff {id : RequestId} : Identifies j id ↔ j = id.toJson ∧ id.Fits := by
  constructor
  case mp =>
    rintro (h | _)
    · exact ⟨rfl, h⟩
    · exact ⟨rfl, trivial⟩
  case mpr =>
    rintro ⟨rfl, h⟩
    cases id
    case number => exact .number h
    case text   => exact .text

theorem not_identifies_null (id : RequestId) : ¬Identifies .null id := by
  intro h
  cases h

theorem not_reports_null (e : ErrorObject) : ¬Reports .null e := by
  intro h
  cases h

theorem RequestId.read_eq_ok_iff {id : RequestId} : RequestId.read j = .ok id ↔ Identifies j id := by
  constructor
  case mp =>
    intro h
    obtain h | h := Reader.firstOf_cases h
    · obtain ⟨n, hi, rfl⟩ := Reader.map_eq_ok h
      obtain ⟨rfl, hn⟩ := int64_eq_ok_iff.mp hi
      exact .number hn
    · obtain ⟨s, hs, rfl⟩ := Reader.map_eq_ok h
      rw [Reader.string_eq_ok_iff.mp hs]
      exact .text
  case mpr =>
    intro h
    obtain ⟨rfl, hf⟩ := identifies_iff.mp h
    exact read_toJson hf

section Members

variable {α : Type} {read : Reader α} {p : Json → α → Prop} {o : Option Json}

theorem elim_optional_iff {a : Option α} (h : ∀ j ∈ o, ∀ a, read j = .ok a ↔ p j a)
    (hn : ∀ a, ¬p .null a) :
    o.elim (.ok none) (Reader.optional read) = .ok a ↔ Optionally p o a := by
  constructor
  case mp =>
    intro ha
    cases o
    case none   =>
      cases ha
      exact .absent
    case some j =>
      by_cases hj : j = .null
      case pos =>
        subst hj
        cases ha
        exact .null
      case neg =>
        rw [Option.elim_some, Reader.optional_of_ne_null hj] at ha
        obtain ⟨b, hb, rfl⟩ := Reader.map_eq_ok ha
        exact .given ((h j rfl b).mp hb)
  case mpr =>
    rintro (_ | _ | hp)
    · rfl
    · rfl
    case given j a =>
      have hj : j ≠ .null := fun hj => hn a (hj ▸ hp)
      rw [Option.elim_some, Reader.optional_of_ne_null hj, (h j rfl a).mpr hp]
      rfl

theorem elim_version_iff {s : String} : o.elim (.ok version) Reader.string = .ok s ↔ Versions o s := by
  constructor
  case mp =>
    intro h
    cases o
    case none   =>
      cases h
      exact .absent
    case some j =>
      rw [Reader.string_eq_ok_iff.mp h]
      exact .given
  case mpr =>
    rintro (_ | _)
    · rfl
    · rfl

theorem elim_params_iff {params : Json} :
    o.elim (.ok .null) Reader.json = .ok params ↔ params = o.getD .null := by
  cases o
  all_goals simp [Reader.json, eq_comm]

theorem elim_json_iff {a : Option Json} :
    o.elim (.ok none) (Reader.optional Reader.json) = .ok a ↔ a = o.bind present? := by
  rw [optional_json, Except.ok.injEq, eq_comm]

end Members

section Records

variable (hk : (members.map (·.1)).Nodup)
include hk

theorem ErrorObject.reads_iff {e : ErrorObject} : fields.Reads members e ↔
    ∃ n s, Members.get? "code" members = some (.int n) ∧ IsInt64 n ∧
      Members.get? "message" members = some (.str s) ∧
      e = ⟨n, s, (Members.get? "data" members).bind present?⟩ := by
  simp only [fields, reads_seq_iff, reads_map_iff, reads_required_iff hk, reads_optional_iff hk, elim_json_iff,
    int64_eq_ok_iff, Reader.string_eq_ok_iff]
  constructor
  case mp =>
    rintro ⟨_, _, ⟨_, s, ⟨n, ⟨_, hc, rfl, hn⟩, rfl⟩, ⟨_, hm, rfl⟩, rfl⟩, rfl, rfl⟩
    exact ⟨n, s, hc, hn, hm, rfl⟩
  case mpr =>
    rintro ⟨n, s, hc, hn, hm, rfl⟩
    exact ⟨_, _, ⟨_, s, ⟨n, ⟨_, hc, rfl, hn⟩, rfl⟩, ⟨_, hm, rfl⟩, rfl⟩, rfl, rfl⟩

theorem Request.reads_iff {r : Request} : fields.Reads members r ↔
    ∃ version j id method, Versions (Members.get? "jsonrpc" members) version ∧
      Members.get? "id" members = some j ∧ Identifies j id ∧
      Members.get? "method" members = some (.str method) ∧
      r = ⟨version, id, method, (Members.get? "params" members).getD .null⟩ := by
  simp only [fields, reads_seq_iff, reads_map_iff, reads_required_iff hk, reads_defaulting_iff hk,
    elim_params_iff, elim_version_iff, RequestId.read_eq_ok_iff, Reader.string_eq_ok_iff]
  constructor
  case mp =>
    rintro ⟨_, _, ⟨_, method, ⟨_, id, ⟨version, hv, rfl⟩, ⟨j, hj, hi⟩, rfl⟩, ⟨_, hm, rfl⟩, rfl⟩, rfl, rfl⟩
    exact ⟨version, j, id, method, hv, hj, hi, hm, rfl⟩
  case mpr =>
    rintro ⟨version, j, id, method, hv, hj, hi, hm, rfl⟩
    exact ⟨_, _, ⟨_, method, ⟨_, id, ⟨version, hv, rfl⟩, ⟨j, hj, hi⟩, rfl⟩, ⟨_, hm, rfl⟩, rfl⟩, rfl, rfl⟩

theorem Notification.reads_iff {n : Notification} : fields.Reads members n ↔
    ∃ version method, Versions (Members.get? "jsonrpc" members) version ∧
      Members.get? "method" members = some (.str method) ∧
      n = ⟨version, method, (Members.get? "params" members).getD .null⟩ := by
  simp only [fields, reads_seq_iff, reads_map_iff, reads_required_iff hk, reads_defaulting_iff hk,
    elim_params_iff, elim_version_iff, Reader.string_eq_ok_iff]
  constructor
  case mp =>
    rintro ⟨_, _, ⟨_, method, ⟨version, hv, rfl⟩, ⟨_, hm, rfl⟩, rfl⟩, rfl, rfl⟩
    exact ⟨version, method, hv, hm, rfl⟩
  case mpr =>
    rintro ⟨version, method, hv, hm, rfl⟩
    exact ⟨_, _, ⟨_, method, ⟨version, hv, rfl⟩, ⟨_, hm, rfl⟩, rfl⟩, rfl, rfl⟩

end Records

theorem ErrorObject.read_eq_ok_iff {e : ErrorObject} (h : j.Sorted) : ErrorObject.read j = .ok e ↔ Reports j e := by
  have hn : (fields.slots.map (·.name)).Nodup := by decide
  rw [ErrorObject.read]
  cases j
  case obj members =>
    rw [Json.Sorted] at h
    rw [record_obj_iff hn, reads_iff h.left.nodup]
    constructor
    case mp =>
      rintro ⟨n, s, hc, hn, hm, rfl⟩
      exact .named hc hn hm
    case mpr =>
      rintro (⟨hc, hn, hm⟩ | _)
      exact ⟨_, _, hc, hn, hm, rfl⟩
  case arr items =>
    rw [record_arr_iff hn]
    constructor
    case mp =>
      rintro ⟨hl, hr⟩
      obtain ⟨code, message, data, rfl⟩ := List.length_eq_three.mp hl
      obtain ⟨n, s, hc, hi, hm, rfl⟩ := (reads_iff (nodup_named hn hl)).mp hr
      cases hc
      cases hm
      exact .listed hi
    case mpr =>
      rintro (_ | hc)
      exact ⟨rfl, (reads_iff (nodup_named hn rfl)).mpr ⟨_, _, rfl, hc, rfl, rfl⟩⟩
  all_goals
    constructor
    · nofun
    · nofun

theorem Response.reads_iff (hk : (members.map (·.1)).Nodup) (hs : Json.SortedMembers members)
    {r : Response} : fields.Reads members r ↔
    ∃ version id error, Versions (Members.get? "jsonrpc" members) version ∧
      Optionally Identifies (Members.get? "id" members) id ∧
      Optionally Reports (Members.get? "error" members) error ∧
      r = ⟨version, id, (Members.get? "result" members).bind present?, error⟩ := by
  have he : ∀ j ∈ Members.get? "error" members, ∀ e, ErrorObject.read j = .ok e ↔ Reports j e :=
    fun j hj e => ErrorObject.read_eq_ok_iff (Json.sortedMembers_iff.mp hs _ (Members.mem_of_get? hj))
  have hi : ∀ id, (Members.get? "id" members).elim (.ok none) (Reader.optional RequestId.read) = .ok id ↔
      Optionally Identifies (Members.get? "id" members) id :=
    fun _ => elim_optional_iff (fun _ _ _ => RequestId.read_eq_ok_iff) not_identifies_null
  simp only [fields, reads_seq_iff, reads_map_iff, reads_optional_iff hk, reads_defaulting_iff hk, elim_json_iff,
    elim_version_iff, hi, elim_optional_iff he not_reports_null]
  constructor
  case mp =>
    rintro ⟨_, error, ⟨_, _, ⟨_, id, ⟨version, hv, rfl⟩, hi, rfl⟩, rfl, rfl⟩, he, rfl⟩
    exact ⟨version, id, error, hv, hi, he, rfl⟩
  case mpr =>
    rintro ⟨version, id, error, hv, hi, he, rfl⟩
    exact ⟨_, error, ⟨_, _, ⟨_, id, ⟨version, hv, rfl⟩, hi, rfl⟩, rfl, rfl⟩, he, rfl⟩

theorem names_iff {key : String} : Message.names members key ↔
    ∃ j, Members.get? key members = some j ∧ j ≠ .null := by
  rw [Message.names]
  split
  all_goals simp_all

theorem none_or_null_of_not_names {key : String} (h : ¬Message.names members key) :
    Members.get? key members = none ∨ Members.get? key members = some .null := by
  rw [names_iff] at h
  cases hk : Members.get? key members
  case none   => exact .inl rfl
  case some j => exact .inr (congrArg some (not_not.mp fun hn => h ⟨j, hk, hn⟩))

theorem mapped_eq_ok_iff {β : Type} {type : String} {fields : Fields β} {f : β → Message} {m : Message}
    (hn : (fields.slots.map (·.name)).Nodup) :
    ((record type fields (.obj members)).mapError DecodeError.mismatched).map f = .ok m ↔
    ∃ b, fields.Reads members b ∧ m = f b := by
  have hr : ∀ b, fields.Reads members b ↔ record type fields (.obj members) = .ok b :=
    fun b => (record_obj_iff hn).symm
  simp only [hr]
  cases record type fields (.obj members)
  case error => simp [Except.mapError, Except.map]
  case ok b  => simp [Except.mapError, Except.map, eq_comm]

section Kinds

variable {m : Message} {method : String}

theorem means_request (hk : (members.map (·.1)).Nodup) (hm : Members.get? "method" members = some (.str method))
    (hi : Message.names members "id") :
    Means members m ↔ ∃ r, Request.fields.Reads members r ∧ m = .request r := by
  obtain ⟨j, hj, hn⟩ := names_iff.mp hi
  simp only [Request.reads_iff hk]
  constructor
  case mp =>
    intro h
    cases h
    case request hv hm hj hi     => exact ⟨_, ⟨_, _, _, _, hv, hj, hi, hm, rfl⟩, rfl⟩
    case notification hv hm' hi' => simp_all
    case response hm' _ _ _ _    => simp_all
  case mpr =>
    rintro ⟨_, ⟨_, _, _, _, hv, hj, hi, hm, rfl⟩, rfl⟩
    exact .request hv hm hj hi

theorem means_notification (hk : (members.map (·.1)).Nodup)
    (hm : Members.get? "method" members = some (.str method)) (hi : ¬Message.names members "id") :
    Means members m ↔ ∃ n, Notification.fields.Reads members n ∧ m = .notification n := by
  simp only [Notification.reads_iff hk]
  constructor
  case mp =>
    intro h
    cases h
    case request j hv hm hj hd =>
      exact absurd (names_iff.mpr ⟨j, hj, fun he => not_identifies_null _ (he ▸ hd)⟩) hi
    case notification hv hm' _    => exact ⟨_, ⟨_, _, hv, hm', rfl⟩, rfl⟩
    case response hm' _ _ _ _     => simp_all
  case mpr =>
    rintro ⟨_, ⟨_, _, hv, hm, rfl⟩, rfl⟩
    exact .notification hv hm (none_or_null_of_not_names hi)

theorem means_response (h : (Json.obj members).Sorted) (hm : Members.get? "method" members = none)
    (hr : Members.get? "result" members ≠ none ∨ Members.get? "error" members ≠ none) :
    Means members m ↔ ∃ r, Response.fields.Reads members r ∧ m = .response r := by
  rw [Json.Sorted] at h
  simp only [Response.reads_iff h.left.nodup h.right]
  constructor
  case mp =>
    intro h
    cases h
    case response hv hm hr hi he => exact ⟨_, ⟨_, _, _, hv, hi, he, rfl⟩, rfl⟩
    all_goals simp_all
  case mpr =>
    rintro ⟨_, ⟨_, _, _, hv, hi, he, rfl⟩, rfl⟩
    exact .response hv hm hr hi he

end Kinds

theorem Message.ofMembers_eq_ok_iff {m : Message} (h : (Json.obj members).Sorted) :
    ofMembers members = .ok m ↔ Means members m := by
  have hk : (members.map (·.1)).Nodup := by
    rw [Json.Sorted] at h
    exact h.left.nodup
  unfold ofMembers
  split
  case h_1 method hm =>
    split_ifs with hi
    case pos => rw [mapped_eq_ok_iff (by decide), means_request hk hm hi]
    case neg => rw [mapped_eq_ok_iff (by decide), means_notification hk hm hi]
  case h_2 j hn hm =>
    constructor
    · nofun
    · intro h
      cases h
      case request hm' _ _      => exact absurd (Option.some.inj (hm.symm.trans hm')) (hn _)
      case notification hm' _   => exact absurd (Option.some.inj (hm.symm.trans hm')) (hn _)
      case response hm' _ _ _ => simp_all
  case h_3 hm =>
    split_ifs with hr
    case pos => rw [mapped_eq_ok_iff (by decide), means_response h hm (by simpa [Option.isSome_iff_ne_none] using hr)]
    case neg =>
      constructor
      · nofun
      · intro h
        cases h
        all_goals simp_all

-- A fault of the text or a member of a wrong type.
def DecodeError.IsJson : DecodeError → Prop
  | .malformed _ | .mismatched _                  => True
  | .notAnObject | .unknownShape | .methodNotText => False

def OddMethod (members : Members) : Prop :=
  ∃ j, Members.get? "method" members = some j ∧ ∀ s, j ≠ .str s

def Shapeless (members : Members) : Prop :=
  Members.get? "method" members = none ∧ Members.get? "result" members = none ∧
    Members.get? "error" members = none

theorem OddMethod.not_shapeless (h : OddMethod members) : ¬Shapeless members := by
  obtain ⟨j, hj, _⟩ := h
  simp [Shapeless, hj]

theorem Shapeless.not_odd (h : Shapeless members) : ¬OddMethod members :=
  fun ho => ho.not_shapeless h

theorem Means.shape {m : Message} (h : Means members m) : ¬OddMethod members ∧ ¬Shapeless members := by
  cases h
  case request hm _ _     => simp [OddMethod, Shapeless, hm]
  case notification hm _  => simp [OddMethod, Shapeless, hm]
  case response hm hr _ _ =>
    refine ⟨by simp [OddMethod, hm], ?_⟩
    rintro ⟨_, hn, he⟩
    exact hr.elim (· hn) (· he)

section Failures

variable {β : Type} {type : String} {fields : Fields β} {f : β → Message} {e : DecodeError}

theorem isJson_of_mapped
    (h : ((record type fields (.obj members)).mapError DecodeError.mismatched).map f = .error e) : e.IsJson := by
  cases hr : record type fields (.obj members)
  case error =>
    rw [hr] at h
    cases h
    trivial
  case ok =>
    rw [hr] at h
    cases h

theorem Message.ofMembers_cases (h : ofMembers members = .error e) :
    e = .methodNotText ∧ OddMethod members ∨ e = .unknownShape ∧ Shapeless members ∨
    e.IsJson ∧ ¬OddMethod members ∧ ¬Shapeless members := by
  unfold ofMembers at h
  split at h
  case h_1 method hm =>
    refine .inr (.inr ⟨?_, ?_, ?_⟩)
    · split_ifs at h
      all_goals exact isJson_of_mapped h
    · rintro ⟨j, hj, hn⟩
      exact hn method (Option.some.inj (hj.symm.trans hm))
    · simp [Shapeless, hm]
  case h_2 j hn hm =>
    cases h
    exact .inl ⟨rfl, j, hm, hn⟩
  case h_3 hm =>
    split_ifs at h with hr
    case pos =>
      refine .inr (.inr ⟨isJson_of_mapped h, ?_, ?_⟩)
      · simp [OddMethod, hm]
      · rintro ⟨_, he, hr'⟩
        simp [he, hr'] at hr
    case neg =>
      cases h
      exact .inr (.inl ⟨rfl, hm, by simpa using hr⟩)

end Failures

-- A text is decoded as a message exactly where it is the text of an object that means this message. Else it
-- fails for what it is instead, and for its JSON where it is none of this.
theorem Message.decode_exact (text : String) :
    (∀ m, decode text = .ok m ↔ ∃ members, Json.Denotes text.toList (.obj members) ∧ Means members m) ∧
    (decode text = .error .notAnObject ↔
      ∃ v, Json.Denotes text.toList v ∧ ∀ members, v ≠ .obj members) ∧
    (decode text = .error .methodNotText ↔
      ∃ members, Json.Denotes text.toList (.obj members) ∧ OddMethod members) ∧
    (decode text = .error .unknownShape ↔
      ∃ members, Json.Denotes text.toList (.obj members) ∧ Shapeless members) ∧
    ((∃ e, decode text = .error e ∧ e.IsJson) ↔ (∀ v, ¬Json.Denotes text.toList v) ∨
      ∃ members, Json.Denotes text.toList (.obj members) ∧ ¬OddMethod members ∧ ¬Shapeless members ∧
        ∀ m, ¬Means members m) := by
  cases hp : Json.parse text
  case error fault =>
    have hd : ∀ v, ¬Json.Denotes text.toList v := by
      intro v hv
      cases hp.symm.trans (Json.parse_eq_ok_iff.mpr hv)
    have he : decode text = .error (.malformed fault) := by rw [decode, hp]
    simp [hd, he, DecodeError.IsJson]
  case ok v =>
    have hs : v.Sorted := (Json.parse_eq_ok_iff.mp hp).sorted
    have hd : ∀ w, Json.Denotes text.toList w ↔ v = w := by
      intro w
      rw [← Json.parse_eq_ok_iff, hp, Except.ok.injEq]
    have he : decode text = ofJson v := by rw [decode, hp]
    -- The text denotes `v` and nothing else, so that what is left is about the shape of `v`.
    simp only [hd, he]
    cases v
    case obj members =>
      have hm : ∀ m, ofMembers members = .ok m ↔ Means members m := fun _ => ofMembers_eq_ok_iff hs
      simp only [ofJson, Json.obj.injEq, exists_eq_left', ← hm]
      cases ho : ofMembers members
      case ok m    =>
        obtain ⟨hn, hs⟩ := ((hm m).mp ho).shape
        simp [hn, hs]
      case error e =>
        obtain ⟨rfl, h⟩ | ⟨rfl, h⟩ | ⟨hj, hn, hs⟩ := ofMembers_cases ho
        · simp [h, h.not_shapeless, DecodeError.IsJson]
        · simp [h, h.not_odd, DecodeError.IsJson]
        · cases e
          case malformed | mismatched => simp [hn, hs, DecodeError.IsJson]
          all_goals cases hj
    all_goals simp [ofJson, DecodeError.IsJson]

end LanguageClient.Rpc
