import LanguageClient.Proofs.Json.Records
import LanguageClient.Proofs.Json.RoundTrip
import LanguageClient.Rpc.Message

namespace LanguageClient.Rpc

def IsInt64 (n : Int) : Prop :=
  -9223372036854775808 ≤ n ∧ n ≤ 9223372036854775807

-- The values whose numbers are integers of 64 bits. The members of an object are in order in any value
-- that a message holds.
structure Plain (j : Json) : Prop where
  exact  : j.Exact
  sorted : j.Sorted

def RequestId.Fits : RequestId → Prop
  | .number n => IsInt64 n
  | .text _   => True

structure ErrorObject.Fits (e : ErrorObject) : Prop where
  code : IsInt64 e.code
  data : ∀ j ∈ e.data, Plain j

def Message.Fits : Message → Prop
  | .request r      => r.id.Fits ∧ Plain r.params
  | .response r     => (∀ id ∈ r.id, id.Fits) ∧ (∀ j ∈ r.result, Plain j) ∧ (∀ e ∈ r.error, e.Fits)
  | .notification n => Plain n.params

def present? : Json → Option Json
  | .null => none
  | j     => some j

def ErrorObject.settled (e : ErrorObject) : ErrorObject :=
  { e with data := e.data.bind present? }

def Response.settled (r : Response) : Response :=
  { r with result := r.result.bind present?, error := r.error.map ErrorObject.settled }

-- The message without a result or error data that is `null`.
def Message.settled : Message → Message
  | .response r => .response r.settled
  | m           => m

-- A response without a result and without an error is not told from other objects.
def Message.HasShape : Message → Prop
  | .response r => r.result.isSome ∨ r.error.isSome
  | _           => True

instance : DecidablePred Message.HasShape
  | .request _      => isTrue trivial
  | .response r     => inferInstanceAs (Decidable (r.result.isSome ∨ r.error.isSome))
  | .notification _ => isTrue trivial

theorem eq_of_present? {j k : Json} (h : present? j = some k) : j = k := by
  cases j
  case null => cases h
  all_goals exact Option.some.inj h

theorem optional_json (v : Option Json) :
    v.elim (.ok none) (Reader.optional Reader.json) = .ok (v.bind present?) := by
  cases v
  case none   => rfl
  case some j => cases j <;> rfl

theorem string_str (s : String) : Reader.string (.str s) = .ok s :=
  rfl

theorem elim_version (s : String) : (some (.str s)).elim (.ok version) Reader.string = .ok s :=
  rfl

theorem plain_str {s : String} : Plain (.str s) :=
  ⟨by simp [Json.Exact], by simp [Json.Sorted]⟩

theorem plain_int {n : Int} (h : IsInt64 n) : Plain (.int n) where
  exact := by
    rw [IsInt64] at h
    simp only [Json.int, Json.Exact, Json.IsWord]
    omega
  sorted := by simp [Json.int, Json.Sorted]

section Identifiers

variable {id : RequestId}

theorem RequestId.read_toJson (h : id.Fits) : read id.toJson = .ok id := by
  cases id
  case text s   => rfl
  case number n =>
    have hn : Reader.int64 (Json.int n) = .ok n := if_pos h
    simp [read, toJson, Reader.firstOf, hn, Except.map]

theorem RequestId.plain_toJson (h : id.Fits) : Plain id.toJson := by
  cases id
  case text s   => exact plain_str
  case number n => exact plain_int h

theorem RequestId.toJson_ne_null : id.toJson ≠ .null := by
  cases id <;> nofun

end Identifiers

theorem mem_paramsMember {p : String × Json} {params : Json} :
    p ∈ paramsMember params ↔ p.1 = "params" ∧ present? params = some p.2 := by
  obtain ⟨k, v⟩ := p
  cases params
  all_goals simp [paramsMember, present?, eq_comm]

theorem elim_present? (params : Json) :
    (present? params).elim (.ok .null) Reader.json = .ok params := by
  cases params <;> rfl

theorem decode_obj {pairs : List (String × Json)} (h : ∀ p ∈ pairs, p.2.Exact)
    (hd : (Json.obj pairs).depth ≤ Json.maxDepth) :
    Message.decode (Json.text (.obj pairs)) =
    Message.ofMembers (Members.ofList (pairs.map fun p => (p.1, p.2.normal))) := by
  have he : (Json.obj pairs).Exact := by
    rw [Json.Exact]
    exact Json.exactMembers_iff.mpr h
  rw [Message.decode, Json.parse_text he hd, Json.normal, Json.normalMembers_eq_map]
  rfl

theorem map_normal {pairs : List (String × Json)} (h : ∀ p ∈ pairs, Plain p.2) :
    pairs.map (fun p => (p.1, p.2.normal)) = pairs := by
  rw [List.map_congr_left (g := id), List.map_id]
  intro p hp
  rw [Json.normal_of_sorted (h p hp).sorted, id_eq]

section Errors

variable {e : ErrorObject}

theorem ErrorObject.plain_members (h : e.Fits) :
    ∀ p ∈ [("code", .int e.code), ("message", .str e.message)]
      ++ (e.data.map fun d => ("data", d)).toList, Plain p.2 := by
  have hc := plain_int h.code
  have hd := h.data
  cases he : e.data
  case none   => simp [hc, plain_str]
  case some d => simp [hc, plain_str, hd d he]

theorem ErrorObject.exact_toJson (h : e.Fits) : e.toJson.Exact := by
  rw [toJson, Json.Exact]
  exact Json.exactMembers_iff.mpr fun p hp => (plain_members h p hp).exact

theorem ErrorObject.read_normal (h : e.Fits) : read e.toJson.normal = .ok e.settled := by
  rw [toJson, Json.normal, Json.normalMembers_eq_map, map_normal (plain_members h)]
  apply Fields.record_of_reads
  have hc : Reader.int64 (.int e.code) = .ok e.code := if_pos h.code
  refine Fields.reads_seq (Fields.reads_seq (Fields.reads_map
    (Fields.reads_required (.ofList ?_) hc))
    (Fields.reads_required (.ofList ?_) (string_str e.message)))
    (Fields.reads_optional (.ofList ?_) (optional_json e.data))
  all_goals
    cases e.data
    all_goals simp [Members.Gives, eq_comm]

end Errors

section Requests

variable {r : Request}

def Request.members (r : Request) : List (String × Json) :=
  [("jsonrpc", .str r.version), ("id", r.id.toJson), ("method", .str r.method)]
    ++ paramsMember r.params

theorem plain_paramsMember {params : Json} (h : Plain params) :
    ∀ p ∈ paramsMember params, Plain p.2 := by
  intro p hp
  have hv : present? params = some p.2 := (mem_paramsMember.mp hp).right
  rwa [← eq_of_present? hv]

theorem Request.plain_members (hi : r.id.Fits) (hp : Plain r.params) : ∀ p ∈ r.members, Plain p.2 := by
  have hi := RequestId.plain_toJson hi
  refine List.forall_mem_append.mpr ⟨?_, plain_paramsMember hp⟩
  simp [hi, plain_str]

theorem Request.gives_id : Members.Gives r.members "id" (some r.id.toJson) := by
  simp [Members.Gives, members, mem_paramsMember, eq_comm]

theorem Request.gives_method : Members.Gives r.members "method" (some (.str r.method)) := by
  simp [Members.Gives, members, mem_paramsMember, eq_comm]

theorem Request.reads (h : r.id.Fits) : fields.Reads (.ofList r.members) r := by
  refine Fields.reads_seq (Fields.reads_seq (Fields.reads_seq (Fields.reads_map
    (Fields.reads_defaulting (.ofList ?_) (elim_version r.version)))
    (Fields.reads_required gives_id.ofList (RequestId.read_toJson h)))
    (Fields.reads_required gives_method.ofList (string_str r.method)))
    (Fields.reads_defaulting (.ofList ?_) (elim_present? r.params))
  all_goals simp [Members.Gives, members, mem_paramsMember, eq_comm]

theorem Request.decode_toJson (hi : r.id.Fits) (hp : Plain r.params)
    (hd : r.toJson.depth ≤ Json.maxDepth) :
    Message.decode r.toJson.text = .ok (.request r) := by
  have hm := plain_members hi hp
  have hn : Message.names (Members.ofList r.members) "id" := by
    rw [Message.names, gives_id.ofList.get?]
    cases r.id <;> rfl
  have hr : Fields.record "RequestMessage" fields (.obj (Members.ofList r.members)) = .ok r :=
    Fields.record_of_reads (reads hi)
  have he : r.toJson = .obj r.members := rfl
  rw [he] at hd ⊢
  rw [decode_obj (fun p hp => (hm p hp).exact) hd, map_normal hm, Message.ofMembers]
  simp only [gives_method.ofList.get?, hn, hr]
  rfl

end Requests

section Notifications

variable {n : Notification}

def Notification.members (n : Notification) : List (String × Json) :=
  [("jsonrpc", .str n.version), ("method", .str n.method)] ++ paramsMember n.params

theorem Notification.plain_members (hp : Plain n.params) : ∀ p ∈ n.members, Plain p.2 := by
  refine List.forall_mem_append.mpr ⟨?_, plain_paramsMember hp⟩
  simp [plain_str]

theorem Notification.gives_id : Members.Gives n.members "id" none := by
  simp [Members.Gives, members, mem_paramsMember]

theorem Notification.gives_method : Members.Gives n.members "method" (some (.str n.method)) := by
  simp [Members.Gives, members, mem_paramsMember, eq_comm]

theorem Notification.reads : fields.Reads (.ofList n.members) n := by
  refine Fields.reads_seq (Fields.reads_seq (Fields.reads_map
    (Fields.reads_defaulting (.ofList ?_) (elim_version n.version)))
    (Fields.reads_required gives_method.ofList (string_str n.method)))
    (Fields.reads_defaulting (.ofList ?_) (elim_present? n.params))
  all_goals simp [Members.Gives, members, mem_paramsMember, eq_comm]

theorem Notification.decode_toJson (hp : Plain n.params) (hd : n.toJson.depth ≤ Json.maxDepth) :
    Message.decode n.toJson.text = .ok (.notification n) := by
  have hm := plain_members hp
  have hn : ¬Message.names (Members.ofList n.members) "id" := by
    rw [Message.names, gives_id.ofList.get?]
    nofun
  have hr : Fields.record "NotificationMessage" fields (.obj (Members.ofList n.members)) = .ok n :=
    Fields.record_of_reads reads
  have he : n.toJson = .obj n.members := rfl
  rw [he] at hd ⊢
  rw [decode_obj (fun p hp => (hm p hp).exact) hd, map_normal hm, Message.ofMembers]
  simp only [gives_method.ofList.get?, hn, hr]
  rfl

end Notifications

section Responses

variable {r : Response}

def Response.members (r : Response) : List (String × Json) :=
  [("jsonrpc", .str r.version), ("id", (r.id.map RequestId.toJson).getD .null)]
    ++ (r.result.map fun v => ("result", v)).toList
    ++ (r.error.map fun e => ("error", e.toJson.normal)).toList

theorem Response.plain_id (h : ∀ id ∈ r.id, id.Fits) :
    Plain ((r.id.map RequestId.toJson).getD .null) := by
  cases hi : r.id
  case none    => exact ⟨by simp [Json.Exact], by simp [Json.Sorted]⟩
  case some id => exact RequestId.plain_toJson (h id hi)

theorem Response.toJson_eq (hi : ∀ id ∈ r.id, id.Fits) (hr : ∀ j ∈ r.result, Plain j)
    (he : ∀ e ∈ r.error, e.Fits) :
    ∃ pairs, r.toJson = .obj pairs ∧ (∀ p ∈ pairs, p.2.Exact) ∧
      pairs.map (fun p => (p.1, p.2.normal)) = r.members := by
  have hi := plain_id hi
  refine ⟨_, rfl, ?_, ?_⟩
  · simp only [List.forall_mem_append]
    refine ⟨⟨?_, ?_⟩, ?_⟩
    · simp [hi.exact, plain_str.exact]
    · cases hv : r.result
      case none   => nofun
      case some v => simpa using (hr v hv).exact
    · cases hv : r.error
      case none   => nofun
      case some e => simpa using ErrorObject.exact_toJson (he e hv)
  · rw [List.map_append, List.map_append, members]
    congr 1
    · congr 1
      · exact map_normal (by simp [hi, plain_str])
      · cases hv : r.result
        case none   => rfl
        case some v => simp [Json.normal_of_sorted (hr v hv).sorted]
    · cases r.error <;> rfl

theorem Response.gives_method : Members.Gives r.members "method" none := by
  simp [Members.Gives, members]

theorem Response.gives_result : Members.Gives r.members "result" r.result := by
  simp [Members.Gives, members, eq_comm]

theorem Response.gives_error :
    Members.Gives r.members "error" (r.error.map fun e => e.toJson.normal) := by
  simp [Members.Gives, members, eq_comm]

theorem Response.read_id (h : ∀ id ∈ r.id, id.Fits) :
    Reader.optional RequestId.read ((r.id.map RequestId.toJson).getD .null) = .ok r.id := by
  cases hi : r.id
  case none    => rfl
  case some id =>
    rw [Option.map_some, Option.getD_some, Reader.optional_of_ne_null RequestId.toJson_ne_null,
      RequestId.read_toJson (h id hi)]
    rfl

theorem Response.read_error (h : ∀ e ∈ r.error, e.Fits) :
    (r.error.map fun e => e.toJson.normal).elim (.ok none) (Reader.optional ErrorObject.read) =
    .ok (r.error.map ErrorObject.settled) := by
  cases he : r.error
  case none   => rfl
  case some e =>
    have hn : e.toJson.normal ≠ .null := by
      rw [ErrorObject.toJson, Json.normal]
      nofun
    rw [Option.map_some, Option.elim_some, Reader.optional_of_ne_null hn, ErrorObject.read_normal (h e he)]
    rfl

theorem Response.reads (hi : ∀ id ∈ r.id, id.Fits) (he : ∀ e ∈ r.error, e.Fits) :
    fields.Reads (.ofList r.members) r.settled := by
  refine Fields.reads_seq (Fields.reads_seq (Fields.reads_seq (Fields.reads_map
    (Fields.reads_defaulting (.ofList ?_) (elim_version r.version)))
    (Fields.reads_optional (v := some _) (.ofList ?_) (read_id hi)))
    (Fields.reads_optional gives_result.ofList (optional_json r.result)))
    (Fields.reads_optional gives_error.ofList (read_error he))
  all_goals simp [Members.Gives, members, eq_comm]

theorem Response.decode_toJson (hi : ∀ id ∈ r.id, id.Fits) (hr : ∀ j ∈ r.result, Plain j)
    (he : ∀ e ∈ r.error, e.Fits) (hd : r.toJson.depth ≤ Json.maxDepth) :
    Message.decode r.toJson.text =
    if r.result.isSome ∨ r.error.isSome then .ok (.response r.settled) else .error .unknownShape := by
  have ⟨pairs, hj, hx, hm⟩ := toJson_eq hi hr he
  have hf : Fields.record "ResponseMessage" fields (.obj (Members.ofList r.members)) = .ok r.settled :=
    Fields.record_of_reads (reads hi he)
  rw [hj] at hd ⊢
  rw [decode_obj hx hd, hm, Message.ofMembers]
  simp only [gives_method.ofList.get?, hf, gives_result.ofList.get?, gives_error.ofList.get?, Option.isSome_map,
    Bool.or_eq_true]
  rfl

theorem Response.outcome_settled : r.settled.outcome = r.outcome.mapError ErrorObject.settled := by
  cases he : r.error
  case some e => simp [outcome, settled, he, Except.mapError]
  case none   =>
    cases hv : r.result
    case none   => simp [outcome, settled, he, hv, Except.mapError]
    case some v => cases v <;> simp [outcome, settled, he, hv, Except.mapError, present?]

end Responses

theorem Message.decode_encode_settled {m : Message} (h : m.Fits) (hd : m.toJson.depth < 128) :
    decode m.encode = (if m.HasShape then .ok m.settled else .error .unknownShape) ∧
    ∀ r, m = .response r → r.settled.outcome = r.outcome.mapError ErrorObject.settled := by
  refine ⟨?_, fun r _ => r.outcome_settled⟩
  have hd := Nat.le_of_lt_succ hd
  cases m
  case request r      => exact Request.decode_toJson h.left h.right hd
  case notification n => exact Notification.decode_toJson h hd
  case response r     => exact Response.decode_toJson h.left h.right.left h.right.right hd

theorem Message.decode_encode_settled_of_null_data :
    let m : Message :=
      .response ⟨"2.0", some (.text "a\"1"), some .null, some ⟨-32601, "no\n", some .null⟩⟩
    m.Fits ∧ m.toJson.depth < 128 ∧
      decode m.encode = .ok (.response ⟨"2.0", some (.text "a\"1"), none, some ⟨-32601, "no\n", none⟩⟩) := by
  intro m
  have hn : Plain .null := ⟨by simp [Json.Exact], by simp [Json.Sorted]⟩
  have hm : m.Fits := by
    refine ⟨by simp [RequestId.Fits], by simp [hn], ?_⟩
    rintro e ⟨⟩
    exact ⟨by simp [IsInt64], by simp [hn]⟩
  have hd : m.toJson.depth < 128 := by
    simp [m, toJson, Response.toJson, RequestId.toJson, ErrorObject.toJson, Json.int, Json.depth,
      Json.depthMembers]
  exact ⟨hm, hd, (decode_encode_settled hm hd).left⟩

end LanguageClient.Rpc
