import LanguageClient.MockServer.Basic
import LanguageClient.Proofs.Json.Depth
import LanguageClient.Proofs.Json.Outline
import LanguageClient.Proofs.Rpc.RoundTrip

namespace LanguageClient

open Rpc (Message Request Response Notification RequestId ErrorObject IsInt64)

variable {j : Json} {key : String} {ms pairs : List (String × Json)}

namespace Rpc

structure Value (j : Json) : Prop where
  writable : j.Writable
  sorted   : j.Sorted

structure ErrorObject.Valid (e : ErrorObject) : Prop where
  code : IsInt64 e.code
  data : ∀ j ∈ e.data, Value j

def Message.Valid : Message → Prop
  | .request r      => r.id.Fits ∧ Value r.params
  | .response r     => (∀ id ∈ r.id, id.Fits) ∧ (∀ j ∈ r.result, Value j) ∧ (∀ e ∈ r.error, e.Valid)
  | .notification n => Value n.params

def Message.Shallow : Message → Prop
  | .request r      => r.params.depth < Json.maxDepth
  | .response r     => ∀ e ∈ r.error, e.toJson.depth < Json.maxDepth
  | .notification n => n.params.depth < Json.maxDepth

instance : DecidablePred Message.Shallow
  | .request r      => inferInstanceAs (Decidable (r.params.depth < Json.maxDepth))
  | .response r     => inferInstanceAs (Decidable (∀ e ∈ r.error, e.toJson.depth < Json.maxDepth))
  | .notification n => inferInstanceAs (Decidable (n.params.depth < Json.maxDepth))

end Rpc

namespace Json

def heard (j : Json) : Json :=
  j.echo.normal

theorem heard_null : heard .null = .null := by
  simp [heard, echo, normal]

theorem heard_str (s : String) : heard (.str s) = .str s := by
  simp [heard, echo, normal]

end Json

namespace MockServer.Incoming

def ofMessage : Message → Incoming
  | .request r      => ⟨some r.id.toJson, some r.method, r.params, none⟩
  | .response r     => ⟨r.id.map RequestId.toJson, none, .null, r.error.map ErrorObject.toJson⟩
  | .notification n => ⟨none, some n.method, n.params, none⟩

def heard (i : Incoming) : Incoming :=
  { i with params := i.params.heard, error? := i.error?.map Json.heard }

theorem filter_texts (key : String) (ms : List (String × Json)) :
    (Json.texts ms).filter (·.1 = key) = Json.texts (ms.filter (·.1 = key)) := by
  rw [Json.texts, List.filter_map]
  rfl

theorem member?_of_one (h : ms.filter (·.1 = key) = [(key, j)]) (hj : j.Writable) :
    member? (Json.texts ms) key = if j.depth < Json.maxDepth then some j.heard else none := by
  rw [member?, filter_texts, h]
  exact Json.parseInside_text hj

theorem member?_of_none (h : ms.filter (·.1 = key) = []) : member? (Json.texts ms) key = some .null := by
  rw [member?, filter_texts, h]
  rfl

theorem member?_other {params : Json} (h : key ≠ "params") (ms : List (String × Json)) :
    member? (Json.texts (ms ++ Rpc.paramsMember params)) key = member? (Json.texts ms) key := by
  have hp : (Rpc.paramsMember params).filter (·.1 = key) = [] := by
    rw [List.filter_eq_nil_iff]
    intro p hp hk
    exact h ((of_decide_eq_true hk).symm.trans (Rpc.mem_paramsMember.mp hp).left)
  rw [member?, member?, filter_texts, filter_texts, List.filter_append, hp, List.append_nil]

theorem member?_params {params : Json} (h : ∀ p ∈ ms, p.1 ≠ "params") (hp : params.Writable) :
    member? (Json.texts (ms ++ Rpc.paramsMember params)) "params" =
      if params.depth < Json.maxDepth then some params.heard else none := by
  have hm : ms.filter (·.1 = "params") = [] := by
    rw [List.filter_eq_nil_iff]
    exact fun p hp hk => h p hp (of_decide_eq_true hk)
  cases params
  case null => simp [Rpc.paramsMember, member?_of_none hm, Json.heard_null, Json.depth, Json.maxDepth]
  all_goals exact member?_of_one (by rw [List.filter_append, hm]; rfl) hp

theorem ofText?_obj (h : Json.WritableMembers ms) : ofText? (Json.obj ms).text = (do
    ofValues? (← member? (Json.texts ms) "id") (← member? (Json.texts ms) "method")
      (← member? (Json.texts ms) "params") (← member? (Json.texts ms) "error")) := by
  rw [ofText?, Json.outline?_text (Json.legibleMembers_of_writable h)]

theorem heard_toJson {id : RequestId} (h : id.Fits) : id.toJson.heard = id.toJson := by
  have hp := id.plain_toJson h
  rw [Json.heard, Json.echo_of_exact hp.exact, Json.normal_of_sorted hp.sorted]

theorem depth_toJson (id : RequestId) : id.toJson.depth < Json.maxDepth := by
  cases id <;> simp [RequestId.toJson, Json.int, Json.depth, Json.maxDepth]

theorem present_toJson (id : RequestId) : present id.toJson = some id.toJson := by
  cases id <;> rfl

theorem member?_id {id : RequestId} (h : ms.filter (·.1 = "id") = [("id", id.toJson)]) (hi : id.Fits) :
    member? (Json.texts ms) "id" = some id.toJson := by
  rw [member?_of_one h (Json.writable_of_exact (id.plain_toJson hi).exact), if_pos (depth_toJson id),
    heard_toJson hi]

theorem member?_method {method : String} (h : ms.filter (·.1 = "method") = [("method", .str method)]) :
    member? (Json.texts ms) "method" = some (.str method) := by
  rw [member?_of_one h (by simp [Json.Writable]), if_pos (by simp [Json.depth, Json.maxDepth]),
    Json.heard_str]

section Requests

variable {r : Request} {n : Notification}

theorem writable_paramsMember {params : Json} (h : params.Writable) :
    ∀ p ∈ Rpc.paramsMember params, p.2.Writable := by
  intro p hp
  rwa [← Rpc.eq_of_present? (Rpc.mem_paramsMember.mp hp).right]

theorem ofText?_request (h : (Message.request r).Valid) : ofText? (Message.request r).encode =
    if (Message.request r).Shallow then some (ofMessage (.request r)).heard else none := by
  have hi := r.id.plain_toJson h.left
  have hw : Json.WritableMembers r.members := by
    refine Json.writableMembers_iff.mpr (List.forall_mem_append.mpr ⟨?_, writable_paramsMember h.right.writable⟩)
    simp [Json.writable_of_exact hi.exact, Json.Writable]
  have he : (Message.request r).encode = (Json.obj r.members).text := rfl
  have h₁ : member? (Json.texts r.members) "id" = some r.id.toJson :=
    (member?_other (by decide) _).trans (member?_id (by simp) h.left)
  have h₂ : member? (Json.texts r.members) "method" = some (.str r.method) :=
    (member?_other (by decide) _).trans (member?_method (by simp))
  have h₃ : member? (Json.texts r.members) "params" =
      if r.params.depth < Json.maxDepth then some r.params.heard else none :=
    member?_params (by simp) h.right.writable
  have h₄ : member? (Json.texts r.members) "error" = some .null :=
    (member?_other (by decide) _).trans (member?_of_none (by simp))
  rw [he, ofText?_obj hw, h₁, h₂, h₃, h₄]
  by_cases hs : r.params.depth < Json.maxDepth
  case pos =>
    have hs' : (Message.request r).Shallow := hs
    rw [if_pos hs, if_pos hs']
    simp only [Option.bind_eq_bind, Option.bind_some, ofValues?, present_toJson]
    rfl
  case neg =>
    have hs' : ¬(Message.request r).Shallow := hs
    rw [if_neg hs, if_neg hs']
    rfl

theorem ofText?_notification (h : (Message.notification n).Valid) :
    ofText? (Message.notification n).encode =
    if (Message.notification n).Shallow then some (ofMessage (.notification n)).heard else none := by
  have h : Rpc.Value n.params := h
  have hw : Json.WritableMembers n.members := by
    refine Json.writableMembers_iff.mpr (List.forall_mem_append.mpr ⟨?_, writable_paramsMember h.writable⟩)
    simp [Json.Writable]
  have he : (Message.notification n).encode = (Json.obj n.members).text := rfl
  have h₁ : member? (Json.texts n.members) "id" = some .null :=
    (member?_other (by decide) _).trans (member?_of_none (by simp))
  have h₂ : member? (Json.texts n.members) "method" = some (.str n.method) :=
    (member?_other (by decide) _).trans (member?_method (by simp))
  have h₃ : member? (Json.texts n.members) "params" =
      if n.params.depth < Json.maxDepth then some n.params.heard else none :=
    member?_params (by simp) h.writable
  have h₄ : member? (Json.texts n.members) "error" = some .null :=
    (member?_other (by decide) _).trans (member?_of_none (by simp))
  rw [he, ofText?_obj hw, h₁, h₂, h₃, h₄]
  by_cases hs : n.params.depth < Json.maxDepth
  case pos =>
    have hs' : (Message.notification n).Shallow := hs
    rw [if_pos hs, if_pos hs']
    simp only [Option.bind_eq_bind, Option.bind_some, ofValues?]
    rfl
  case neg =>
    have hs' : ¬(Message.notification n).Shallow := hs
    rw [if_neg hs, if_neg hs']
    rfl

end Requests

section Responses

variable {r : Response} {e : ErrorObject}

theorem writable_error (h : e.Valid) : e.toJson.Writable := by
  rw [ErrorObject.toJson, Json.Writable]
  refine Json.writableMembers_iff.mpr (List.forall_mem_append.mpr ⟨?_, ?_⟩)
  · have hc := Json.writable_of_exact (Rpc.plain_int h.code).exact
    simp [hc, Json.Writable]
  · have hd := h.data
    cases he : e.data
    case none   => simp
    case some d => simpa using (hd d he).writable

def members (r : Response) : List (String × Json) :=
  [("jsonrpc", .str r.version), ("id", (r.id.map RequestId.toJson).getD .null)]
    ++ (r.result.map fun v => ("result", v)).toList
    ++ (r.error.map fun e => ("error", e.toJson)).toList

theorem filter_id (r : Response) : (members r).filter (·.1 = "id") =
    [("id", (r.id.map RequestId.toJson).getD .null)] := by
  rw [members]
  cases r.result <;> cases r.error <;> simp

theorem filter_error (r : Response) : (members r).filter (·.1 = "error") =
    (r.error.map fun e => ("error", e.toJson)).toList := by
  rw [members]
  cases r.result <;> cases r.error <;> simp

theorem filter_absent (r : Response) (h : key = "method" ∨ key = "params") :
    (members r).filter (·.1 = key) = [] := by
  rw [members]
  obtain rfl | rfl := h
  all_goals cases r.result <;> cases r.error <;> simp

theorem present_id (r : Response) :
    present ((r.id.map RequestId.toJson).getD .null) = r.id.map RequestId.toJson := by
  cases r.id
  case none    => rfl
  case some id => exact present_toJson id

theorem present_error (r : Response) : present ((r.error.map fun e => e.toJson.heard).getD .null) =
    (r.error.map ErrorObject.toJson).map Json.heard := by
  cases r.error
  case none   => rfl
  case some e =>
    have ⟨ms, hm⟩ : ∃ ms, e.toJson.heard = .obj ms := by
      simp [ErrorObject.toJson, Json.heard, Json.echo, Json.normal]
    simp only [Option.map_some, Option.getD_some, hm]
    rfl

theorem writable_members (h : (Message.response r).Valid) : Json.WritableMembers (members r) := by
  have ⟨hi, hr, he⟩ := h
  refine Json.writableMembers_iff.mpr ?_
  simp only [members, List.forall_mem_append]
  refine ⟨⟨?_, ?_⟩, ?_⟩
  · have hi := Json.writable_of_exact (Response.plain_id hi).exact
    simp [hi, Json.Writable]
  · cases hv : r.result
    case none   => nofun
    case some v => simpa using (hr v hv).writable
  · cases hv : r.error
    case none   => nofun
    case some e => simpa using writable_error (he e hv)

theorem member?_response_id (h : ∀ id ∈ r.id, id.Fits) :
    member? (Json.texts (members r)) "id" = some ((r.id.map RequestId.toJson).getD .null) := by
  have hf := filter_id r
  cases hv : r.id
  case some id =>
    rw [hv] at hf
    exact member?_id hf (h id hv)
  case none =>
    rw [hv] at hf
    rw [member?_of_one hf (by simp [Json.Writable])]
    simp [Json.heard_null, Json.depth, Json.maxDepth]

theorem member?_response_error (h : ∀ e ∈ r.error, e.Valid) : member? (Json.texts (members r)) "error" =
    if ∀ e ∈ r.error, e.toJson.depth < Json.maxDepth then
      some ((r.error.map fun e => e.toJson.heard).getD .null)
    else none := by
  have hf := filter_error r
  cases hv : r.error
  case none   =>
    rw [hv] at hf
    rw [member?_of_none hf, if_pos nofun]
    rfl
  case some e =>
    rw [hv] at hf
    rw [member?_of_one hf (writable_error (h e hv))]
    simp

theorem ofText?_response (h : (Message.response r).Valid) : ofText? (Message.response r).encode =
    if (Message.response r).Shallow then some (ofMessage (.response r)).heard else none := by
  have ht : (Message.response r).encode = (Json.obj (members r)).text := rfl
  rw [ht, ofText?_obj (writable_members h), member?_response_id h.left,
    member?_of_none (filter_absent r (.inl rfl)), member?_of_none (filter_absent r (.inr rfl)),
    member?_response_error h.right.right]
  by_cases hs : ∀ e ∈ r.error, e.toJson.depth < Json.maxDepth
  case pos =>
    have hs' : (Message.response r).Shallow := hs
    rw [if_pos hs, if_pos hs']
    simp only [Option.bind_eq_bind, Option.bind_some, ofValues?, present_id, present_error]
    simp only [ofMessage, heard, Json.heard_null]
  case neg =>
    have hs' : ¬(Message.response r).Shallow := hs
    rw [if_neg hs, if_neg hs']
    rfl

end Responses

-- A server reads a message iff what it looks at is not nested too deep.
theorem ofText?_encode {m : Message} (h : m.Valid) :
    ofText? m.encode = if m.Shallow then some (ofMessage m).heard else none := by
  cases m
  case request r      => exact ofText?_request h
  case response r     => exact ofText?_response h
  case notification n => exact ofText?_notification h

end MockServer.Incoming
end LanguageClient
