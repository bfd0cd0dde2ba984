import LanguageClient.Proofs.Rpc.Plain
import LanguageClient.Proofs.Session.Actions

namespace LanguageClient

variable {e : Event} {es : List Event} {r : Rpc.Request}

def Event.question? (e : Event) : Option Rpc.Request :=
  match e.stream, Rpc.Message.decode e.text with
  | .message, .ok (.request r) => some r
  | _, _ => none

def Event.news? (e : Event) : Option Rpc.Notification :=
  match e.stream, Rpc.Message.decode e.text with
  | .message, .ok (.notification n) => some n
  | _, _ => none

namespace Rpc

def Request.refusal (r : Request) : Response :=
  .ofError r.id methodNotFound ("Method '" ++ r.method ++ "' not supported by client")

def Request.refusalFrame (r : Request) : String :=
  (Message.response r.refusal).encode

theorem isInt64_of_read {j : Json} {n : Int} (h : Reader.int64 j = .ok n) : IsInt64 n := by
  rcases j with _ | _ | (m | _) | _ | _ | _
  case num.int =>
    rw [Reader.int64, Reader.integer] at h
    split at h
    case isTrue hm => exact Except.ok.inj h ▸ hm
    case isFalse   => cases h
  all_goals cases h

theorem RequestId.fits_of_read {j : Json} {id : RequestId} (h : RequestId.read j = .ok id) : id.Fits := by
  cases id
  case text     => trivial
  case number n =>
    refine isInt64_of_read (j := j) ?_
    simp only [RequestId.read, Reader.firstOf] at h
    cases hi : Reader.int64 j
    case ok m => simpa [hi, Except.map] using h
    case error =>
      simp only [hi, Except.map] at h
      cases hs : Reader.string j
      all_goals simp [hs] at h

theorem Request.fits_of_decode {text : String} {r : Request} (h : Message.decode text = .ok (.request r)) :
    r.id.Fits := by
  obtain ⟨members, hr⟩ : ∃ members,
      Fields.record "RequestMessage" Request.fields (.obj members) = .ok r := by
    rw [Message.decode] at h
    split at h
    case h_1          => cases h
    case h_2 j parsed =>
      cases j
      case obj members =>
        rw [Message.ofJson, Message.ofMembers] at h
        refine ⟨members, ?_⟩
        split at h
        case h_1 =>
          split at h
          case isTrue =>
            obtain ⟨r', hr, he⟩ := Reader.map_eq_ok h
            cases he
            exact Reader.mapError_eq_ok hr
          case isFalse =>
            obtain ⟨_, _, he⟩ := Reader.map_eq_ok h
            cases he
        case h_2 => cases h
        case h_3 =>
          split at h
          case isTrue =>
            obtain ⟨_, _, he⟩ := Reader.map_eq_ok h
            cases he
          case isFalse => cases h
      all_goals cases h
  -- The id is one of the fields that the request was built from.
  obtain ⟨_, _, hf, _, rfl⟩ := Fields.built_seq (Fields.built_of_record hr)
  obtain ⟨_, _, hg, _, rfl⟩ := Fields.built_seq hf
  obtain ⟨_, id, hk, hid, rfl⟩ := Fields.built_seq hg
  obtain ⟨_, _, rfl⟩ := Fields.built_map hk
  obtain ⟨j, _, hj⟩ := Fields.built_required hid
  exact RequestId.fits_of_read hj

theorem Request.decode_refusalFrame {r : Request} (h : r.id.Fits) :
    Message.decode r.refusalFrame = .ok (.response r.refusal) := by
  have hi : ∀ id ∈ r.refusal.id, id.Fits := by
    rintro id hid
    cases hid
    exact h
  have hr : ∀ j ∈ r.refusal.result, Plain j := nofun
  have he : ∀ e ∈ r.refusal.error, e.Fits := by
    rintro e he
    cases he
    exact ⟨by simp [IsInt64, methodNotFound], nofun⟩
  have hd : r.refusal.toJson.depth ≤ Json.maxDepth := by
    have hid : r.id.toJson.depth = 0 := by cases r.id <;> simp [RequestId.toJson, Json.int, Json.depth]
    have hn : 2 ≤ Json.maxDepth := by decide
    refine (depth_obj_le (n := 1) ?_).trans hn
    simp [refusal, Response.ofError, ErrorObject.toJson, hid, Json.int, Json.depth, Json.depthMembers]
  have hm := Response.decode_toJson hi hr he hd
  rwa [if_pos (.inr rfl)] at hm

end Rpc

namespace Session

variable {s : Session}

def spread (b : Bulletin × List Delivery) (n : Rpc.Notification) : Bulletin × List Delivery :=
  ((b.1.receive n).bulletin, b.2 ++ (b.1.receive n).deliveries)

-- The frames by which questions are declined, unless the transport refuses frames.
def refusals (s : Session) (es : List Event) : List String :=
  if s.transport.sendRefusal? = none then (es.filterMap (·.question?)).map (·.refusalFrame) else []

def settling (es : List Event) : List Pending.Operation :=
  (es.filterMap (·.answer?)).map fun (id, answer) => .settle id answer

def handled (s : Session) (es : List Event) (notices : List Notice) : Session :=
  { s with
    pending   := s.pending.performAll (settling es)
    bulletin  := ((es.filterMap (·.news?)).foldl spread (s.bulletin, s.heard)).1
    heard     := ((es.filterMap (·.news?)).foldl spread (s.bulletin, s.heard)).2
    transport := { s.transport with sent := s.transport.sent ++ s.refusals es }
    notices }

theorem decline_eq_refusal (s : Session) (r : Rpc.Request) : ∃ notices, s.decline r =
    { s with
      transport := { s.transport with
        sent := s.transport.sent ++ if s.transport.sendRefusal? = none then [r.refusalFrame] else [] }
      notices } := by
  let declining := Notice.declining r.method r.id
  cases hr : s.transport.sendRefusal?
  case none =>
    have hw := write_accepted (s := s.note declining) hr r.refusalFrame
    rw [Rpc.Request.refusalFrame, Rpc.Request.refusal] at hw
    simp only [decline, hw, declining]
    exact ⟨(s.note declining).notices, rfl⟩
  case some reason =>
    have hw := write_refused (s := s.note declining) hr r.refusalFrame
    rw [Rpc.Request.refusalFrame, Rpc.Request.refusal] at hw
    simp only [decline, hw, declining]
    exact ⟨((s.note declining).note (.notDeclined (.send reason))).notices, by simp [note, declining]⟩

theorem handle_eq_handled (s : Session) (e : Event) : ∃ notices, s.handle e = s.handled [e] notices := by
  have hs (h : e.question? = none) : s.refusals [e] = [] := by simp [refusals, h]
  unfold handle
  split
  case h_1 he =>
    have hq : e.question? = none := by simp only [Event.question?, he]
    simp only [handled, hs hq, settling, List.filterMap_cons, Event.answer?, Event.news?, he]
    exact ⟨s.notices ++ [.output e.text], by simp [note]⟩
  case h_2 he =>
    have hq : e.question? = none := by simp only [Event.question?, he]
    simp only [handled, hs hq, settling, List.filterMap_cons, Event.answer?, Event.news?, he]
    exact ⟨s.notices ++ [.complaint e.text], by simp [note]⟩
  case h_3 he =>
    split
    case h_1 fault hd =>
      have hq : e.question? = none := by simp only [Event.question?, he, hd]
      simp only [handled, hs hq, settling, List.filterMap_cons, Event.answer?, Event.news?, he, hd]
      exact ⟨s.notices ++ [.undecodable fault], by simp [note]⟩
    case h_2 r hd =>
      have hq : e.question? = none := by simp only [Event.question?, he, hd]
      obtain ⟨notices, h⟩ := s.answered_eq r
      simp only [handled, hs hq, settling, List.filterMap_cons, Event.answer?, Event.news?, he, hd]
      rw [h]
      cases hi : r.id
      case none => exact ⟨notices, by simp⟩
      case some id => cases id <;> exact ⟨notices, by simp [Pending.perform]⟩
    case h_3 n hd =>
      have hq : e.question? = none := by simp only [Event.question?, he, hd]
      simp only [handled, hs hq, settling, List.filterMap_cons, Event.answer?, Event.news?, he, hd]
      exact ⟨s.notices ++ (s.bulletin.receive n).notices, by simp [notified, noteAll, spread]⟩
    case h_4 r hd =>
      obtain ⟨notices, h⟩ := s.decline_eq_refusal r
      rw [h]
      simp only [handled, refusals, settling, List.filterMap_cons, Event.answer?, Event.news?, Event.question?,
        he, hd]
      exact ⟨notices, by simp⟩

theorem refusals_append (s : Session) (es es' : List Event) :
    s.refusals (es ++ es') = s.refusals es ++ s.refusals es' := by
  rw [refusals, refusals, refusals]
  split
  · simp
  · rfl

theorem handled_handled (s : Session) (es es' : List Event) (ns ns' : List Notice) :
    (s.handled es ns).handled es' ns' = s.handled (es ++ es') ns' := by
  have hr : (s.handled es ns).refusals es' = s.refusals es' := rfl
  rw [handled, hr]
  conv_rhs => rw [handled, refusals_append]
  simp [handled, settling, Pending.performAll_append, List.append_assoc]

theorem foldl_handle_eq (s : Session) (es : List Event) :
    ∃ notices, es.foldl handle s = s.handled es notices := by
  induction es using List.reverseRecOn
  case nil => exact ⟨s.notices, by simp [handled, refusals, settling]⟩
  case append_singleton es e hi =>
    obtain ⟨ns, hs⟩ := hi
    obtain ⟨ns', he⟩ := (s.handled es ns).handle_eq_handled e
    exact ⟨ns', by rw [List.foldl_append, hs, List.foldl_cons, List.foldl_nil, he, handled_handled]⟩

end Session
end LanguageClient
