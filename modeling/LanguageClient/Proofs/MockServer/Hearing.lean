import LanguageClient.Proofs.MockServer.Feeding
import LanguageClient.Proofs.MockServer.Incoming

namespace LanguageClient

open Rpc (Message Request Response Notification RequestId ErrorObject)

variable {j : Json} {key : String} {ms : List (String × Json)}

namespace Json

theorem echoItems_eq_map (js : List Json) : echoItems js = js.map echo := by
  induction js
  case nil          => rw [echoItems, List.map_nil]
  case cons j js hi => rw [echoItems, hi, List.map_cons]

theorem echoMembers_eq_map (ms : List (String × Json)) :
    echoMembers ms = ms.map fun p => (p.1, p.2.echo) := by
  induction ms
  case nil          => rw [echoMembers, List.map_nil]
  case cons p ms hi => rw [echoMembers, hi, List.map_cons]

mutual

theorem sorted_echo : ∀ {j : Json}, j.Sorted → j.echo.Sorted
  | .arr js, h => by
    rw [Sorted] at h
    rw [echo, Sorted]
    exact sortedItems_echo h
  | .obj ms, h => by
    rw [Sorted] at h
    rw [echo, Sorted]
    refine ⟨?_, sortedMembers_echo h.right⟩
    rw [Members.Ordered, echoMembers_eq_map, List.map_map]
    exact h.left
  | .null, _ | .bool _, _ | .num (.int _), _ | .num (.float _), _ | .str _, _ => by simp [echo, Sorted]

theorem sortedItems_echo : ∀ {js : List Json}, SortedItems js → SortedItems (echoItems js)
  | [], _      => by rw [echoItems, SortedItems]; trivial
  | j :: js, h => by
    rw [SortedItems] at h
    rw [echoItems, SortedItems]
    exact ⟨sorted_echo h.left, sortedItems_echo h.right⟩

theorem sortedMembers_echo : ∀ {ms : List (String × Json)}, SortedMembers ms → SortedMembers (echoMembers ms)
  | [], _           => by rw [echoMembers, SortedMembers]; trivial
  | (k, j) :: ms, h => by
    rw [SortedMembers] at h
    rw [echoMembers, SortedMembers]
    exact ⟨sorted_echo h.left, sortedMembers_echo h.right⟩

end

theorem heard_of_sorted (h : j.Sorted) : j.heard = j.echo :=
  normal_of_sorted (sorted_echo h)

theorem get?_echo (key : String) (j : Json) : j.echo.get? key = (j.get? key).map echo := by
  cases j
  case obj ms =>
    have hf : ((fun p : String × Json => decide (p.1 = key)) ∘ fun p : String × Json => (p.1, p.2.echo)) =
        fun p => decide (p.1 = key) := rfl
    rw [echo, get?, get?, Members.get?, Members.get?, echoMembers_eq_map, List.find?_map, hf, Option.map_map,
      Option.map_map]
    rfl
  case num n => cases n <;> simp [echo, get?]
  all_goals simp [echo, get?]

theorem bind_get?_echo (key : String) (v : Option Json) :
    (v.map echo).bind (·.get? key) = (v.bind (·.get? key)).map echo := by
  cases v
  case none   => rfl
  case some j => exact get?_echo key j

end Json

namespace MockServer

variable {m : MockServer} {i : Incoming}

theorem textOr_echo (default : String) (v : Option Json) : textOr default (v.map Json.echo) = textOr default v := by
  rcases v with _ | (_ | _ | (_ | _) | _ | _ | _)
  all_goals simp [textOr, Json.echo]

theorem changedText?_echo (j : Json) : changedText? j.echo = changedText? j := by
  rw [changedText?, changedText?, Json.get?_echo]
  rcases j.get? "contentChanges" with _ | (_ | _ | (_ | _) | _ | changes | _)
  case some.arr =>
    have hl : (Json.echoItems changes).getLast?.bind (·.get? "text") =
        (changes.getLast?.bind (·.get? "text")).map Json.echo := by
      rw [Json.echoItems_eq_map, List.getLast?_map, Json.bind_get?_echo]
    simp only [Option.map_some, Json.echo, hl]
    rcases changes.getLast?.bind (·.get? "text") with _ | (_ | _ | (_ | _) | _ | _ | _)
    all_goals simp [Json.echo]
  all_goals simp [Json.echo]

theorem completionsFor_echo (j : Json) : m.completionsFor j.echo = m.completionsFor j := by
  rw [completionsFor, completionsFor, Json.get?_echo, Json.bind_get?_echo, textOr_echo]

theorem request_echo (id : Json) (method : String) (params : Json) :
    m.request id method params.echo = m.request id method params := by
  have hr : m.result? method params.echo = m.result? method params := by
    simp only [result?, completionsFor_echo]
  rw [request, request, hr]

theorem notification_without {method : String} {params : Json} (hd : params.get? "textDocument" = none)
    (hm : method = "textDocument/didOpen" ∨ method = "textDocument/didChange") :
    m.notification method params = (m, []) := by
  obtain rfl | rfl := hm
  all_goals simp [notification, hd]

theorem notification_opened {params document : Json} (h : params.get? "textDocument" = some document) :
    m.notification "textDocument/didOpen" params =
      (m.store (textOr "" (document.get? "uri")) (textOr "" (document.get? "text")),
        (m.store (textOr "" (document.get? "uri")) (textOr "" (document.get? "text"))).publish
          (textOr "" (document.get? "uri"))) := by
  simp only [notification, h]

def change (m : MockServer) (uri : String) (params : Json) : MockServer :=
  (changedText? params).elim m (m.store uri)

theorem notification_changed {params document : Json} (h : params.get? "textDocument" = some document) :
    m.notification "textDocument/didChange" params =
      (m.change (textOr "" (document.get? "uri")) params,
        (m.change (textOr "" (document.get? "uri")) params).publish (textOr "" (document.get? "uri"))) := by
  simp only [notification, h, change]
  cases changedText? params <;> rfl

theorem notification_other {method : String} (ho : method ≠ "textDocument/didOpen")
    (hc : method ≠ "textDocument/didChange") (params : Json) : m.notification method params =
      if method = "exit" then ({ m with exited := true }, []) else (m, []) := by
  unfold notification
  split
  case h_1 => exact absurd rfl ho
  case h_2 => exact absurd rfl hc
  case h_3 => rw [if_pos rfl]
  case h_4 he _ _ => exact (if_neg he).symm

theorem notification_echo (method : String) (params : Json) :
    m.notification method params.echo = m.notification method params := by
  by_cases ho : method = "textDocument/didOpen"
  case pos =>
    cases hd : params.get? "textDocument"
    case none =>
      have he : params.echo.get? "textDocument" = none := by rw [Json.get?_echo, hd, Option.map_none]
      rw [notification_without hd (.inl ho), notification_without he (.inl ho)]
    case some document =>
      have he : params.echo.get? "textDocument" = some document.echo := by
        rw [Json.get?_echo, hd, Option.map_some]
      rw [ho, notification_opened hd, notification_opened he]
      simp only [Json.get?_echo, textOr_echo]
  case neg =>
    by_cases hc : method = "textDocument/didChange"
    case neg => rw [notification_other ho hc, notification_other ho hc]
    case pos =>
      cases hd : params.get? "textDocument"
      case none =>
        have he : params.echo.get? "textDocument" = none := by rw [Json.get?_echo, hd, Option.map_none]
        rw [notification_without hd (.inr hc), notification_without he (.inr hc)]
      case some document =>
        have he : params.echo.get? "textDocument" = some document.echo := by
          rw [Json.get?_echo, hd, Option.map_some]
        rw [hc, notification_changed hd, notification_changed he]
        simp only [change, changedText?_echo, Json.get?_echo, textOr_echo]

theorem gives_code (e : ErrorObject) : Members.Gives
    (Json.normalMembers (Json.echoMembers ([("code", .int e.code), ("message", .str e.message)]
      ++ (e.data.map fun d => ("data", d)).toList))) "code" (some (.int e.code)) := by
  rw [Json.normalMembers_eq_map, Json.echoMembers_eq_map]
  cases e.data
  all_goals simp [Members.Gives, Json.int, Json.echo, Json.normal, eq_comm]

theorem verdict_heard (e? : Option ErrorObject) :
    verdict ((e?.map ErrorObject.toJson).map Json.heard) = verdict (e?.map ErrorObject.toJson) := by
  cases e?
  case none   => rfl
  case some e =>
    have hg : e.toJson.get? "code" = some (.int e.code) := rfl
    have hh : e.toJson.heard.get? "code" = some (.int e.code) := by
      rw [ErrorObject.toJson, Json.heard, Json.echo, Json.normal]
      exact (gives_code e).ofList.get?
    simp only [verdict, Option.map_some, Option.bind_some, hg, hh]

theorem reply_heard (id : Json) (e? : Option ErrorObject) :
    reply id ((e?.map ErrorObject.toJson).map Json.heard) = reply id (e?.map ErrorObject.toJson) := by
  unfold reply
  rw [verdict_heard]

theorem handle_heard {message : Message} (h : message.Valid) :
    m.handle (Incoming.ofMessage message).heard = m.handle (Incoming.ofMessage message) := by
  cases message
  case request r =>
    have hs := Json.heard_of_sorted h.right.sorted
    simp only [handle, Incoming.heard, Incoming.ofMessage, hs, request_echo]
  case notification n =>
    have h : Rpc.Value n.params := h
    have hs := Json.heard_of_sorted h.sorted
    simp only [handle, Incoming.heard, Incoming.ofMessage, hs, notification_echo]
  case response r =>
    simp only [handle, Incoming.heard, Incoming.ofMessage]
    cases r.id
    case none    => rfl
    case some id => simp only [Option.map_some, reply_heard]

theorem hear_encode {message : Message} (h : message.Valid) : m.hear message.encode =
    if message.Shallow then m.handle (Incoming.ofMessage message) else (m, []) := by
  rw [hear, Incoming.ofText?_encode h]
  by_cases hs : message.Shallow
  case pos =>
    rw [if_pos hs, if_pos hs]
    exact handle_heard h
  case neg => rw [if_neg hs, if_neg hs]

end MockServer
end LanguageClient
