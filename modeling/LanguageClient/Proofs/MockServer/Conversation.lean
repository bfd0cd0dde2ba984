import LanguageClient.Proofs.MockServer.Hearing
import LanguageClient.Proofs.Rpc.Segments

namespace LanguageClient

open Rpc (Message Request Response Notification)

variable {messages : List Message} {message : Message}

namespace Utf8

theorem lossy_encode (s : String) : lossy (encode s) = s := by
  have hp := pieces_encode s.toList []
  rw [List.append_nil] at hp
  have ht : (s.toList.map Piece.char).map Piece.text = s.toList := by
    rw [List.map_map]
    exact List.map_id _
  have hn : pieces [] = [] := rfl
  rw [lossy_eq, encode, hp, hn, List.append_nil, ht, String.ofList_toList]

end Utf8

namespace Rpc.Message

def method? : Message → Option String
  | .request r      => some r.method
  | .response _     => none
  | .notification n => some n.method

def isExit : Message → Bool
  | .notification n => n.method = "exit"
  | _               => false

-- What a client can send: numbers that are written, no method with a line end in it, and a text that
-- has its length in 64 bits.
structure Sendable (message : Message) : Prop where
  valid : message.Valid
  line  : ∀ method ∈ message.method?, '\n' ∉ method.toList
  size  : message.encode.utf8ByteSize < UInt64.size

end Rpc.Message

namespace MockServer

variable {m : MockServer} {outputs : List Output} {body method : String}

-- The messages up to the first that ends a server.
def untilExit : List Message → List Message
  | [] => []
  | message :: messages => if message.isExit then [message] else message :: untilExit messages

def handleAll (m : MockServer) : List Message → MockServer × List Output
  | [] => (m, [])
  | message :: messages =>
    let (m, outputs) := m.handle (.ofMessage message)
    let (m, later) := m.handleAll messages
    (m, outputs ++ later)

theorem exited_notification (m : MockServer) (method : String) (params : Json) :
    (m.notification method params).1.exited = (m.exited || decide (method = "exit")) := by
  by_cases hm : method = "textDocument/didOpen" ∨ method = "textDocument/didChange"
  case pos =>
    have hn : decide (method = "exit") = false := by
      obtain rfl | rfl := hm <;> rfl
    rw [hn, Bool.or_false]
    cases hd : params.get? "textDocument"
    case none          => rw [notification_without hd hm]
    case some document =>
      obtain rfl | rfl := hm
      case inl => rw [notification_opened hd, store]
      case inr =>
        rw [notification_changed hd, change]
        cases changedText? params <;> rfl
  case neg =>
    obtain ⟨ho, hc⟩ := not_or.mp hm
    rw [notification_other ho hc]
    split <;> simp [*]

def Incoming.isExit (i : Incoming) : Bool :=
  i.id?.isNone && i.method? = some "exit"

theorem Incoming.isExit_ofMessage (message : Message) : (ofMessage message).isExit = message.isExit := by
  cases message
  case request r      => rfl
  case response r     => exact Bool.and_false _
  case notification n => simp [isExit, ofMessage, Message.isExit]

theorem exited_handle (m : MockServer) (i : Incoming) : (m.handle i).1.exited = (m.exited || i.isExit) := by
  obtain ⟨_ | id, _ | method, params, error?⟩ := i
  case none.some =>
    have he : Incoming.isExit ⟨none, some method, params, error?⟩ = decide (method = "exit") := by
      simp [Incoming.isExit]
    rw [he]
    exact exited_notification m method params
  all_goals exact (Bool.or_false _).symm

theorem handleAll_cons (m : MockServer) (message : Message) (messages : List Message) :
    m.handleAll (message :: messages) =
      (((m.handle (.ofMessage message)).1.handleAll messages).1,
        (m.handle (.ofMessage message)).2 ++ ((m.handle (.ofMessage message)).1.handleAll messages).2) :=
  rfl

theorem hearAll_encode (hm : m.exited = false) (h : ∀ message ∈ messages, message.Valid) :
    m.hearAll (messages.map Message.encode) =
      m.handleAll (untilExit (messages.filter (·.Shallow))) := by
  induction messages generalizing m
  case nil => rfl
  case cons message messages hi =>
    have ⟨hv, hvs⟩ := List.forall_mem_cons.mp h
    rw [List.map_cons, hearAll_cons hm, hear_encode hv]
    by_cases hs : message.Shallow
    case neg =>
      rw [if_neg hs, List.filter_cons_of_neg (by simpa using hs), hi hm hvs]
      rfl
    case pos =>
      -- A message that ends the server is the last one that it handles.
      have he := exited_handle m (.ofMessage message)
      rw [hm, Bool.false_or, Incoming.isExit_ofMessage] at he
      rw [if_pos hs, List.filter_cons_of_pos (by simpa using hs), untilExit]
      cases hx : message.isExit
      case true =>
        rw [hx] at he
        rw [if_pos rfl, hearAll_exited he, handleAll_cons]
        rfl
      case false =>
        rw [hx] at he
        rw [if_neg nofun, hi he hvs, handleAll_cons]

def Output.bytes (output : Output) : Bytes :=
  Utf8.encode output.onOut

-- What a client takes an output for.
def Output.unit : Output → Rpc.Frame.Unit
  | .frame body   => .ok (.message body)
  | .noise method => .ok (.log (String.ofList (Text.trim ("mockls: handling " ++ method).toList)))

-- The outputs that keep to the protocol: bodies with a length in 64 bits, and lines that are one line.
def Output.Fits : Output → Prop
  | .frame body   => body.utf8ByteSize < UInt64.size
  | .noise method => '\n' ∉ method.toList

instance : DecidablePred Output.Fits
  | .frame body   => inferInstanceAs (Decidable (body.utf8ByteSize < UInt64.size))
  | .noise method => inferInstanceAs (Decidable ('\n' ∉ method.toList))

theorem drain_frame (h : (Output.frame body).Fits) (rest : Bytes) :
    Rpc.Frame.drain ((Output.frame body).bytes ++ rest) =
      ((Output.frame body).unit :: (Rpc.Frame.drain rest).1, (Rpc.Frame.drain rest).2) := by
  have ha : (Rpc.Frame.HeaderBlock.ofLength body.utf8ByteSize).Announces (Utf8.encode body).length := by
    rw [Utf8.length_encode]
    exact Rpc.Frame.HeaderBlock.announces_ofLength h
  have hb : (Output.frame body).bytes =
      (Rpc.Frame.HeaderBlock.ofLength body.utf8ByteSize).bytes ++ Utf8.encode body :=
    Rpc.Frame.HeaderBlock.encode_frame body
  rw [hb]
  exact Rpc.Frame.drain_frame ((Rpc.Frame.next_announced ha rest).left body (Utf8.decode_encode body))

theorem drain_noise (h : (Output.noise method).Fits) (rest : Bytes) :
    Rpc.Frame.drain ((Output.noise method).bytes ++ rest) =
      ((Output.noise method).unit :: (Rpc.Frame.drain rest).1, (Rpc.Frame.drain rest).2) := by
  have hl : (Output.noise method).bytes = Utf8.encode ("mockls: handling " ++ method) ++ [10] :=
    Utf8.encode_append _ _
  have hm : 10 ∉ Utf8.encode ("mockls: handling " ++ method) := by
    intro hm
    have hm := Utf8.mem_toList_of_mem_encode hm (by decide)
    rw [String.toList_append, List.mem_append] at hm
    obtain hm | hm := hm
    · exact absurd hm (by decide)
    · exact h hm
  -- No header name is longer than what the line begins with, and none agrees with it.
  have hn : ¬Rpc.Frame.Named (Utf8.encode ("mockls: handling " ++ method)) := by
    rintro ⟨name, hname, he⟩
    have hlen : name.length ≤ (Utf8.encode "mockls: handling ").length := by
      have : ∀ name ∈ Rpc.Frame.headerNames, name.length ≤ (Utf8.encode "mockls: handling ").length := by decide
      exact this name hname
    rw [Utf8.encode_append, List.take_append_of_le_length hlen] at he
    have hno : ∀ name ∈ Rpc.Frame.headerNames,
        ((Utf8.encode "mockls: handling ").take name.length).map Text.lowerByte ≠ name := by decide
    exact hno name hname he
  have ht : Rpc.Frame.logText (Utf8.encode ("mockls: handling " ++ method)) =
      Text.trim ("mockls: handling " ++ method).toList := by
    rw [Rpc.Frame.logText, Utf8.lossy_encode]
  have he : Text.trim ("mockls: handling " ++ method).toList ≠ [] := by
    have hm : 'm' ∈ Text.trim ("mockls: handling " ++ method).toList := by
      rw [String.toList_append]
      exact Text.mem_trim_cons (by decide)
    exact List.ne_nil_of_mem hm
  have hs := (Rpc.Frame.next_stray hm hn rest).right (by rwa [ht])
  rw [ht, ← hl] at hs
  exact Rpc.Frame.drain_frame hs

theorem drain_outputs (h : ∀ output ∈ outputs, output.Fits) :
    Rpc.Frame.drain (outputs.flatMap Output.bytes) = (outputs.map Output.unit, []) := by
  induction outputs
  case nil => exact Rpc.Frame.drain_wait Rpc.Frame.next_nil
  case cons output outputs hi =>
    have ⟨ho, hos⟩ := List.forall_mem_cons.mp h
    have hi := hi hos
    rw [List.flatMap_cons, List.map_cons]
    cases output
    case frame body   => rw [drain_frame ho, hi]
    case noise method => rw [drain_noise ho, hi]

theorem not_noise_publish (m : MockServer) (uri : String) : .noise method ∉ m.publish uri := by
  rw [publish]
  split
  · exact List.not_mem_nil
  · exact fun h => by cases List.mem_singleton.mp h

theorem not_noise_notification (m : MockServer) (name : String) (params : Json) :
    .noise method ∉ (m.notification name params).2 := by
  unfold notification
  split
  case h_1 => exact not_noise_publish _ _
  case h_2 => exact not_noise_publish _ _
  case h_3 => exact List.not_mem_nil
  case h_4 => exact List.not_mem_nil

theorem not_noise_reply (id : Json) (error? : Option Json) : .noise method ∉ reply id error? := by
  unfold reply
  split
  case h_1 =>
    split
    · exact fun h => by cases List.mem_singleton.mp h
    · exact List.not_mem_nil
  case h_2 => exact List.not_mem_nil

theorem eq_of_noise_request {id params : Json} {name : String} (h : .noise method ∈ m.request id name params) :
    method = name := by
  rw [request] at h
  split at h
  case isTrue  => cases h
  case isFalse =>
    obtain h | h := List.mem_append.mp h
    case inl =>
      split at h
      · exact Output.noise.inj (List.mem_singleton.mp h)
      · cases h
    case inr =>
      split at h
      case isTrue  => cases List.mem_singleton.mp h
      case isFalse =>
        split at h
        case h_1 => cases List.mem_singleton.mp h
        case h_2 =>
          obtain h | h := List.mem_cons.mp h
          · cases h
          · rw [questionsAfter] at h
            split at h
            · cases List.mem_singleton.mp h
            · cases h

theorem method_of_noise (h : .noise method ∈ (m.handle (.ofMessage message)).2) :
    message.method? = some method := by
  cases message
  case request r      => exact congrArg some (eq_of_noise_request h).symm
  case notification n => exact absurd h (not_noise_notification m n.method n.params)
  case response r     =>
    rw [handle, Incoming.ofMessage] at h
    cases hi : r.id
    case none    =>
      simp only [hi, Option.map_none] at h
      cases h
    case some id =>
      simp only [hi, Option.map_some] at h
      exact absurd h (not_noise_reply _ _)

theorem exists_of_noise (h : .noise method ∈ (m.handleAll messages).2) :
    ∃ message ∈ messages, message.method? = some method := by
  induction messages generalizing m
  case nil => cases h
  case cons message messages hi =>
    rw [handleAll_cons, List.mem_append] at h
    obtain h | h := h
    case inl => exact ⟨message, List.mem_cons_self, method_of_noise h⟩
    case inr =>
      have ⟨message', hm, hn⟩ := hi h
      exact ⟨message', List.mem_cons_of_mem _ hm, hn⟩

theorem mem_of_mem_untilExit (h : message ∈ untilExit messages) : message ∈ messages := by
  induction messages
  case nil => cases h
  case cons message' messages hi =>
    rw [untilExit] at h
    split at h
    · exact List.mem_singleton.mp h ▸ List.mem_cons_self
    · obtain rfl | h := List.mem_cons.mp h
      · exact List.mem_cons_self
      · exact List.mem_cons_of_mem _ (hi h)

-- What a server takes of the messages that its client sends.
def taken (messages : List Message) : List Message :=
  untilExit (messages.filter (·.Shallow))

theorem exited_handleAll (hm : m.exited = false) (messages : List Message) :
    (m.handleAll (untilExit messages)).1.exited = messages.any Message.isExit := by
  induction messages generalizing m
  case nil => exact hm
  case cons message messages hi =>
    have he := exited_handle m (.ofMessage message)
    rw [hm, Bool.false_or, Incoming.isExit_ofMessage] at he
    rw [untilExit, List.any_cons]
    cases hx : message.isExit
    case true  =>
      rw [if_pos rfl, handleAll_cons, Bool.true_or]
      exact he.trans hx
    case false =>
      rw [if_neg nofun, handleAll_cons, Bool.false_or]
      exact hi (he.trans hx)

-- Of what its client sends, however it is cut, a server handles the messages that it can read, in order
-- and up to the first that ends it. In what it writes its client finds each output in its place.
theorem conversation {chunks : List Bytes} (options : Options) (h : ∀ message ∈ messages, message.Sendable)
    (hc : chunks.flatten = messages.flatMap fun message => framed message.encode)
    (ho : ∀ body, .frame body ∈ ((new options).feedAll chunks).2 → body.utf8ByteSize < UInt64.size) :
    ((new options).feedAll chunks).2 = ((new options).handleAll (taken messages)).2 ∧
    ((new options).feedAll chunks).1.documents = ((new options).handleAll (taken messages)).1.documents ∧
    ((new options).feedAll chunks).1.exited = (messages.filter (·.Shallow)).any Message.isExit ∧
    Rpc.Frame.drain (((new options).feedAll chunks).2.flatMap Output.bytes) =
      (((new options).feedAll chunks).2.map Output.unit, []) := by
  have hb : ∀ body ∈ messages.map Message.encode, body.utf8ByteSize < UInt64.size :=
    List.forall_mem_map.mpr fun message hm => (h message hm).size
  have hf : chunks.flatten = (messages.map Message.encode).flatMap framed := by
    rw [hc, List.flatMap_map]
  have ⟨hs, hd, hx⟩ := feedAll_framed hb hf options
  have hh := hearAll_encode (m := new options) rfl fun message hm => (h message hm).valid
  rw [hh] at hs hd hx
  have he := exited_handleAll (m := new options) rfl (messages.filter (·.Shallow))
  refine ⟨hs, hd, hx.trans he, drain_outputs fun output hm => ?_⟩
  cases output
  case frame body   => exact ho body hm
  case noise method =>
    rw [hs] at hm
    have ⟨message, ht, hn⟩ := exists_of_noise hm
    exact (h message (List.mem_filter.mp (mem_of_mem_untilExit ht)).left).line method hn

theorem conversation_of_torn_frame :
    let options := { Options.default with logNoise := true }
    let messages := [Message.request (.new 1 "shutdown" .null), .notification (.new "exit" .null)]
    let bytes := messages.flatMap fun message => framed message.encode
    let chunks := [bytes.take 19, bytes.drop 19]
    chunks.flatten = bytes ∧ Rpc.Frame.drain (((new options).feedAll chunks).2.flatMap Output.bytes) =
      ([.ok (.log "mockls: handling shutdown"),
        .ok (.message "\x7b\"jsonrpc\":\"2.0\",\"id\":1,\"result\":null\x7d")], []) := by
  intro options messages bytes chunks
  have hc : chunks.flatten = bytes := by decide +kernel
  -- Only the outputs of the server are computed; what the client finds in them follows from them.
  have ho : ((new options).feedAll chunks).2 =
      [.noise "shutdown", .frame "\x7b\"jsonrpc\":\"2.0\",\"id\":1,\"result\":null\x7d"] := by
    decide +kernel
  have hn : Rpc.Value .null := ⟨by simp [Json.Writable], by simp [Json.Sorted]⟩
  have hi : (Request.new 1 "shutdown" .null).id.Fits := by
    simp [Request.new, Rpc.RequestId.Fits, Rpc.IsInt64]
  have hm : ∀ message ∈ messages, message.Sendable := by
    refine List.forall_mem_cons.mpr ⟨⟨⟨hi, hn⟩, ?_, by decide +kernel⟩,
      List.forall_mem_singleton.mpr ⟨hn, ?_, by decide +kernel⟩⟩
    · rintro _ ⟨⟩
      decide
    · rintro _ ⟨⟩
      decide
  refine ⟨hc, (conversation options hm hc ?_).right.right.right.trans ?_⟩
  · intro body hb
    rw [ho] at hb
    cases hb
    case tail hb =>
      cases List.mem_singleton.mp hb
      decide +kernel
  · rw [ho]
    decide +kernel

def nest : Nat → Json
  | 0     => .arr []
  | n + 1 => .arr [nest n]

theorem depth_nest (n : Nat) : (nest n).depth = n + 1 := by
  induction n
  case zero      => simp [nest, Json.depth, Json.depthItems]
  case succ n hi => simp [nest, Json.depth, Json.depthItems, hi]

theorem value_nest (n : Nat) : Rpc.Value (nest n) := by
  induction n
  case zero      => exact ⟨by simp [nest, Json.Writable, Json.WritableItems],
    by simp [nest, Json.Sorted, Json.SortedItems]⟩
  case succ n hi => exact ⟨by simp [nest, Json.Writable, Json.WritableItems, hi.writable],
    by simp [nest, Json.Sorted, Json.SortedItems, hi.sorted]⟩

def deepRequest : Message :=
  .request (.new 1 "m" (nest 126))

theorem sendable_deepRequest : deepRequest.Sendable where
  valid := ⟨by simp [Request.new, Rpc.RequestId.Fits, Rpc.IsInt64], value_nest 126⟩
  line  := by
    rintro _ ⟨⟩
    decide
  size  := by decide +kernel

theorem not_shallow_deepRequest : ¬deepRequest.Shallow := by
  intro h
  have h : (nest 126).depth < Json.maxDepth := h
  rw [depth_nest] at h
  exact absurd h (by decide)

-- A request whose parameters are nested too deep has no answer, but the server goes on to the next
-- message.
theorem deep_request_unanswered : ¬∀ (options : Options) (messages : List Message) (chunks : List Bytes),
    (∀ message ∈ messages, message.Sendable) →
    chunks.flatten = (messages.flatMap fun message => framed message.encode) →
    ((new options).feedAll chunks).2 = ((new options).handleAll (untilExit messages)).2 := by
  intro h
  have hs := List.forall_mem_singleton.mpr sendable_deepRequest
  have hb : ∀ body ∈ [deepRequest.encode], body.utf8ByteSize < UInt64.size :=
    List.forall_mem_singleton.mpr sendable_deepRequest.size
  have hc : [framed deepRequest.encode].flatten = [deepRequest.encode].flatMap framed := rfl
  have hn : ((new .default).hearAll [deepRequest.encode]).2 = [] := by
    rw [hearAll_cons rfl, hear_encode sendable_deepRequest.valid, if_neg not_shallow_deepRequest]
    rfl
  have ha := h .default [deepRequest] [framed deepRequest.encode] hs rfl
  rw [(feedAll_framed hb hc .default).left, hn] at ha
  cases ha

end MockServer
end LanguageClient
