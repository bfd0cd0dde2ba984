import LanguageClient.Proofs.Json.Denoted
import LanguageClient.Proofs.MockServer.Telling

namespace LanguageClient.MockServer

open Protocol

variable {m : MockServer} {options : Options} {output : Output} {body method : String} {bodies : List String}
  {id result params : Json} {ms : List (String × Json)} {code : Int} {message : String} {i : Incoming}

-- What a request asks for, under an id.
structure Query where
  id     : Json
  method : String

def query? (body : String) : Option Query := do
  let i ← Incoming.ofText? body
  return ⟨← i.id?, ← i.method?⟩

def isExit (body : String) : Bool :=
  (Incoming.ofText? body).any Incoming.isExit

-- The requests that a server is to answer: those before its end, unless it hangs on their methods.
def asked (options : Options) (bodies : List String) : List Query :=
  ((bodies.takeWhile (!isExit ·)).filterMap query?).filter (·.method ∉ options.hangOn)

def Output.members? : Output → Option (List (String × String))
  | .frame body => Json.outline? body
  | .noise _    => none

def Output.response? (output : Output) : Option (List (String × String)) :=
  output.members?.filter fun members => (members.lookup "method").isNone

def methods : List String :=
  ["initialize", "shutdown", "textDocument/completion"]

def Succeeds (members : List (String × String)) : Prop :=
  members.lookup "error" = none ∧ (members.lookup "result").isSome

def Fails (members : List (String × String)) (code : Int) (message : String) : Prop :=
  members.lookup "result" = none ∧ ∃ text ∈ members.lookup "error",
    Json.parse text = .ok (.obj [("code", .int code), ("message", .str message)])

-- The text of an id is that of the value that was read. It is read as this value again if the numbers
-- of the value are integers of 64 bits; its other numbers are doubles.
structure Carries (text : String) (id : Json) : Prop where
  written : text = id.text
  kept    : id.Exact → Json.parse text = .ok id

structure Answers (options : Options) (q : Query) (members : List (String × String)) : Prop where
  id      : ∃ text ∈ members.lookup "id", Carries text q.id
  outcome :
    if q.method ∈ options.failOn then
      Fails members (-32603) ("mockls: configured to fail on " ++ q.method)
    else if q.method ∈ methods then Succeeds members
    else Fails members (-32601) ("mockls: method not found: " ++ q.method)

theorem Incoming.eq_of_present {j : Json} (h : present j = some id) : j = id := by
  unfold present at h
  split at h
  · cases h
  · exact Option.some.inj h

theorem Incoming.id?_of_ofValues? {j method params error : Json}
    (h : ofValues? j method params error = some i) : i.id? = present j := by
  unfold ofValues? at h
  split at h
  case h_1 | h_2 => cases h; rfl
  case h_3       => cases h

theorem Incoming.id?_of_ofItems? {js : List Json} (h : ofItems? js = some i) :
    ∃ j ∈ js, i.id? = present j := by
  unfold ofItems? at h
  split at h
  case h_4 => cases h
  all_goals exact ⟨_, List.mem_cons_self, id?_of_ofValues? h⟩

theorem Incoming.readable_id (h : ofText? body = some i) (hi : i.id? = some id) :
    Json.Readable (Json.maxDepth - 1) id := by
  unfold ofText? at h
  split at h
  case h_1 members _ =>
    obtain ⟨j, hj, h⟩ := Option.bind_eq_some_iff.mp h
    obtain ⟨_, _, h⟩ := Option.bind_eq_some_iff.mp h
    obtain ⟨_, _, h⟩ := Option.bind_eq_some_iff.mp h
    obtain ⟨_, _, h⟩ := Option.bind_eq_some_iff.mp h
    -- An id that is not given, or is `null`, is none.
    rw [id?_of_ofValues? h] at hi
    obtain rfl := eq_of_present hi
    unfold member? at hj
    split at hj
    case h_1 => cases hj; cases hi
    case h_2 => exact Json.readable_of_parseInside hj
    case h_3 => cases hj
  case h_2 =>
    split at h
    case h_1 items hp =>
      obtain ⟨j, hj, he⟩ := id?_of_ofItems? h
      rw [he] at hi
      obtain rfl := eq_of_present hi
      exact (Json.readable_of_parse hp).of_mem hj
    case h_2 => cases h

theorem carries_text (h : Json.Readable (Json.maxDepth - 1) id) : Carries id.text id where
  written := rfl
  kept he := by
    rw [Json.parse_text he (h.depth.trans (Nat.sub_le _ _)), Json.normal_of_sorted h.sorted]

-- An output with members that can be told apart.
structure Says (output : Output) (ms : List (String × Json)) : Prop where
  isBody  : output = .frame (Json.obj ms).text
  legible : Json.LegibleMembers ms

theorem Says.members? (h : Says output ms) : output.members? = some (Json.texts ms) := by
  rw [h.isBody, Output.members?, Json.outline?_text h.legible]

theorem legible_complaint (line first last : Nat) (severity : Severity) (message : String) :
    (complaint line first last severity message).toJson.Legible := by
  have hp (line character : Nat) : (Position.mk line character).toJson.Legible :=
    Json.legible_object (by simp [Json.nat])
  have hr (first last : Position) (hf : first.toJson.Legible) (hl : last.toJson.Legible) :
      (Range.mk first last).toJson.Legible := Json.legible_object (by simp [hf, hl])
  exact Json.legible_object (by simp [complaint, hr _ _ (hp line first) (hp line last), Code.toJson])

theorem says_publication {ds : List Diagnostic} (h : ∀ d ∈ ds, d.toJson.Legible) (uri : String) :
    Says (publication uri ds) [("jsonrpc", .str "2.0"), ("method", .str Publish.method),
      ("params", (Publish.mk uri ds none).toJson)] where
  isBody  := rfl
  legible := by
    have hd : (Json.arr (ds.map Diagnostic.toJson)).Legible := Json.legible_arr (List.forall_mem_map.mpr h)
    have hp : (Publish.mk uri ds none).toJson.Legible := Json.legible_object (by simp [hd])
    exact Json.legibleMembers_iff.mpr (by simp [hp])

theorem says_question : Says question [("id", .str questionId), ("jsonrpc", .str "2.0"),
    ("method", .str "workspace/configuration"),
    ("params", .object [("items", .arr [.object [("section", .str "mockls")]])])] where
  isBody  := rfl
  legible := by
    have hs : (Json.object [("section", .str "mockls")]).Legible := Json.legible_object (by simp)
    have hp : (Json.object [("items", .arr [.object [("section", .str "mockls")]])]).Legible :=
      Json.legible_object (by simp [Json.legible_arr, hs])
    exact Json.legibleMembers_iff.mpr (by simp [hp])

theorem says_answer (hi : id.Legible) (hr : result.Legible) :
    Says (answer id result) [("jsonrpc", .str "2.0"), ("id", id), ("result", result)] where
  isBody  := rfl
  legible := Json.legibleMembers_iff.mpr (by simp [hi, hr])

theorem says_refusal (hi : id.Legible) (code : Int) (message : String) :
    Says (refusal id code message) [("jsonrpc", .str "2.0"), ("id", id),
      ("error", .obj [("code", .int code), ("message", .str message)])] where
  isBody  := rfl
  legible := by
    have he : (Json.obj [("code", .int code), ("message", .str message)]).Legible :=
      Json.legible_obj (by simp)
    exact Json.legibleMembers_iff.mpr (by simp [hi, he])

theorem Says.response? (h : Says output ms) : output.response? =
    if ((Json.texts ms).lookup "method").isNone then some (Json.texts ms) else none := by
  rw [Output.response?, h.members?, Option.filter_some]

-- The outputs give these responses, and each of them is a line of noise or says something.
structure Gives (outputs : List Output) (responses : List (List (String × String))) : Prop where
  responses : outputs.filterMap Output.response? = responses
  clear     : ∀ body, .frame body ∈ outputs → (Json.outline? body).isSome

theorem gives_nil : Gives [] [] := ⟨rfl, nofun⟩

theorem gives_noise (method : String) : Gives [.noise method] [] :=
  ⟨rfl, by simp⟩

theorem Gives.append {os os' : List Output} {rs rs' : List (List (String × String))} (h : Gives os rs)
    (h' : Gives os' rs') : Gives (os ++ os') (rs ++ rs') where
  responses := by rw [List.filterMap_append, h.responses, h'.responses]
  clear body hb := (List.mem_append.mp hb).elim (h.clear body) (h'.clear body)

theorem Says.gives (h : Says output ms) : Gives [output]
    (if ((Json.texts ms).lookup "method").isNone then [Json.texts ms] else []) where
  responses := by
    have ho := h.response?
    split at ho
    case isTrue hn  => rw [List.filterMap_cons_some ho, if_pos hn, List.filterMap_nil]
    case isFalse hn => rw [List.filterMap_cons_none ho, if_neg hn, List.filterMap_nil]
  clear body hb := by
    have hm := h.members?
    rw [← List.mem_singleton.mp hb] at hm
    exact Option.isSome_of_eq_some hm

theorem gives_publication {ds : List Diagnostic} (h : ∀ d ∈ ds, d.toJson.Legible) (uri : String) :
    Gives [publication uri ds] [] :=
  (says_publication h uri).gives

theorem gives_question : Gives [question] [] :=
  says_question.gives

theorem gives_publish (m : MockServer) (uri : String) : Gives (m.publish uri) [] := by
  rw [publish]
  split
  case isTrue  => exact gives_nil
  case isFalse =>
    refine gives_publication (fun d hd => ?_) uri
    obtain ⟨_, _, _, _, _, rfl, _⟩ := placed_scan hd
    exact legible_complaint ..

theorem gives_notification (m : MockServer) (method : String) (params : Json) :
    Gives (m.notification method params).2 [] := by
  unfold notification
  split
  case h_1 | h_2 => exact gives_publish _ _
  case h_3 | h_4 => exact gives_nil

theorem gives_reply (id : Json) (error? : Option Json) : Gives (reply id error?) [] := by
  unfold reply
  split
  case h_1 =>
    split
    case isTrue  => exact gives_publication (List.forall_mem_singleton.mpr (legible_complaint ..)) _
    case isFalse => exact gives_nil
  case h_2 => exact gives_nil

theorem gives_questionsAfter (m : MockServer) (method : String) : Gives (m.questionsAfter method) [] := by
  rw [questionsAfter]
  split
  · exact gives_question
  · exact gives_nil

theorem legible_introduction : introduction.Legible := by
  have hs : (Json.object [("openClose", .bool true), ("change", .int 1)]).Legible :=
    Json.legible_object (by simp)
  have hc : (Json.object [("resolveProvider", .bool false)]).Legible := Json.legible_object (by simp)
  have hi : (Json.object [("name", .str "mockls"), ("version", .str "0.4.1")]).Legible :=
    Json.legible_object (by simp)
  have ht : (Json.object [("textDocumentSync", .object [("openClose", .bool true), ("change", .int 1)]),
      ("completionProvider", .object [("resolveProvider", .bool false)])]).Legible :=
    Json.legible_object (by simp [hs, hc])
  exact Json.legible_object (by simp [ht, hi])

theorem legible_completionsFor (m : MockServer) (params : Json) : (m.completionsFor params).Legible :=
  Json.legible_of_writable (Json.writable_of_exact (within_offer _ _).plain.exact)

theorem result?_cases (m : MockServer) (method : String) (params : Json) :
    (method ∈ methods ∧ ∃ result, m.result? method params = some result ∧ result.Legible) ∨
    (method ∉ methods ∧ m.result? method params = none) := by
  unfold result?
  split
  case h_1 => exact .inl ⟨by decide, _, rfl, legible_introduction⟩
  case h_2 => exact .inl ⟨by decide, _, rfl, Json.legible_null⟩
  case h_3 => exact .inl ⟨by decide, _, rfl, legible_completionsFor m params⟩
  case h_4 hi hs hc => exact .inr ⟨by simpa [methods] using ⟨hi, hs, hc⟩, rfl⟩

theorem request_hung (hh : method ∈ m.options.hangOn) : m.request id method params = [] :=
  if_pos (List.contains_iff_mem.mpr hh)

theorem request_eq (hh : method ∉ m.options.hangOn) (id params : Json) : m.request id method params =
    (if m.options.logNoise then [.noise method] else []) ++
      if method ∈ m.options.failOn then [refusal id (-32603) ("mockls: configured to fail on " ++ method)]
      else (m.result? method params).elim
        [refusal id (-32601) ("mockls: method not found: " ++ method)]
        fun result => answer id result :: m.questionsAfter method := by
  rw [request, if_neg (by simpa using hh)]
  congr 1
  by_cases hf : method ∈ m.options.failOn
  case pos => rw [if_pos hf, if_pos (by simpa using hf)]
  case neg =>
    rw [if_neg hf, if_neg (by simpa using hf)]
    cases m.result? method params <;> rfl

theorem fails_refusal (hc : Json.IsWord code) (id : Json) (message : String) :
    Fails (Json.texts [("jsonrpc", .str "2.0"), ("id", id),
      ("error", .obj [("code", .int code), ("message", .str message)])]) code message := by
  have he : (Json.obj [("code", .int code), ("message", .str message)]).Exact := by
    simp [Json.Exact, Json.ExactMembers, Json.int, hc]
  have hs : (Json.obj [("code", .int code), ("message", .str message)]).Sorted := by
    have ho := Members.ordered_ofList [("code", .int code), ("message", .str message)]
    rw [Json.Sorted]
    exact ⟨ho, by simp [Json.SortedMembers, Json.int, Json.Sorted]⟩
  have hd : (Json.obj [("code", .int code), ("message", .str message)]).depth = 1 := by
    simp [Json.depth, Json.depthMembers, Json.int]
  refine ⟨rfl, _, rfl, ?_⟩
  rw [Json.parse_text he (by rw [hd]; decide), Json.normal_of_sorted hs]

theorem exists_gives_request (hi : Json.Readable (Json.maxDepth - 1) id) (hh : method ∉ m.options.hangOn)
    (params : Json) : ∃ members, Gives (m.request id method params) [members] ∧
      Answers m.options ⟨id, method⟩ members := by
  have hl := Json.legible_of_writable hi.writable
  -- The noise before an answer is no response.
  have hn : Gives (if m.options.logNoise then [.noise method] else []) [] := by
    split
    · exact gives_noise method
    · exact gives_nil
  rw [request_eq hh]
  by_cases hf : method ∈ m.options.failOn
  case pos =>
    rw [if_pos hf]
    refine ⟨_, hn.append (says_refusal hl _ _).gives, ⟨_, rfl, carries_text hi⟩, ?_⟩
    rw [if_pos hf]
    exact fails_refusal (by simp [Json.IsWord]) id _
  case neg =>
    rw [if_neg hf]
    obtain ⟨hm, result, hr, hleg⟩ | ⟨hm, hr⟩ := m.result?_cases method params
    case inl =>
      rw [hr]
      refine ⟨_, hn.append ((says_answer hl hleg).gives.append (m.gives_questionsAfter method)),
        ⟨_, rfl, carries_text hi⟩, ?_⟩
      rw [if_neg hf, if_pos hm]
      exact ⟨rfl, rfl⟩
    case inr =>
      rw [hr]
      refine ⟨_, hn.append (says_refusal hl _ _).gives, ⟨_, rfl, carries_text hi⟩, ?_⟩
      rw [if_neg hf, if_neg hm]
      exact fails_refusal (by simp [Json.IsWord]) id _

theorem exists_gives_hear (m : MockServer) (body : String) :
    ∃ responses, Gives (m.hear body).2 responses ∧
      List.Forall₂ (Answers m.options) ((query? body).toList.filter (·.method ∉ m.options.hangOn)) responses := by
  rw [hear, query?]
  cases hb : Incoming.ofText? body
  case none   => exact ⟨[], gives_nil, .nil⟩
  case some i =>
    obtain ⟨id?, method?, params, error?⟩ := i
    cases id?
    case none =>
      cases method?
      case none        => exact ⟨[], gives_nil, .nil⟩
      case some method => exact ⟨[], m.gives_notification method params, .nil⟩
    case some id =>
      cases method?
      case none        => exact ⟨[], gives_reply id error?, .nil⟩
      case some method =>
        have hq : (Option.toList (some (Query.mk id method))).filter (·.method ∉ m.options.hangOn) =
            if method ∈ m.options.hangOn then [] else [⟨id, method⟩] := by
          split <;> simp [*]
        have hr : m.handle ⟨some id, some method, params, error?⟩ = (m, m.request id method params) := rfl
        simp only [hr, Option.bind_eq_bind, Option.bind_some, Option.pure_def, hq]
        by_cases hh : method ∈ m.options.hangOn
        case pos =>
          rw [if_pos hh, request_hung hh]
          exact ⟨[], gives_nil, .nil⟩
        case neg =>
          obtain ⟨members, hg, ha⟩ := exists_gives_request (Incoming.readable_id hb rfl) hh params
          rw [if_neg hh]
          exact ⟨_, hg, .cons ha .nil⟩

theorem options_notification (m : MockServer) (method : String) (params : Json) :
    (m.notification method params).1.options = m.options := by
  unfold notification
  split
  case h_2 => cases changedText? params <;> rfl
  all_goals rfl

theorem options_hear (m : MockServer) (body : String) : (m.hear body).1.options = m.options := by
  rw [hear]
  cases Incoming.ofText? body
  case none   => rfl
  case some i =>
    obtain ⟨_ | id, _ | method, params, error?⟩ := i
    case none.some => exact options_notification m method params
    all_goals rfl

theorem exited_hear (m : MockServer) (body : String) :
    (m.hear body).1.exited = (m.exited || isExit body) := by
  rw [hear, isExit]
  cases Incoming.ofText? body
  case none   => exact (Bool.or_false _).symm
  case some i => exact exited_handle m i

theorem asked_cons (options : Options) (body : String) (bodies : List String) :
    asked options (body :: bodies) = if isExit body then [] else
      (query? body).toList.filter (·.method ∉ options.hangOn) ++ asked options bodies := by
  have hf : (body :: bodies.takeWhile (!isExit ·)).filterMap query? =
      (query? body).toList ++ (bodies.takeWhile (!isExit ·)).filterMap query? := by
    cases hq : query? body
    case none   => exact List.filterMap_cons_none hq
    case some q => exact List.filterMap_cons_some hq
  rw [asked, asked, List.takeWhile_cons]
  cases isExit body
  case true  => rfl
  case false => rw [Bool.not_false, if_pos rfl, if_neg nofun, hf, List.filter_append]

theorem query?_of_isExit (h : isExit body) : query? body = none := by
  rw [isExit] at h
  rw [query?]
  cases hb : Incoming.ofText? body
  case none   => rfl
  case some i =>
    rw [hb, Option.any_some, Incoming.isExit, Bool.and_eq_true, Option.isNone_iff_eq_none] at h
    simp [h.left]

theorem exists_gives_hearAll (hm : m.exited = false) (bodies : List String) :
    ∃ responses, Gives (m.hearAll bodies).2 responses ∧
      List.Forall₂ (Answers m.options) (asked m.options bodies) responses := by
  induction bodies generalizing m
  case nil => exact ⟨[], gives_nil, .nil⟩
  case cons body bodies hi =>
    have ⟨responses, hg, ha⟩ := m.exists_gives_hear body
    have hx := m.exited_hear body
    rw [hm, Bool.false_or] at hx
    rw [hearAll_cons hm, asked_cons]
    cases he : isExit body
    case true =>
      rw [he] at hx
      rw [query?_of_isExit he] at ha
      -- The body ends the server, so that the others are neither heard nor to be answered.
      rw [hearAll_exited hx, List.append_nil, if_pos rfl]
      exact ⟨responses, hg, ha⟩
    case false =>
      rw [he] at hx
      have ⟨later, hg', ha'⟩ := hi hx
      rw [options_hear] at ha'
      rw [if_neg nofun]
      exact ⟨responses ++ later, hg.append hg', List.rel_append ha ha'⟩

-- Of a stream of bodies, however it is cut, a server answers each request that it is to answer once, and
-- nothing else. Each body that it writes can be read.
theorem requests_answered {envelopes : List Envelope} {chunks : List Bytes} (options : Options)
    (hc : chunks.flatten = envelopes.flatMap Envelope.bytes) :
    List.Forall₂ (Answers options) (asked options (envelopes.map Envelope.body))
      (((new options).feedAll chunks).2.filterMap Output.response?) ∧
    ∀ body, .frame body ∈ ((new options).feedAll chunks).2 → (Json.outline? body).isSome := by
  have ⟨ho, _⟩ := feedAll_flatMap (fun e _ => takeBody?_envelope e) hc options
  have ⟨responses, hg, ha⟩ := exists_gives_hearAll (m := new options) rfl (envelopes.map Envelope.body)
  rw [ho, hg.responses]
  exact ⟨ha, hg.clear⟩

theorem requests_answered_of_mixture :
    let options := { Options.default with hangOn := ["hang"], failOn := ["fail"], logNoise := true }
    let envelopes := [
      Envelope.ofBody "\x7b\"id\":1,\"method\":\"initialize\"\x7d" (by decide),
      Envelope.ofBody "\x7b\"id\":[2,\"b\"],\"method\":\"fail\"\x7d" (by decide),
      Envelope.ofBody "\x7b\"id\":3,\"method\":\"hang\"\x7d" (by decide),
      Envelope.ofBody "\x7b\"id\":4,\"method\":5\x7d" (by decide),
      Envelope.ofBody "\x7b\"id\":\"mockls-configuration\"\x7d" (by decide),
      Envelope.ofBody "\x7b\"id\":\"x\",\"method\":\"other\"\x7d" (by decide),
      Envelope.ofBody "\x7b\"method\":\"exit\"\x7d" (by decide),
      Envelope.ofBody "\x7b\"id\":6,\"method\":\"shutdown\"\x7d" (by decide)]
    let bytes := envelopes.flatMap Envelope.bytes
    let chunks := [bytes.take 30, bytes.drop 30]
    chunks.flatten = bytes ∧
    (asked options (envelopes.map Envelope.body)).map (fun q => (q.id.text, q.method)) =
      [("1", "initialize"), ("[2,\"b\"]", "fail"), ("\"x\"", "other")] ∧
    List.Forall₂ (Answers options) (asked options (envelopes.map Envelope.body))
      (((new options).feedAll chunks).2.filterMap Output.response?) := by
  intro options envelopes bytes chunks
  have hc : chunks.flatten = bytes := by simp [chunks]
  exact ⟨hc, by decide +kernel, (requests_answered options hc).left⟩

-- An id that is no integer of 64 bits comes back as the double that it is read as.
theorem large_id_rounded :
    let body := "\x7b\"jsonrpc\":\"2.0\",\"id\":18446744073709551617,\"method\":\"shutdown\"\x7d"
    (Json.outline? body).bind (·.lookup "id") = some "18446744073709551617" ∧
    ((run .default (framed body)).filterMap Output.response?).map (·.lookup "id") =
      [some "1.8446744073709552e+19"] := by
  decide +kernel

end LanguageClient.MockServer
