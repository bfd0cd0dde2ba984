import LanguageClient.Proofs.MockServer.Telling
import LanguageClient.Proofs.Session.Talking
import LanguageClient.Protocol.Params

namespace LanguageClient
open Protocol

inductive Saying
  | opened (path text language : String)
  | changed (path text : String) (version : Int)
  | asked (number : Nat) (path : String) (line character : Nat)

def lastText? (uri : String) (texts : List (String × String)) : Option String :=
  (texts.filter (·.1 = uri)).getLast?.map (·.2)

def lastText (uri : String) (texts : List (String × String)) : String :=
  (lastText? uri texts).getD ""

theorem Rpc.Within.value {n : Nat} {j : Json} (h : Within n j) : Value j :=
  ⟨Json.writable_of_exact h.plain.exact, h.plain.sorted⟩

variable {uri : String} {texts : List (String × String)} {said before after : List Saying} {s : Saying}

theorem lastText?_concat (t : String × String) :
    lastText? uri (texts ++ [t]) = if uri = t.1 then some t.2 else lastText? uri texts := by
  rw [lastText?, List.filter_append]
  split
  case isTrue h  => simp [h]
  case isFalse h => simp [lastText?, Ne.symm h]

namespace Saying

def message : Saying → Rpc.Message
  | opened path text language =>
    .notification (.new "textDocument/didOpen" (didOpenParams path text language))
  | changed path text version =>
    .notification (.new "textDocument/didChange" (didChangeParams path text version))
  | asked number path line character =>
    .request (.new number "textDocument/completion" (completionParams path line character))

def text? : Saying → Option (String × String)
  | opened path text _ | changed path text _ => some (Uri.File.ofPath path, text)
  | asked .. => none

def number? : Saying → Option Nat
  | asked number .. => some number
  | _ => none

def Fits : Saying → Prop
  | opened _ text _ => text.utf8ByteSize < UInt64.size
  | changed _ text version => text.utf8ByteSize < UInt64.size ∧ Rpc.IsInt64 version
  | asked number _ line character =>
    Rpc.IsInt64 number ∧ line < UInt64.size ∧ character < UInt64.size

end Saying

def textsOf (said : List Saying) : List (String × String) :=
  said.filterMap (·.text?)

theorem textsOf_concat : textsOf (said ++ [s]) = textsOf said ++ s.text?.toList := by
  rw [textsOf, List.filterMap_append, ← textsOf]
  cases h : s.text? <;> simp [h]

namespace Saying

variable {path text language : String} {version : Int} {line character : Nat}

theorem isInt64_one : Rpc.IsInt64 1 := by
  simp [Rpc.IsInt64]

theorem within_didOpen (path text language : String) : Rpc.Within 3 (didOpenParams path text language) := by
  refine Rpc.within_object (List.forall_mem_singleton.mpr (Rpc.within_object ?_))
  simp [Rpc.within_str, Rpc.within_int isInt64_one]

theorem within_didChange (hv : Rpc.IsInt64 version) : Rpc.Within 3 (didChangeParams path text version) := by
  refine Rpc.within_object (List.forall_mem_cons.mpr ⟨?_, List.forall_mem_singleton.mpr ?_⟩)
  · refine Rpc.within_object ?_
    simp [Rpc.within_str, Rpc.within_int hv]
  · refine Rpc.within_arr (List.forall_mem_singleton.mpr (Rpc.within_object ?_))
    simp [Rpc.within_str]

theorem within_completion (hl : line < UInt64.size) (hc : character < UInt64.size) :
    Rpc.Within 3 (completionParams path line character) := by
  refine Rpc.within_object ?_
  simp only [List.forall_mem_cons, List.not_mem_nil, false_implies, implies_true, and_true]
  refine ⟨Rpc.within_object ?_, Rpc.within_object ?_, Rpc.within_object ?_⟩
  · simp [Rpc.within_str]
  · simp [Rpc.within_nat hl, Rpc.within_nat hc]
  · simp [Rpc.within_int isInt64_one]

theorem Fits.valid_message (h : s.Fits) : s.message.Valid ∧ s.message.Shallow ∧ s.message.isExit = false := by
  have hn : 3 < Json.maxDepth := by decide
  cases s
  case opened path text language =>
    have hw := within_didOpen path text language
    exact ⟨hw.value, Nat.lt_of_le_of_lt hw.depth hn, rfl⟩
  case changed path text version =>
    have hw : Rpc.Within 3 (didChangeParams path text version) := within_didChange h.right
    exact ⟨hw.value, Nat.lt_of_le_of_lt hw.depth hn, rfl⟩
  case asked number path line character =>
    have hw : Rpc.Within 3 (completionParams path line character) := within_completion h.right.left h.right.right
    exact ⟨⟨h.left, hw.value⟩, Nat.lt_of_le_of_lt hw.depth hn, rfl⟩

end Saying

namespace MockServer

variable {options : Options} {m : MockServer} {output : Output} {text : String} {e : Event}

-- The options of a server that publishes and answers at once. It may still wrap its items, make noise and
-- ask a question of its own.
structure Options.Obliging (o : Options) : Prop where
  prompt    : o.diagnosticsDelay = 0
  publishes : o.noDiagnostics = false
  answers   : o.hangOn = []
  succeeds  : o.failOn = []

-- What a server tells of what is said to it after other things.
def tells (options : Options) (before : List Saying) : Saying → List Output
  | .opened path text _ | .changed path text _ => [publication (Uri.File.ofPath path) (scan text)]
  | .asked number path _ _ =>
    (if options.logNoise then [.noise "textDocument/completion"] else []) ++
      [answer (Rpc.RequestId.number number).toJson
        (offer options.itemsWrapper (lastText (Uri.File.ofPath path) (textsOf before)))]

def told (options : Options) (said : List Saying) : List Output :=
  ((new options).handleAll (said.map Saying.message)).2

theorem handleAll_append (m : MockServer) (messages more : List Rpc.Message) :
    m.handleAll (messages ++ more) = (((m.handleAll messages).1.handleAll more).1,
      (m.handleAll messages).2 ++ ((m.handleAll messages).1.handleAll more).2) := by
  induction messages generalizing m
  case nil => rfl
  case cons message messages hi => simp only [List.cons_append, handleAll_cons, hi, List.append_assoc]

theorem document?_store (m : MockServer) (uri text uri' : String) :
    (m.store uri text).document? uri' = if uri' = uri then some text else m.document? uri' := by
  rw [document?, store, List.find?_cons]
  split
  case h_1 h => simp [(of_decide_eq_true h).symm]
  case h_2 h =>
    have h : uri' ≠ uri := fun he => of_decide_eq_false h he.symm
    rw [if_neg h, document?, List.find?_filter]
    congr 2
    funext p
    by_cases hp : p.1 = uri'
    · simp [hp, h]
    · simp [hp]

-- A server that has been told what was said.
structure Informed (m : MockServer) (options : Options) (said : List Saying) : Prop where
  options   : m.options = options
  documents : ∀ uri, m.document? uri = lastText? uri (textsOf said)

theorem informed_new (options : Options) : (new options).Informed options [] :=
  ⟨rfl, fun _ => rfl⟩

theorem Informed.publish (h : m.Informed options said) (ho : options.Obliging) (uri : String) :
    m.publish uri = [publication uri (scan (lastText uri (textsOf said)))] := by
  rw [MockServer.publish, h.options, ho.publishes, ho.prompt, h.documents]
  rfl

theorem Informed.store (h : m.Informed options said) (hs : s.text? = some (uri, text)) :
    (m.store uri text).Informed options (said ++ [s]) := by
  refine ⟨h.options, fun uri' => ?_⟩
  rw [document?_store, textsOf_concat, hs, Option.toList_some, lastText?_concat, h.documents]

theorem Informed.publish_store (h : m.Informed options said) (ho : options.Obliging)
    (hs : s.text? = some (uri, text)) : (m.store uri text).publish uri = [publication uri (scan text)] := by
  rw [(h.store hs).publish ho, lastText, textsOf_concat, hs, Option.toList_some, lastText?_concat, if_pos rfl]
  rfl

theorem handle_opened (m : MockServer) (path text language : String) :
    m.handle (.ofMessage (Saying.opened path text language).message) =
      (m.store (Uri.File.ofPath path) text,
        (m.store (Uri.File.ofPath path) text).publish (Uri.File.ofPath path)) := by
  have hd : (didOpenParams path text language).get? "textDocument" = some (.object
      [("uri", .str (Uri.File.ofPath path)), ("languageId", .str language), ("version", .int 1),
        ("text", .str text)]) := rfl
  exact notification_opened hd

theorem handle_changed (m : MockServer) (path text : String) (version : Int) :
    m.handle (.ofMessage (Saying.changed path text version).message) =
      (m.store (Uri.File.ofPath path) text,
        (m.store (Uri.File.ofPath path) text).publish (Uri.File.ofPath path)) := by
  have hd : (didChangeParams path text version).get? "textDocument" = some (.object
      [("uri", .str (Uri.File.ofPath path)), ("version", .int version)]) := rfl
  exact notification_changed hd

theorem Informed.handle (h : m.Informed options said) (ho : options.Obliging) (s : Saying) :
    (m.handle (.ofMessage s.message)).1.Informed options (said ++ [s]) ∧
      (m.handle (.ofMessage s.message)).2 = tells options said s := by
  cases s
  case opened path text language =>
    have hs : (Saying.opened path text language).text? = some (Uri.File.ofPath path, text) := rfl
    rw [handle_opened, h.publish_store ho hs]
    exact ⟨h.store hs, rfl⟩
  case changed path text version =>
    have hs : (Saying.changed path text version).text? = some (Uri.File.ofPath path, text) := rfl
    rw [handle_changed, h.publish_store ho hs]
    exact ⟨h.store hs, rfl⟩
  case asked number path line character =>
    constructor
    case left =>
      refine ⟨h.options, fun uri => ?_⟩
      rw [textsOf_concat]
      exact (h.documents uri).trans (congrArg _ (List.append_nil _).symm)
    case right =>
      have hc : m.completionsFor (completionParams path line character) =
          offer m.options.itemsWrapper ((m.document? (Uri.File.ofPath path)).getD "") := rfl
      have hr : m.handle (.ofMessage (Saying.asked number path line character).message) =
          (m, m.request (Rpc.RequestId.number number).toJson "textDocument/completion"
            (completionParams path line character)) := rfl
      rw [hr, request, h.options, ho.answers, ho.succeeds, result?, hc, h.options, h.documents]
      rfl

theorem informed_handleAll (ho : options.Obliging) (said : List Saying) :
    ((new options).handleAll (said.map Saying.message)).1.Informed options said := by
  induction said using List.reverseRecOn
  case nil => exact informed_new options
  case append_singleton said s hi =>
    rw [List.map_append, handleAll_append]
    exact (hi.handle ho s).left

theorem told_concat (ho : options.Obliging) (said : List Saying) (s : Saying) :
    told options (said ++ [s]) = told options said ++ tells options said s := by
  have hs := ((informed_handleAll ho said).handle ho s).right
  rw [told, List.map_append, handleAll_append, List.map_singleton, handleAll_cons, hs]
  exact congrArg _ (List.append_nil _)

theorem told_append (options : Options) (said more : List Saying) :
    told options said <+: told options (said ++ more) := by
  rw [told, told, List.map_append, handleAll_append]
  exact List.prefix_append _ _

theorem mem_told (ho : options.Obliging) : output ∈ told options said ↔
    ∃ before s after, said = before ++ s :: after ∧ output ∈ tells options before s := by
  induction said using List.reverseRecOn
  case nil => simp [told, MockServer.handleAll]
  case append_singleton said s hi =>
    rw [told_concat ho, List.mem_append, hi]
    constructor
    case mp =>
      rintro (⟨before, s', after, rfl, hm⟩ | hm)
      · exact ⟨before, s', after ++ [s], by simp, hm⟩
      · exact ⟨said, s, [], rfl, hm⟩
    case mpr =>
      rintro ⟨before, s', after, he, hm⟩
      obtain rfl | ⟨after, t, rfl⟩ := List.eq_nil_or_concat' after
      · obtain ⟨rfl, hs⟩ := List.append_inj' he rfl
        cases (List.cons.inj hs).left
        exact .inr hm
      · rw [← List.cons_append, ← List.append_assoc] at he
        obtain ⟨rfl, -⟩ := List.append_inj' he rfl
        exact .inl ⟨before, s', after, rfl, hm⟩

def bytesOf (said : List Saying) : Bytes :=
  said.flatMap fun s => framed s.message.encode

theorem feedAll_concat (m : MockServer) (chunks : List Bytes) (chunk : Bytes) :
    m.feedAll (chunks ++ [chunk]) = (((m.feedAll chunks).1.feed chunk).1,
      (m.feedAll chunks).2 ++ ((m.feedAll chunks).1.feed chunk).2) := by
  induction chunks generalizing m
  case nil => simp [feedAll]
  case cons chunk' chunks hi => simp only [List.cons_append, feedAll, hi, List.append_assoc]

theorem untilExit_eq_self {messages : List Rpc.Message} (h : ∀ message ∈ messages, message.isExit = false) :
    untilExit messages = messages := by
  induction messages
  case nil => rfl
  case cons message messages hi =>
    have ⟨hm, hms⟩ := List.forall_mem_cons.mp h
    rw [untilExit, hm, hi hms]
    rfl

theorem feedAll_sayings {chunks : List Bytes} (hf : ∀ s ∈ said, s.Fits)
    (hb : ∀ s ∈ said, s.message.encode.utf8ByteSize < UInt64.size) (hc : chunks.flatten = bytesOf said)
    (options : Options) : ((new options).feedAll chunks).2 = told options said := by
  have hv := fun s hs => (hf s hs).valid_message
  have hbodies : ∀ body ∈ (said.map Saying.message).map Rpc.Message.encode, body.utf8ByteSize < UInt64.size :=
    List.forall_mem_map.mpr (List.forall_mem_map.mpr hb)
  have hframes : chunks.flatten = ((said.map Saying.message).map Rpc.Message.encode).flatMap framed := by
    rw [hc, List.map_map, List.flatMap_map]
    rfl
  have hshallow : (said.map Saying.message).filter (·.Shallow) = said.map Saying.message :=
    List.filter_eq_self.mpr (List.forall_mem_map.mpr fun s hs => decide_eq_true (hv s hs).right.left)
  rw [(feedAll_framed hbodies hframes options).left,
    hearAll_encode rfl (List.forall_mem_map.mpr fun s hs => (hv s hs).left), hshallow,
    untilExit_eq_self (List.forall_mem_map.mpr fun s hs => (hv s hs).right.right), told]

theorem feedAll_some {chunks : List Bytes} {rest : Bytes} (hf : ∀ s ∈ said, s.Fits)
    (hb : ∀ s ∈ said, s.message.encode.utf8ByteSize < UInt64.size)
    (hc : chunks.flatten ++ rest = bytesOf said) (options : Options) :
    ((new options).feedAll chunks).2 <+: told options said := by
  have hc : (chunks ++ [rest]).flatten = bytesOf said := by simpa using hc
  have ht := feedAll_sayings hf hb hc options
  rw [feedAll_concat] at ht
  exact ⟨_, ht⟩

theorem tells_of_text (h : s.text? = some (uri, text)) :
    tells options before s = [publication uri (scan text)] := by
  cases s
  case asked => cases h
  all_goals
    cases h
    rfl

theorem size_of_text (hs : s.Fits) (h : s.text? = some (uri, text)) : text.utf8ByteSize < UInt64.size := by
  cases s
  case asked => cases h
  case opened =>
    cases h
    exact hs
  case changed =>
    cases h
    exact hs.left

theorem mem_tells_asked {number line character : Nat} {path : String}
    (h : output ∈ tells options before (.asked number path line character)) :
    output = .noise "textDocument/completion" ∨ output = answer (Rpc.RequestId.number number).toJson
      (offer options.itemsWrapper (lastText (Uri.File.ofPath path) (textsOf before))) := by
  rw [tells, List.mem_append, List.mem_singleton] at h
  refine h.imp (fun h => ?_) id
  split at h
  · exact List.mem_singleton.mp h
  · cases h

theorem calm_tells (hs : s.Fits) (h : output ∈ tells options before s) :
    output.event.question? = none ∧ output.event.stream ≠ .error := by
  cases ht : s.text?
  case some t =>
    rw [tells_of_text ht, List.mem_singleton] at h
    subst h
    exact ⟨(question?_publication (size_of_text hs ht) t.1).left, nofun⟩
  case none =>
    cases s
    case asked number path line character =>
      obtain rfl | rfl := mem_tells_asked h
      · exact ⟨rfl, nofun⟩
      · exact ⟨(answer?_answer hs.left _ _).right.left, nofun⟩
    all_goals cases ht

def events (options : Options) (said : List Saying) : List Event :=
  (told options said).map Output.event

theorem mem_events (ho : options.Obliging) : e ∈ events options said ↔ ∃ before s after,
    said = before ++ s :: after ∧ ∃ output ∈ tells options before s, output.event = e := by
  simp only [events, List.mem_map, mem_told ho]
  constructor
  case mp =>
    rintro ⟨output, ⟨before, s, after, hs, hm⟩, he⟩
    exact ⟨before, s, after, hs, output, hm, he⟩
  case mpr =>
    rintro ⟨before, s, after, hs, output, hm, he⟩
    exact ⟨output, ⟨before, s, after, hs, hm⟩, he⟩

theorem events_append (options : Options) (said more : List Saying) :
    events options said <+: events options (said ++ more) :=
  (told_append options said more).map _

theorem calm_events (ho : options.Obliging) (hf : ∀ s ∈ said, s.Fits) (h : e ∈ events options said) :
    e.question? = none ∧ e.stream ≠ .error := by
  obtain ⟨before, s, after, hs, output, hm, rfl⟩ := (mem_events ho).mp h
  exact calm_tells (hf s (hs ▸ List.mem_append_right _ List.mem_cons_self)) hm

theorem of_answer?_events {id : Int} {outcome : Except Rpc.ErrorObject Json} (ho : options.Obliging)
    (hf : ∀ s ∈ said, s.Fits) (h : e ∈ events options said) (ha : e.answer? = some (id, outcome)) :
    ∃ before number path line character after,
      said = before ++ Saying.asked number path line character :: after ∧ id = number ∧
      outcome = .ok (offer options.itemsWrapper (lastText (Uri.File.ofPath path) (textsOf before))) := by
  obtain ⟨before, s, after, he, output, hm, rfl⟩ := (mem_events ho).mp h
  have hs := hf s (he ▸ List.mem_append_right _ List.mem_cons_self)
  cases ht : s.text?
  case some t =>
    rw [tells_of_text ht, List.mem_singleton] at hm
    -- A publication is no answer.
    rw [hm, (question?_publication (size_of_text hs ht) t.1).right] at ha
    cases ha
  case none =>
    cases s
    case asked number path line character =>
      obtain rfl | rfl := mem_tells_asked hm
      · cases ha
      · rw [(answer?_answer hs.left _ _).left] at ha
        cases ha
        exact ⟨before, number, path, line, character, after, he, rfl, rfl⟩
    all_goals cases ht

theorem exists_answer {number line character : Nat} {path : String} (ho : options.Obliging)
    (hf : ∀ s ∈ said, s.Fits) (hs : said = before ++ .asked number path line character :: after) :
    ∃ e ∈ events options said, e.answer? = some ((number : Int),
      .ok (offer options.itemsWrapper (lastText (Uri.File.ofPath path) (textsOf before)))) := by
  have hn : Rpc.IsInt64 number :=
    (hf (.asked number path line character) (hs ▸ List.mem_append_right _ List.mem_cons_self)).left
  refine ⟨_, (mem_events ho).mpr ⟨before, _, after, hs, _, ?_, rfl⟩, (answer?_answer hn _ _).left⟩
  exact List.mem_append_right _ (List.mem_singleton_self _)

theorem publish?_tells_asked {number line character : Nat} {path : String}
    (hs : (Saying.asked number path line character).Fits)
    (h : output ∈ tells options before (.asked number path line character)) : output.event.publish? = none := by
  obtain rfl | rfl := mem_tells_asked h
  · rfl
  · exact (answer?_answer hs.left _ _).right.right

theorem published?_events (ho : options.Obliging) (hf : ∀ s ∈ said, s.Fits)
    (hu : (Uri.Reference.check uri.toList).isOk)
    (hr : ∀ text, lastText? uri (textsOf said) = some text → ∀ d ∈ scan text, d.range.Fits) :
    published? uri ((events options said).filterMap (·.publish?)) = (lastText? uri (textsOf said)).map scan := by
  induction said using List.reverseRecOn
  case nil => rfl
  case append_singleton said s hi =>
    obtain ⟨hf, hs⟩ := List.forall_mem_append.mp hf
    have hs := List.forall_mem_singleton.mp hs
    rw [textsOf_concat] at hr ⊢
    rw [events, told_concat ho, List.map_append, List.filterMap_append, ← events]
    cases ht : s.text?
    case none =>
      have hn : ((tells options said s).map Output.event).filterMap Event.publish? = [] := by
        cases s
        case asked =>
          exact List.filterMap_eq_nil_iff.mpr (List.forall_mem_map.mpr fun _ => publish?_tells_asked hs)
        all_goals cases ht
      rw [ht, Option.toList_none, List.append_nil] at hr
      rw [hn, Option.toList_none, List.append_nil, List.append_nil]
      exact hi hf hr
    case some t =>
      obtain ⟨uri', text⟩ := t
      have hsize := size_of_text hs ht
      rw [ht, Option.toList_some, lastText?_concat] at hr
      rw [tells_of_text ht, List.map_singleton, Option.toList_some, lastText?_concat]
      by_cases he : uri = uri'
      case pos =>
        subst he
        have hp := publish?_publication hsize hu (hr text (if_pos rfl))
        rw [if_pos rfl, List.filterMap_cons_some hp, List.filterMap_nil, published?_append, if_pos rfl]
        rfl
      case neg =>
        rw [if_neg he] at hr ⊢
        rw [← hi hf hr]
        -- Whether it can be read or not, a publication is about its own document.
        cases hp : (publication uri' (scan text)).event.publish?
        case none   => rw [List.filterMap_cons_none hp, List.filterMap_nil, List.append_nil]
        case some p =>
          rw [List.filterMap_cons_some hp, List.filterMap_nil, published?_append, uri_of_publish? hsize hp,
            if_neg he]

end MockServer
end LanguageClient
