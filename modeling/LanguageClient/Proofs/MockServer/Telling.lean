import LanguageClient.Proofs.Client.Diagnostics
import LanguageClient.Proofs.MockServer.Conversation
import LanguageClient.Proofs.MockServer.Scanning
import LanguageClient.Proofs.Session.Handling
import LanguageClient.Protocol.Completion

namespace LanguageClient
open Protocol

variable {e : Event} {d : Diagnostic} {ds : List Diagnostic} {text uri : String}

theorem Event.question?_of_decode {body : String} {m : Rpc.Message} (h : Rpc.Message.decode body = .ok m) :
    question? ⟨.message, body⟩ = match m with | .request r => some r | _ => none := by
  simp only [question?, h]
  cases m <;> rfl

namespace Protocol

def Position.Fits (p : Position) : Prop :=
  p.line < UInt32.size ∧ p.character < UInt32.size

def Range.Fits (r : Range) : Prop :=
  r.first.Fits ∧ r.last.Fits

theorem nat32_nat {n : Nat} (h : n < UInt32.size) : Reader.nat32 (.nat n) = .ok n := by
  have hn : (0 : Int) ≤ n ∧ (n : Int) ≤ 4294967295 := by
    have h : n < 4294967296 := h
    omega
  simp [Reader.nat32, Reader.integer, Json.nat, Json.int, hn, Except.map]

theorem Position.read_toJson {p : Position} (h : p.Fits) : Position.read p.toJson = .ok p := by
  refine Fields.record_of_reads (Fields.reads_seq (Fields.reads_map
    (Fields.reads_required (.ofList ?_) (nat32_nat h.left)))
    (Fields.reads_required (.ofList ?_) (nat32_nat h.right)))
  all_goals simp [Members.Gives, eq_comm]

theorem Range.read_toJson {r : Range} (h : r.Fits) : Range.read r.toJson = .ok r := by
  refine Fields.record_of_reads (Fields.reads_seq (Fields.reads_map
    (Fields.reads_required (.ofList ?_) (Position.read_toJson h.left)))
    (Fields.reads_required (.ofList ?_) (Position.read_toJson h.right)))
  all_goals simp [Members.Gives, eq_comm]

end Protocol

namespace MockServer

variable {line first last lines columns : Nat} {severity : Severity} {message : String}

theorem eq_of_mem_needles (h : severity ∈ needles.map (·.2)) : severity = .error ∨ severity = .warning := by
  simpa [needles] using h

theorem read_complaint (hr : (complaint line first last severity message).range.Fits)
    (hs : severity ∈ needles.map (·.2)) :
    Diagnostic.read (complaint line first last severity message).toJson =
      .ok (complaint line first last severity message) := by
  have hs : Reader.optional Reader.int32 (.int severity) = .ok (some severity) := by
    obtain rfl | rfl := eq_of_mem_needles hs
    · rfl
    · rfl
  refine Fields.record_of_reads (Fields.reads_seq (Fields.reads_seq (Fields.reads_seq (Fields.reads_seq
    (Fields.reads_seq (Fields.reads_seq (Fields.reads_seq (Fields.reads_seq (Fields.reads_map
    (Fields.reads_required (.ofList ?_) (Range.read_toJson hr)))
    (Fields.reads_optional (v := some (.int severity)) (.ofList ?_) hs))
    (Fields.reads_optional (v := some (.str "mock")) (.ofList ?_) rfl))
    (Fields.reads_optional (v := none) (.ofList ?_) rfl))
    (Fields.reads_optional (v := some (.str "mockls")) (.ofList ?_) rfl))
    (Fields.reads_required (.ofList ?_) (Rpc.string_str message)))
    (Fields.reads_optional (v := none) (.ofList ?_) rfl))
    (Fields.reads_optional (v := none) (.ofList ?_) rfl))
    (Fields.reads_optional (v := none) (.ofList ?_) rfl))
  all_goals simp [Members.Gives, complaint, Code.toJson, eq_comm]

-- A complaint about a place in the first lines and columns.
def Placed (lines columns : Nat) (d : Diagnostic) : Prop :=
  ∃ line first last severity message, d = complaint line first last severity message ∧
    severity ∈ needles.map (·.2) ∧ line ≤ lines ∧ first ≤ columns ∧ last ≤ columns

theorem Placed.read_toJson (h : Placed lines columns d) (hr : d.range.Fits) :
    Diagnostic.read d.toJson = .ok d := by
  obtain ⟨_, _, _, _, _, rfl, hs, _⟩ := h
  exact read_complaint hr hs

theorem within_position {line character : Nat} (hl : line < UInt64.size) (hc : character < UInt64.size) :
    Rpc.Within 1 (Position.mk line character).toJson :=
  Rpc.within_object (List.forall_mem_cons.mpr ⟨Rpc.within_nat hl,
    List.forall_mem_singleton.mpr (Rpc.within_nat hc)⟩)

theorem Placed.within (h : Placed lines columns d) (hl : lines < UInt64.size) (hc : columns < UInt64.size) :
    Rpc.Within 3 d.toJson := by
  obtain ⟨line, first, last, severity, message, rfl, hs, h₁, h₂, h₃⟩ := h
  have hs : Rpc.IsInt64 severity := by
    obtain rfl | rfl := eq_of_mem_needles hs
    · simp [Rpc.IsInt64, Severity.error]
    · simp [Rpc.IsInt64, Severity.warning]
  have hl := Nat.lt_of_le_of_lt h₁ hl
  refine Rpc.within_object (List.forall_mem_cons.mpr ⟨?_, ?_⟩)
  · refine Rpc.within_object (List.forall_mem_cons.mpr ⟨?_, List.forall_mem_singleton.mpr ?_⟩)
    · exact within_position hl (Nat.lt_of_le_of_lt h₂ hc)
    · exact within_position hl (Nat.lt_of_le_of_lt h₃ hc)
  · refine List.forall_mem_cons.mpr ⟨Rpc.within_int hs, List.forall_mem_cons.mpr ⟨Rpc.within_str _,
      List.forall_mem_cons.mpr ⟨Rpc.within_str _, List.forall_mem_singleton.mpr (Rpc.within_str _)⟩⟩⟩

-- Neither the lines nor the columns of a complaint are more than the bytes of the text: there are as many
-- line ends before it as its line says, and its columns lie in what follows them.
theorem placed_scan (h : d ∈ scan text) : Placed text.utf8ByteSize text.utf8ByteSize d := by
  rw [← Utf8.length_encode]
  cases mem_scan.mp h
  case intro word severity number column line hw hl hs =>
    have hn : severity ∈ needles.map (·.2) := by cases hw <;> decide
    have hb := Text.le_lineStart hl
    have hp := Text.StandsAt.le
      ((Text.standsAt_iff_exists_line hw.ne_nil hw.isAlpha).mpr ⟨number, line, column, hl, hs, rfl⟩)
    have hw : word.utf8ByteSize = (Utf8.ofChars word.toList).length := (Utf8.length_encode word).symm
    have ht : (Utf8.encode text).length = (Utf8.ofChars text.toList).length := rfl
    exact ⟨_, _, _, _, _, rfl, hn, by omega, by omega, by omega⟩

def Output.event (output : Output) : Event :=
  Piped.eventOf output.unit

theorem within_publish (ht : text.utf8ByteSize < UInt64.size) (uri : String) :
    Rpc.Within 5 (Publish.mk uri (scan text) none).toJson := by
  refine Rpc.within_object (List.forall_mem_cons.mpr ⟨Rpc.within_str uri, List.forall_mem_singleton.mpr ?_⟩)
  exact Rpc.within_arr (List.forall_mem_map.mpr fun d hd => (placed_scan hd).within ht ht)

theorem decode_publication (ht : text.utf8ByteSize < UInt64.size) (uri : String) :
    ∃ body, (publication uri (scan text)).event = ⟨.message, body⟩ ∧ Rpc.Message.decode body =
      .ok (.notification (.new Publish.method (Publish.mk uri (scan text) none).toJson)) :=
  ⟨_, rfl, Rpc.decode_notification (within_publish ht uri) (by decide) _⟩

theorem question?_publication (ht : text.utf8ByteSize < UInt64.size) (uri : String) :
    (publication uri (scan text)).event.question? = none ∧
      (publication uri (scan text)).event.answer? = none := by
  obtain ⟨body, he, hd⟩ := decode_publication ht uri
  rw [he]
  exact ⟨Event.question?_of_decode hd, by simp only [Event.answer?, hd]⟩

theorem publish?_eq (ht : text.utf8ByteSize < UInt64.size) (uri : String) :
    (publication uri (scan text)).event.publish? =
      (Publish.read (Publish.mk uri (scan text) none).toJson).toOption := by
  obtain ⟨body, he, hd⟩ := decode_publication ht uri
  rw [he]
  simp only [Event.publish?, hd, Rpc.Notification.publish?, Rpc.Notification.new, if_true]

theorem publish?_publication (ht : text.utf8ByteSize < UInt64.size)
    (hu : (Uri.Reference.check uri.toList).isOk) (hr : ∀ d ∈ scan text, d.range.Fits) :
    (publication uri (scan text)).event.publish? = some ⟨uri, scan text, none⟩ := by
  have hd : Reader.list Diagnostic.read (.arr ((scan text).map Diagnostic.toJson)) = .ok (scan text) := by
    have hi := Reader.items_map (f := id) fun d hd => (placed_scan hd).read_toJson (hr d hd)
    rwa [List.map_id] at hi
  have hp : Publish.read (Publish.mk uri (scan text) none).toJson = .ok ⟨uri, scan text, none⟩ := by
    refine Fields.record_of_reads (Fields.reads_seq (Fields.reads_seq (Fields.reads_map
      (Fields.reads_required (.ofList ?_) (Bulletin.readUri_of_isOk hu)))
      (Fields.reads_required (.ofList ?_) hd))
      (Fields.reads_optional (v := none) (.ofList ?_) rfl))
    all_goals simp [Members.Gives, eq_comm]
  rw [publish?_eq ht, hp]
  rfl

theorem uri_of_publish? {p : Publish} (ht : text.utf8ByteSize < UInt64.size)
    (h : (publication uri (scan text)).event.publish? = some p) : p.uri = uri := by
  rw [publish?_eq ht] at h
  cases hr : Publish.read (Publish.mk uri (scan text) none).toJson
  case error f => simp [hr, Except.toOption] at h
  case ok p' =>
    simp only [hr, Except.toOption, Option.some.injEq] at h
    subst h
    obtain ⟨_, _, hf, _, rfl⟩ := Fields.built_seq (Fields.built_of_record hr)
    obtain ⟨_, _, hg, _, rfl⟩ := Fields.built_seq hf
    obtain ⟨u, hu, rfl⟩ := Fields.built_map hg
    have hu : readUri (.str uri) = .ok u := hu
    simp only [readUri, Reader.string] at hu
    split at hu
    case h_1 => cases hu
    case h_2 => exact (Except.ok.inj hu).symm

def offer (wrapped : Bool) (text : String) : Json :=
  let items := Json.arr <| (vocabulary text).map fun w =>
    .object [("label", .str w), ("kind", .int 6), ("detail", .str "mockls")]
  if wrapped then .object [("isIncomplete", .bool false), ("items", items)] else items

def suggestion (w : String) : CompletionItem where
  label               := w
  labelDetails        := none
  kind                := some 6
  detail              := some "mockls"
  documentation       := none
  deprecated          := none
  preselect           := none
  sortText            := none
  filterText          := none
  insertText          := none
  insertTextFormat    := none
  insertTextMode      := none
  textEdit            := none
  additionalTextEdits := none
  command             := none
  commitCharacters    := none
  data                := none
  tags                := none

theorem completionItems_offer (wrapped : Bool) (text : String) :
    completionItems (offer wrapped text) = .ok ((vocabulary text).map suggestion) := by
  have hi : Reader.items CompletionItem.read ((vocabulary text).map fun w =>
      .object [("label", .str w), ("kind", .int 6), ("detail", .str "mockls")]) =
      .ok ((vocabulary text).map suggestion) :=
    Reader.items_map fun w _ => rfl
  cases wrapped
  · exact hi
  · exact hi

theorem within_offer (wrapped : Bool) (text : String) : Rpc.Within 3 (offer wrapped text) := by
  have hi : Rpc.Within 2 (.arr <| (vocabulary text).map fun w =>
      .object [("label", .str w), ("kind", .int 6), ("detail", .str "mockls")]) := by
    refine Rpc.within_arr (List.forall_mem_map.mpr fun w _ => Rpc.within_object ?_)
    refine List.forall_mem_cons.mpr ⟨Rpc.within_str w, List.forall_mem_cons.mpr ⟨Rpc.within_int ?_,
      List.forall_mem_singleton.mpr (Rpc.within_str _)⟩⟩
    simp [Rpc.IsInt64]
  cases wrapped
  case false => exact hi.mono (by decide)
  case true  =>
    exact Rpc.within_object (List.forall_mem_cons.mpr ⟨Rpc.within_bool false, List.forall_mem_singleton.mpr hi⟩)

theorem offer_ne_null (wrapped : Bool) (text : String) : offer wrapped text ≠ .null := by
  cases wrapped <;> nofun

theorem answer?_answer {id : Int} (hi : Rpc.IsInt64 id) (wrapped : Bool) (text : String) :
    (answer (Rpc.RequestId.number id).toJson (offer wrapped text)).event.answer? =
      some (id, .ok (offer wrapped text)) ∧
    (answer (Rpc.RequestId.number id).toJson (offer wrapped text)).event.question? = none ∧
    (answer (Rpc.RequestId.number id).toJson (offer wrapped text)).event.publish? = none := by
  have hn : (Rpc.RequestId.number id).Fits := hi
  have hd := Rpc.decode_answer hn (within_offer wrapped text) (offer_ne_null wrapped text)
    (by decide)
  have he : (answer (Rpc.RequestId.number id).toJson (offer wrapped text)).event = ⟨.message,
      (Rpc.Message.response ⟨Rpc.version, some (.number id), some (offer wrapped text), none⟩).encode⟩ := rfl
  rw [he]
  refine ⟨?_, Event.question?_of_decode hd, ?_⟩
  · simp only [Event.answer?, hd]
    rfl
  · simp only [Event.publish?, hd]

end MockServer
end LanguageClient
