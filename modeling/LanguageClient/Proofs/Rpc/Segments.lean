import Mathlib.Data.List.Forall2
import LanguageClient.Proofs.Rpc.Headers

namespace LanguageClient.Rpc.Frame

variable {block : HeaderBlock} {line body rest : Bytes} {fault : FrameFault}

inductive Segment
  | message    (block : HeaderBlock) (body : String) (h : block.Announces (Utf8.encode body).length)
  | garbled    (block : HeaderBlock) (body : Bytes) (h : block.Announces body.length)
      (hb : ∀ s, Utf8.encode s ≠ body)
  | unreadable (block : HeaderBlock) (h : block.Unreadable)
  | lengthless (block : HeaderBlock) (h : block.Lengthless)
  | misstated  (block : HeaderBlock) (value : List Char) (h : block.Misstates value)
  | stray      (line : Bytes) (h : 10 ∉ line) (hn : ¬ Named line)

namespace Segment

def bytes : Segment → Bytes
  | .message block body _     => block.bytes ++ Utf8.encode body
  | .garbled block body _ _   => block.bytes ++ body
  | .unreadable block _       => block.bytes
  | .lengthless block _       => block.bytes
  | .misstated block _ _      => block.bytes
  | .stray line _ _           => line ++ [10]

def isBlank : Segment → Bool
  | .stray line _ _ => logText line = []
  | _               => false

inductive Yields : Segment → Unit → Prop
  | message {block body h} : Yields (.message block body h) (.ok (.message body))
  | garbled {block body h hb fault} (hd : Utf8.decode body = .error fault) :
      Yields (.garbled block body h hb) (.error (.bodyNotText fault))
  | unreadable {block h fault} (hd : Utf8.decode block.headers = .error fault) :
      Yields (.unreadable block h) (.error (.headersNotText fault))
  | lengthless {block h} : Yields (.lengthless block h) (.error .lengthMissing)
  | misstated {block value h fault} (hc : Text.readCount UInt64.size value = .error fault) :
      Yields (.misstated block value h) (.error (.lengthInvalid (String.ofList value) fault))
  | stray {line h hn} : Yields (.stray line h hn) (.ok (.log (String.ofList (logText line))))

end Segment

theorem next_announced (h : block.Announces body.length) (rest : Bytes) :
    (∀ text, Utf8.decode body = .ok text →
      next (block.bytes ++ body ++ rest) = .frame (.message text) rest) ∧
    (∀ fault, Utf8.decode body = .error fault →
      next (block.bytes ++ body ++ rest) = .fault (.bodyNotText fault) rest) := by
  have hc := HeaderBlock.contentLength_of_announces h
  have hl : ¬ (body ++ rest).length < body.length := by
    rw [List.length_append]
    omega
  rw [List.append_assoc, next_header (block.looksLikeHeader_bytes _), nextMessage,
    block.cutHeaders?_bytes]
  simp only [hc, if_neg hl, List.take_left, List.drop_left]
  constructor
  case left  => exact fun text hd => by simp only [hd]
  case right => exact fun fault hd => by simp only [hd]

theorem next_rejected (h : contentLength block.headers = .error fault) (rest : Bytes) :
    next (block.bytes ++ rest) = .fault fault rest := by
  rw [next_header (block.looksLikeHeader_bytes rest), nextMessage, block.cutHeaders?_bytes]
  simp only [h]

theorem cutLine?_line (h : 10 ∉ line) (rest : Bytes) :
    cutLine? (line ++ 10 :: rest) = some (line ++ [10], rest) := by
  induction line
  case nil => rfl
  case cons b line hi =>
    have ⟨hb, hl⟩ : 10 ≠ b ∧ 10 ∉ line := by simpa using h
    rw [List.cons_append, cutLine?, if_neg (Ne.symm hb), hi hl]
    rfl

theorem logText_lineEnd (line : Bytes) : logText (line ++ [10]) = logText line := by
  have he := Utf8.lossy_ascii (b := 10) (by decide) line []
  rw [logText, he]
  exact Text.trim_append_blank rfl _

theorem next_stray (h : 10 ∉ line) (hn : ¬ Named line) (rest : Bytes) :
    (logText line = [] → next (line ++ [10] ++ rest) = next rest) ∧
    (logText line ≠ [] →
      next (line ++ [10] ++ rest) = .frame (.log (String.ofList (logText line))) rest) := by
  have hc : line ++ [10] ++ rest = line ++ 10 :: rest := by simp
  have hh := looksLikeHeader_line hn rest
  have hl := cutLine?_line h rest
  rw [hc, ← logText_lineEnd]
  exact ⟨next_blank hh hl, next_log hh hl⟩

namespace Segment

theorem drain_blank {segment : Segment} (h : segment.isBlank) (rest : Bytes) :
    drain (segment.bytes ++ rest) = drain rest := by
  cases segment
  case stray line hl hn =>
    have ht : logText line = [] := of_decide_eq_true h
    exact drain_congr ((next_stray hl hn rest).left ht)
  all_goals cases h

theorem drain_segment {segment : Segment} (h : segment.isBlank = false) (rest : Bytes) :
    ∃ unit, segment.Yields unit ∧
      drain (segment.bytes ++ rest) = (unit :: (drain rest).1, (drain rest).2) := by
  cases segment
  case message block body ha =>
    have hn := (next_announced ha rest).left body (Utf8.decode_encode body)
    exact ⟨_, .message, drain_frame hn⟩
  case garbled block body ha hb =>
    have ⟨fault, hd⟩ := Utf8.decode_error hb
    have hn := (next_announced ha rest).right fault hd
    exact ⟨_, .garbled hd, drain_fault hn⟩
  case unreadable block hu =>
    have ⟨fault, hd, hc⟩ := HeaderBlock.contentLength_of_unreadable hu
    exact ⟨_, .unreadable hd, drain_fault (next_rejected hc rest)⟩
  case lengthless block hl =>
    have hc := HeaderBlock.contentLength_of_lengthless hl
    exact ⟨_, .lengthless, drain_fault (next_rejected hc rest)⟩
  case misstated block value hm =>
    have ⟨fault, hv, hc⟩ := HeaderBlock.contentLength_of_misstates hm
    exact ⟨_, .misstated hv, drain_fault (next_rejected hc rest)⟩
  case stray line hl hn =>
    have ht : logText line ≠ [] := of_decide_eq_false h
    exact ⟨_, .stray, drain_frame ((next_stray hl hn rest).right ht)⟩

-- What comes after the segments is drained as if it stood alone.
theorem drain_flatMap (segments : List Segment) (rest : Bytes) :
    ∃ units, List.Forall₂ Yields (segments.filter (!·.isBlank)) units ∧
      drain (segments.flatMap bytes ++ rest) = (units ++ (drain rest).1, (drain rest).2) := by
  induction segments
  case nil => exact ⟨[], .nil, rfl⟩
  case cons segment segments hi =>
    have ⟨units, hy, hd⟩ := hi
    rw [List.flatMap_cons, List.append_assoc]
    cases hb : segment.isBlank
    case true =>
      rw [List.filter_cons_of_neg (by simp [hb]), drain_blank hb]
      exact ⟨units, hy, hd⟩
    case false =>
      have ⟨unit, hu, he⟩ := drain_segment hb (segments.flatMap bytes ++ rest)
      rw [List.filter_cons_of_pos (by simp [hb]), he, hd]
      exact ⟨unit :: units, .cons hu hy, rfl⟩

theorem drain_segments (segments : List Segment) :
    ∃ units, List.Forall₂ Yields (segments.filter (!·.isBlank)) units ∧
      drain (segments.flatMap bytes) = (units, []) := by
  have ⟨units, hy, hd⟩ := drain_flatMap segments []
  rw [List.append_nil, drain_wait next_nil, List.append_nil] at hd
  exact ⟨units, hy, hd⟩

-- A blank line is the only segment of its output, and nothing is reported.
theorem blankLine_unreported : ∃ segments : List Segment,
    segments.flatMap bytes = Utf8.encode "\n" ∧
      ∀ units, List.Forall₂ Yields segments units →
        drain (segments.flatMap bytes) ≠ (units, []) := by
  have hn : ¬ Named [] := by
    intro ⟨name, hm, he⟩
    have hno : ∀ name ∈ headerNames, name ≠ [] := by decide
    exact hno name hm (he.symm.trans (by rw [List.take_nil, List.map_nil]))
  refine ⟨[.stray [] List.not_mem_nil hn], rfl, fun units hy hd => ?_⟩
  have hb := drain_blank (show isBlank (.stray [] List.not_mem_nil hn) from rfl) []
  rw [List.append_nil, drain_wait next_nil] at hb
  rw [List.flatMap_singleton, hb] at hd
  cases hd
  cases hy

theorem exists_message {body : String} (h : body.utf8ByteSize < UInt64.size) :
    ∃ block ha, Utf8.encode (Frame.encode body) = bytes (.message block body ha) := by
  have ha := HeaderBlock.announces_ofLength h
  rw [← Utf8.length_encode] at ha
  exact ⟨_, ha, by rw [bytes, HeaderBlock.encode_frame, Utf8.length_encode]⟩

end Segment
end LanguageClient.Rpc.Frame
