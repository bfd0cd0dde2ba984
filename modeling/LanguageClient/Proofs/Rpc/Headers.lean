import LanguageClient.Proofs.Rpc.Drain
import LanguageClient.Proofs.Text.Lines
import LanguageClient.Proofs.Text.Utf8

namespace LanguageClient.Rpc.Frame

variable {line more rest : Bytes} {lines : List Bytes}

def Named (line : Bytes) : Prop :=
  ∃ name ∈ headerNames, (line.take name.length).map Text.lowerByte = name

structure HeaderBlock where
  lines  : List Bytes
  proper : ∀ line ∈ lines, line ≠ [] ∧ 13 ∉ line ∧ 10 ∉ line
  named  : ∃ line ∈ lines.head?, Named line

namespace HeaderBlock

def headers (block : HeaderBlock) : Bytes :=
  [13, 10].intercalate block.lines

def bytes (block : HeaderBlock) : Bytes :=
  block.headers ++ [13, 10, 13, 10]

end HeaderBlock

theorem looksLikeHeader_append (h : Named line) (more : Bytes) :
    looksLikeHeader (line ++ more) := by
  have ⟨name, hn, he⟩ := h
  have hl : name.length ≤ line.length := by
    have hl := congrArg List.length he
    rw [List.length_map, List.length_take] at hl
    omega
  refine List.any_eq_true.mpr ⟨name, hn, decide_eq_true ?_⟩
  rw [List.take_append_of_le_length hl, he, List.take_of_length_le]
  rw [List.length_append]
  omega

theorem looksLikeHeader_line (h : ¬ Named line) (rest : Bytes) :
    looksLikeHeader (line ++ 10 :: rest) = false := by
  refine List.any_eq_false.mpr fun name hn he => ?_
  have he := of_decide_eq_true he
  by_cases hs : name.length ≤ line.length
  case pos =>
    have hl : name.length ≤ (line ++ 10 :: rest).length := by
      rw [List.length_append]
      omega
    rw [List.take_append_of_le_length hs, List.take_of_length_le hl] at he
    exact h ⟨name, hn, he⟩
  case neg =>
    -- The line is shorter than the name, so that its end would be part of the name.
    have hm : 10 ∈ ((line ++ 10 :: rest).take name.length).map Text.lowerByte := by
      have h10 : (10 : UInt8) = Text.lowerByte 10 := rfl
      have ht : (10 :: rest).take (name.length - line.length) =
          10 :: rest.take (name.length - line.length - 1) := by
        have hl : name.length - line.length = name.length - line.length - 1 + 1 := by omega
        rw [hl]
        rfl
      rw [List.take_append, List.map_append, ht, List.map_cons, ← h10]
      simp
    rw [he] at hm
    have hm := List.mem_of_mem_take hm
    have hno : ∀ name ∈ headerNames, (10 : UInt8) ∉ name := by decide
    exact hno name hn hm

theorem cutHeaders?_line (h : 13 ∉ line) (more : Bytes) : cutHeaders? (line ++ more) =
    (cutHeaders? more).map fun (headers, rest) => (line ++ headers, rest) := by
  induction line
  case nil => exact (Option.map_id_fun ▸ rfl)
  case cons b line hi =>
    have ⟨hb, hl⟩ : 13 ≠ b ∧ 13 ∉ line := by simpa using h
    rw [List.cons_append, cutHeaders?, if_neg (by simp [Ne.symm hb]), hi hl, Option.map_map]
    rfl

theorem cutHeaders?_blank (rest : Bytes) :
    cutHeaders? ([13, 10, 13, 10] ++ rest) = some ([], rest) := by
  rfl

theorem cutHeaders?_lineEnd {b : UInt8} (h : b ≠ 13) (more : Bytes) :
    cutHeaders? ([13, 10] ++ b :: more) =
      (cutHeaders? (b :: more)).map fun (headers, rest) => ([13, 10] ++ headers, rest) := by
  rw [List.cons_append, cutHeaders?, if_neg (by simp [h]), List.cons_append, List.nil_append,
    cutHeaders?, if_neg (by simp), Option.map_map]
  rfl

theorem cutHeaders?_lines (h : ∀ line ∈ lines, line ≠ [] ∧ 13 ∉ line) (hn : lines ≠ [])
    (rest : Bytes) : cutHeaders? ([13, 10].intercalate lines ++ ([13, 10, 13, 10] ++ rest)) =
      some ([13, 10].intercalate lines, rest) := by
  induction lines
  case nil => cases hn rfl
  case cons line lines hi =>
    have ⟨⟨_, hl⟩, hls⟩ := List.forall_mem_cons.mp h
    cases lines
    case nil =>
      rw [List.intercalate_singleton, cutHeaders?_line hl, cutHeaders?_blank]
      simp
    case cons line' lines =>
      have hi := hi hls (List.cons_ne_nil _ _)
      have ⟨⟨hn', hl'⟩, _⟩ := List.forall_mem_cons.mp hls
      have ⟨b, l, hb⟩ := List.exists_cons_of_ne_nil hn'
      -- The next line is not empty, so that the end of this one does not belong to a blank line.
      have h13 : b ≠ 13 := fun h => hl' (by simp [hb, h])
      have ⟨more, hm⟩ : ∃ more, [13, 10].intercalate (line' :: lines) = b :: more := by
        cases lines <;> simp [List.intercalate, hb]
      rw [hm, List.cons_append] at hi
      have hc : (b :: more) ++ ([13, 10, 13, 10] ++ rest) =
          b :: (more ++ ([13, 10, 13, 10] ++ rest)) := rfl
      rw [List.intercalate_cons_cons, hm, List.append_assoc, List.append_assoc,
        cutHeaders?_line hl, hc, cutHeaders?_lineEnd h13, hi]
      simp

-- A header line names the content length: its value stands after the first colon.
def NamesLength (line value : List Char) : Prop :=
  ∃ name rest, line = name ++ ':' :: rest ∧ ':' ∉ name ∧
    Text.sameAscii (Text.trim name) "content-length".toList ∧ value = Text.trim rest

theorem lengthValue?_eq_some_iff {line value : List Char} :
    lengthValue? line = some value ↔ NamesLength line value := by
  rw [lengthValue?]
  constructor
  case mp =>
    intro h
    split at h
    case h_1 name rest hc =>
      have ⟨hl, hn⟩ := Text.cut?_eq_some_iff.mp hc
      split at h
      case isTrue hs =>
        cases h
        exact ⟨name, rest, hl, hn, hs, rfl⟩
      case isFalse => cases h
    case h_2 => cases h
  case mpr =>
    intro ⟨name, rest, hl, hn, hs, hv⟩
    rw [Text.cut?_eq_some_iff.mpr ⟨hl, hn⟩, hv]
    simp only [hs, if_true]

theorem lengthValue?_eq_none_iff {line : List Char} :
    lengthValue? line = none ↔ ∀ value, ¬ NamesLength line value := by
  simp only [Option.eq_none_iff_forall_ne_some, ne_eq, lengthValue?_eq_some_iff]

namespace HeaderBlock

variable {block : HeaderBlock} {ls : List (List Char)} {value : List Char} {n : Nat}

theorem lines_ne_nil (block : HeaderBlock) : block.lines ≠ [] := by
  have ⟨line, hl, _⟩ := block.named
  intro hn
  rw [hn] at hl
  cases hl

theorem cutHeaders?_bytes (block : HeaderBlock) (rest : Bytes) :
    cutHeaders? (block.bytes ++ rest) = some (block.headers, rest) := by
  have h := cutHeaders?_lines (fun line hl => ⟨(block.proper line hl).left,
    (block.proper line hl).right.left⟩) block.lines_ne_nil rest
  rw [bytes, List.append_assoc]
  exact h

theorem looksLikeHeader_bytes (block : HeaderBlock) (rest : Bytes) :
    looksLikeHeader (block.bytes ++ rest) := by
  have ⟨line, hl, hn⟩ := block.named
  have ⟨lines, hc⟩ : ∃ lines, block.lines = line :: lines := List.head?_eq_some_iff.mp hl
  have ⟨more, hm⟩ : ∃ more, block.headers = line ++ more := by
    rw [headers, hc]
    cases lines
    case nil  => exact ⟨[], by simp⟩
    case cons => exact ⟨_, by rw [List.intercalate_cons_cons, List.append_assoc]⟩
  rw [bytes, hm, List.append_assoc, List.append_assoc]
  exact looksLikeHeader_append hn _

def Reads (block : HeaderBlock) (ls : List (List Char)) : Prop :=
  block.lines = ls.map fun line => Utf8.encode (String.ofList line)

-- The first line that names the content length gives this value.
def FirstLength (ls : List (List Char)) (value : List Char) : Prop :=
  ∃ before line after, ls = before ++ line :: after ∧
    NamesLength line value ∧ ∀ line ∈ before, ∀ value, ¬ NamesLength line value

def Announces (block : HeaderBlock) (n : Nat) : Prop :=
  ∃ ls value, block.Reads ls ∧ FirstLength ls value ∧ Text.Counts UInt64.size value n

def Unreadable (block : HeaderBlock) : Prop :=
  ∀ s, Utf8.encode s ≠ block.headers

def Lengthless (block : HeaderBlock) : Prop :=
  ∃ ls, block.Reads ls ∧ ∀ line ∈ ls, ∀ value, ¬ NamesLength line value

def Misstates (block : HeaderBlock) (value : List Char) : Prop :=
  ∃ ls, block.Reads ls ∧ FirstLength ls value ∧ ∀ n, ¬ Text.Counts UInt64.size value n

theorem findSome?_eq_some_iff : ls.findSome? lengthValue? = some value ↔ FirstLength ls value := by
  simp only [List.findSome?_eq_some_iff, lengthValue?_eq_some_iff, lengthValue?_eq_none_iff]
  rfl

theorem findSome?_eq_none_iff : ls.findSome? lengthValue? = none ↔
    ∀ line ∈ ls, ∀ value, ¬ NamesLength line value := by
  simp only [List.findSome?_eq_none_iff, lengthValue?_eq_none_iff]

theorem encode_intercalate (ls : List (List Char)) :
    Utf8.encode (String.ofList (['\r', '\n'].intercalate ls)) =
      [13, 10].intercalate (ls.map fun line => Utf8.encode (String.ofList line)) := by
  simp only [Utf8.encode_ofList]
  induction ls
  case nil => rfl
  case cons line ls hi =>
    cases ls
    case nil => simp
    case cons line' ls =>
      rw [List.intercalate_cons_cons, List.flatMap_append, List.flatMap_append, hi]
      exact List.intercalate_cons_cons.symm

theorem Reads.encode_eq (h : block.Reads ls) :
    Utf8.encode (String.ofList (['\r', '\n'].intercalate ls)) = block.headers := by
  rw [encode_intercalate, headers, h]

theorem Reads.lines_eq (h : block.Reads ls) : Text.lines (['\r', '\n'].intercalate ls) = ls := by
  refine Text.lines_intercalate fun line hl => ?_
  have ⟨hn, _, h10⟩ := block.proper (Utf8.encode (String.ofList line))
    (h ▸ List.mem_map_of_mem (f := fun line => Utf8.encode (String.ofList line)) hl)
  constructor
  case left =>
    intro he
    exact hn (by rw [he]; rfl)
  case right =>
    intro hm
    exact h10 (Utf8.mem_encode_ascii (c := '\n') (by rwa [String.toList_ofList]) (by decide))

theorem contentLength_of_none (hr : block.Reads ls) (hf : ls.findSome? lengthValue? = none) :
    contentLength block.headers = .error .lengthMissing := by
  rw [contentLength, ← hr.encode_eq, Utf8.decode_encode]
  simp only [String.toList_ofList, hr.lines_eq, hf]

theorem contentLength_of_some (hr : block.Reads ls) (hf : ls.findSome? lengthValue? = some value) :
    contentLength block.headers =
      (Text.readCount UInt64.size value).mapError (.lengthInvalid (String.ofList value)) := by
  rw [contentLength, ← hr.encode_eq, Utf8.decode_encode]
  simp only [String.toList_ofList, hr.lines_eq, hf]

theorem contentLength_of_announces (h : block.Announces n) :
    contentLength block.headers = .ok n := by
  have ⟨ls, value, hr, hf, hc⟩ := h
  have hn := (Text.readCount_eq_ok_iff (by decide)).mpr hc
  rw [contentLength_of_some hr (findSome?_eq_some_iff.mpr hf), hn]
  rfl

theorem contentLength_of_unreadable (h : block.Unreadable) :
    ∃ fault, Utf8.decode block.headers = .error fault ∧
      contentLength block.headers = .error (.headersNotText fault) := by
  have ⟨fault, hd⟩ := Utf8.decode_error h
  exact ⟨fault, hd, by rw [contentLength, hd]⟩

theorem contentLength_of_lengthless (h : block.Lengthless) :
    contentLength block.headers = .error .lengthMissing :=
  have ⟨_, hr, hn⟩ := h
  contentLength_of_none hr (findSome?_eq_none_iff.mpr hn)

theorem contentLength_of_misstates (h : block.Misstates value) :
    ∃ fault, Text.readCount UInt64.size value = .error fault ∧
      contentLength block.headers = .error (.lengthInvalid (String.ofList value) fault) := by
  have ⟨ls, hr, hf, hn⟩ := h
  match hc : Text.readCount UInt64.size value with
  | .ok n        => exact absurd ((Text.readCount_eq_ok_iff (by decide)).mp hc) (hn n)
  | .error fault =>
    refine ⟨fault, rfl, ?_⟩
    rw [contentLength_of_some hr (findSome?_eq_some_iff.mpr hf), hc]
    rfl

theorem exists_of_encode_intercalate {cs : List Char}
    (h : cs.flatMap String.utf8EncodeChar = [13, 10].intercalate lines) :
    ∃ ls : List (List Char), lines = ls.map fun line => Utf8.encode (String.ofList line) := by
  simp only [Utf8.encode_ofList]
  induction lines generalizing cs
  case nil => exact ⟨[], rfl⟩
  case cons line lines hi =>
    cases lines
    case nil => exact ⟨[cs], by rw [List.map_singleton, h, List.intercalate_singleton]⟩
    case cons line' lines =>
      rw [List.intercalate_cons_cons, List.append_assoc] at h
      have ⟨cs₁, cs₂, _, h₁, h₂⟩ := Utf8.split_encode (by decide) h
      have h₂ : cs₂.flatMap String.utf8EncodeChar =
          [] ++ 10 :: [13, 10].intercalate (line' :: lines) := h₂
      have ⟨_, cs₃, _, _, h₃⟩ := Utf8.split_encode (by decide) h₂
      have ⟨ls, hl⟩ := hi h₃
      exact ⟨cs₁ :: ls, by rw [List.map_cons, h₁, ← hl]⟩

theorem cases (block : HeaderBlock) : (∃ n, block.Announces n) ∨
    block.Unreadable ∨ block.Lengthless ∨ ∃ value, block.Misstates value := by
  by_cases hu : block.Unreadable
  case pos => exact .inr (.inl hu)
  case neg =>
    have ⟨s, hs⟩ : ∃ s, Utf8.encode s = block.headers := by simpa [Unreadable] using hu
    have ⟨ls, hr⟩ : ∃ ls, block.Reads ls := exists_of_encode_intercalate hs
    match hf : ls.findSome? lengthValue? with
    | none => exact .inr (.inr (.inl ⟨ls, hr, findSome?_eq_none_iff.mp hf⟩))
    | some value =>
      have hf := findSome?_eq_some_iff.mp hf
      by_cases hc : ∃ n, Text.Counts UInt64.size value n
      case pos =>
        have ⟨n, hn⟩ := hc
        exact .inl ⟨n, ls, value, hr, hf, hn⟩
      case neg => exact .inr (.inr (.inr ⟨value, ls, hr, hf, not_exists.mp hc⟩))

def lengthLine (n : Nat) : String :=
  "Content-Length: " ++ toString n

theorem toList_lengthLine (n : Nat) :
    (lengthLine n).toList = "Content-Length: ".toList ++ Nat.toDigits 10 n :=
  String.toList_append.trans (congrArg _ Nat.toList_repr)

theorem namesLength_lengthLine (n : Nat) :
    NamesLength (lengthLine n).toList (Nat.toDigits 10 n) := by
  have hd : ∀ c ∈ Nat.toDigits 10 n, ¬ Text.isBlank c := fun c hc =>
    Text.not_isBlank_of_isDigit (Nat.isDigit_of_mem_toDigits (by decide) (by decide) hc)
  have ht : Text.trim (' ' :: Nat.toDigits 10 n) = Text.trim (Nat.toDigits 10 n) := rfl
  refine ⟨"Content-Length".toList, ' ' :: Nat.toDigits 10 n, ?_, by decide, by decide, ?_⟩
  · rw [toList_lengthLine]
    rfl
  · rw [ht, Text.trim_of_forall hd]

theorem not_mem_lengthLine {b : UInt8} (hb : b = 13 ∨ b = 10) (n : Nat) :
    b ∉ Utf8.encode (lengthLine n) := by
  intro h
  have h := Utf8.mem_toList_of_mem_encode h (by rcases hb with rfl | rfl <;> decide)
  rw [toList_lengthLine, List.mem_append] at h
  cases h
  case inl h => rcases hb with rfl | rfl <;> exact absurd h (by decide)
  case inr h =>
    have hd := Nat.isDigit_of_mem_toDigits (by decide) (by decide) h
    rcases hb with rfl | rfl <;> exact absurd hd (by decide)

theorem encode_lengthLine (n : Nat) : Utf8.encode (lengthLine n) =
    Utf8.encode "Content-Length: " ++ Utf8.encode (toString n) :=
  Utf8.encode_append _ _

theorem named_lengthLine (n : Nat) : Named (Utf8.encode (lengthLine n)) := by
  have hl : (Utf8.encode "content-length:").length ≤ (Utf8.encode "Content-Length: ").length := by
    decide
  refine ⟨Utf8.encode "content-length:", List.mem_cons_self, ?_⟩
  rw [encode_lengthLine, List.take_append_of_le_length hl]
  decide

def ofLength (n : Nat) : HeaderBlock where
  lines  := [Utf8.encode (lengthLine n)]
  proper := by
    refine List.forall_mem_singleton.mpr ⟨?_, ?_, ?_⟩
    · rw [encode_lengthLine]
      exact List.append_ne_nil_of_left_ne_nil (by decide) _
    · exact not_mem_lengthLine (.inl rfl) n
    · exact not_mem_lengthLine (.inr rfl) n
  named  := ⟨_, rfl, named_lengthLine n⟩

theorem announces_ofLength {n : Nat} (h : n < UInt64.size) : (ofLength n).Announces n := by
  refine ⟨[(lengthLine n).toList], _, ?_, ⟨[], _, [], rfl, namesLength_lengthLine n, nofun⟩,
    Text.counts_toDigits h⟩
  rw [Reads, List.map_singleton, String.ofList_toList]
  rfl

theorem encode_frame (body : String) : Utf8.encode (Frame.encode body) =
    (ofLength body.utf8ByteSize).bytes ++ Utf8.encode body := by
  have he : Frame.encode body = lengthLine body.utf8ByteSize ++ "\r\n\r\n" ++ body := rfl
  have hb : (ofLength body.utf8ByteSize).bytes =
      [13, 10].intercalate [Utf8.encode (lengthLine body.utf8ByteSize)] ++ [13, 10, 13, 10] := rfl
  have hn : Utf8.encode "\r\n\r\n" = [13, 10, 13, 10] := by decide
  rw [he, hb, List.intercalate_singleton, Utf8.encode_append, Utf8.encode_append, hn]

end HeaderBlock
end LanguageClient.Rpc.Frame
