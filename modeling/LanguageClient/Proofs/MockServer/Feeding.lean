import LanguageClient.MockServer.Basic
import LanguageClient.Proofs.Rpc.Chunks

namespace LanguageClient.MockServer

open Rpc.Frame (cutHeaders? cutHeaders?_append cutHeaders?_eq_some HeaderBlock)
open Rpc.Frame.HeaderBlock (lengthLine toList_lengthLine ofLength)

variable {m : MockServer} {buffer rest : Bytes} {body : String} {bodies : List String} {n : Nat}

def feedAll (m : MockServer) : List Bytes → MockServer × List Output
  | [] => (m, [])
  | chunk :: chunks =>
    let (m, outputs) := m.feed chunk
    let (m, later) := m.feedAll chunks
    (m, outputs ++ later)

def hear (m : MockServer) (body : String) : MockServer × List Output :=
  match Incoming.ofText? body with
  | some i => m.handle i
  | none   => (m, [])

def settle (m : MockServer) : MockServer × List Output :=
  m.go m.buffer.length

def withBuffer (m : MockServer) (buffer : Bytes) : MockServer :=
  { m with buffer }

-- The server with more bytes in its buffer. One that has exited takes none.
def extend (m : MockServer) (input : Bytes) : MockServer :=
  if m.exited then m else m.withBuffer (m.buffer ++ input)

structure Holds (buffer : Bytes) (body : String) (rest : Bytes) (headers left : Bytes) (text : String)
    (length : Nat) : Prop where
  blank  : cutHeaders? buffer = some (headers, left)
  isText : (Utf8.decode headers).toOption = some text
  names  : contentLength? text = some length
  enough : length ≤ left.length
  spells : (Utf8.decode (left.take length)).toOption = some body
  leaves : left.drop length = rest

theorem takeBody?_eq_some_iff : takeBody? buffer = some (body, rest) ↔
    ∃ headers left text length, Holds buffer body rest headers left text length := by
  simp only [takeBody?, Option.bind_eq_bind, Option.bind_eq_some_iff]
  constructor
  case mp =>
    rintro ⟨⟨headers, left⟩, hc, text, ht, length, hl, h⟩
    split at h
    case isTrue => cases h
    case isFalse hn =>
      obtain ⟨_, hb, he⟩ := Option.bind_eq_some_iff.mp h
      cases he
      exact ⟨headers, left, text, length, hc, ht, hl, Nat.le_of_not_lt hn, hb, rfl⟩
  case mpr =>
    rintro ⟨headers, left, text, length, hc, ht, hl, hn, hb, rfl⟩
    refine ⟨(headers, left), hc, text, ht, length, hl, ?_⟩
    rw [if_neg (Nat.not_lt.mpr hn)]
    exact Option.bind_eq_some_iff.mpr ⟨body, hb, rfl⟩

theorem takeBody?_append (h : takeBody? buffer = some (body, rest)) (more : Bytes) :
    takeBody? (buffer ++ more) = some (body, rest ++ more) := by
  have ⟨headers, left, text, length, h⟩ := takeBody?_eq_some_iff.mp h
  refine takeBody?_eq_some_iff.mpr ⟨headers, left ++ more, text, length, ?_⟩
  exact {
    blank  := cutHeaders?_append h.blank more
    isText := h.isText
    names  := h.names
    enough := by
      have := h.enough
      rw [List.length_append]
      omega
    spells := by rw [List.take_append_of_le_length h.enough, h.spells]
    leaves := by rw [List.drop_append_of_le_length h.enough, h.leaves] }

theorem takeBody?_length (h : takeBody? buffer = some (body, rest)) : rest.length < buffer.length := by
  have ⟨headers, left, text, length, h⟩ := takeBody?_eq_some_iff.mp h
  have hb := congrArg List.length (cutHeaders?_eq_some h.blank)
  simp only [List.length_append, List.length_cons, List.length_nil] at hb
  rw [← h.leaves, List.length_drop]
  omega

theorem handle_withBuffer (m : MockServer) (buffer : Bytes) (i : Incoming) :
    (m.withBuffer buffer).handle i = ((m.handle i).1.withBuffer buffer, (m.handle i).2) := by
  have hn : ∀ method params, (m.withBuffer buffer).notification method params =
      ((m.notification method params).1.withBuffer buffer, (m.notification method params).2) := by
    intro method params
    unfold notification
    split
    case h_2 document => cases changedText? params <;> rfl
    all_goals rfl
  unfold handle
  split
  case h_2 => exact hn _ _
  all_goals rfl

theorem hear_withBuffer (m : MockServer) (buffer : Bytes) (body : String) :
    (m.withBuffer buffer).hear body = ((m.hear body).1.withBuffer buffer, (m.hear body).2) := by
  unfold hear
  cases Incoming.ofText? body
  case none   => rfl
  case some i => exact handle_withBuffer m buffer i

theorem go_exited (h : m.exited) (n : Nat) : m.go n = (m, []) := by
  cases n
  case zero => rfl
  case succ => rw [go, if_pos h]

theorem go_waiting (h : takeBody? m.buffer = none) (n : Nat) : m.go n = (m, []) := by
  cases n
  case zero   => rfl
  case succ n =>
    rw [go, h]
    split <;> rfl

theorem go_taking (hm : m.exited = false) (h : takeBody? m.buffer = some (body, rest)) (n : Nat) :
    m.go (n + 1) = ((((m.withBuffer rest).hear body).1.go n).1,
      ((m.withBuffer rest).hear body).2 ++ (((m.withBuffer rest).hear body).1.go n).2) := by
  rw [go, if_neg (by simp [hm]), h]
  rfl

theorem length_hear (m : MockServer) (buffer : Bytes) (body : String) :
    ((m.withBuffer buffer).hear body).1.buffer.length = buffer.length := by
  rw [hear_withBuffer]
  rfl

-- More turns than bytes change nothing, for each turn takes bytes away.
theorem go_eq_settle (h : m.buffer.length ≤ n) : m.go n = m.settle := by
  induction hb : m.buffer.length using Nat.strongRecOn generalizing m n
  case ind length hi =>
    cases hm : m.exited
    case true  => rw [settle, go_exited hm, go_exited hm]
    case false =>
      match ht : takeBody? m.buffer with
      | none => rw [settle, go_waiting ht, go_waiting ht]
      | some (body, rest) =>
        have hl := takeBody?_length ht
        have hr := m.length_hear rest body
        obtain ⟨n, rfl⟩ : ∃ k, n = k + 1 := ⟨n - 1, by omega⟩
        obtain ⟨k, hk⟩ : ∃ k, m.buffer.length = k + 1 := ⟨m.buffer.length - 1, by omega⟩
        rw [settle, hk, go_taking hm ht, go_taking hm ht, hi rest.length (by omega) (by omega) hr,
          hi rest.length (by omega) (by omega) hr]

theorem settle_exited (h : m.exited) : m.settle = (m, []) :=
  go_exited h _

theorem settle_waiting (h : takeBody? m.buffer = none) : m.settle = (m, []) :=
  go_waiting h _

theorem settle_taking (hm : m.exited = false) (h : takeBody? m.buffer = some (body, rest)) :
    m.settle = ((((m.withBuffer rest).hear body).1.settle).1,
      ((m.withBuffer rest).hear body).2 ++ (((m.withBuffer rest).hear body).1.settle).2) := by
  have hl := takeBody?_length h
  have hr := m.length_hear rest body
  obtain ⟨k, hk⟩ : ∃ k, m.buffer.length = k + 1 := ⟨m.buffer.length - 1, by omega⟩
  rw [settle, hk, go_taking hm h, go_eq_settle (by omega)]

theorem feed_eq (m : MockServer) (input : Bytes) : m.feed input = (m.extend input).settle := by
  rw [feed, extend]
  split
  case isTrue h  => rw [settle_exited h]
  case isFalse h =>
    refine go_eq_settle (Nat.le_of_eq ?_)
    rw [List.length_append]

-- What is left in the buffer of a server that has exited is of no use to it.
structure Alike (m m' : MockServer) : Prop where
  options   : m.options = m'.options
  documents : m.documents = m'.documents
  exited    : m.exited = m'.exited
  buffer    : m.exited = false → m.buffer = m'.buffer

theorem Alike.refl (m : MockServer) : Alike m m where
  options   := rfl
  documents := rfl
  exited    := rfl
  buffer _  := rfl

theorem Alike.trans {m₁ m₂ m₃ : MockServer} (h₁ : Alike m₁ m₂) (h₂ : Alike m₂ m₃) : Alike m₁ m₃ where
  options   := h₁.options.trans h₂.options
  documents := h₁.documents.trans h₂.documents
  exited    := h₁.exited.trans h₂.exited
  buffer h  := (h₁.buffer h).trans (h₂.buffer (h₁.exited ▸ h))

theorem extend_of_exited (h : m.exited) (input : Bytes) : m.extend input = m :=
  if_pos h

theorem extend_of_not_exited (h : m.exited = false) (input : Bytes) :
    m.extend input = m.withBuffer (m.buffer ++ input) :=
  if_neg (by simp [h])

-- A server may settle before all input is there and go on from where it is then.
theorem settle_extend (m : MockServer) (more : Bytes) :
    Alike (m.extend more).settle.1 (m.settle.1.extend more).settle.1 ∧
    (m.extend more).settle.2 = m.settle.2 ++ (m.settle.1.extend more).settle.2 := by
  induction hb : m.buffer.length using Nat.strongRecOn generalizing m
  case ind length hi =>
    cases hm : m.exited
    case true =>
      rw [extend_of_exited hm, settle_exited hm, extend_of_exited hm, settle_exited hm]
      exact ⟨.refl m, rfl⟩
    case false =>
      match ht : takeBody? m.buffer with
      | none =>
        rw [settle_waiting ht]
        exact ⟨.refl _, rfl⟩
      | some (body, rest) =>
        have hl := takeBody?_length ht
        have hr := m.length_hear rest body
        have he : (m.withBuffer (m.buffer ++ more)).settle =
            ((((m.withBuffer (rest ++ more)).hear body).1.settle).1,
              ((m.withBuffer (rest ++ more)).hear body).2 ++
                (((m.withBuffer (rest ++ more)).hear body).1.settle).2) :=
          settle_taking hm (takeBody?_append ht more)
        have ⟨ha, ho⟩ := hi rest.length (by omega) ((m.withBuffer rest).hear body).1 hr
        rw [extend_of_not_exited hm, he, settle_taking hm ht]
        rw [hear_withBuffer] at ha ho ⊢
        rw [hear_withBuffer]
        cases hx : (m.hear body).1.exited
        case true =>
          -- The body has made the server exit. The buffers that are left differ, but are not used any
          -- more.
          have hx : ∀ buffer, ((m.hear body).1.withBuffer buffer).exited := fun _ => hx
          simp only [settle_exited (hx _), extend_of_exited (hx _)]
          exact ⟨⟨rfl, rfl, rfl, fun h => absurd (hx (rest ++ more)) (by simp [h])⟩,
            (List.append_nil _).symm⟩
        case false =>
          have hw : ((m.hear body).1.withBuffer rest).extend more =
              (m.hear body).1.withBuffer (rest ++ more) :=
            extend_of_not_exited (m := (m.hear body).1.withBuffer rest) hx more
          rw [hw] at ha ho
          exact ⟨ha, by rw [ho, List.append_assoc]⟩

theorem extend_nil (m : MockServer) : m.extend [] = m := by
  rw [extend, List.append_nil]
  exact ite_id m

theorem extend_extend (m : MockServer) (input more : Bytes) :
    (m.extend input).extend more = m.extend (input ++ more) := by
  cases h : m.exited
  case true  => rw [extend_of_exited h, extend_of_exited h, extend_of_exited h]
  case false =>
    have hw : (m.withBuffer (m.buffer ++ input)).exited = false := h
    rw [extend_of_not_exited h, extend_of_not_exited h, extend_of_not_exited hw, ← List.append_assoc]
    rfl

theorem settle_settle (m : MockServer) : m.settle.1.settle = (m.settle.1, []) := by
  induction hb : m.buffer.length using Nat.strongRecOn generalizing m
  case ind length hi =>
    cases hm : m.exited
    case true  => rw [settle_exited hm, settle_exited hm]
    case false =>
      match ht : takeBody? m.buffer with
      | none              => rw [settle_waiting ht, settle_waiting ht]
      | some (body, rest) =>
        have hl := takeBody?_length ht
        rw [settle_taking hm ht]
        exact hi rest.length (hb ▸ hl) ((m.withBuffer rest).hear body).1 (m.length_hear rest body)

theorem feedAll_eq (h : m.settle = (m, [])) (chunks : List Bytes) :
    Alike (m.extend chunks.flatten).settle.1 (m.feedAll chunks).1 ∧
    (m.extend chunks.flatten).settle.2 = (m.feedAll chunks).2 := by
  induction chunks generalizing m
  case nil =>
    rw [List.flatten_nil, extend_nil, h]
    exact ⟨.refl m, rfl⟩
  case cons chunk chunks hi =>
    have ⟨ha, ho⟩ := settle_extend (m.extend chunk) chunks.flatten
    have ⟨ha', ho'⟩ := hi (m.extend chunk).settle_settle
    rw [List.flatten_cons, ← extend_extend, feedAll, feed_eq]
    exact ⟨ha.trans ha', by rw [ho, ho']⟩

def framed (body : String) : Bytes :=
  Utf8.encode (Rpc.Frame.encode body)

def hearAll (m : MockServer) : List String → MockServer × List Output
  | [] => (m, [])
  | body :: bodies =>
    if m.exited then (m, [])
    else
      let (m, outputs) := m.hear body
      let (m, later) := m.hearAll bodies
      (m, outputs ++ later)

theorem hearAll_cons (hm : m.exited = false) (body : String) (bodies : List String) :
    m.hearAll (body :: bodies) = (((m.hear body).1.hearAll bodies).1,
      (m.hear body).2 ++ ((m.hear body).1.hearAll bodies).2) := by
  rw [hearAll, if_neg (by simp [hm])]

theorem hearAll_exited (h : m.exited) (bodies : List String) : m.hearAll bodies = (m, []) := by
  cases bodies
  case nil  => rfl
  case cons => exact if_pos h

-- A header line gives a length: before its first colon stands the name, in upper or lower case.
def GivesLength (line value : List Char) : Prop :=
  ∃ name rest, line = name ++ ':' :: rest ∧ Text.sameAscii name "content-length".toList ∧
    value = Text.trim rest

def LastLength (lines : List (List Char)) (n : Nat) : Prop :=
  ∃ before line value after, lines = before ++ line :: after ∧ GivesLength line value ∧
    Text.Counts UInt64.size value n ∧ ∀ line ∈ after, ∀ value, ¬GivesLength line value

-- A body under the header lines that it is sent with.
structure Envelope where
  lines  : List (List Char)
  body   : String
  proper : ∀ line ∈ lines, line ≠ [] ∧ '\r' ∉ line ∧ '\n' ∉ line
  length : LastLength lines body.utf8ByteSize

def Envelope.bytes (e : Envelope) : Bytes :=
  Utf8.encode (String.ofList (['\r', '\n'].intercalate e.lines)) ++ ([13, 10, 13, 10] ++ Utf8.encode e.body)

section Envelopes

variable {line value : List Char} {lines : List (List Char)} {c : Char}

theorem lowerAscii_eq_colon_iff : Text.lowerAscii c = ':' ↔ c = ':' := by
  rw [Text.lowerAscii]
  split
  case isTrue h =>
    have hn : 65 ≤ c.toNat ∧ c.toNat ≤ 90 := h
    constructor
    case mp =>
      intro he
      have hc : (Char.ofNat (c.toNat + 32)).toNat = c.toNat + 32 := Utf8.toNat_ofNat (.inl (by omega))
      rw [he] at hc
      have : ':'.toNat = 58 := rfl
      omega
    case mpr =>
      rintro rfl
      exact absurd hn.left (by decide)
  case isFalse => rfl

theorem exists_givesLength_iff :
    (∃ value, GivesLength line value) ↔ lengthName.isPrefixOf (line.map Text.lowerAscii) := by
  have hn : lengthName = "content-length".toList ++ [':'] := rfl
  have hl : "content-length".toList.map Text.lowerAscii = "content-length".toList := by decide
  rw [List.isPrefixOf_iff_prefix, hn]
  constructor
  case mp =>
    rintro ⟨value, name, rest, rfl, hs, -⟩
    have hs : name.map Text.lowerAscii = "content-length".toList := (of_decide_eq_true hs).trans hl
    refine ⟨rest.map Text.lowerAscii, ?_⟩
    rw [List.map_append, hs, List.map_cons, lowerAscii_eq_colon_iff.mpr rfl, List.append_assoc]
    rfl
  case mpr =>
    rintro ⟨more, h⟩
    rw [List.append_assoc, List.singleton_append] at h
    obtain ⟨name, rest, rfl, hs, h⟩ := List.map_eq_append_iff.mp h.symm
    obtain ⟨c, rest, rfl, hc, -⟩ := List.map_eq_cons_iff.mp h
    rw [lowerAscii_eq_colon_iff.mp hc]
    exact ⟨_, name, rest, rfl, decide_eq_true (hs.trans hl.symm), rfl⟩

theorem not_colon_mem_of_sameAscii {name : List Char} (h : Text.sameAscii name "content-length".toList) :
    ':' ∉ name := by
  intro hm
  have hm := List.mem_map_of_mem (f := Text.lowerAscii) hm
  rw [of_decide_eq_true h] at hm
  exact absurd hm (by decide)

theorem contentLength?_lines (hp : ∀ line ∈ lines, line ≠ [] ∧ '\n' ∉ line) (h : LastLength lines n) :
    contentLength? (String.ofList (['\r', '\n'].intercalate lines)) = some n := by
  obtain ⟨before, line, value, after, rfl, hg, hc, ha⟩ := h
  have hl : lengthName.isPrefixOf (line.map Text.lowerAscii) := exists_givesLength_iff.mp ⟨value, hg⟩
  have hn : after.filter (fun line => lengthName.isPrefixOf (line.map Text.lowerAscii)) = [] := by
    refine List.filter_eq_nil_iff.mpr fun line hm hl => ?_
    have ⟨value, hg⟩ := exists_givesLength_iff.mpr hl
    exact ha line hm value hg
  have hf : (line :: after).filter (fun line => lengthName.isPrefixOf (line.map Text.lowerAscii)) =
      [line] := by
    rw [List.filter_cons, if_pos hl, hn]
  obtain ⟨name, rest, rfl, hs, rfl⟩ := hg
  have hr := (Text.readCount_eq_ok_iff (by decide)).mpr hc
  have hcut := Text.cut?_append (not_colon_mem_of_sameAscii hs) rest
  simp only [contentLength?, String.toList_ofList, Text.lines_intercalate hp, List.filter_append, hf,
    List.getLast?_append, List.getLast?_singleton, Option.some_or, Option.bind_eq_bind, Option.bind_some,
    hcut, hr]
  rfl

theorem takeBody?_envelope (e : Envelope) (rest : Bytes) :
    takeBody? (e.bytes ++ rest) = some (e.body, rest) := by
  have hne : e.lines ≠ [] := by
    obtain ⟨before, line, _, after, he, _⟩ := e.length
    rw [he]
    simp
  have hb : ∀ line ∈ e.lines.map fun line => Utf8.encode (String.ofList line), line ≠ [] ∧ 13 ∉ line := by
    refine List.forall_mem_map.mpr fun line hl => ?_
    have ⟨hn, hr, _⟩ := e.proper line hl
    constructor
    case left  =>
      intro he
      have hd := Utf8.decode_encode (String.ofList line)
      rw [he] at hd
      exact hn (String.ofList_eq_empty_iff.mp (Except.ok.inj hd).symm)
    case right =>
      intro hm
      have hm := Utf8.mem_toList_of_mem_encode hm (by decide)
      rw [String.toList_ofList] at hm
      exact hr hm
  have hl := Utf8.length_encode e.body
  refine takeBody?_eq_some_iff.mpr
    ⟨Utf8.encode (String.ofList (['\r', '\n'].intercalate e.lines)), Utf8.encode e.body ++ rest,
      String.ofList (['\r', '\n'].intercalate e.lines), e.body.utf8ByteSize, ?_⟩
  exact {
    blank  := by
      rw [Envelope.bytes, HeaderBlock.encode_intercalate, List.append_assoc, List.append_assoc]
      exact Rpc.Frame.cutHeaders?_lines hb (by simpa using hne) _
    isText := by
      rw [Utf8.decode_encode]
      rfl
    names  := contentLength?_lines (fun line hl => ⟨(e.proper line hl).left, (e.proper line hl).right.right⟩)
      e.length
    enough := by
      rw [List.length_append]
      omega
    spells := by
      rw [← hl, List.take_left, Utf8.decode_encode]
      rfl
    leaves := by rw [← hl, List.drop_left] }

end Envelopes

def Envelope.ofBody (body : String) (h : body.utf8ByteSize < UInt64.size) : Envelope where
  lines  := [(lengthLine body.utf8ByteSize).toList]
  body   := body
  proper := by
    have hd : ∀ c, ¬c.isDigit → c ∉ "Content-Length: ".toList →
        c ∉ (lengthLine body.utf8ByteSize).toList := by
      intro c hd hc hm
      rw [toList_lengthLine, List.mem_append] at hm
      exact hm.elim hc fun hm => hd (Nat.isDigit_of_mem_toDigits (by decide) (by decide) hm)
    refine List.forall_mem_singleton.mpr ⟨?_, hd _ (by decide) (by decide), hd _ (by decide) (by decide)⟩
    rw [toList_lengthLine]
    exact List.append_ne_nil_of_left_ne_nil (by decide) _
  length := by
    have hd : ∀ c ∈ Nat.toDigits 10 body.utf8ByteSize, ¬Text.isBlank c := fun c hc =>
      Text.not_isBlank_of_isDigit (Nat.isDigit_of_mem_toDigits (by decide) (by decide) hc)
    have ht : Text.trim (' ' :: Nat.toDigits 10 body.utf8ByteSize) = Nat.toDigits 10 body.utf8ByteSize :=
      Text.trim_of_forall hd
    refine ⟨[], _, _, [], rfl, ⟨"Content-Length".toList, ' ' :: Nat.toDigits 10 body.utf8ByteSize, ?_,
      by decide, ht.symm⟩, Text.counts_toDigits h, nofun⟩
    rw [toList_lengthLine]
    rfl

theorem bytes_ofBody (h : body.utf8ByteSize < UInt64.size) :
    (Envelope.ofBody body h).bytes = framed body := by
  have hh : (ofLength body.utf8ByteSize).headers = Utf8.encode (lengthLine body.utf8ByteSize) :=
    List.intercalate_singleton
  rw [framed, HeaderBlock.encode_frame, HeaderBlock.bytes, hh, Envelope.bytes, Envelope.ofBody,
    List.intercalate_singleton, String.ofList_toList, List.append_assoc]

theorem takeBody?_framed (h : body.utf8ByteSize < UInt64.size) (rest : Bytes) :
    takeBody? (framed body ++ rest) = some (body, rest) := by
  rw [← bytes_ofBody h]
  exact takeBody?_envelope (.ofBody body h) rest

section Streams

variable {α : Type} {bytes : α → Bytes} {body : α → String} {as : List α}

theorem settle_flatMap (m : MockServer)
    (h : ∀ a ∈ as, ∀ rest, takeBody? (bytes a ++ rest) = some (body a, rest)) :
    ∃ left, (m.withBuffer (as.flatMap bytes)).settle =
      ((m.hearAll (as.map body)).1.withBuffer left, (m.hearAll (as.map body)).2) := by
  induction as generalizing m
  case nil =>
    refine ⟨[], settle_waiting rfl⟩
  case cons a as hi =>
    have ⟨ha, has⟩ := List.forall_mem_cons.mp h
    rw [List.map_cons]
    cases hm : m.exited
    case true  =>
      rw [hearAll_exited hm]
      exact ⟨_, settle_exited hm⟩
    case false =>
      have ⟨left, hl⟩ := hi (m.hear (body a)).1 has
      have ht : takeBody? ((a :: as).flatMap bytes) = some (body a, as.flatMap bytes) := ha _
      have hs := settle_taking (m := m.withBuffer ((a :: as).flatMap bytes)) hm ht
      rw [hs, hearAll_cons hm]
      refine ⟨left, ?_⟩
      have hw : (m.withBuffer ((a :: as).flatMap bytes)).withBuffer (as.flatMap bytes) =
          m.withBuffer (as.flatMap bytes) := rfl
      rw [hw, hear_withBuffer]
      simp only [hl]

theorem settle_new (options : Options) : (new options).settle = (new options, []) :=
  rfl

theorem feedAll_flatMap {chunks : List Bytes}
    (h : ∀ a ∈ as, ∀ rest, takeBody? (bytes a ++ rest) = some (body a, rest))
    (hc : chunks.flatten = as.flatMap bytes) (options : Options) :
    ((new options).feedAll chunks).2 = ((new options).hearAll (as.map body)).2 ∧
    ((new options).feedAll chunks).1.documents = ((new options).hearAll (as.map body)).1.documents ∧
    ((new options).feedAll chunks).1.exited = ((new options).hearAll (as.map body)).1.exited := by
  have ⟨ha, ho⟩ := feedAll_eq (settle_new options) chunks
  have ⟨left, hs⟩ := settle_flatMap (new options) h
  have he : (new options).extend chunks.flatten = (new options).withBuffer (as.flatMap bytes) := by
    rw [extend_of_not_exited rfl, hc]
    rfl
  rw [he, hs] at ha ho
  exact ⟨ho.symm, ha.documents.symm, ha.exited.symm⟩

end Streams

theorem feedAll_framed {chunks : List Bytes} (h : ∀ body ∈ bodies, body.utf8ByteSize < UInt64.size)
    (hc : chunks.flatten = bodies.flatMap framed) (options : Options) :
    ((new options).feedAll chunks).2 = ((new options).hearAll bodies).2 ∧
    ((new options).feedAll chunks).1.documents = ((new options).hearAll bodies).1.documents ∧
    ((new options).feedAll chunks).1.exited = ((new options).hearAll bodies).1.exited := by
  have ht : ∀ body ∈ bodies, ∀ rest, takeBody? (framed body ++ rest) = some (id body, rest) :=
    fun body hb => takeBody?_framed (h body hb)
  have hf := feedAll_flatMap ht hc options
  rwa [List.map_id] at hf

end LanguageClient.MockServer
