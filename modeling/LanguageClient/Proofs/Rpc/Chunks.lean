import LanguageClient.Proofs.Rpc.Headers
import LanguageClient.Transport.Piped

namespace LanguageClient.Rpc.Frame

variable {buffer line headers rest : Bytes}

theorem cutLine?_append (h : cutLine? buffer = some (line, rest)) (more : Bytes) :
    cutLine? (buffer ++ more) = some (line, rest ++ more) := by
  induction buffer generalizing line
  case nil => cases h
  case cons b bs hi =>
    rw [cutLine?] at h
    rw [List.cons_append, cutLine?]
    split at h
    case isTrue hb =>
      cases h
      rw [if_pos hb]
    case isFalse hb =>
      obtain ⟨⟨l, r⟩, hl, he⟩ := Option.map_eq_some_iff.mp h
      cases he
      rw [if_neg hb, hi hl]
      rfl

theorem cutHeaders?_append (h : cutHeaders? buffer = some (headers, rest)) (more : Bytes) :
    cutHeaders? (buffer ++ more) = some (headers, rest ++ more) := by
  induction buffer generalizing headers
  case nil => cases h
  case cons b bs hi =>
    have hl : 4 ≤ (b :: bs).length := by
      have hl := congrArg List.length (cutHeaders?_eq_some h)
      simp only [List.length_append, List.length_cons, List.length_nil] at hl ⊢
      omega
    have hd : 3 ≤ bs.length := Nat.le_of_succ_le_succ hl
    rw [cutHeaders?] at h
    rw [List.cons_append, cutHeaders?, ← List.cons_append, List.take_append_of_le_length hl]
    split at h
    case isTrue hb =>
      cases h
      rw [if_pos hb, List.drop_append_of_le_length hd]
    case isFalse hb =>
      obtain ⟨⟨hs, r⟩, hc, he⟩ := Option.map_eq_some_iff.mp h
      cases he
      rw [if_neg hb, hi hc]
      rfl

theorem looksLikeHeader_append_false (h : looksLikeHeader buffer = false) (more : Bytes) :
    looksLikeHeader (buffer ++ more) = false := by
  refine List.any_eq_false.mpr fun name hn he => ?_
  have hb := List.any_eq_false.mp h name hn
  have he := congrArg (List.take buffer.length) (of_decide_eq_true he)
  rw [← List.map_take, List.take_take, Nat.min_comm, ← List.take_take, List.take_left,
    List.take_take, List.length_append, Nat.min_eq_left (Nat.le_add_right ..)] at he
  exact hb (decide_eq_true he)

-- A buffer with a blank line in it is longer than a header name that it seems to begin with, for
-- names have no line ends.
theorem named_of_looksLikeHeader (h : looksLikeHeader buffer)
    (hc : cutHeaders? buffer = some (headers, rest)) : Named buffer := by
  have ⟨name, hn, he⟩ := List.any_eq_true.mp h
  have he := of_decide_eq_true he
  by_cases hl : name.length ≤ buffer.length
  case pos => exact ⟨name, hn, by rw [he, List.take_of_length_le hl]⟩
  case neg =>
    have hm : (13 : UInt8) ∈ buffer := by
      rw [cutHeaders?_eq_some hc]
      simp
    have hm : (13 : UInt8) ∈ (buffer.take name.length).map Text.lowerByte := by
      rw [List.take_of_length_le (Nat.le_of_not_le hl)]
      exact List.mem_map.mpr ⟨13, hm, rfl⟩
    rw [he] at hm
    have hno : ∀ name ∈ headerNames, (13 : UInt8) ∉ name := by decide
    exact absurd (List.mem_of_mem_take hm) (hno name hn)

def Next.extend (more : Bytes) : Next → Next
  | .frame f rest => .frame f (rest ++ more)
  | .fault e rest => .fault e (rest ++ more)
  | .wait rest    => next (rest ++ more)

theorem nextMessage_append (h : looksLikeHeader buffer) (more : Bytes) :
    next (buffer ++ more) = (nextMessage buffer).extend more := by
  cases hc : cutHeaders? buffer
  case none =>
    rw [nextMessage, hc]
    rfl
  case some parts =>
    obtain ⟨headers, rest⟩ := parts
    have hh := looksLikeHeader_append (named_of_looksLikeHeader h hc) more
    rw [next_header hh, nextMessage, nextMessage, cutHeaders?_append hc, hc]
    cases hl : contentLength headers
    case error =>
      simp only [hl]
      rfl
    case ok length =>
      simp only [hl]
      by_cases hr : rest.length < length
      case pos =>
        -- The body is not there yet: nothing is taken, and the longer buffer is looked at anew.
        rw [if_pos hr, Next.extend, next_header hh, nextMessage, cutHeaders?_append hc]
        simp only [hl]
      case neg =>
        have hr := Nat.le_of_not_lt hr
        have hm : ¬ (rest ++ more).length < length := by
          rw [List.length_append]
          omega
        rw [if_neg (Nat.not_lt.mpr hr), if_neg hm, List.take_append_of_le_length hr,
          List.drop_append_of_le_length hr]
        cases Utf8.decode (rest.take length)
        case error => rfl
        case ok    => rfl

-- Before a unit only blank lines are passed over, and each of them is passed over in the longer buffer as well.
theorem next_append (buffer more : Bytes) : next (buffer ++ more) = (next buffer).extend more := by
  fun_induction next buffer
  case case1         => rfl
  case case2 hh      => exact nextMessage_append hh more
  case case3         => rfl
  case case4 hh line rest hl ht hi =>
    -- A line that is complete stays what it is when there is more behind it.
    have hh := looksLikeHeader_append_false (by simpa using hh) more
    rw [next_blank hh (cutLine?_append hl more) ht]
    exact hi
  case case5 hh line rest hl ht =>
    have hh := looksLikeHeader_append_false (by simpa using hh) more
    exact next_log hh (cutLine?_append hl more) ht

theorem drain_append (buffer more : Bytes) : drain (buffer ++ more) =
    ((drain buffer).1 ++ (drain ((drain buffer).2 ++ more)).1,
      (drain ((drain buffer).2 ++ more)).2) := by
  induction buffer using drain_induction
  case wait buffer rest hb =>
    have ha := hb ▸ next_append buffer more
    rw [drain_congr ha, drain_wait hb]
    rfl
  case frame buffer f rest hb hi =>
    have ha := hb ▸ next_append buffer more
    rw [drain_frame ha, drain_frame hb, hi]
    rfl
  case fault buffer e rest hb hi =>
    have ha := hb ▸ next_append buffer more
    rw [drain_fault ha, drain_fault hb, hi]
    rfl

def feed (left : Bytes) : List Bytes → List Unit × Bytes
  | [] => ([], left)
  | chunk :: chunks =>
    let (units, left) := drain (left ++ chunk)
    let (more, left) := feed left chunks
    (units ++ more, left)

theorem feed_drain (buffer : Bytes) (chunks : List Bytes) :
    drain (buffer ++ chunks.flatten) =
      ((drain buffer).1 ++ (feed (drain buffer).2 chunks).1, (feed (drain buffer).2 chunks).2) := by
  induction chunks generalizing buffer
  case nil => rw [List.flatten_nil, List.append_nil, feed, List.append_nil]
  case cons chunk chunks hi =>
    have hd := drain_append buffer chunk
    rw [List.flatten_cons, ← List.append_assoc, hi, hd, feed, List.append_assoc]

theorem feed_flatten (chunks : List Bytes) : feed [] chunks = drain chunks.flatten := by
  have hd := feed_drain [] chunks
  rw [drain_wait next_nil] at hd
  exact hd.symm

theorem feed_eq_of_flatten_eq {chunks chunks' : List Bytes} (h : chunks.flatten = chunks'.flatten) :
    feed [] chunks = feed [] chunks' := by
  rw [feed_flatten, feed_flatten, h]

theorem feed_torn_message :
    let whole := Utf8.encode (encode "é")
    let torn := [whole.take 3, [], (whole.drop 3).take 15, (whole.drop 18).take 2, (whole.drop 20).take 2,
      whole.drop 22]
    torn.flatten = [whole].flatten ∧ feed [] torn = feed [] [whole] := by
  refine ⟨by decide +kernel, feed_eq_of_flatten_eq (by decide +kernel)⟩

end LanguageClient.Rpc.Frame
