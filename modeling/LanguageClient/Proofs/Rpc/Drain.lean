import LanguageClient.Rpc.Frame

namespace LanguageClient.Rpc.Frame

variable {buffer headers line rest : Bytes} {f : Frame} {fault : FrameFault} {n : Nat}

theorem cutHeaders?_eq_some (h : cutHeaders? buffer = some (headers, rest)) :
    buffer = headers ++ [13, 10, 13, 10] ++ rest := by
  induction buffer generalizing headers
  case nil => cases h
  case cons b bs hi =>
    rw [cutHeaders?] at h
    split at h
    case isTrue hb =>
      cases h
      have hd := List.take_append_drop 4 (b :: bs)
      rw [hb, List.drop_succ_cons] at hd
      exact hd.symm
    case isFalse =>
      have ⟨⟨hs, r⟩, h', he⟩ := Option.map_eq_some_iff.mp h
      cases he
      rw [hi h', List.cons_append, List.cons_append]

theorem suffix_of_cutHeaders? (h : cutHeaders? buffer = some (headers, rest)) :
    rest <:+ buffer ∧ rest.length < buffer.length := by
  rw [cutHeaders?_eq_some h]
  refine ⟨List.suffix_append .., ?_⟩
  simp only [List.length_append, List.length_cons, List.length_nil]
  omega

theorem cutLine?_eq_some (h : cutLine? buffer = some (line, rest)) : buffer = line ++ rest := by
  induction buffer generalizing line
  case nil => cases h
  case cons b bs hi =>
    rw [cutLine?] at h
    split at h
    case isTrue =>
      cases h
      rfl
    case isFalse =>
      obtain ⟨⟨l, r⟩, h', he⟩ := Option.map_eq_some_iff.mp h
      cases he
      rw [hi h', List.cons_append]

theorem next_nil : next [] = .wait [] := by
  rw [next, if_pos rfl]

theorem ne_nil_of_looksLikeHeader (h : looksLikeHeader buffer = false) : buffer ≠ [] := by
  rintro rfl
  cases h

theorem next_header (h : looksLikeHeader buffer) : next buffer = nextMessage buffer := by
  rw [next]
  split
  case isTrue hb =>
    rw [hb]
    rfl
  case isFalse => rfl

theorem next_line (h : looksLikeHeader buffer = false) (hl : cutLine? buffer = some (line, rest)) :
    next buffer =
      match logText line with
      | []   => next rest
      | text => .frame (.log (String.ofList text)) rest := by
  rw [next, if_neg (ne_nil_of_looksLikeHeader h), h]
  simp only [Bool.false_eq_true, if_false]
  split
  case h_1 hn => rw [hl] at hn; cases hn
  case h_2 hn =>
    rw [hl] at hn
    cases hn
    rfl

theorem next_blank (h : looksLikeHeader buffer = false) (hl : cutLine? buffer = some (line, rest))
    (ht : logText line = []) : next buffer = next rest := by
  rw [next_line h hl, ht]

theorem next_log (h : looksLikeHeader buffer = false) (hl : cutLine? buffer = some (line, rest))
    (ht : logText line ≠ []) : next buffer = .frame (.log (String.ofList (logText line))) rest := by
  rw [next_line h hl]
  split
  case h_1 he => exact absurd he ht
  case h_2    => rfl

theorem next_unfinished (h : looksLikeHeader buffer = false) (hl : cutLine? buffer = none) :
    next buffer = .wait buffer := by
  rw [next, if_neg (ne_nil_of_looksLikeHeader h), h]
  simp only [Bool.false_eq_true, if_false]
  split
  case h_1     => rfl
  case h_2 hn => rw [hl] at hn; cases hn

-- What is left of a buffer is its end. There is less than before behind a unit, and if there is no unit yet,
-- there is no more to be found out about what is left.
inductive Progress (buffer : Bytes) : Next → Prop
  | wait {rest : Bytes} (hs : rest <:+ buffer) (hw : next rest = .wait rest) : Progress buffer (.wait rest)
  | frame {f : Frame} {rest : Bytes} (hs : rest <:+ buffer) (hl : rest.length < buffer.length) :
      Progress buffer (.frame f rest)
  | fault {fault : FrameFault} {rest : Bytes} (hs : rest <:+ buffer) (hl : rest.length < buffer.length) :
      Progress buffer (.fault fault rest)

theorem Progress.append {answer : Next} (h : Progress rest answer) (line : Bytes) :
    Progress (line ++ rest) answer := by
  have hr := List.suffix_append line rest
  cases h
  case wait hs hw  => exact .wait (hs.trans hr) hw
  case frame hs hl => exact .frame (hs.trans hr) (Nat.lt_of_lt_of_le hl hr.length_le)
  case fault hs hl => exact .fault (hs.trans hr) (Nat.lt_of_lt_of_le hl hr.length_le)

theorem progress_nextMessage (h : looksLikeHeader buffer) : Progress buffer (nextMessage buffer) := by
  fun_cases nextMessage buffer
  case case1 hc =>
    have hw : nextMessage buffer = .wait buffer := by rw [nextMessage, hc]
    exact .wait (List.suffix_refl _) ((next_header h).trans hw)
  case case2 hc _ _ =>
    have ⟨hs, hl⟩ := suffix_of_cutHeaders? hc
    exact .fault hs hl
  case case3 headers rest hc length hl hr =>
    have hw : nextMessage buffer = .wait buffer := by
      rw [nextMessage, hc]
      simp only [hl, if_pos hr]
    exact .wait (List.suffix_refl _) ((next_header h).trans hw)
  case case4 rest hc length _ _ _ _ =>
    have ⟨hs, hl⟩ := suffix_of_cutHeaders? hc
    have hd := List.drop_suffix length rest
    exact .frame (hd.trans hs) (Nat.lt_of_le_of_lt hd.length_le hl)
  case case5 rest hc length _ _ _ _ =>
    have ⟨hs, hl⟩ := suffix_of_cutHeaders? hc
    have hd := List.drop_suffix length rest
    exact .fault (hd.trans hs) (Nat.lt_of_le_of_lt hd.length_le hl)

theorem progress_next (buffer : Bytes) : Progress buffer (next buffer) := by
  fun_induction next buffer
  case case1            => exact .wait (List.suffix_refl _) next_nil
  case case2 hh         => exact progress_nextMessage hh
  case case3 hh hl      => exact .wait (List.suffix_refl _) (next_unfinished (by simpa using hh) hl)
  case case4 hl _ hi    => exact cutLine?_eq_some hl ▸ hi.append _
  case case5 line rest hl _ =>
    exact .frame (cutLine?_eq_some hl ▸ List.suffix_append ..) (cutLine?_length hl)

theorem next_frame_shorter (h : next buffer = .frame f rest) : rest.length < buffer.length := by
  have hp := h ▸ progress_next buffer
  cases hp
  case frame _ hl => exact hl

theorem next_fault_shorter (h : next buffer = .fault fault rest) : rest.length < buffer.length := by
  have hp := h ▸ progress_next buffer
  cases hp
  case fault _ hl => exact hl

theorem take_add (h : buffer.length < n) (k : Nat) : take buffer (n + k) = take buffer n := by
  induction n generalizing buffer
  case zero => cases h
  case succ n hi =>
    rw [Nat.add_right_comm, take, take]
    match hn : next buffer with
    | .wait _ => rfl
    | .frame f rest =>
      have hr : rest.length < n := Nat.lt_of_lt_of_le (next_frame_shorter hn) (Nat.le_of_lt_succ h)
      simp only [hi hr]
    | .fault fault rest =>
      have hr : rest.length < n := Nat.lt_of_lt_of_le (next_fault_shorter hn) (Nat.le_of_lt_succ h)
      simp only [hi hr]

theorem take_eq_drain (h : buffer.length < n) : take buffer n = drain buffer := by
  have ⟨k, hk⟩ := Nat.exists_eq_add_of_le (Nat.succ_le_of_lt h)
  rw [hk, take_add (Nat.lt_succ_self _), drain]

theorem drain_wait (h : next buffer = .wait rest) : drain buffer = ([], rest) := by
  rw [drain, take, h]

theorem drain_frame (h : next buffer = .frame f rest) :
    drain buffer = (.ok f :: (drain rest).1, (drain rest).2) := by
  rw [drain, take, h]
  simp only [take_eq_drain (next_frame_shorter h)]

theorem drain_fault (h : next buffer = .fault fault rest) :
    drain buffer = (.error fault :: (drain rest).1, (drain rest).2) := by
  rw [drain, take, h]
  simp only [take_eq_drain (next_fault_shorter h)]

-- What holds of a buffer without a unit, and of a buffer with a unit if it holds of what follows the unit,
-- holds of all buffers.
@[elab_as_elim]
theorem drain_induction {p : Bytes → Prop} (wait : ∀ buffer rest, next buffer = .wait rest → p buffer)
    (frame : ∀ buffer f rest, next buffer = .frame f rest → p rest → p buffer)
    (fault : ∀ buffer e rest, next buffer = .fault e rest → p rest → p buffer)
    (buffer : Bytes) : p buffer := by
  induction hn : buffer.length using Nat.strongRecOn generalizing buffer
  case ind n hi =>
  cases hb : next buffer
  case wait rest        => exact wait buffer rest hb
  case frame f rest     => exact frame buffer f rest hb (hi _ (hn ▸ next_frame_shorter hb) rest rfl)
  case fault e rest     => exact fault buffer e rest hb (hi _ (hn ▸ next_fault_shorter hb) rest rfl)

theorem drain_congr {buffer' : Bytes} (h : next buffer = next buffer') :
    drain buffer = drain buffer' := by
  match hn : next buffer' with
  | .wait rest        => rw [drain_wait hn, drain_wait (h.trans hn)]
  | .frame f rest     => rw [drain_frame hn, drain_frame (h.trans hn)]
  | .fault fault rest => rw [drain_fault hn, drain_fault (h.trans hn)]

end LanguageClient.Rpc.Frame
