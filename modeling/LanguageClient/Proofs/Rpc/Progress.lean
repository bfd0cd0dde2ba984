import LanguageClient.Proofs.Rpc.Drain

namespace LanguageClient.Rpc.Frame

variable {buffer left : Bytes} {answer : Next} {units : List Unit} {turns calls : Nat}

inductive Finds : Bytes → Next → Nat → Prop
  | empty : Finds [] (.wait []) 1
  | message {buffer : Bytes} (h : looksLikeHeader buffer) : Finds buffer (nextMessage buffer) 1
  | unfinished {buffer : Bytes} (h : looksLikeHeader buffer = false) (hl : cutLine? buffer = none) :
      Finds buffer (.wait buffer) 1
  | log {buffer line rest : Bytes} (h : looksLikeHeader buffer = false)
      (hl : cutLine? buffer = some (line, rest)) (ht : logText line ≠ []) :
      Finds buffer (.frame (.log (String.ofList (logText line))) rest) 1
  | blank {buffer line rest : Bytes} {answer : Next} {turns : Nat} (h : looksLikeHeader buffer = false)
      (hl : cutLine? buffer = some (line, rest)) (ht : logText line = []) (hf : Finds rest answer turns) :
      Finds buffer answer (turns + 1)

namespace Finds

theorem answer_eq (h : Finds buffer answer turns) : answer = next buffer := by
  induction h
  case empty              => exact next_nil.symm
  case message h          => exact (next_header h).symm
  case unfinished h hl    => exact (next_unfinished h hl).symm
  case log h hl ht        => exact (next_log h hl ht).symm
  case blank h hl ht _ hi => exact hi.trans (next_blank h hl ht).symm

theorem turns_le (h : Finds buffer answer turns) : turns ≤ buffer.length + 1 := by
  induction h
  case blank hl _ _ hi =>
    have := cutLine?_length hl
    omega
  all_goals exact Nat.le_add_left ..

end Finds

theorem exists_finds (buffer : Bytes) : ∃ turns, Finds buffer (next buffer) turns := by
  fun_induction next buffer
  case case1       => exact ⟨1, .empty⟩
  case case2 hh    => exact ⟨1, .message hh⟩
  case case3 hh hl => exact ⟨1, .unfinished (by simpa using hh) hl⟩
  case case4 hh line rest hl ht hi =>
    obtain ⟨turns, hf⟩ := hi
    exact ⟨turns + 1, .blank (by simpa using hh) hl ht hf⟩
  case case5 hh line rest hl ht => exact ⟨1, .log (by simpa using hh) hl ht⟩

-- The calls that take units off a buffer until there is none; units that say nothing are taken off as well.
inductive Drains : Bytes → List Unit → Bytes → Nat → Prop
  | wait {buffer rest : Bytes} (h : next buffer = .wait rest) : Drains buffer [] rest 1
  | frame {buffer rest left : Bytes} {f : Frame} {units : List Unit} {calls : Nat}
      (h : next buffer = .frame f rest) (hd : Drains rest units left calls) :
      Drains buffer (.ok f :: units) left (calls + 1)
  | fault {buffer rest left : Bytes} {fault : FrameFault} {units : List Unit} {calls : Nat}
      (h : next buffer = .fault fault rest) (hd : Drains rest units left calls) :
      Drains buffer (.error fault :: units) left (calls + 1)

namespace Drains

theorem eq_drain (h : Drains buffer units left calls) : (units, left) = drain buffer := by
  induction h
  case wait h       => exact (drain_wait h).symm
  case frame h _ hi => rw [drain_frame h, ← hi]
  case fault h _ hi => rw [drain_fault h, ← hi]

theorem calls_le (h : Drains buffer units left calls) : calls ≤ buffer.length + 1 := by
  induction h
  case wait => exact Nat.le_add_left ..
  case frame h _ hi =>
    have := next_frame_shorter h
    omega
  case fault h _ hi =>
    have := next_fault_shorter h
    omega

end Drains

theorem exists_drains (buffer : Bytes) : ∃ calls, Drains buffer (drain buffer).1 (drain buffer).2 calls := by
  induction buffer using drain_induction
  case wait hb => exact ⟨1, drain_wait hb ▸ .wait hb⟩
  case frame hb hi =>
    obtain ⟨calls, hd⟩ := hi
    exact ⟨calls + 1, drain_frame hb ▸ .frame hb hd⟩
  case fault hb hi =>
    obtain ⟨calls, hd⟩ := hi
    exact ⟨calls + 1, drain_fault hb ▸ .fault hb hd⟩

theorem next_progress (buffer : Bytes) :
    Progress buffer (next buffer) ∧
    ((∃ turns, Finds buffer (next buffer) turns) ∧
      ∀ answer turns, Finds buffer answer turns → answer = next buffer ∧ turns ≤ buffer.length + 1) ∧
    ((∃ calls, Drains buffer (drain buffer).1 (drain buffer).2 calls) ∧
      ∀ units left calls, Drains buffer units left calls →
        (units, left) = drain buffer ∧ calls ≤ buffer.length + 1) :=
  ⟨progress_next buffer, ⟨exists_finds buffer, fun _ _ h => ⟨h.answer_eq, h.turns_le⟩⟩,
    exists_drains buffer, fun _ _ _ h => ⟨h.eq_drain, h.calls_le⟩⟩

end LanguageClient.Rpc.Frame
