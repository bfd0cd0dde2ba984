import LanguageClient.Proofs.Rpc.RoundTrip

namespace LanguageClient

namespace Json

variable {js : List Json} {ms : List (String × Json)} {n : Nat}

theorem exactItems_iff : ExactItems js ↔ ∀ j ∈ js, j.Exact := by
  induction js
  case nil          => simp [ExactItems]
  case cons j js hi => simp [ExactItems, hi]

theorem sortedItems_iff : SortedItems js ↔ ∀ j ∈ js, j.Sorted := by
  induction js
  case nil          => simp [SortedItems]
  case cons j js hi => simp [SortedItems, hi]

theorem depthItems_le_iff : depthItems js ≤ n ↔ ∀ j ∈ js, j.depth ≤ n := by
  induction js
  case nil          => simp [depthItems]
  case cons j js hi => simp [depthItems, hi]

theorem depthMembers_le_iff : depthMembers ms ≤ n ↔ ∀ p ∈ ms, p.2.depth ≤ n := by
  induction ms
  case nil          => simp [depthMembers]
  case cons p ms hi => simp [depthMembers, hi]

end Json

namespace Rpc

variable {j : Json} {js : List Json} {pairs : List (String × Json)} {n m : Nat}

structure Within (n : Nat) (j : Json) : Prop where
  plain : Plain j
  depth : j.depth ≤ n

theorem Within.mono (h : Within n j) (hn : n ≤ m) : Within m j :=
  ⟨h.plain, h.depth.trans hn⟩

theorem within_str (s : String) : Within n (.str s) :=
  ⟨plain_str, by simp [Json.depth]⟩

theorem within_bool (b : Bool) : Within n (.bool b) :=
  ⟨⟨by simp [Json.Exact], by simp [Json.Sorted]⟩, by simp [Json.depth]⟩

theorem within_int {i : Int} (h : IsInt64 i) : Within n (.int i) :=
  ⟨plain_int h, by simp [Json.int, Json.depth]⟩

theorem within_nat {k : Nat} (h : k < UInt64.size) : Within n (.nat k) := by
  have h : k < 18446744073709551616 := h
  refine ⟨⟨?_, by simp [Json.nat, Json.int, Json.Sorted]⟩, by simp [Json.nat, Json.int, Json.depth]⟩
  simp only [Json.nat, Json.int, Json.Exact, Json.IsWord]
  omega

theorem within_arr (h : ∀ j ∈ js, Within n j) : Within (n + 1) (.arr js) where
  plain := {
    exact  := by
      rw [Json.Exact]
      exact Json.exactItems_iff.mpr fun j hj => (h j hj).plain.exact
    sorted := by
      rw [Json.Sorted]
      exact Json.sortedItems_iff.mpr fun j hj => (h j hj).plain.sorted }
  depth := by
    rw [Json.depth]
    exact Nat.succ_le_succ (Json.depthItems_le_iff.mpr fun j hj => (h j hj).depth)

theorem within_object (h : ∀ p ∈ pairs, Within n p.2) : Within (n + 1) (.object pairs) := by
  have h : ∀ p ∈ Members.ofList pairs, Within n p.2 := fun p hp => h p (Members.mem_ofList hp)
  refine ⟨⟨?_, ?_⟩, ?_⟩
  · rw [Json.object, Json.Exact]
    exact Json.exactMembers_iff.mpr fun p hp => (h p hp).plain.exact
  · rw [Json.object, Json.Sorted]
    exact ⟨Members.ordered_ofList pairs, Json.sortedMembers_iff.mpr fun p hp => (h p hp).plain.sorted⟩
  · rw [Json.object, Json.depth]
    exact Nat.succ_le_succ (Json.depthMembers_le_iff.mpr fun p hp => (h p hp).depth)

theorem depth_obj_le (h : ∀ p ∈ pairs, p.2.depth ≤ n) : (Json.obj pairs).depth ≤ n + 1 := by
  rw [Json.depth]
  exact Nat.succ_le_succ (Json.depthMembers_le_iff.mpr h)

theorem decode_notification {params : Json} (h : Within n params) (hn : n < Json.maxDepth) (method : String) :
    Message.decode (Message.notification (.new method params)).encode =
      .ok (.notification (.new method params)) := by
  refine Notification.decode_toJson h.plain ((depth_obj_le (n := n) ?_).trans hn)
  refine List.forall_mem_append.mpr ⟨by simp [Json.depth], fun p hp => ?_⟩
  rw [← eq_of_present? (mem_paramsMember.mp hp).right]
  exact h.depth

theorem decode_answer {id : RequestId} {result : Json} (hi : id.Fits) (h : Within n result)
    (hr : result ≠ .null) (hn : n < Json.maxDepth) :
    let r : Response := ⟨version, some id, some result, none⟩
    Message.decode (Message.response r).encode = .ok (.response r) := by
  intro r
  have hs : r.settled = r := by
    cases result
    case null => exact absurd rfl hr
    all_goals rfl
  have hd : r.toJson.depth ≤ Json.maxDepth := by
    refine (depth_obj_le (n := n) ?_).trans hn
    have hid : id.toJson.depth = 0 := by cases id <;> simp [RequestId.toJson, Json.int, Json.depth]
    simp [r, hid, Json.depth, h.depth]
  have ht := r.decode_toJson (by simpa [r] using hi) (by simpa [r] using h.plain) (by simp [r]) hd
  rw [hs] at ht
  exact ht.trans (if_pos (.inl rfl))

end Rpc
end LanguageClient
