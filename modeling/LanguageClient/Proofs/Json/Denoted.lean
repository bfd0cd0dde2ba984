import LanguageClient.Proofs.Decimal.Finite
import LanguageClient.Json.Outline
import LanguageClient.Proofs.Json.Recognition
import LanguageClient.Proofs.Rpc.Plain

namespace LanguageClient.Json

open Binary64 (isFinite_ofFloat isFinite_scaled isFinite_toFloat isFinite_neg)

variable {n : Numeral} {x : Binary64} {e : Int} {t cs rest : List Char} {d : Nat} {p : Part} {v j : Json}
  {text : String}

theorem isFinite_double (h : n.double e = some (.float x)) : x.isFinite := by
  obtain ⟨f, hf, he⟩ := Option.map_eq_some_iff.mp h
  cases he
  have hs := isFinite_scaled (isFinite_toFloat _) hf
  rw [isFinite_ofFloat]
  split
  case isTrue  => exact isFinite_neg hs
  case isFalse => exact hs

theorem isFinite_value (h : n.value = some (.float x)) : x.isFinite := by
  rw [Numeral.value] at h
  split at h
  case h_1 | h_2 | h_3 =>
    split at h
    case isTrue  => cases h
    case isFalse =>
      split at h
      case isTrue  => exact isFinite_double h
      case isFalse => cases h
  case h_4 | h_6 => exact isFinite_double h
  case h_5 =>
    cases h
    split <;> decide

theorem Evaluates.writable {x : Number} (h : Evaluates t x) : (Json.num x).Writable := by
  cases x
  case int k   =>
    rw [Writable]
    exact (evaluates_int_iff.mp h).right
  case float x =>
    obtain ⟨_, _, _, _, _, _, _, hn⟩ := h.spells
    rw [Writable]
    exact isFinite_value hn.value

namespace Part

-- The numbers of a part can be written, and it holds at most so many containers inside one another.
def Writable : Part → Prop
  | .value v                      => v.Writable
  | .items vs | .moreItems vs     => WritableItems vs
  | .members ps | .moreMembers ps => WritableMembers ps

def depth : Part → Nat
  | .value v                      => v.depth
  | .items vs | .moreItems vs     => depthItems vs
  | .members ps | .moreMembers ps => depthMembers ps

end Part

theorem Derives.writable (h : Derives d cs p rest) : p.Writable := by
  induction h
  case number h  => exact h.writable
  case array hi  => rwa [Part.Writable, Json.Writable]
  case object hi =>
    rw [Part.Writable, Json.Writable, writableMembers_iff]
    exact fun p hp => writableMembers_iff.mp hi p (Members.mem_ofList hp)
  case noItems | lastItem     => rw [Part.Writable, WritableItems]; trivial
  case item hi hj             => rw [Part.Writable, WritableItems]; exact ⟨hi, hj⟩
  case nextItem hi            => exact hi
  case noMembers | lastMember => rw [Part.Writable, WritableMembers]; trivial
  case member hi hj           => rw [Part.Writable, WritableMembers]; exact ⟨hi, hj⟩
  case nextMember hi          => exact hi
  all_goals simp [Part.Writable, Json.Writable]

theorem Derives.depth_le (h : Derives d cs p rest) : p.depth ≤ d := by
  induction h
  case array hi  => rw [Part.depth, Json.depth]; exact Nat.succ_le_succ hi
  case object hi =>
    rw [Part.depth, Json.depth]
    refine Nat.succ_le_succ (depthMembers_le_iff.mpr fun p hp => ?_)
    exact depthMembers_le_iff.mp hi p (Members.mem_ofList hp)
  case noItems | lastItem     => rw [Part.depth, depthItems]; exact Nat.zero_le _
  case item hi hj             => rw [Part.depth, depthItems]; exact Nat.max_le.mpr ⟨hi, hj⟩
  case nextItem hi            => exact hi
  case noMembers | lastMember => rw [Part.depth, depthMembers]; exact Nat.zero_le _
  case member hi hj           => rw [Part.depth, depthMembers]; exact Nat.max_le.mpr ⟨hi, hj⟩
  case nextMember hi          => exact hi
  all_goals simp [Part.depth, Json.depth]

-- What is so for every value that is read with room for so many containers inside one another.
structure Readable (d : Nat) (v : Json) : Prop where
  writable : v.Writable
  sorted   : v.Sorted
  depth    : v.depth ≤ d

theorem Denotes.readable (h : Denotes cs v) : Readable maxDepth v := by
  obtain ⟨_, _, _, hv, _⟩ := h
  exact ⟨hv.writable, hv.sorted, hv.depth_le⟩

theorem readable_of_parse (h : parse text = .ok v) : Readable maxDepth v :=
  (parse_eq_ok_iff.mp h).readable

theorem readable_of_parseInside (h : parseInside text = some v) : Readable (maxDepth - 1) v := by
  rw [parseInside] at h
  split at h
  case h_1 j hp =>
    cases h
    have ⟨hw, hs, hd⟩ := readable_of_parse hp
    rw [Writable, WritableItems] at hw
    rw [Sorted, SortedItems] at hs
    rw [depth, depthItems, depthItems] at hd
    exact ⟨hw.left, hs.left, by omega⟩
  case h_2 => cases h

theorem Readable.of_mem {vs : List Json} (h : Readable maxDepth (.arr vs)) (hv : v ∈ vs) :
    Readable (maxDepth - 1) v := by
  have ⟨hw, hs, hd⟩ := h
  rw [Writable] at hw
  rw [Sorted] at hs
  rw [Json.depth] at hd
  exact ⟨writableItems_iff.mp hw v hv, sortedItems_iff.mp hs v hv,
    depthItems_le_iff.mp (Nat.le_sub_one_of_lt hd) v hv⟩

end LanguageClient.Json
