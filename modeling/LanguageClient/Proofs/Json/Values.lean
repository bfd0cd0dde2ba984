import LanguageClient.Json.Reading
import Mathlib.Data.List.Induction
import Mathlib.Data.String.Basic

namespace LanguageClient

namespace Members

variable {j k : String} {v w : Json} {ms : Members} {pairs : List (String × Json)}

theorem get?_cons : get? j ((k, v) :: ms) = if k = j then some v else get? j ms := by
  by_cases h : k = j
  all_goals simp [get?, h]

theorem mem_of_get? (h : get? k ms = some v) : (k, v) ∈ ms := by
  rw [get?, Option.map_eq_some_iff] at h
  have ⟨⟨j, w⟩, hj, hw⟩ := h
  have hn : j = k := by simpa using List.find?_some hj
  cases hw
  exact hn ▸ List.mem_of_find?_eq_some hj

theorem get?_insert : get? j (insert k v ms) = if k = j then some v else get? j ms := by
  induction ms
  case nil => rw [insert, get?_cons]
  case cons p ms hi =>
    obtain ⟨k', w⟩ := p
    rw [insert]
    split
    case isTrue => rw [get?_cons]
    case isFalse =>
      split
      case isTrue h  =>
        rw [get?_cons, get?_cons, h]
        split
        · rfl
        · rfl
      case isFalse h =>
        rw [get?_cons, get?_cons, hi]
        grind

theorem mem_insert {p : String × Json} (h : p ∈ insert k v ms) : p = (k, v) ∨ p ∈ ms := by
  induction ms
  case nil => simpa [insert] using h
  case cons q ms hi =>
    obtain ⟨k', w⟩ := q
    rw [insert] at h
    split at h
    case isTrue => simpa using h
    case isFalse =>
      split at h
      case isTrue => grind
      case isFalse => grind

-- The members are sorted by key, and no key occurs twice.
def Ordered (ms : Members) : Prop :=
  (ms.map (·.1)).Pairwise (· < ·)

theorem ordered_cons {p : String × Json} : Ordered (p :: ms) ↔ (∀ q ∈ ms, p.1 < q.1) ∧ Ordered ms := by
  simp [Ordered]

theorem ordered_insert (h : Ordered ms) : Ordered (insert k v ms) := by
  induction ms
  case nil          => simp [insert, Ordered]
  case cons p ms hi =>
    have ⟨hp, hms⟩ := ordered_cons.mp h
    rw [insert]
    split
    case isTrue hk =>
      exact ordered_cons.mpr ⟨List.forall_mem_cons.mpr ⟨hk, fun q hq => lt_trans hk (hp q hq)⟩, h⟩
    case isFalse hk =>
      split
      case isTrue he  => exact ordered_cons.mpr ⟨fun q hq => he ▸ hp q hq, hms⟩
      case isFalse he =>
        refine ordered_cons.mpr ⟨fun q hq => ?_, hi hms⟩
        obtain rfl | hq := mem_insert hq
        · exact lt_of_le_of_ne (not_lt.mp hk) (Ne.symm he)
        · exact hp q hq

theorem insert_of_last (h : ∀ p ∈ ms, p.1 < k) : insert k v ms = ms ++ [(k, v)] := by
  induction ms
  case nil => rfl
  case cons p ms hi =>
    have ⟨hp, hms⟩ := List.forall_mem_cons.mp h
    rw [insert, if_neg (lt_asymm hp), if_neg (ne_of_gt hp), hi hms]
    rfl

theorem foldl_insert_of_ordered (h : Ordered (ms ++ pairs)) :
    pairs.foldl (fun ms (k, v) => insert k v ms) ms = ms ++ pairs := by
  induction pairs generalizing ms
  case nil => simp
  case cons p pairs hi =>
    obtain ⟨k, v⟩ := p
    have hl : ∀ q ∈ ms, q.1 < k := by
      rw [Ordered, List.map_append, List.pairwise_append] at h
      exact fun q hq => h.right.right _ (List.mem_map_of_mem hq) _ (by simp)
    have hp : ms ++ [(k, v)] ++ pairs = ms ++ (k, v) :: pairs := by simp
    calc
      _ = pairs.foldl (fun ms (k, v) => insert k v ms) (insert k v ms) := rfl
      _ = pairs.foldl (fun ms (k, v) => insert k v ms) (ms ++ [(k, v)]) := by
        rw [insert_of_last hl]
      _ = ms ++ [(k, v)] ++ pairs := hi (by rwa [hp])
      _ = ms ++ (k, v) :: pairs := hp

theorem ofList_of_ordered (h : Ordered ms) : ofList ms = ms :=
  foldl_insert_of_ordered h

theorem ofList_append_singleton : ofList (pairs ++ [(k, v)]) = insert k v (ofList pairs) := by
  simp [ofList]

theorem get?_ofList : get? j (ofList pairs) = get? j pairs.reverse := by
  induction pairs using List.reverseRecOn
  case nil => rfl
  case append_singleton pairs p hi =>
    rw [ofList_append_singleton, get?_insert, hi, List.reverse_append, List.reverse_singleton,
      List.singleton_append, get?_cons]

theorem mem_ofList {p : String × Json} (h : p ∈ ofList pairs) : p ∈ pairs := by
  induction pairs using List.reverseRecOn
  case nil => exact h
  case append_singleton pairs q hi =>
    rw [ofList_append_singleton] at h
    rcases mem_insert h with h | h
    · simp [h]
    · exact List.mem_append_left _ (hi h)

theorem ordered_ofList (pairs : List (String × Json)) : Ordered (ofList pairs) := by
  induction pairs using List.reverseRecOn
  case nil                        => exact .nil
  case append_singleton pairs p hi =>
    rw [ofList_append_singleton]
    exact ordered_insert hi

end Members

namespace Json

mutual

def depth : Json → Nat
  | .arr items   => depthItems items + 1
  | .obj members => depthMembers members + 1
  | _            => 0

def depthItems : List Json → Nat
  | []      => 0
  | j :: js => max j.depth (depthItems js)

def depthMembers : List (String × Json) → Nat
  | []           => 0
  | (_, j) :: ms => max j.depth (depthMembers ms)

end

def IsWord (n : Int) : Prop :=
  -9223372036854775808 ≤ n ∧ n < 18446744073709551616

mutual

def Exact : Json → Prop
  | .num (.int n)   => IsWord n
  | .num (.float _) => False
  | .arr items      => ExactItems items
  | .obj members    => ExactMembers members
  | _               => True

def ExactItems : List Json → Prop
  | []      => True
  | j :: js => j.Exact ∧ ExactItems js

def ExactMembers : List (String × Json) → Prop
  | []           => True
  | (_, j) :: ms => j.Exact ∧ ExactMembers ms

end

mutual

def Sorted : Json → Prop
  | .arr items   => SortedItems items
  | .obj members => Members.Ordered members ∧ SortedMembers members
  | _            => True

def SortedItems : List Json → Prop
  | []      => True
  | j :: js => j.Sorted ∧ SortedItems js

def SortedMembers : List (String × Json) → Prop
  | []           => True
  | (_, j) :: ms => j.Sorted ∧ SortedMembers ms

end

mutual

-- A value with the members of its objects in order.
def normal : Json → Json
  | .arr items   => .arr (normalItems items)
  | .obj members => .obj (Members.ofList (normalMembers members))
  | j            => j

def normalItems : List Json → List Json
  | []      => []
  | j :: js => j.normal :: normalItems js

def normalMembers : List (String × Json) → List (String × Json)
  | []           => []
  | (k, j) :: ms => (k, j.normal) :: normalMembers ms

end

theorem exactMembers_iff {ms : List (String × Json)} : ExactMembers ms ↔ ∀ p ∈ ms, p.2.Exact := by
  induction ms
  case nil          => simp [ExactMembers]
  case cons p ms hi => simp [ExactMembers, hi]

theorem sortedMembers_iff {ms : List (String × Json)} : SortedMembers ms ↔ ∀ p ∈ ms, p.2.Sorted := by
  induction ms
  case nil          => simp [SortedMembers]
  case cons p ms hi => simp [SortedMembers, hi]

theorem normalMembers_eq_map {ms : List (String × Json)} :
    normalMembers ms = ms.map fun p => (p.1, p.2.normal) := by
  induction ms
  case nil          => simp [normalMembers]
  case cons p ms hi => simp [normalMembers, hi]

mutual

theorem normal_of_sorted : ∀ {j : Json}, j.Sorted → j.normal = j
  | .arr items, h => by
    rw [Sorted] at h
    rw [normal, normalItems_of_sorted h]
  | .obj members, h => by
    rw [Sorted] at h
    rw [normal, normalMembers_of_sorted h.right, Members.ofList_of_ordered h.left]
  | .null, _ | .bool _, _ | .num _, _ | .str _, _ => by rw [normal]; all_goals nofun

theorem normalItems_of_sorted : ∀ {js : List Json}, SortedItems js → normalItems js = js
  | [], _      => by rw [normalItems]
  | j :: js, h => by
    rw [SortedItems] at h
    rw [normalItems, normal_of_sorted h.left, normalItems_of_sorted h.right]

theorem normalMembers_of_sorted :
    ∀ {ms : List (String × Json)}, SortedMembers ms → normalMembers ms = ms
  | [], _           => by rw [normalMembers]
  | (k, j) :: ms, h => by
    rw [SortedMembers] at h
    rw [normalMembers, normal_of_sorted h.left, normalMembers_of_sorted h.right]

end

end Json
end LanguageClient
