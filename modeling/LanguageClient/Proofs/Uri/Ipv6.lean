import LanguageClient.Proofs.Text.Lines
import LanguageClient.Uri.Ipv6
import Mathlib.Algebra.Group.Nat.Defs
import Mathlib.Data.List.TakeWhile

namespace LanguageClient.Uri

theorem mem_of_mapM {α β : Type} {f : α → Option β} {as : List α} {bs : List β} {b : β}
    (h : as.mapM f = some bs) (hb : b ∈ bs) : ∃ a ∈ as, f a = some b := by
  induction as generalizing bs
  case nil =>
    cases h
    cases hb
  case cons a as hi =>
    rw [List.mapM_cons, Option.bind_eq_bind, Option.bind_eq_some_iff] at h
    have ⟨b', ha, h⟩ := h
    have ⟨bs', has, h⟩ := Option.bind_eq_some_iff.mp h
    cases h
    obtain rfl | hb := List.mem_cons.mp hb
    · exact ⟨a, List.mem_cons_self .., ha⟩
    · have ⟨a', hm, ha'⟩ := hi has hb
      exact ⟨a', List.mem_cons_of_mem _ hm, ha'⟩

namespace Ipv6

variable {cs : List Char} {parts : List (List Char)} {ps : List Nat} {ends : Bool} {m n i : Nat}

theorem hexValue?_digitChar : ∀ n < 16, hexValue? n.digitChar = some n := by
  decide

theorem digitChar_ne : ∀ n < 16, n.digitChar ≠ ':' ∧ n.digitChar ≠ '.' ∧ n.digitChar ≠ ']' := by
  decide

theorem foldlM_toDigits :
    (Nat.toDigits 16 m).foldlM (fun n c => (hexValue? c).map (n * 16 + ·)) 0 = some m := by
  induction m using Nat.strongRecOn
  case ind m hi =>
    by_cases hm : m < 16
    case pos =>
      rw [Nat.toDigits_of_lt_base hm]
      simp [hexValue?_digitChar m hm]
    case neg =>
      rw [Nat.toDigits_of_base_le (by decide) (by omega), List.foldlM_append, hi (m / 16) (by omega)]
      simp [hexValue?_digitChar (m % 16) (by omega)]
      omega

theorem forall_toDigits {p : Char → Prop} (hd : ∀ n < 16, p n.digitChar) : ∀ c ∈ Nat.toDigits 16 m, p c := by
  induction m using Nat.strongRecOn
  case ind m hi =>
    by_cases hm : m < 16
    case pos =>
      rw [Nat.toDigits_of_lt_base hm]
      exact List.forall_mem_singleton.mpr (hd m hm)
    case neg =>
      rw [Nat.toDigits_of_base_le (by decide) (by omega)]
      refine List.forall_mem_append.mpr ⟨hi (m / 16) (by omega), ?_⟩
      exact List.forall_mem_singleton.mpr (hd (m % 16) (by omega))

theorem mem_toDigits {c : Char} (h : c ∈ Nat.toDigits 16 m) : c ≠ ':' ∧ c ≠ '.' ∧ c ≠ ']' :=
  forall_toDigits (p := fun c => c ≠ ':' ∧ c ≠ '.' ∧ c ≠ ']') digitChar_ne c h

theorem piece?_toDigits (h : m < 65536) : piece? (Nat.toDigits 16 m) = some m := by
  have hl : ¬(Nat.toDigits 16 m).length > 4 :=
    Nat.not_lt.mpr ((Nat.length_toDigits_le_iff (by decide) (by decide)).mpr h)
  simp [piece?, Nat.toDigits_ne_nil, hl, foldlM_toDigits]

theorem pieces_toDigits (h : ∀ p ∈ ps, p < 65536) :
    pieces ends (ps.map (Nat.toDigits 16)) = some ps := by
  induction ps
  case nil => rfl
  case cons p ps hi =>
    have ⟨hp, hps⟩ := List.forall_mem_cons.mp h
    have hp := piece?_toDigits hp
    cases ps
    case nil =>
      have hc : '.' ∉ Nat.toDigits 16 p := fun hc => (mem_toDigits hc).right.left rfl
      simp [pieces, hc, hp]
    case cons q qs =>
      have hi := hi hps
      rw [List.map_cons] at hi
      simp [pieces, hp, hi]

theorem side_join (h : ∀ p ∈ ps, p < 65536) : side ends (join ps) = some ps := by
  cases ps
  case nil => rfl
  case cons p ps =>
    have hd : ∀ part ∈ (p :: ps).map (Nat.toDigits 16), ':' ∉ part := by
      intro part hp hc
      obtain ⟨q, _, rfl⟩ := List.mem_map.mp hp
      exact (mem_toDigits hc).left rfl
    have hs : Text.split ':' (join (p :: ps)) = (p :: ps).map (Nat.toDigits 16) :=
      Text.split_intercalate hd (by simp)
    have hn : join (p :: ps) ≠ [] := by
      intro he
      rw [he] at hs
      have hm : [] ∈ (p :: ps).map (Nat.toDigits 16) := by simp [← hs, Text.split]
      obtain ⟨q, _, hq⟩ := List.mem_map.mp hm
      exact Nat.toDigits_ne_nil hq
    rw [side, if_neg hn, hs, pieces_toDigits h]

theorem cutGap?_append {part : List Char} (h : ':' ∉ part) :
    cutGap? (part ++ cs) = (cutGap? cs).map fun (a, b) => (part ++ a, b) := by
  induction part
  case nil => simp
  case cons c part hi =>
    have ⟨hc, hp⟩ : ':' ≠ c ∧ ':' ∉ part := by simpa using h
    rw [List.cons_append, cutGap?, hi hp, Option.map_map]
    · rfl
    · rintro _ rfl
      contradiction

theorem cutGap?_colon {c : Char} (h : c ≠ ':') :
    cutGap? (':' :: c :: cs) = (cutGap? (c :: cs)).map fun (a, b) => (':' :: a, b) := by
  rw [cutGap?]
  rintro _ _ he
  cases he
  contradiction

theorem join_cons_cons {p q : Nat} :
    join (p :: q :: ps) = Nat.toDigits 16 p ++ ':' :: join (q :: ps) := by
  simp [join, List.intercalate_cons_cons]

theorem not_mem_toDigits : ':' ∉ Nat.toDigits 16 m :=
  fun h => (mem_toDigits h).left rfl

theorem join_head (p : Nat) (ps : List Nat) : ∃ c part, join (p :: ps) = c :: part ∧ c ≠ ':' := by
  have ⟨c, part, hc⟩ := List.exists_cons_of_ne_nil (Nat.toDigits_ne_nil (n := p) (b := 16))
  have hm : c ≠ ':' := ne_of_mem_of_not_mem (hc ▸ List.mem_cons_self ..) not_mem_toDigits
  cases ps
  case nil       => exact ⟨c, part, by simp [join, hc], hm⟩
  case cons q qs => exact ⟨c, part ++ ':' :: join (q :: qs), by rw [join_cons_cons, hc]; rfl, hm⟩

-- Between pieces there are single colons, so a gap only comes after all of them.
theorem cutGap?_join (ps : List Nat) (cs : List Char) :
    cutGap? (join ps ++ cs) = (cutGap? cs).map fun (a, b) => (join ps ++ a, b) := by
  induction ps
  case nil => simp [join]
  case cons p ps hi =>
    cases ps
    case nil => simpa [join] using cutGap?_append not_mem_toDigits
    case cons q qs =>
      have ⟨c, part, hj, hc⟩ := join_head q qs
      rw [join_cons_cons, List.append_assoc, cutGap?_append not_mem_toDigits, List.cons_append]
      rw [hj] at hi ⊢
      rw [List.cons_append, cutGap?_colon hc, ← List.cons_append, hi, Option.map_map, Option.map_map]
      congr 1
      funext ⟨a, b⟩
      simp

theorem take_zeros (ps : List Nat) : ps.take (zeros ps) = List.replicate (zeros ps) 0 := by
  have hp : ps.takeWhile (· = 0) = ps.take (zeros ps) :=
    List.prefix_iff_eq_take.mp (List.takeWhile_prefix _)
  rw [← hp, zeros, List.eq_replicate_iff]
  exact ⟨rfl, fun p h => by simpa using List.mem_takeWhile_imp h⟩

def IsGap (ps : List Nat) (i n : Nat) : Prop :=
  2 ≤ n ∧ zeros (ps.drop i) = n

theorem isGap_of_longestGap (h : longestGap ps = some (i, n)) : IsGap ps i n := by
  have hf (runs : List (Nat × Nat)) (best : Option (Nat × Nat))
      (hr : ∀ run ∈ runs, zeros (ps.drop run.1) = run.2) (hb : ∀ g ∈ best, IsGap ps g.1 g.2) :
      ∀ g ∈ runs.foldl (fun best run =>
        if run.2 ≥ 2 && run.2 > (best.map (·.2)).getD 0 then some run else best) best,
        IsGap ps g.1 g.2 := by
    induction runs generalizing best
    case nil => exact hb
    case cons run runs hi =>
      obtain ⟨hr, hrs⟩ := List.forall_mem_cons.mp hr
      refine hi _ hrs fun g hg => ?_
      dsimp only at hg
      split at hg
      case isTrue hc  =>
        cases hg
        simp only [Bool.and_eq_true, decide_eq_true_eq] at hc
        exact ⟨hc.left, hr⟩
      case isFalse => exact hb g hg
  refine hf _ none ?_ (by simp) (i, n) h
  simp

theorem IsGap.le_length (h : IsGap ps i n) : i + n ≤ ps.length := by
  have ⟨hn, hz⟩ := h
  have hl : zeros (ps.drop i) ≤ (ps.drop i).length := (List.takeWhile_sublist _).length_le
  rw [List.length_drop] at hl
  omega

theorem parse?_text (hl : ps.length = 8) (h : ∀ p ∈ ps, p < 65536) : parse? (text ps) = some ps := by
  rw [text]
  split
  case h_1 =>
    have hc : cutGap? (join ps) = none := by simpa [cutGap?] using cutGap?_join ps []
    simp [parse?, hc, side_join h, hl]
  case h_2 i n hg =>
    have ⟨hn, hz⟩ : IsGap ps i n := isGap_of_longestGap hg
    have hi : i + n ≤ ps.length := (isGap_of_longestGap hg).le_length
    have hc : cutGap? (join (ps.take i) ++ [':', ':'] ++ join (ps.drop (i + n))) =
        some (join (ps.take i), join (ps.drop (i + n))) := by
      rw [List.append_assoc, cutGap?_join]
      simp [cutGap?]
    have hb : side false (join (ps.take i)) = some (ps.take i) :=
      side_join fun p hp => h p (List.mem_of_mem_take hp)
    have ha : side true (join (ps.drop (i + n))) = some (ps.drop (i + n)) :=
      side_join fun p hp => h p (List.mem_of_mem_drop hp)
    have hk : (ps.take i).length + (ps.drop (i + n)).length = 8 - n := by simp; omega
    have hm : 8 - n ≤ 7 := by omega
    -- What is filled in for the gap are the zeros that it stands for.
    have hr : List.replicate (8 - (8 - n)) 0 = (ps.drop i).take n := by
      have ht := take_zeros (ps.drop i)
      rw [hz] at ht
      rw [ht]
      congr 1
      omega
    have hj : ps.take i ++ (ps.drop i).take n ++ ps.drop (i + n) = ps := by
      rw [List.append_assoc, ← List.drop_drop, List.take_append_drop, List.take_append_drop]
    simp only [parse?, hc, hb, ha, hk, hr, hj, bind, Option.bind, if_pos hm]
    rfl

theorem forall_text {p : Char → Prop} (hc : p ':') (hd : ∀ n < 16, p n.digitChar) : ∀ c ∈ text ps, p c := by
  have hj (qs : List Nat) : ∀ c ∈ join qs, p c := by
    induction qs
    case nil => nofun
    case cons q qs hi =>
      cases qs
      case nil       => simpa [join] using forall_toDigits hd
      case cons r qs =>
        rw [join_cons_cons]
        exact List.forall_mem_append.mpr ⟨forall_toDigits hd, List.forall_mem_cons.mpr ⟨hc, hi⟩⟩
  rw [text]
  split
  case h_1 => exact hj ps
  case h_2 =>
    have hg : ∀ c ∈ [':', ':'], p c := by simpa using hc
    exact List.forall_mem_append.mpr ⟨List.forall_mem_append.mpr ⟨hj _, hg⟩, hj _⟩

theorem not_mem_text : ']' ∉ text ps :=
  fun h => forall_text (p := (· ≠ ']')) (by decide) (fun n hn => (digitChar_ne n hn).right.right) ']' h rfl

theorem lt_of_hexValue? {c : Char} (h : hexValue? c = some n) : n < 16 := by
  simp only [hexValue?] at h
  grind

theorem lt_of_foldlM_hex (h : cs.foldlM (fun n c => (hexValue? c).map (n * 16 + ·)) m = some n) :
    n < (m + 1) * 16 ^ cs.length := by
  induction cs generalizing m
  case nil =>
    cases h
    simp
  case cons c cs hi =>
    rw [List.foldlM_cons, Option.bind_eq_bind, Option.bind_eq_some_iff] at h
    have ⟨k, hk, h⟩ := h
    have ⟨d, hd, he⟩ := Option.map_eq_some_iff.mp hk
    have hd := lt_of_hexValue? hd
    calc
      n < (k + 1) * 16 ^ cs.length          := hi h
      _ ≤ ((m + 1) * 16) * 16 ^ cs.length   := Nat.mul_le_mul_right _ (by omega)
      _ = (m + 1) * 16 ^ (c :: cs).length   := by
        rw [List.length_cons, Nat.pow_succ', Nat.mul_assoc]

theorem lt_of_piece? (h : piece? cs = some n) : n < 65536 := by
  rw [piece?] at h
  split at h
  case isTrue => cases h
  case isFalse hc =>
    have hl : cs.length ≤ 4 := by
      simp at hc
      exact hc.right
    calc
      n < (0 + 1) * 16 ^ cs.length := lt_of_foldlM_hex h
      _ ≤ 16 ^ 4                   := by rw [Nat.one_mul]; exact Nat.pow_le_pow_right (by decide) hl

theorem lt_of_byte? (h : byte? cs = some n) : n < 256 := by
  rw [byte?] at h
  split at h
  case isTrue => cases h
  case isFalse =>
    split at h
    case isTrue => cases h
    case isFalse =>
      simp only [Option.ite_none_right_eq_some, Option.some.injEq] at h
      exact h.right ▸ h.left

theorem lt_of_bytes? (h : bytes? cs = some ps) : ∀ p ∈ ps, p < 65536 := by
  rw [bytes?, Option.bind_eq_bind, Option.bind_eq_some_iff] at h
  have ⟨bs, hb, h⟩ := h
  have hb : ∀ b ∈ bs, b < 256 := by
    intro b hm
    have ⟨part, _, hp⟩ := mem_of_mapM hb hm
    exact lt_of_byte? hp
  split at h
  case h_1 a b c d =>
    cases h
    simp only [List.forall_mem_cons] at hb ⊢
    refine ⟨?_, ?_, nofun⟩
    all_goals omega
  case h_2 => cases h

theorem lt_of_pieces (h : pieces ends parts = some ps) : ∀ p ∈ ps, p < 65536 := by
  fun_induction pieces ends parts generalizing ps
  case case1 =>
    cases h
    nofun
  case case2 => exact lt_of_bytes? h
  case case3 =>
    have ⟨p, hp, he⟩ := Option.map_eq_some_iff.mp h
    cases he
    simpa using lt_of_piece? hp
  case case4 hi =>
    have ⟨p, hp, h⟩ := Option.bind_eq_some_iff.mp h
    have ⟨qs, hq, h⟩ := Option.bind_eq_some_iff.mp h
    cases h
    exact List.forall_mem_cons.mpr ⟨lt_of_piece? hp, hi hq⟩

theorem lt_of_side (h : side ends cs = some ps) : ∀ p ∈ ps, p < 65536 := by
  rw [side] at h
  split at h
  · cases h
    nofun
  · exact lt_of_pieces h

theorem spec_of_parse? (h : parse? cs = some ps) : ps.length = 8 ∧ ∀ p ∈ ps, p < 65536 := by
  rw [parse?] at h
  split at h
  case h_1 =>
    have ⟨qs, hq, h⟩ := Option.bind_eq_some_iff.mp h
    simp only [Option.ite_none_right_eq_some] at h
    obtain ⟨hl, ⟨⟩⟩ := h
    exact ⟨hl, lt_of_side hq⟩
  case h_2 left right _ =>
    have ⟨before, hb, h⟩ := Option.bind_eq_some_iff.mp h
    have ⟨after, ha, h⟩ := Option.bind_eq_some_iff.mp h
    simp only [Option.ite_none_right_eq_some] at h
    obtain ⟨hl, ⟨⟩⟩ := h
    refine ⟨by simp; omega, ?_⟩
    simp only [List.forall_mem_append]
    exact ⟨⟨lt_of_side hb, by simp⟩, lt_of_side ha⟩

end Ipv6
end LanguageClient.Uri
