import LanguageClient.MockServer.Document
import LanguageClient.Proofs.Text.Utf8
import Mathlib.Data.List.TakeWhile
import Mathlib.Data.String.Basic

namespace LanguageClient

namespace Utf8

variable {c d : Char} {u v : Bytes}

theorem append_lt_append (h : u < v) (hl : u.length = v.length) (r r' : Bytes) : u ++ r < v ++ r' := by
  induction u generalizing v
  case nil =>
    cases List.length_eq_zero_iff.mp hl.symm
    exact absurd h (List.not_lt_nil _)
  case cons a u hi =>
    obtain ⟨b, v, rfl⟩ := List.exists_cons_of_length_eq_add_one hl.symm
    rw [List.cons_append, List.cons_append, List.cons_lt_cons_iff]
    exact (List.cons_lt_cons_iff.mp h).imp id fun h => ⟨h.left, hi h.right (Nat.succ.inj hl)⟩

theorem code_digits {n : Nat} (h : n < 0x110000) : n / 64 / 64 = n / 4096 ∧ n / 4096 / 64 = n / 262144 ∧
    n / 262144 % 8 = n / 262144 := by
  rw [Nat.div_div_eq_div_mul, Nat.div_div_eq_div_mul]
  omega

theorem toNat_lead {k m : Nat} (hk : 0 < k) (h : k + m ≤ 256) (n : Nat) :
    (UInt8.ofNat (n % k + m)).toNat = n % k + m := by
  have hm := Nat.mod_lt n hk
  exact toNat_byte (by omega)

-- A character of a higher code has a higher first byte, or as many bytes that are compared as the digits
-- of the codes.
theorem encodeChar_lt (h : c < d) (r r' : Bytes) :
    String.utf8EncodeChar c ++ r < String.utf8EncodeChar d ++ r' := by
  have hd : d.val.toNat < 0x110000 := by
    have hv : d.val.toNat < 0xd800 ∨ 0xdfff < d.val.toNat ∧ d.val.toNat < 0x110000 := d.valid
    omega
  have h : c.val.toNat < d.val.toNat := h
  rw [String.utf8EncodeChar, String.utf8EncodeChar]
  generalize c.val.toNat = n at h ⊢
  generalize d.val.toNat = m at h hd ⊢
  -- By the numbers of bytes: the first bytes differ, or the digits of the codes are compared.
  have hn := code_digits (h.trans hd)
  have hm := code_digits hd
  have htwo := toNat_lead (k := 32) (m := 192) (by decide) (by decide)
  have hthree := toNat_lead (k := 16) (m := 224) (by decide) (by decide)
  have hfour := toNat_lead (k := 8) (m := 240) (by decide) (by decide)
  split
  all_goals
    split_ifs
    all_goals first
      | omega
      | refine append_lt_append ?_ (by rfl) r r'
        simp only [List.cons_lt_cons_iff, UInt8.lt_iff_toNat_lt, ← UInt8.toNat_inj, toNat_low, htwo, hthree,
          hfour, List.not_lt_nil]
        omega
      | simp only [List.cons_append, List.cons_lt_cons_iff, UInt8.lt_iff_toNat_lt, UInt8.toNat_ofNat']
        exact .inl (by omega)

theorem encode_lt_encode {s t : String} (h : s < t) : encode s < encode t := by
  have h : s.toList < t.toList := h
  rw [encode, encode]
  generalize s.toList = cs at h
  generalize t.toList = ds at h
  induction cs generalizing ds
  case nil =>
    cases ds
    case nil       => exact absurd h (List.not_lt_nil _)
    case cons d ds =>
      obtain ⟨a, more, he, _⟩ := encodeChar_eq d
      rw [List.flatMap_cons, he]
      exact List.nil_lt_cons _ _
  case cons c cs hi =>
    cases ds
    case nil       => exact absurd h (List.not_lt_nil _)
    case cons d ds =>
      rw [List.flatMap_cons, List.flatMap_cons]
      obtain hc | ⟨rfl, hs⟩ := List.cons_lt_cons_iff.mp h
      · exact encodeChar_lt hc _ _
      · exact List.append_left_lt (hi _ hs)

end Utf8

namespace Text

variable {p : Char → Bool} {cs w : List Char} {d : Char}

theorem splitOnP_eq_cons (q : Char → Bool) (cs : List Char) :
    cs.splitOnP q = (cs.takeWhile fun c => !q c) :: (cs.splitOnP q).tail := by
  induction cs
  case nil          => rfl
  case cons c cs hi =>
    rw [List.splitOnP_cons_eq_if_modifyHead, List.takeWhile_cons]
    cases q c
    case true  => rfl
    case false => rw [hi]; rfl

structure Leads (p : Char → Bool) (cs w : List Char) : Prop where
  kind : ∀ c ∈ w, p c
  ends : ∃ after, cs = w ++ after ∧ ∀ c ∈ after.head?, ¬p c

theorem leads_iff : Leads p cs w ↔ w = cs.takeWhile p := by
  constructor
  case mp =>
    rintro ⟨hw, after, rfl, ha⟩
    rw [List.takeWhile_append_of_pos hw]
    cases after
    case nil       => simp
    case cons c cs => simp [ha c rfl]
  case mpr =>
    rintro rfl
    refine ⟨fun c hc => List.mem_takeWhile_imp hc, cs.dropWhile p, List.takeWhile_append_dropWhile.symm,
      fun c hc => ?_⟩
    have hn := List.head?_dropWhile_not p cs
    rw [hc] at hn
    simpa using hn

theorem exists_place_cons {P : Char → List Char → Prop} :
    (∃ before c after, d :: cs = before ++ c :: after ∧ P c after) ↔
      P d cs ∨ ∃ before c after, cs = before ++ c :: after ∧ P c after := by
  constructor
  case mp =>
    rintro ⟨before, c, after, he, hp⟩
    cases before
    case nil =>
      cases he
      exact .inl hp
    case cons =>
      cases he
      exact .inr ⟨_, c, after, rfl, hp⟩
  case mpr =>
    rintro (hp | ⟨before, c, after, rfl, hp⟩)
    · exact ⟨[], d, cs, rfl, hp⟩
    · exact ⟨d :: before, c, after, rfl, hp⟩

theorem mem_tail_splitOnP : w ∈ (cs.splitOnP fun c => !p c).tail ↔
    ∃ before c after, cs = before ++ c :: after ∧ ¬p c ∧ Leads p after w := by
  induction cs
  case nil          => simp
  case cons d cs hi =>
    have hs : w ∈ cs.splitOnP (fun c => !p c) ↔ Leads p cs w ∨ w ∈ (cs.splitOnP fun c => !p c).tail := by
      rw [splitOnP_eq_cons, leads_iff]
      simp
    rw [List.splitOnP_cons_eq_if_modifyHead, exists_place_cons]
    cases hd : p d
    case false => simp [hs, hi]
    case true  => simp [hi]

structure Run (p : Char → Bool) (cs before w after : List Char) : Prop where
  parts  : cs = before ++ w ++ after
  filled : w ≠ []
  kind   : ∀ c ∈ w, p c
  first  : ∀ c ∈ before.getLast?, ¬p c
  last   : ∀ c ∈ after.head?, ¬p c

theorem mem_runsOf : w ∈ runsOf p cs ↔ ∃ before after, Run p cs before w after := by
  rw [runsOf, List.mem_filter, splitOnP_eq_cons, List.mem_cons, mem_tail_splitOnP]
  simp only [Bool.not_not, ← leads_iff, decide_eq_true_eq]
  constructor
  case mp =>
    rintro ⟨hl | ⟨before, c, rest, rfl, hn, hl⟩, hw⟩
    · obtain ⟨hk, after, rfl, ha⟩ := hl
      exact ⟨[], after, rfl, hw, hk, by simp, ha⟩
    · obtain ⟨hk, after, rfl, ha⟩ := hl
      exact ⟨before ++ [c], after, by simp, hw, hk, by simpa using hn, ha⟩
  case mpr =>
    rintro ⟨before, after, rfl, hw, hk, hf, ha⟩
    refine ⟨?_, hw⟩
    obtain rfl | ⟨before, c, rfl⟩ := List.eq_nil_or_concat' before
    · exact .inl ⟨hk, after, rfl, ha⟩
    · exact .inr ⟨before, c, w ++ after, by simp, hf c (by simp), hk, after, rfl, ha⟩

end Text

namespace MockServer

variable {word w : String} {words : List String}

theorem mem_insertWord : w ∈ insertWord word words ↔ w = word ∨ w ∈ words := by
  induction words
  case nil => simp [insertWord]
  case cons v words hi =>
    rw [insertWord]
    split
    case isTrue  => simp
    case isFalse =>
      split
      case isTrue h  => simp [h]
      case isFalse h => simp [hi, or_left_comm]

theorem insertWord_ascending (h : words.Pairwise (· < ·)) : (insertWord word words).Pairwise (· < ·) := by
  induction words
  case nil => simp [insertWord]
  case cons v words hi =>
    have ⟨hv, hs⟩ := List.pairwise_cons.mp h
    rw [insertWord]
    split
    case isTrue hw =>
      refine List.pairwise_cons.mpr ⟨?_, h⟩
      exact List.forall_mem_cons.mpr ⟨hw, fun u hu => hw.trans (hv u hu)⟩
    case isFalse hw =>
      split
      case isTrue    => exact h
      case isFalse hn =>
        refine List.pairwise_cons.mpr ⟨fun u hu => ?_, hi hs⟩
        obtain rfl | hu := mem_insertWord.mp hu
        · exact lt_of_le_of_ne (le_of_not_gt hw) (Ne.symm hn)
        · exact hv u hu

theorem foldl_insertWord (runs : List (List Char)) (words : List String) (h : words.Pairwise (· < ·)) :
    (runs.foldl (fun ws w => insertWord (String.ofList w) ws) words).Pairwise (· < ·) ∧
    ∀ w, w ∈ runs.foldl (fun ws w => insertWord (String.ofList w) ws) words ↔ w ∈ words ∨ w.toList ∈ runs := by
  induction runs generalizing words
  case nil => simpa using h
  case cons run runs hi =>
    have ⟨hs, hm⟩ := hi (insertWord (String.ofList run) words) (insertWord_ascending h)
    refine ⟨hs, fun w => (hm w).trans ?_⟩
    have he : w = String.ofList run ↔ w.toList = run := by
      constructor
      · rintro rfl
        exact String.toList_ofList
      · rintro rfl
        exact String.ofList_toList.symm
    rw [mem_insertWord, he, List.mem_cons]
    tauto

theorem vocabulary_ascending (text : String) :
    (vocabulary text).Pairwise fun v w => Utf8.encode v < Utf8.encode w :=
  (foldl_insertWord _ [] .nil).left.imp Utf8.encode_lt_encode

theorem mem_vocabulary {text : String} : w ∈ vocabulary text ↔
    ∃ before after, Text.Run Text.isWordChar text.toList before w.toList after := by
  rw [vocabulary, (foldl_insertWord _ [] .nil).right, ← Text.mem_runsOf]
  simp

end MockServer
end LanguageClient
