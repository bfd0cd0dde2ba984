import LanguageClient.Text.Blank
import LanguageClient.Text.Count
import LanguageClient.Text.Lines

namespace LanguageClient.Text

variable {c d : Char} {cs a b line : List Char} {limit n m : Nat}

theorem cut?_append (h : c ∉ a) (b : List Char) : cut? c (a ++ c :: b) = some (a, b) := by
  induction a
  case nil => rw [List.nil_append, cut?, if_pos rfl]
  case cons d a hi =>
    obtain ⟨hd, ha⟩ : c ≠ d ∧ c ∉ a := by simpa using h
    rw [List.cons_append, cut?, if_neg (Ne.symm hd), hi ha]
    rfl

theorem not_mem_of_cut? (h : cut? c cs = some (a, b)) : c ∉ a := by
  induction cs generalizing a
  case nil => cases h
  case cons d cs hi =>
    rw [cut?] at h
    split at h
    case isTrue =>
      cases h
      exact List.not_mem_nil
    case isFalse hd =>
      obtain ⟨⟨a', b'⟩, h', he⟩ := Option.map_eq_some_iff.mp h
      cases he
      simpa using ⟨Ne.symm hd, hi h'⟩

theorem cut?_eq_some_iff : cut? c cs = some (a, b) ↔ cs = a ++ c :: b ∧ c ∉ a := by
  constructor
  case mp  => exact fun h => ⟨cut?_eq_some h, not_mem_of_cut? h⟩
  case mpr => exact fun ⟨h, ha⟩ => h ▸ cut?_append ha b

theorem split_of_not_mem (h : c ∉ cs) : split c cs = [cs] := by
  induction cs
  case nil => rfl
  case cons d cs hi =>
    have ⟨hd, hcs⟩ : c ≠ d ∧ c ∉ cs := by simpa using h
    rw [split, if_neg (Ne.symm hd), hi hcs]

theorem split_append (h : c ∉ a) (b : List Char) : split c (a ++ c :: b) = a :: split c b := by
  induction a
  case nil => rw [List.nil_append, split, if_pos rfl]
  case cons d a hi =>
    have ⟨hd, ha⟩ : c ≠ d ∧ c ∉ a := by simpa using h
    rw [List.cons_append, split, if_neg (Ne.symm hd), hi ha]

theorem split_ne_nil (c : Char) (cs : List Char) : split c cs ≠ [] := by
  cases cs
  case nil => exact List.cons_ne_nil _ _
  case cons d cs =>
    rw [split]
    split
    · exact List.cons_ne_nil _ _
    · split
      · exact List.cons_ne_nil _ _
      · exact List.cons_ne_nil _ _

theorem mem_of_mem_split {part : List Char} (hp : part ∈ split d cs) (hc : c ∈ part) : c ∈ cs := by
  induction cs generalizing part
  case nil =>
    cases List.mem_singleton.mp hp
    exact hc
  case cons e cs hi =>
    rw [split] at hp
    split at hp
    case isTrue =>
      obtain rfl | hp := List.mem_cons.mp hp
      · cases hc
      · exact List.mem_cons_of_mem _ (hi hp hc)
    case isFalse =>
      split at hp
      case h_1 hs => exact absurd hs (split_ne_nil _ _)
      case h_2 first parts hs =>
        rw [hs] at hi
        obtain rfl | hp := List.mem_cons.mp hp
        · obtain rfl | hc := List.mem_cons.mp hc
          · exact List.mem_cons_self ..
          · exact List.mem_cons_of_mem _ (hi (List.mem_cons_self ..) hc)
        · exact List.mem_cons_of_mem _ (hi (List.mem_cons_of_mem _ hp) hc)

theorem split_intercalate {parts : List (List Char)} (h : ∀ part ∈ parts, c ∉ part)
    (hn : parts ≠ []) : split c ([c].intercalate parts) = parts := by
  induction parts
  case nil => contradiction
  case cons part parts hi =>
    have ⟨hp, hps⟩ := List.forall_mem_cons.mp h
    cases parts
    case nil                => rw [List.intercalate_singleton, split_of_not_mem hp]
    case cons part' parts =>
      rw [List.intercalate_cons_cons, List.append_assoc, List.singleton_append, split_append hp,
        hi hps (List.cons_ne_nil _ _)]

theorem lines_of_not_mem (h : '\n' ∉ cs) (hn : cs ≠ []) : lines cs = [cs] := by
  rw [lines, split_of_not_mem h]
  simp [hn]

theorem lines_append (h : '\n' ∉ line) (cs : List Char) :
    lines (line ++ '\n' :: cs) = dropLast? '\r' line :: lines cs := by
  rw [lines, lines, split_append h, List.reverse_cons]
  match hs : (split '\n' cs).reverse with
  | []            => exact absurd (List.reverse_eq_nil_iff.mp hs) (split_ne_nil _ _)
  | last :: ended =>
    simp only [List.cons_append, List.reverse_append, List.reverse_cons, List.reverse_nil,
      List.nil_append, List.map_cons]
    split
    · rfl
    · rfl

-- What holds of the empty text and of one line, and of a text if it holds of what follows the first line,
-- holds of all texts.
@[elab_as_elim]
theorem line_induction {p : List Char → Prop} (nil : p []) (last : ∀ line, line ≠ [] → '\n' ∉ line → p line)
    (more : ∀ line cs, '\n' ∉ line → p cs → p (line ++ '\n' :: cs)) (cs : List Char) : p cs := by
  induction hn : cs.length using Nat.strongRecOn generalizing cs
  case ind n hi =>
  by_cases hl : '\n' ∈ cs
  case pos =>
    obtain ⟨line, rest, rfl, hline⟩ := List.eq_append_cons_of_mem hl
    exact more line rest hline (hi rest.length (by simp [← hn]; omega) rest rfl)
  case neg =>
    by_cases hc : cs = []
    case pos => exact hc ▸ nil
    case neg => exact last cs hc hl

theorem dropLast?_append (c : Char) (cs : List Char) : dropLast? c (cs ++ [c]) = cs := by
  simp [dropLast?]

theorem mem_of_mem_dropLast? (h : d ∈ dropLast? c cs) : d ∈ cs := by
  unfold dropLast? at h
  split at h
  · exact (List.dropLast_prefix cs).subset h
  · exact h

theorem mem_of_mem_lines (h : line ∈ lines cs) (hc : c ∈ line) : c ∈ cs := by
  induction cs using line_induction
  case nil => cases h
  case last whole hn hw =>
    rw [lines_of_not_mem hw hn] at h
    exact List.mem_singleton.mp h ▸ hc
  case more first cs hf hi =>
    rw [lines_append hf] at h
    obtain rfl | h := List.mem_cons.mp h
    · exact List.mem_append_left _ (mem_of_mem_dropLast? hc)
    · exact List.mem_append_right _ (List.mem_cons_of_mem _ (hi h))

theorem lines_intercalate {ls : List (List Char)} (h : ∀ line ∈ ls, line ≠ [] ∧ '\n' ∉ line) :
    lines (['\r', '\n'].intercalate ls) = ls := by
  induction ls
  case nil => rfl
  case cons line ls hi =>
    have ⟨⟨hl, hn⟩, hls⟩ := List.forall_mem_cons.mp h
    cases ls
    case nil => rw [List.intercalate_singleton, lines_of_not_mem hn hl]
    case cons line' ls =>
      have he : '\n' ∉ line ++ ['\r'] := by simp [hn]
      have hc : line ++ ['\r', '\n'] ++ ['\r', '\n'].intercalate (line' :: ls) =
          (line ++ ['\r']) ++ '\n' :: ['\r', '\n'].intercalate (line' :: ls) := by simp
      rw [List.intercalate_cons_cons, hc, lines_append he, hi hls, dropLast?_append]

theorem trim_append_blank (h : isBlank c) (cs : List Char) : trim (cs ++ [c]) = trim cs := by
  have hc : [c].dropWhile isBlank = [] := by simp [h]
  rw [trim, trim, dropBlanks, dropBlanks, dropBlanks, dropBlanks, List.dropWhile_append, hc]
  split
  case isTrue hd => rw [List.isEmpty_iff.mp hd]
  case isFalse =>
    rw [List.reverse_append, List.reverse_singleton, List.singleton_append,
      List.dropWhile_cons_of_pos h]

theorem trim_of_forall {cs : List Char} (h : ∀ c ∈ cs, ¬ isBlank c) : trim cs = cs := by
  have hd : ∀ {cs : List Char}, (∀ c ∈ cs, ¬ isBlank c) → dropBlanks cs = cs := by
    intro cs h
    cases cs
    case nil => rfl
    case cons c cs => exact List.dropWhile_cons_of_neg (h c List.mem_cons_self)
  rw [trim, hd h, hd (by simpa using h), List.reverse_reverse]

theorem mem_trim_cons (h : ¬ isBlank c) : c ∈ trim (c :: cs) := by
  have hd : dropBlanks (c :: cs) = c :: cs := List.dropWhile_cons_of_neg h
  have hm : c ∈ ((c :: cs).reverse.takeWhile isBlank) ++ (c :: cs).reverse.dropWhile isBlank := by
    rw [List.takeWhile_append_dropWhile]
    simp
  rw [trim, hd, List.mem_reverse]
  obtain hm | hm := List.mem_append.mp hm
  · exact absurd (List.all_eq_true.mp List.all_takeWhile c hm) h
  · exact hm

theorem not_isBlank_of_isDigit {c : Char} (h : c.isDigit) : ¬ isBlank c := by
  have ⟨h₁, h₂⟩ : 48 ≤ c.toNat ∧ c.toNat ≤ 57 := by
    simpa [Char.isDigit, UInt32.le_iff_toNat_le] using h
  simp [isBlank]
  omega

theorem le_ofDigitChars (n : Nat) (digits : List Char) : n ≤ Nat.ofDigitChars 10 digits n := by
  have hp : 0 < 10 ^ digits.length := Nat.pow_pos (by decide)
  rw [Nat.ofDigitChars_eq_ofDigitChars_zero]
  exact Nat.le_trans (Nat.le_mul_of_pos_left n hp) (Nat.le_add_right ..)

theorem countFrom_eq_ok_iff (hn : n < limit) : countFrom limit n cs = .ok m ↔
    (∀ c ∈ cs, c.isDigit) ∧ m = Nat.ofDigitChars 10 cs n ∧ m < limit := by
  induction cs generalizing n
  case nil =>
    rw [countFrom, Nat.ofDigitChars_nil]
    constructor
    case mp =>
      intro h
      cases h
      exact ⟨nofun, rfl, hn⟩
    case mpr => exact fun h => congrArg _ h.right.left.symm
  case cons c cs hi =>
    have hv : Nat.ofDigitChars 10 (c :: cs) n = Nat.ofDigitChars 10 cs (n * 10 + (c.toNat - 48)) := by
      rw [Nat.ofDigitChars_cons, Nat.mul_comm]
      rfl
    rw [countFrom, List.forall_mem_cons, hv]
    cases hc : c.isDigit
    case false => simp
    case true =>
      simp only [Bool.not_true, Bool.false_eq_true, if_false, true_and]
      split
      case isTrue hl => exact hi hl
      case isFalse hl =>
        -- What has become too large does not become smaller again.
        have hg := le_ofDigitChars (n * 10 + (c.toNat - 48)) cs
        refine ⟨nofun, fun ⟨_, hm, hl'⟩ => ?_⟩
        omega

-- A count is written in decimal digits, after a plus sign or not, and lies below a limit.
def Counts (limit : Nat) (cs : List Char) (n : Nat) : Prop :=
  ∃ digits, (cs = digits ∨ cs = '+' :: digits) ∧ digits ≠ [] ∧ (∀ c ∈ digits, c.isDigit) ∧
    n = Nat.ofDigitChars 10 digits 0 ∧ n < limit

theorem counts_toDigits (h : n < limit) : Counts limit (Nat.toDigits 10 n) n :=
  ⟨_, .inl rfl, Nat.toDigits_ne_nil, fun _ => Nat.isDigit_of_mem_toDigits (by decide) (by decide),
    Nat.ofDigitChars_ten_toDigits.symm, h⟩

theorem readCount_eq_ok_iff (hl : 0 < limit) : readCount limit cs = .ok n ↔ Counts limit cs n := by
  constructor
  case mp =>
    intro h
    unfold readCount at h
    split at h
    case h_1 => cases h
    case h_2 => cases h
    case h_3 digits hd =>
      have h := (countFrom_eq_ok_iff hl).mp h
      exact ⟨digits, .inr rfl, hd, h⟩
    case h_4 hn _ _ =>
      have h := (countFrom_eq_ok_iff hl).mp h
      exact ⟨cs, .inl rfl, hn, h⟩
  case mpr =>
    intro ⟨digits, hs, hn, h⟩
    have hc := (countFrom_eq_ok_iff hl).mpr h
    unfold readCount
    -- The text is the digits alone, or a sign and the digits.
    rcases hs with rfl | rfl
    · split
      case h_1 => cases hn rfl
      case h_2 => simp at h
      case h_3 => simp at h
      case h_4 => exact hc
    · cases digits
      case nil  => cases hn rfl
      case cons => exact hc

end LanguageClient.Text
