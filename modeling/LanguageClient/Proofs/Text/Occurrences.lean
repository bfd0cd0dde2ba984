import LanguageClient.Proofs.Text.Lines
import LanguageClient.Proofs.Text.Utf8
import LanguageClient.Text.Occurrence
import Mathlib.Data.List.Basic

namespace LanguageClient

namespace Utf8

def ofChars (cs : List Char) : Bytes :=
  cs.flatMap String.utf8EncodeChar

theorem ofChars_append (cs cs' : List Char) : ofChars (cs ++ cs') = ofChars cs ++ ofChars cs' :=
  List.flatMap_append

theorem ofChars_cons (c : Char) (cs : List Char) :
    ofChars (c :: cs) = String.utf8EncodeChar c ++ ofChars cs :=
  List.flatMap_cons

theorem length_ofChars_cons (c : Char) (cs : List Char) :
    (ofChars (c :: cs)).length = c.utf8Size + (ofChars cs).length := by
  rw [ofChars_cons, List.length_append, String.length_utf8EncodeChar]

theorem ofChars_eq_nil {cs : List Char} (h : ofChars cs = []) : cs = [] := by
  cases cs
  case nil       => rfl
  case cons c cs =>
    have hl := congrArg List.length h
    have hc := c.utf8Size_pos
    rw [length_ofChars_cons, List.length_nil] at hl
    omega

theorem exists_of_ofChars {c : Char} {cs : List Char} {before rest : Bytes} (hc : c.toNat < 128)
    (h : ofChars cs = before ++ (String.utf8EncodeChar c ++ rest)) :
    ∃ cs₁ cs₂, cs = cs₁ ++ c :: cs₂ ∧ ofChars cs₁ = before ∧ ofChars cs₂ = rest := by
  have hb : (UInt8.ofNat c.toNat).toNat = c.toNat := toNat_byte (Nat.lt_trans hc (by decide))
  rw [encodeChar_ascii hc, List.singleton_append] at h
  obtain ⟨cs₁, cs₂, hcs, h₁, h₂⟩ := split_encode (hb.symm ▸ hc) h
  rw [hb, Char.ofNat_toNat] at hcs
  exact ⟨cs₁, cs₂, hcs, h₁, h₂⟩

end Utf8

namespace Text

variable {word cs line rest a b : List Char} {place offset : Nat}

-- The bytes of a word are those of a text from a place on.
def StandsAt (word cs : List Char) (place : Nat) : Prop :=
  ∃ before after, Utf8.ofChars cs = before ++ Utf8.ofChars word ++ after ∧ before.length = place

-- A word that stands in a text behind a part of it.
def StandsBehind (word cs before : List Char) : Prop :=
  ∃ after, cs = before ++ word ++ after

theorem prefix_of_ofChars {after : Bytes} (hw : ∀ c ∈ word, c.toNat < 128)
    (h : Utf8.ofChars cs = Utf8.ofChars word ++ after) : ∃ rest, cs = word ++ rest := by
  induction word generalizing cs
  case nil            => exact ⟨cs, rfl⟩
  case cons c word hi =>
    have ⟨hc, hw⟩ := List.forall_mem_cons.mp hw
    rw [Utf8.ofChars_cons, List.append_assoc, ← List.nil_append (_ ++ _)] at h
    obtain ⟨cs₁, cs₂, rfl, h₁, h₂⟩ := Utf8.exists_of_ofChars hc h
    obtain ⟨rest, rfl⟩ := hi hw h₂
    rw [Utf8.ofChars_eq_nil h₁]
    exact ⟨rest, rfl⟩

theorem standsAt_iff (hn : word ≠ []) (hw : ∀ c ∈ word, c.toNat < 128) :
    StandsAt word cs place ↔
      ∃ before, StandsBehind word cs before ∧ (Utf8.ofChars before).length = place := by
  constructor
  case mp =>
    rintro ⟨before, after, h, hl⟩
    obtain ⟨c, word, rfl⟩ := List.exists_cons_of_ne_nil hn
    have ⟨hc, hw⟩ := List.forall_mem_cons.mp hw
    rw [Utf8.ofChars_cons, List.append_assoc, List.append_assoc] at h
    obtain ⟨cs₁, cs₂, rfl, h₁, h₂⟩ := Utf8.exists_of_ofChars hc h
    obtain ⟨rest, rfl⟩ := prefix_of_ofChars hw h₂
    exact ⟨cs₁, ⟨rest, by rw [List.append_assoc, List.cons_append]⟩, h₁ ▸ hl⟩
  case mpr =>
    rintro ⟨before, ⟨after, rfl⟩, hl⟩
    exact ⟨Utf8.ofChars before, Utf8.ofChars after, by rw [Utf8.ofChars_append, Utf8.ofChars_append], hl⟩

theorem StandsAt.le (h : StandsAt word cs place) :
    place + (Utf8.ofChars word).length ≤ (Utf8.ofChars cs).length := by
  obtain ⟨before, after, hb, rfl⟩ := h
  rw [hb, List.length_append, List.length_append]
  exact Nat.le_add_right _ _

theorem standsBehind_nil : StandsBehind word cs [] ↔ word.isPrefixOf cs := by
  rw [List.isPrefixOf_iff_prefix]
  exact ⟨fun ⟨after, h⟩ => ⟨after, h.symm⟩, fun ⟨after, h⟩ => ⟨after, h.symm⟩⟩

theorem standsBehind_cons {c d : Char} :
    StandsBehind word (c :: cs) (d :: a) ↔ c = d ∧ StandsBehind word cs a := by
  simp [StandsBehind]

theorem mem_occurrences (hn : word ≠ []) : place ∈ occurrences word offset cs ↔
    ∃ before, StandsBehind word cs before ∧ offset + (Utf8.ofChars before).length = place := by
  induction cs generalizing offset
  case nil =>
    refine iff_of_false List.not_mem_nil ?_
    rintro ⟨before, ⟨after, h⟩, -⟩
    simp [hn] at h
  case cons c cs hi =>
    have hlater : place ∈ occurrences word (offset + c.utf8Size) cs ↔ ∃ before,
        StandsBehind word (c :: cs) (c :: before) ∧ offset + (Utf8.ofChars (c :: before)).length = place := by
      simp only [hi, standsBehind_cons, true_and, Utf8.length_ofChars_cons, Nat.add_assoc]
    have hfirst : (∃ before, StandsBehind word (c :: cs) before ∧
        offset + (Utf8.ofChars before).length = place) ↔
        word.isPrefixOf (c :: cs) ∧ offset = place ∨ place ∈ occurrences word (offset + c.utf8Size) cs := by
      rw [hlater, ← standsBehind_nil]
      constructor
      case mp =>
        rintro ⟨before, hs, hp⟩
        cases before
        case nil           => exact .inl ⟨hs, hp⟩
        case cons d before =>
          have hd := (standsBehind_cons.mp hs).left
          exact .inr ⟨before, hd ▸ hs, hd ▸ hp⟩
      case mpr =>
        rintro (⟨hs, hp⟩ | ⟨before, hs, hp⟩)
        · exact ⟨[], hs, hp⟩
        · exact ⟨c :: before, hs, hp⟩
    rw [hfirst, occurrences]
    split
    case isTrue h  => simp [h, eq_comm]
    case isFalse h => simp [h]

theorem mem_occurrences_iff (hn : word ≠ []) (hw : ∀ c ∈ word, c.toNat < 128) :
    place ∈ occurrences word 0 cs ↔ StandsAt word cs place := by
  simp only [mem_occurrences hn, standsAt_iff hn hw, Nat.zero_add]

theorem le_of_mem_occurrences_offset (h : place ∈ occurrences word offset cs) : offset ≤ place := by
  induction cs generalizing offset
  case nil          => cases h
  case cons c cs hi =>
    rw [occurrences] at h
    split at h
    · obtain rfl | h := List.mem_cons.mp h
      · exact Nat.le_refl _
      · exact Nat.le_trans (Nat.le_add_right _ _) (hi h)
    · exact Nat.le_trans (Nat.le_add_right _ _) (hi h)

theorem occurrences_ascending (word : List Char) (offset : Nat) (cs : List Char) :
    (occurrences word offset cs).Pairwise (· < ·) := by
  induction cs generalizing offset
  case nil          => exact List.Pairwise.nil
  case cons c cs hi =>
    have hl : ∀ place ∈ occurrences word (offset + c.utf8Size) cs, offset < place := by
      intro place hp
      have hp := le_of_mem_occurrences_offset hp
      have hc := c.utf8Size_pos
      omega
    rw [occurrences]
    split
    · exact List.pairwise_cons.mpr ⟨hl, hi _⟩
    · exact hi _

def lineStart : List Char → Nat → Nat
  | _, 0 => 0
  | [], _ + 1 => 0
  | c :: cs, n + 1 => c.utf8Size + if c = '\n' then lineStart cs n else lineStart cs (n + 1)

theorem lineStart_zero (cs : List Char) : lineStart cs 0 = 0 := by
  cases cs <;> rfl

theorem length_ofChars_line (line cs : List Char) :
    (Utf8.ofChars (line ++ '\n' :: cs)).length =
      (Utf8.ofChars line).length + 1 + (Utf8.ofChars cs).length := by
  have hc : '\n'.utf8Size = 1 := rfl
  rw [Utf8.ofChars_append, List.length_append, Utf8.length_ofChars_cons, hc, Nat.add_assoc]

theorem lineStart_append (h : '\n' ∉ line) (cs : List Char) (n : Nat) :
    lineStart (line ++ '\n' :: cs) (n + 1) = (Utf8.ofChars line).length + 1 + lineStart cs n := by
  induction line
  case nil            => rw [List.nil_append, lineStart, if_pos rfl]; rfl
  case cons c line hi =>
    obtain ⟨hc, hl⟩ : '\n' ≠ c ∧ '\n' ∉ line := by simpa using h
    rw [List.cons_append, lineStart, if_neg (Ne.symm hc), hi hl, Utf8.length_ofChars_cons]
    omega

theorem le_lineStart {number : Nat} (h : (lines cs)[number]? = some line) : number ≤ lineStart cs number := by
  induction cs using line_induction generalizing number
  case nil                => cases h
  case last _ hl hline    =>
    rw [lines_of_not_mem hline hl] at h
    cases number
    case zero   => exact Nat.zero_le _
    case succ n => cases h
  case more first rest hline hi =>
    cases number
    case zero   => exact Nat.zero_le _
    case succ n =>
      rw [lines_append hline] at h
      have hi := hi h
      rw [lineStart_append hline]
      omega

theorem standsBehind_append (hn : word ≠ []) (hw : '\n' ∉ word) :
    StandsBehind word (line ++ '\n' :: cs) a ↔
      StandsBehind word line a ∨ ∃ before, a = line ++ '\n' :: before ∧ StandsBehind word cs before := by
  constructor
  case mp =>
    rintro ⟨after, h⟩
    rw [List.append_assoc] at h
    -- The word begins behind the line, with or without its end, or within the line.
    rcases List.append_eq_append_iff.mp h with ⟨t, ha, ht⟩ | ⟨t, hl, ht⟩
    · cases t
      case nil       =>
        obtain ⟨c, word, rfl⟩ := List.exists_cons_of_ne_nil hn
        have hc : '\n' = c := (List.cons.inj ht).left
        exact absurd (hc ▸ List.mem_cons_self) hw
      case cons d t =>
        obtain ⟨rfl, rfl⟩ := List.cons.inj ht
        exact .inr ⟨t, ha, after, (List.append_assoc ..).symm⟩
    · rcases List.append_eq_append_iff.mp ht with ⟨u, hu, -⟩ | ⟨u, hu, hr⟩
      · exact .inl ⟨u, by rw [hl, hu, List.append_assoc]⟩
      · cases u
        case nil       => exact .inl ⟨[], by rw [hl, hu, List.append_nil, List.append_nil]⟩
        case cons d u =>
          obtain ⟨rfl, -⟩ := List.cons.inj hr
          exact absurd (hu ▸ List.mem_append_right t List.mem_cons_self) hw
  case mpr =>
    rintro (⟨after, rfl⟩ | ⟨before, rfl, after, rfl⟩)
    · exact ⟨after ++ '\n' :: cs, by rw [List.append_assoc]⟩
    · exact ⟨after, by simp⟩

-- A line ends with characters that are no part of a word.
theorem standsBehind_dropLast? {c : Char} (hn : word ≠ []) (hw : c ∉ word) :
    StandsBehind word (dropLast? c line) a ↔ StandsBehind word line a := by
  rw [dropLast?]
  split
  case isFalse    => exact Iff.rfl
  case isTrue hl =>
    have hc : line.dropLast ++ [c] = line := List.dropLast_append_getLast? c hl
    constructor
    case mp =>
      rintro ⟨after, h⟩
      exact ⟨after ++ [c], by rw [← hc, h, List.append_assoc]⟩
    case mpr =>
      rintro ⟨after, h⟩
      -- If nothing came after the word, the last character would be one of it.
      obtain rfl | ⟨after, d, rfl⟩ := List.eq_nil_or_concat' after
      · have hm : word.getLast hn = c := by
          rw [h, List.append_nil, List.getLast?_append_of_ne_nil _ hn, List.getLast?_eq_some_getLast hn] at hl
          exact Option.some.inj hl
        exact absurd (hm ▸ List.getLast_mem hn) hw
      · rw [← List.append_assoc] at h
        rw [h, List.dropLast_concat]
        exact ⟨after, rfl⟩

theorem toNat_of_isAlpha {c : Char} (h : c.isAlpha) : 32 ≤ c.toNat ∧ c.toNat < 128 := by
  obtain h | h := Bool.or_eq_true_iff.mp h
  case inl =>
    have h : 65 ≤ c.toNat ∧ c.toNat ≤ 90 := of_decide_eq_true h
    omega
  case inr =>
    obtain ⟨hl, hu⟩ := Bool.and_eq_true_iff.mp h
    have hl : 97 ≤ c.toNat := of_decide_eq_true hl
    have hu : c.toNat ≤ 122 := of_decide_eq_true hu
    omega

theorem not_mem_letters {c : Char} (hw : ∀ c ∈ word, c.isAlpha) (hc : c.toNat < 32) : c ∉ word :=
  fun h => absurd (toNat_of_isAlpha (hw c h)).left (Nat.not_le.mpr hc)

theorem exists_getElem?_cons {l : List (List Char)} {p : Nat → List Char → Prop} :
    (∃ number line, (a :: l)[number]? = some line ∧ p number line) ↔
      p 0 a ∨ ∃ number line, l[number]? = some line ∧ p (number + 1) line := by
  constructor
  case mp =>
    rintro ⟨number, line, h, hp⟩
    cases number
    case zero        =>
      cases h
      exact .inl hp
    case succ number => exact .inr ⟨number, line, h, hp⟩
  case mpr =>
    rintro (hp | ⟨number, line, h, hp⟩)
    · exact ⟨0, a, rfl, hp⟩
    · exact ⟨number + 1, line, h, hp⟩

theorem standsBehind_iff_exists_line (hn : word ≠ []) (hw : ∀ c ∈ word, c.isAlpha) :
    (∃ before, StandsBehind word cs before ∧ (Utf8.ofChars before).length = place) ↔
      ∃ number line, (lines cs)[number]? = some line ∧ ∃ before, StandsBehind word line before ∧
        lineStart cs number + (Utf8.ofChars before).length = place := by
  have hlf : '\n' ∉ word := not_mem_letters hw (by decide)
  have hcr : '\r' ∉ word := not_mem_letters hw (by decide)
  induction cs using line_induction generalizing place
  case nil =>
    have he (before : List Char) : ¬StandsBehind word [] before := by simp [StandsBehind, hn]
    exact iff_of_false (fun ⟨before, h, _⟩ => he before h) nofun
  case last line hl hline =>
    rw [lines_of_not_mem hline hl, exists_getElem?_cons]
    simp [lineStart_zero]
  case more line rest hline hi =>
    rw [lines_append hline, exists_getElem?_cons]
    -- A word without line ends stands in the first line or behind its end.
    simp only [standsBehind_append hn hlf, lineStart_zero, Nat.zero_add, standsBehind_dropLast? hn hcr,
      lineStart_append hline]
    constructor
    case mp =>
      rintro ⟨before, hb | ⟨before, rfl, hb⟩, hp⟩
      · exact .inl ⟨before, hb, hp⟩
      · obtain ⟨number, l, hg, before', hb', hp'⟩ := hi.mp ⟨before, hb, rfl⟩
        rw [length_ofChars_line, ← hp', ← Nat.add_assoc] at hp
        exact .inr ⟨number, l, hg, before', hb', hp⟩
    case mpr =>
      rintro (⟨before, hb, hp⟩ | ⟨number, l, hg, before, hb, hp⟩)
      · exact ⟨before, .inl hb, hp⟩
      · obtain ⟨before', hb', hp'⟩ := hi.mpr ⟨number, l, hg, before, hb, rfl⟩
        rw [Nat.add_assoc, ← hp', ← length_ofChars_line] at hp
        exact ⟨_, .inr ⟨before', rfl, hb'⟩, hp⟩

theorem standsAt_iff_exists_line (hn : word ≠ []) (hw : ∀ c ∈ word, c.isAlpha) : StandsAt word cs place ↔
    ∃ number line column, (lines cs)[number]? = some line ∧ StandsAt word line column ∧
      lineStart cs number + column = place := by
  have ha : ∀ c ∈ word, c.toNat < 128 := fun c hc => (toNat_of_isAlpha (hw c hc)).right
  rw [standsAt_iff hn ha, standsBehind_iff_exists_line hn hw]
  constructor
  case mp =>
    rintro ⟨number, line, hg, before, hb, hp⟩
    exact ⟨number, line, _, hg, (standsAt_iff hn ha).mpr ⟨before, hb, rfl⟩, hp⟩
  case mpr =>
    rintro ⟨number, line, column, hg, hs, hp⟩
    obtain ⟨before, hb, rfl⟩ := (standsAt_iff hn ha).mp hs
    exact ⟨number, line, hg, before, hb, hp⟩

end Text
end LanguageClient
