import LanguageClient.Proofs.Json.Grammar

namespace LanguageClient.Json

variable {c : Char} {cs rest t ds : List Char} {q q' : Quoted}

-- The text completes a string whose further characters are `t`. The escape that is being read belongs to
-- it, with any digits that its value may come from.
def Quoted.Completes (q : Quoted) (cs t rest : List Char) : Prop :=
  match q.escape with
  | .none                  => Chars cs t rest
  | .backslash             => Chars ('\\' :: cs) t rest
  | .hex none b m bad      => b < 4 → bad = false ∧ ∀ ds, ds.length = b → Hex ds m →
      Chars ('\\' :: 'u' :: (ds ++ cs)) t rest
  | .hex (some high) b m bad => b < 4 → IsHigh high → bad = false ∧ ∀ ds es, ds.length = 4 → Hex ds high →
      es.length = b → Hex es m → Chars ('\\' :: 'u' :: (ds ++ '\\' :: 'u' :: (es ++ cs))) t rest
  | .highDone high         => IsHigh high → ∀ ds, ds.length = 4 → Hex ds high →
      Chars ('\\' :: 'u' :: (ds ++ cs)) t rest
  | .highBackslash high    => IsHigh high → ∀ ds, ds.length = 4 → Hex ds high →
      Chars ('\\' :: 'u' :: (ds ++ '\\' :: cs)) t rest

section Digits

variable {chars : List Char} {high : Option Nat} {m b : Nat} {bad : Bool}

theorem hexStep_cases (h : hexStep chars high b m bad c = .ok q) :
    (∃ b' m', b' < 4 ∧ q = ⟨chars, .hex high b' m' true⟩) ∨
    bad = false ∧ ∃ k, hexValue? c = some k ∧
      if b + 1 < 4 then q = ⟨chars, .hex high (b + 1) (m * 16 + k) false⟩
      else hexDone chars high (m * 16 + k) = .ok q := by
  cases hk : hexValue? c
  case none =>
    simp only [hexStep, hk, Option.isNone_none, Bool.or_true, ↓reduceIte] at h
    split_ifs at h with hb
    cases h
    exact .inl ⟨_, _, hb, rfl⟩
  case some k =>
    rw [hexStep_of_hexValue? hk] at h
    cases bad
    case false =>
      refine .inr ⟨rfl, k, rfl, ?_⟩
      split_ifs at h ⊢
      · exact (Except.ok.inj h).symm
      · exact h
    case true  =>
      simp only [↓reduceIte] at h
      split_ifs at h with hb
      cases h
      exact .inl ⟨_, _, hb, rfl⟩

theorem hexDone_none_cases (h : hexDone chars none m = .ok q) :
    IsHigh m ∧ q = ⟨chars, .highDone m⟩ ∨
    ¬IsHigh m ∧ ¬IsLow m ∧ q = ⟨Char.ofNat m :: chars, .none⟩ := by
  by_cases hh : IsHigh m
  case pos => exact .inl ⟨hh, Except.ok.inj (h.symm.trans (hexDone_high hh))⟩
  case neg =>
    by_cases hl : IsLow m
    case pos =>
      simp only [IsLow] at hl
      simp [hexDone, hl] at h
    case neg => exact .inr ⟨hh, hl, Except.ok.inj (h.symm.trans (hexDone_other hh hl))⟩

theorem hexDone_some_cases {m' : Nat} (h : hexDone chars (some m') m = .ok q) : IsLow m ∧
    q = ⟨Char.ofNat ((m' - 0xD800) * 1024 + (m - 0xDC00) + 0x10000) :: chars, .none⟩ := by
  by_cases hl : IsLow m
  case pos => exact ⟨hl, Except.ok.inj (h.symm.trans (hexDone_low hl))⟩
  case neg =>
    simp only [IsLow] at hl
    simp [hexDone, hl] at h

theorem completes_flawed (hb : b < 4) (h : Quoted.Completes ⟨chars, .hex high b m true⟩ cs t rest) {b' m' : Nat}
    {bad' : Bool} : Quoted.Completes ⟨chars, .hex high b' m' bad'⟩ (c :: cs) t rest := by
  cases high
  case none   => exact absurd (h hb).left (by decide)
  case some n => exact fun _ hn => absurd (h hb hn).left (by decide)

theorem length_concat {es : List Char} (h : es.length = b) : (es ++ [c]).length = b + 1 := by
  rw [List.length_append, h, List.length_singleton]

theorem completes_moreDigit {k : Nat} (hk : hexValue? c = some k) (hb : b + 1 < 4)
    (h : Quoted.Completes ⟨chars, .hex high (b + 1) (m * 16 + k) false⟩ cs t rest) :
    Quoted.Completes ⟨chars, .hex high b m false⟩ (c :: cs) t rest := by
  cases high
  case none =>
    refine fun _ => ⟨rfl, fun es hl he => ?_⟩
    rw [List.append_cons es]
    exact (h hb).right _ (length_concat hl) (.snoc he hk)
  case some n =>
    refine fun _ hn => ⟨rfl, fun ds es hdl hd hl he => ?_⟩
    rw [List.append_cons es]
    exact (h hb hn).right ds _ hdl hd (length_concat hl) (.snoc he hk)

theorem completes_lastDigit {k : Nat} (hk : hexValue? c = some k) (hb : ¬b + 1 < 4)
    (hq : hexDone chars high (m * 16 + k) = .ok q) (h : q.Completes cs t rest) :
    ∃ u, Quoted.Completes ⟨chars, .hex high b m false⟩ (c :: cs) (u ++ t) rest ∧
      q.chars.reverse ++ t = chars.reverse ++ (u ++ t) := by
  have four {es : List Char} (hl : es.length = b) (hb : b < 4) : (es ++ [c]).length = 4 := by
    rw [length_concat hl]
    omega
  have joins (d : Char) : (d :: chars).reverse ++ t = chars.reverse ++ ([d] ++ t) := by simp
  cases high
  case none =>
    obtain ⟨hh, rfl⟩ | ⟨hh, hn, rfl⟩ := hexDone_none_cases hq
    · refine ⟨[], fun hb => ⟨rfl, fun es hl he => ?_⟩, rfl⟩
      rw [List.append_cons es]
      exact h hh _ (four hl hb) (.snoc he hk)
    · refine ⟨[_], fun hb => ⟨rfl, fun es hl he => ?_⟩, joins _⟩
      rw [List.append_cons es]
      exact .cons (.unit (.snoc he hk) (four hl hb) hh hn) h
  -- The digits are those of a low surrogate, and the character is that of the pair.
  case some n =>
    obtain ⟨hn, rfl⟩ := hexDone_some_cases hq
    refine ⟨[_], fun hb hm => ⟨rfl, fun ds es hdl hd hl he => ?_⟩, joins _⟩
    rw [List.append_cons es]
    exact .cons (.pair hd hdl hm (.snoc he hk) (four hl hb) hn) h

end Digits

theorem Quoted.step_backslash_cases {chars : List Char} (h : Quoted.step ⟨chars, .backslash⟩ c = .ok (some q)) :
    c = 'u' ∧ q = ⟨chars, .hex none 0 0 false⟩ ∨ ∃ d, Short c d ∧ q = ⟨d :: chars, .none⟩ := by
  simp only [Quoted.step] at h
  split at h
  case h_9  => exact .inl ⟨rfl, by simpa [eq_comm] using h⟩
  case h_10 => cases h
  all_goals
    cases h
    exact .inr ⟨_, by constructor, rfl⟩

theorem Quoted.completes_step (hs : q.step c = .ok (some q')) (h : q'.Completes cs t rest) :
    ∃ u, q.Completes (c :: cs) (u ++ t) rest ∧ q'.chars.reverse ++ t = q.chars.reverse ++ (u ++ t) := by
  obtain ⟨chars, escape⟩ := q
  cases escape
  case none =>
    simp only [Quoted.step] at hs
    split_ifs at hs with hq hb hc
    · cases hs
    · subst hb
      cases hs
      exact ⟨[], h, rfl⟩
    · cases hs
      exact ⟨[c], .cons (.plain hq hb (Nat.not_lt.mp hc)) h, by simp⟩
  case backslash =>
    obtain ⟨rfl, rfl⟩ | ⟨d, hd, rfl⟩ := step_backslash_cases hs
    · exact ⟨[], (h (by decide)).right [] rfl .nil, rfl⟩
    · exact ⟨[d], .cons (.short hd) h, by simp⟩
  case hex high b m bad =>
    replace hs : hexStep chars high b m bad c = .ok q' := by
      cases hx : hexStep chars high b m bad c
      case error => simp [Quoted.step, hx, Except.map] at hs
      case ok q  => simpa [Quoted.step, hx, Except.map] using hs
    -- All four digits are taken before they are looked at, so that a flawed escape goes on.
    obtain ⟨b', m', hb, rfl⟩ | ⟨rfl, k, hk, hq⟩ := hexStep_cases hs
    · exact ⟨[], completes_flawed hb h, rfl⟩
    · split_ifs at hq with hb
      case pos =>
        subst hq
        exact ⟨[], completes_moreDigit hk hb h, rfl⟩
      case neg => exact completes_lastDigit hk hb hq h
  case highDone high =>
    simp only [Quoted.step] at hs
    split_ifs at hs with hc
    subst hc
    cases hs
    exact ⟨[], h, rfl⟩
  case highBackslash high =>
    simp only [Quoted.step] at hs
    split_ifs at hs with hc
    subst hc
    cases hs
    refine ⟨[], fun hh ds hl hd => ?_, rfl⟩
    exact (h (by decide) hh).right ds [] hl hd rfl .nil

theorem Quoted.completes_end (hs : q.step c = .ok none) : q.Completes (c :: cs) [] cs := by
  obtain ⟨chars, escape⟩ := q
  cases escape
  case none =>
    simp only [Quoted.step] at hs
    split_ifs at hs with hq hb hc
    · subst hq
      exact .nil
    all_goals cases hs
  case backslash =>
    simp only [Quoted.step] at hs
    split at hs
    all_goals cases hs
  case hex high b m bad =>
    cases hx : hexStep chars high b m bad c
    all_goals simp [Quoted.step, hx, Except.map] at hs
  case highDone | highBackslash =>
    simp only [Quoted.step] at hs
    split_ifs at hs
    all_goals cases hs

namespace Numeral

variable {n n' : Numeral} {p : List Char}

def Completes (phase : Phase) (cs : List Char) : Prop :=
  match phase with
  | .sign                   =>
    ∃ ds p, cs = ds ++ p ∧ Digits ds ∧ (ds.head? = some '0' → ds = ['0']) ∧ IsFraction p
  | .zero                   => IsFraction cs
  | .integer | .long        => ∃ ds p, cs = ds ++ p ∧ (∀ c ∈ ds, c.isDigit) ∧ IsFraction p
  | .point                  => ∃ ds p, cs = ds ++ p ∧ Digits ds ∧ IsPower p
  | .fraction | .fine       => ∃ ds p, cs = ds ++ p ∧ (∀ c ∈ ds, c.isDigit) ∧ IsPower p
  | .mark                   =>
    ∃ sign ds, cs = sign ++ ds ∧ (sign = [] ∨ sign = ['+'] ∨ sign = ['-']) ∧ Digits ds
  | .markSign _             => Digits cs
  | .power _ _ | .hugePower => ∀ c ∈ cs, c.isDigit

theorem digits_cons (hc : c.isDigit) (hd : ∀ c ∈ ds, c.isDigit) : Digits (c :: ds) where
  some  := by simp
  digit := List.forall_mem_cons.mpr ⟨hc, hd⟩

theorem completes_nil (h : n.isComplete) : Completes n.phase [] := by
  unfold isComplete at h
  cases hp : n.phase
  all_goals rw [hp] at h
  case sign | point | mark | markSign => cases h
  case zero                           => exact .none .none
  case integer | long                 => exact ⟨[], [], rfl, List.forall_mem_nil _, .none .none⟩
  case fraction | fine                => exact ⟨[], [], rfl, List.forall_mem_nil _, .none⟩
  case power | hugePower              => exact List.forall_mem_nil _

theorem isFraction_point (h : Completes .point cs) : IsFraction ('.' :: cs) := by
  obtain ⟨ds, p, rfl, hd, hp⟩ := h
  exact .some hd hp

theorem isPower_mark (hc : isMark c) (h : Completes .mark cs) : IsPower (c :: cs) := by
  obtain ⟨sign, ds, rfl, hs, hd⟩ := h
  exact .some hc hs hd

theorem completes_digit (hc : c.isDigit) (h : Completes .integer cs) : Completes .integer (c :: cs) := by
  obtain ⟨ds, p, rfl, hd, hp⟩ := h
  exact ⟨c :: ds, p, rfl, List.forall_mem_cons.mpr ⟨hc, hd⟩, hp⟩

theorem completes_place (hc : c.isDigit) (h : Completes .fraction cs) : Completes .point (c :: cs) := by
  obtain ⟨ds, p, rfl, hd, hp⟩ := h
  exact ⟨c :: ds, p, rfl, digits_cons hc hd, hp⟩

theorem completes_fraction_of_point (h : Completes .point cs) : Completes .fraction cs := by
  obtain ⟨ds, p, rfl, hd, hp⟩ := h
  exact ⟨ds, p, rfl, hd.digit, hp⟩

theorem completes_fractionDigit (hc : c.isDigit) (hs : n.fractionDigit c = .more n') (h : Completes n'.phase cs) :
    Completes .point (c :: cs) := by
  refine completes_place hc ?_
  unfold fractionDigit at hs
  split at hs
  all_goals
    cases hs
    exact h

theorem completes_powerDigit {b : Bool} {k : Nat} (hc : c.isDigit) (hs : n.powerDigit b k c = .more n')
    (h : Completes n'.phase cs) : ∀ d ∈ c :: cs, d.isDigit := by
  refine List.forall_mem_cons.mpr ⟨hc, ?_⟩
  simp only [powerDigit] at hs
  split_ifs at hs
  all_goals
    cases hs
    exact h

theorem completes_ofDigit {b : Bool} (hc : c.isDigit) (h : Completes (ofDigit b c).phase cs) :
    Completes .sign (c :: cs) := by
  by_cases hz : c = '0'
  case pos =>
    rw [ofDigit, if_pos hz] at h
    exact ⟨[c], cs, rfl, digits_cons hc (List.forall_mem_nil _), fun _ => by rw [hz], h⟩
  case neg =>
    rw [ofDigit, if_neg hz] at h
    obtain ⟨ds, p, rfl, hd, hp⟩ := h
    exact ⟨c :: ds, p, rfl, digits_cons hc hd, fun he => absurd (Option.some.inj he) hz, hp⟩

theorem completes_step (hs : n.step c = .more n') (h : Completes n'.phase cs) : Completes n.phase (c :: cs) := by
  obtain ⟨negative, significand, exponent, phase⟩ := n
  cases phase
  all_goals simp only [step] at hs
  case sign =>
    split_ifs at hs with hd
    cases hs
    exact completes_ofDigit hd h
  case zero =>
    split_ifs at hs with hd hp hm
    all_goals cases hs
    · exact hp ▸ isFraction_point h
    · exact .none (isPower_mark hm h)
  case integer | long =>
    split_ifs at hs with hd hp hm
    -- A digit for which there is no room leads to the other phase, which the same texts complete.
    · refine completes_digit hd ?_
      try split at hs
      all_goals
        cases hs
        exact h
    all_goals cases hs
    · exact ⟨[], _, rfl, List.forall_mem_nil _, hp ▸ isFraction_point h⟩
    · exact ⟨[], _, rfl, List.forall_mem_nil _, .none (isPower_mark hm h)⟩
  case point =>
    split_ifs at hs with hd
    exact completes_fractionDigit hd hs h
  case fraction =>
    split_ifs at hs with hd hm
    · exact completes_fraction_of_point (completes_fractionDigit hd hs h)
    all_goals cases hs
    exact ⟨[], _, rfl, List.forall_mem_nil _, isPower_mark hm h⟩
  case fine =>
    split_ifs at hs with hd hm
    all_goals cases hs
    · exact completes_fraction_of_point (completes_place hd h)
    · exact ⟨[], _, rfl, List.forall_mem_nil _, isPower_mark hm h⟩
  case mark =>
    split_ifs at hs with hp hd
    all_goals cases hs
    · refine ⟨[c], cs, rfl, .inr ?_, h⟩
      obtain rfl | rfl := by simpa using hp
      · exact .inl rfl
      · exact .inr rfl
    · exact ⟨[], c :: cs, rfl, .inl rfl, digits_cons hd h⟩
  case markSign =>
    split_ifs at hs with hd
    cases hs
    exact digits_cons hd h
  case power =>
    split_ifs at hs with hd
    exact completes_powerDigit hd hs h
  case hugePower =>
    split_ifs at hs with hd
    cases hs
    exact List.forall_mem_cons.mpr ⟨hd, h⟩

theorem completes_of_through (h : n.through? cs = some n') (hn : n'.isComplete) : Completes n.phase cs := by
  induction cs generalizing n
  case nil          =>
    cases h
    exact completes_nil hn
  case cons c cs hi =>
    obtain ⟨m, hm, h⟩ := of_through?_cons h
    exact completes_step hm (hi h)

theorem fractionDigit_ne_over : n.fractionDigit c ≠ .over := by
  unfold fractionDigit
  split
  all_goals nofun

theorem isComplete_of_over (h : n.step c = .over) : n.isComplete := by
  obtain ⟨negative, significand, exponent, phase⟩ := n
  cases phase
  case sign | mark | markSign =>
    simp only [step] at h
    split_ifs at h
  case point =>
    simp only [step] at h
    split_ifs at h
    exact absurd h fractionDigit_ne_over
  all_goals rfl

theorem isNumber_of_through (hc : first? c = some n) (h : n.through? cs = some n') (hn : n'.isComplete) :
    IsNumber (c :: cs) := by
  have hr := completes_of_through h hn
  unfold first? at hc
  split_ifs at hc with hs hd
  case pos =>
    cases hc
    obtain ⟨ds, p, rfl, hd, hz, hp⟩ := hr
    exact hs ▸ IsNumber.intro (.inr rfl) hd hz hp
  case pos =>
    cases hc
    obtain ⟨ds, p, he, hd, hz, hp⟩ := completes_ofDigit hd hr
    exact he ▸ IsNumber.intro (.inl rfl) hd hz hp

-- The phases in which a number may still be an integer. None of the others leads back to them.
def Phase.isWhole : Phase → Bool
  | .sign | .zero | .integer => true
  | _                        => false

theorem not_isWhole_fractionDigit (hs : n.fractionDigit c = .more n') : ¬n'.phase.isWhole := by
  unfold fractionDigit at hs
  split at hs
  all_goals
    cases hs
    exact Bool.false_ne_true

theorem not_isWhole_powerDigit {b : Bool} {p : Nat} (hs : n.powerDigit b p c = .more n') :
    ¬n'.phase.isWhole := by
  simp only [powerDigit] at hs
  split_ifs at hs
  all_goals
    cases hs
    exact Bool.false_ne_true

theorem isWhole_of_step (hs : n.step c = .more n') (hw : n'.phase.isWhole) : n.phase.isWhole := by
  obtain ⟨negative, significand, exponent, phase⟩ := n
  cases phase
  case sign | zero | integer => rfl
  all_goals simp only [step] at hs
  case point =>
    split_ifs at hs
    exact absurd hw (not_isWhole_fractionDigit hs)
  case fraction =>
    split_ifs at hs
    · exact absurd hw (not_isWhole_fractionDigit hs)
    all_goals cases hs
    cases hw
  case power =>
    split_ifs at hs
    exact absurd hw (not_isWhole_powerDigit hs)
  all_goals split_ifs at hs
  all_goals cases hs
  all_goals cases hw

theorem isWhole_of_through (h : n.through? cs = some n') (hw : n'.phase.isWhole) : n.phase.isWhole := by
  induction cs generalizing n
  case nil          =>
    cases h
    exact hw
  case cons c cs hi =>
    obtain ⟨m, hm, h⟩ := of_through?_cons h
    exact isWhole_of_step hm (hi h)

section Integers

variable {negative : Bool} {m : Nat} {k : Int}

theorem step_whole_cases (hs : (whole negative m).step c = .more n) (hw : n.phase.isWhole) :
    0 < m ∧ ∃ d < 10, c = d.digitChar ∧ m * 10 + d < UInt64.size ∧ n = whole negative (m * 10 + d) := by
  by_cases hm : m = 0
  case pos =>
    subst hm
    simp only [whole, ↓reduceIte, step] at hs
    split_ifs at hs
    all_goals cases hs
    all_goals cases hw
  case neg =>
    by_cases hc : c.isDigit
    case neg =>
      simp only [whole, if_neg hm, step, if_neg hc] at hs
      split_ifs at hs
      all_goals cases hs
      all_goals cases hw
    case pos =>
      obtain ⟨d, hd, rfl⟩ := exists_digitChar hc
      refine ⟨Nat.pos_of_ne_zero hm, d, hd, rfl, ?_⟩
      -- Where there is no room for the digit, the phase is not that of an integer any more.
      by_cases hl : m * 10 + d < UInt64.size
      case pos =>
        rw [step_digitChar (Nat.pos_of_ne_zero hm) hd hl] at hs
        cases hs
        exact ⟨hl, rfl⟩
      case neg =>
        simp only [whole, if_neg hm, step, if_pos hc, grow?, (isDigit_digitChar d hd).right, if_neg hl] at hs
        cases hs
        cases hw

theorem toDigits_of_through (hm : m < UInt64.size) (h : (whole negative m).through? cs = some n)
    (hw : n.phase.isWhole) :
    ∃ m' < UInt64.size, n = whole negative m' ∧ Nat.toDigits 10 m' = Nat.toDigits 10 m ++ cs := by
  induction cs generalizing m
  case nil          => exact ⟨m, hm, (Option.some.inj h).symm, (List.append_nil _).symm⟩
  case cons c cs hi =>
    obtain ⟨q, hq, h⟩ := of_through?_cons h
    obtain ⟨hp, d, hd, rfl, hl, rfl⟩ := step_whole_cases hq (isWhole_of_through h hw)
    obtain ⟨m', hm', hn, ht⟩ := hi hl h
    refine ⟨m', hm', hn, ?_⟩
    rw [ht, Nat.mul_comm, ← Nat.toDigits_append_toDigits (by decide) hp hd, Nat.toDigits_of_lt_base hd,
      List.append_assoc, List.singleton_append]

theorem toDigits_of_first (hc : c.isDigit) (h : (ofDigit negative c).through? cs = some n)
    (hw : n.phase.isWhole) :
    ∃ m < UInt64.size, n = whole negative m ∧ c :: cs = Nat.toDigits 10 m := by
  obtain ⟨d, hd, rfl⟩ := exists_digitChar hc
  rw [ofDigit_digitChar d hd] at h
  obtain ⟨m, hm, hn, ht⟩ := toDigits_of_through (Nat.lt_trans hd (by decide)) h hw
  exact ⟨m, hm, hn, by rw [ht, Nat.toDigits_of_lt_base hd, List.singleton_append]⟩

theorem isWhole_of_value (h : n.value = some (.int k)) : n.phase.isWhole := by
  unfold value at h
  split at h
  case h_1 hp | h_2 hp | h_3 hp => rw [hp]; rfl
  case h_4 => exact absurd h double_ne_int
  case h_5 => cases h
  case h_6 => exact absurd h double_ne_int

end Integers
end Numeral

theorem evaluates_iff {x : Number} : Evaluates t x ↔ Spells t x := by
  constructor
  case mp => exact Evaluates.spells
  case mpr =>
    rintro ⟨c, cs, n, n', rfl, hc, hn, he⟩
    exact ⟨Numeral.isNumber_of_through hc hn he.complete, c, cs, n, n', rfl, hc, hn, he⟩

theorem evaluates_int_iff {k : Int} : Evaluates t (.int k) ↔ t = Number.render (.int k) ∧ IsWord k := by
  have hs : UInt64.size = 18446744073709551616 := rfl
  rw [evaluates_iff]
  constructor
  case mp =>
    rintro ⟨c, cs, n, n', rfl, hc, hn, hf, hv⟩
    have hw := Numeral.isWhole_of_value hv
    unfold Numeral.first? at hc
    split_ifs at hc with hm hd
    case pos =>
      cases hc
      subst hm
      obtain - | ⟨d, ds⟩ := cs
      case nil =>
        cases hn
        cases hf
      case cons =>
        simp only [Numeral.through?, Numeral.step, Numeral.ofSign] at hn
        split_ifs at hn with hd
        obtain ⟨m, hm, rfl, ht⟩ := Numeral.toDigits_of_first hd hn hw
        -- A zero with a sign would be a double.
        obtain ⟨hp, hb, rfl⟩ := value_whole_negative_iff.mp hv
        obtain ⟨j, rfl⟩ := Nat.exists_eq_add_one_of_ne_zero (Nat.ne_of_gt hp)
        exact ⟨ht ▸ render_negSucc.symm, by rw [IsWord]; omega⟩
    case pos =>
      cases hc
      obtain ⟨m, hm, rfl, ht⟩ := Numeral.toDigits_of_first hd hn hw
      rw [value_whole] at hv
      cases hv
      exact ⟨ht ▸ render_ofNat.symm, by rw [IsWord]; omega⟩
  case mpr =>
    rintro ⟨rfl, hk⟩
    exact spells_int hk

end LanguageClient.Json
