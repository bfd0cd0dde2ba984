import LanguageClient.Json.Parser
import LanguageClient.Proofs.Json.Values
import Mathlib.Tactic.IntervalCases

namespace LanguageClient.Json

variable {s s' : State} {c : Char} {cs rest : List Char} {stack : List Frame} {j v : Json}

def reading (s : State) (cs : List Char) : Except Cause Json :=
  match run s cs with
  | .ok s'                 => finish s'
  | .error ((cause, _), _) => .error cause

theorem reading_cons (h : step s c = .ok s') : reading s (c :: cs) = reading s' cs := by
  simp only [reading, run, h]

theorem reading_congr (hf : finish s = finish s') (hs : ∀ c ∈ cs.head?, step s c = step s' c) :
    reading s cs = reading s' cs := by
  cases cs
  case nil       => exact hf
  case cons c cs => simp only [reading, run, hs c rfl]

theorem parse_eq_ok {text : String} (h : reading start text.toList = .ok j) : parse text = .ok j := by
  rw [reading] at h
  rw [parse]
  cases hs : run start text.toList
  case ok s =>
    rw [hs] at h
    exact congrArg (Except.mapError _) h
  case error e =>
    rw [hs] at h
    cases h

theorem hexValue?_hexDigit : ∀ n < 16, hexValue? (hexDigit n) = some n := by
  decide

theorem utf8Size_hexDigit : ∀ n < 16, (hexDigit n).utf8Size = 1 := by
  decide

theorem hexDone_control {chars : List Char} (h : c.toNat < 32) :
    hexDone chars none c.toNat = .ok ⟨c :: chars, .none⟩ := by
  have h₁ : ¬0xDC00 ≤ c.toNat := by omega
  have h₂ : ¬0xD800 ≤ c.toNat := by omega
  simp [hexDone, h₁, h₂]

section Strings

variable {isKey : Bool} {chars : List Char} {bytes value n : Nat} {q : Quoted}

theorem reading_hexDigit (h : n < 16) (hb : bytes < 3) :
    reading ⟨stack, .string isKey ⟨chars, .hex none bytes value false⟩⟩ (hexDigit n :: rest) =
    reading ⟨stack, .string isKey ⟨chars, .hex none (bytes + 1) (value * 16 + n) false⟩⟩ rest := by
  have hb : bytes + 1 < 4 := by omega
  apply reading_cons
  simp [step, Quoted.step, hexStep, hexValue?_hexDigit n h, utf8Size_hexDigit n h, hb, Except.map]

theorem reading_lastHexDigit (h : n < 16) (hq : hexDone chars none (value * 16 + n) = .ok q) :
    reading ⟨stack, .string isKey ⟨chars, .hex none 3 value false⟩⟩ (hexDigit n :: rest) =
    reading ⟨stack, .string isKey q⟩ rest := by
  apply reading_cons
  simp [step, Quoted.step, hexStep, hexValue?_hexDigit n h, utf8Size_hexDigit n h, hq, Except.map]

theorem reading_control (h : c.toNat < 32) :
    reading ⟨stack, .string isKey ⟨chars, .none⟩⟩
      (['\\', 'u', '0', '0', hexDigit (c.toNat / 16), hexDigit (c.toNat % 16)] ++ rest) =
    reading ⟨stack, .string isKey ⟨c :: chars, .none⟩⟩ rest := by
  have h₀ : '0' = hexDigit 0 := rfl
  have h₁ : c.toNat / 16 < 16 := by omega
  have h₂ : c.toNat % 16 < 16 := by omega
  have hc : ((0 * 16 + 0) * 16 + 0) * 16 + c.toNat / 16 = c.toNat / 16 := by omega
  have hd : c.toNat / 16 * 16 + c.toNat % 16 = c.toNat := by omega
  simp only [List.cons_append, List.nil_append]
  rw [reading_cons rfl, reading_cons rfl, h₀, reading_hexDigit (by decide) (by decide),
    reading_hexDigit (by decide) (by decide), reading_hexDigit h₁ (by decide), hc]
  apply reading_lastHexDigit h₂
  rw [hd, hexDone_control h]

theorem reading_escape :
    reading ⟨stack, .string isKey ⟨chars, .none⟩⟩ (escape c ++ rest) =
    reading ⟨stack, .string isKey ⟨c :: chars, .none⟩⟩ rest := by
  unfold escape
  split
  case h_8 hq hb _ _ _ _ _ =>
    split
    case isTrue h  => exact reading_control h
    case isFalse h =>
      apply reading_cons
      simp only [step, Quoted.step, if_neg hq, if_neg hb, if_neg h]
  all_goals rfl

theorem reading_quoted (t : List Char) :
    reading ⟨stack, .string isKey ⟨chars, .none⟩⟩ (t.flatMap escape ++ '"' :: rest) =
    reading (endString stack isKey ⟨t.reverse ++ chars, .none⟩) rest := by
  induction t generalizing chars
  case nil         => exact reading_cons rfl
  case cons c t hi =>
    rw [List.flatMap_cons, List.append_assoc, reading_escape, hi, List.reverse_cons, List.append_assoc,
      List.singleton_append]

end Strings

theorem reading_quote {t : String} :
    reading ⟨stack, .value⟩ (quote t ++ rest) = reading (put stack (.str t)) rest := by
  have he : endString stack false ⟨t.toList.reverse ++ [], .none⟩ = put stack (.str t) := by
    simp [endString]
  rw [quote, List.append_assoc, List.cons_append, reading_cons rfl, List.singleton_append,
    reading_quoted, he]

theorem reading_key {first : Bool} {k key : String} {members : Members} :
    reading ⟨.object members key :: stack, .key first⟩ (quote k ++ ':' :: rest) =
    reading ⟨.object members k :: stack, .value⟩ rest := by
  have he : endString (.object members key :: stack) true ⟨k.toList.reverse ++ [], .none⟩ =
      ⟨.object members k :: stack, .colon⟩ := by
    simp [endString]
  rw [quote, List.append_assoc, List.cons_append, reading_cons rfl, List.singleton_append,
    reading_quoted, he, reading_cons rfl]

def Delimited (cs : List Char) : Prop :=
  ∀ c ∈ cs.head?, c = ',' ∨ c = ']' ∨ c = '}'

def isEnd (c : Char) : Bool :=
  isSpace c || c = ',' || c = ']' || c = '}'

def Ends (cs : List Char) : Prop :=
  ∀ c ∈ cs.head?, isEnd c

theorem Delimited.ends (h : Delimited cs) : Ends cs := by
  intro c hc
  obtain rfl | rfl | rfl := h c hc
  all_goals rfl

theorem delimited_nil : Delimited [] := by
  simp [Delimited]

theorem delimited_cons (h : c = ',' ∨ c = ']' ∨ c = '}') : Delimited (c :: cs) := by
  intro d hd
  cases hd
  exact h

section Numbers

variable {negative : Bool} {m d : Nat} {n : Int}

def whole (negative : Bool) (m : Nat) : Numeral :=
  ⟨negative, m, 0, if m = 0 then .zero else .integer⟩

theorem isDigit_digitChar : ∀ d < 10, d.digitChar.isDigit ∧ d.digitChar.toNat - 48 = d := by
  decide

theorem ofDigit_digitChar : ∀ d < 10, Numeral.ofDigit negative d.digitChar = whole negative d := by
  cases negative
  all_goals decide

theorem step_digitChar (hm : 0 < m) (hd : d < 10) (h : m * 10 + d < UInt64.size) :
    (whole negative m).step d.digitChar = .more (whole negative (m * 10 + d)) := by
  have ⟨hc, hv⟩ := isDigit_digitChar d hd
  have hg : (whole negative m).grow? d.digitChar = some (m * 10 + d) := by
    simp [Numeral.grow?, whole, hv, h]
  have h₀ : m ≠ 0 := by omega
  have h₁ : m * 10 + d ≠ 0 := by omega
  simp only [whole, if_neg h₀] at hg
  simp only [Numeral.step, whole, if_neg h₀, if_neg h₁, if_pos hc, hg]

theorem mode_put (stack : List Frame) (v : Json) :
    (put stack v).mode = .after ∨ (put stack v).mode = .finished v := by
  unfold put
  split
  · exact .inr rfl
  · exact .inl rfl
  · exact .inl rfl

theorem finish_put : finish (put stack v) = endAfter (put stack v) := by
  obtain h | h := mode_put stack v
  all_goals rw [finish, h]

theorem step_put : step (put stack v) c = afterStep (put stack v) c := by
  obtain h | h := mode_put stack v
  all_goals rw [step, h]

structure Ended (n : Numeral) (v : Number) : Prop where
  complete : n.isComplete
  value    : n.value = some v

theorem Ended.step_eq_over {n : Numeral} {v : Number} (h : Ended n v) (hc : isEnd c) : n.step c = .over := by
  have ho : ¬c.isDigit ∧ c ≠ '.' ∧ c ≠ '+' ∧ c ≠ '-' ∧ ¬Numeral.isMark c := by
    obtain rfl | rfl | rfl | rfl | rfl | rfl | rfl := by simpa [isEnd, isSpace, or_assoc] using hc
    all_goals decide
  have hn := h.complete
  unfold Numeral.isComplete at hn
  unfold Numeral.step
  split
  all_goals simp_all

theorem reading_number {n : Numeral} {v : Number} (h : Ended n v) (hr : Ends rest) :
    reading ⟨stack, .number n⟩ rest = reading (put stack (.num v)) rest := by
  apply reading_congr
  case hf =>
    rw [finish_put, finish]
    simp only [h.complete, h.value, ↓reduceIte]
  case hs =>
    intro c hc
    rw [step_put, step]
    simp only [h.step_eq_over (hr c hc), h.value]

theorem value_whole : (whole false m).value = some (.int m) := by
  rw [whole]
  split <;> rfl

theorem double_ne_int {q : Numeral} {e : Int} : q.double e ≠ some (.int n) := by
  intro h
  obtain ⟨f, _, he⟩ := Option.map_eq_some_iff.mp h
  cases he

-- A zero with a sign is a double, and so is what is below the integers of 64 bits.
theorem value_whole_negative_iff :
    (whole true m).value = some (.int n) ↔ 0 < m ∧ m ≤ 9223372036854775808 ∧ n = -m := by
  by_cases hm : m = 0
  case pos =>
    subst hm
    exact iff_of_false double_ne_int (by omega)
  case neg =>
    by_cases hb : m > 9223372036854775808
    case pos =>
      simp only [Numeral.value, whole, if_neg hm, hb, Bool.not_true, Bool.false_eq_true, ↓reduceIte, decide_true,
        Bool.or_true]
      exact iff_of_false double_ne_int (by omega)
    case neg =>
      simp [Numeral.value, whole, hm, hb]
      omega

theorem ended_whole {v : Number} (h : (whole negative m).value = some v) : Ended (whole negative m) v where
  complete := by
    rw [whole]
    split <;> rfl
  value    := h

theorem exists_digitChar (hc : c.isDigit) : ∃ d < 10, c = d.digitChar := by
  have hc : 48 ≤ c.toNat ∧ c.toNat ≤ 57 := by simpa [Char.isDigit, UInt32.le_iff_toNat_le] using hc
  refine ⟨c.toNat - 48, by omega, Char.toNat_inj.mp ?_⟩
  rw [Nat.toNat_digitChar_of_lt_ten (by omega)]
  omega

def Numeral.first? (c : Char) : Option Numeral :=
  if c = '-' then some Numeral.ofSign
  else if c.isDigit then some (Numeral.ofDigit false c)
  else none

def Numeral.through? (n : Numeral) : List Char → Option Numeral
  | []      => some n
  | c :: cs =>
    match n.step c with
    | .more n' => n'.through? cs
    | _        => none

theorem Numeral.through?_cons {n n' : Numeral} (h : n.step c = .more n') :
    n.through? (c :: cs) = n'.through? cs := by
  rw [through?, h]

theorem Numeral.of_through?_cons {n n' : Numeral} (h : n.through? (c :: cs) = some n') :
    ∃ m, n.step c = .more m ∧ m.through? cs = some n' := by
  rw [through?] at h
  split at h
  case h_1 m hm => exact ⟨m, hm, h⟩
  case h_2      => cases h

theorem Numeral.through?_append {n n' : Numeral} {ds : List Char} (h : n.through? cs = some n') :
    n.through? (cs ++ ds) = n'.through? ds := by
  induction cs generalizing n
  case nil          => rw [List.nil_append, ← Option.some.inj h]
  case cons c cs hi =>
    obtain ⟨m, hm, h⟩ := of_through?_cons h
    rw [List.cons_append, through?_cons hm, hi h]

def Spells (t : List Char) (x : Number) : Prop :=
  ∃ c cs n n', t = c :: cs ∧ Numeral.first? c = some n ∧ n.through? cs = some n' ∧ Ended n' x

theorem step_digit : ∀ d < 10,
    step ⟨stack, .value⟩ d.digitChar = .ok ⟨stack, .number (Numeral.ofDigit false d.digitChar)⟩ := by
  intro d hd
  interval_cases d <;> rfl

theorem step_digit_of_sign : ∀ d < 10, step ⟨stack, .number Numeral.ofSign⟩ d.digitChar =
    .ok ⟨stack, .number (Numeral.ofDigit true d.digitChar)⟩ := by
  intro d hd
  simp [step, Numeral.step, Numeral.ofSign, isDigit_digitChar d hd]

theorem step_first {n : Numeral} (h : Numeral.first? c = some n) :
    step ⟨stack, .value⟩ c = .ok ⟨stack, .number n⟩ := by
  unfold Numeral.first? at h
  split_ifs at h with hc hd
  case pos =>
    cases h
    rw [hc]
    rfl
  case pos =>
    cases h
    obtain ⟨k, hk, rfl⟩ := exists_digitChar hd
    exact step_digit k hk

theorem reading_more {n n' : Numeral} (h : n.step c = .more n') :
    reading ⟨stack, .number n⟩ (c :: rest) = reading ⟨stack, .number n'⟩ rest :=
  reading_cons (by simp only [step, h])

theorem reading_through {n n' : Numeral} (h : n.through? cs = some n') :
    reading ⟨stack, .number n⟩ (cs ++ rest) = reading ⟨stack, .number n'⟩ rest := by
  induction cs generalizing n
  case nil          => cases h; rfl
  case cons c cs hi =>
    obtain ⟨m, hm, h⟩ := Numeral.of_through?_cons h
    rw [List.cons_append, reading_more hm, hi h]

theorem reading_spelled {t : List Char} {x : Number} (h : Spells t x) (hr : Ends rest) :
    reading ⟨stack, .value⟩ (t ++ rest) = reading (put stack (.num x)) rest := by
  obtain ⟨c, cs, n, n', rfl, hc, hn, he⟩ := h
  rw [List.cons_append, reading_cons (step_first hc), reading_through hn, reading_number he hr]

-- By recursion on the number: all its digits but the last make the number without that digit.
theorem through_toDigits (negative : Bool) (h : m < UInt64.size) : ∃ d ds, d < 10 ∧
    Nat.toDigits 10 m = d.digitChar :: ds ∧ (whole negative d).through? ds = some (whole negative m) := by
  induction m using Nat.strong_induction_on
  case h m hi =>
    by_cases hm : m < 10
    case pos => exact ⟨m, [], hm, Nat.toDigits_of_lt_base hm, rfl⟩
    case neg =>
      have hl : m % 10 < 10 := by omega
      have hp : 0 < m / 10 := by omega
      have he : m / 10 * 10 + m % 10 = m := by omega
      obtain ⟨d, ds, hd, ht, hw⟩ := hi (m / 10) (by omega) (by omega)
      refine ⟨d, ds ++ [(m % 10).digitChar], hd, ?_, ?_⟩
      · rw [Nat.toDigits_of_base_le (by decide) (by omega), ht, List.cons_append]
      · rw [Numeral.through?_append hw, Numeral.through?_cons (step_digitChar hp hl (he.symm ▸ h)), he]
        rfl

theorem render_ofNat : Number.render (.int (.ofNat m)) = Nat.toDigits 10 m :=
  Nat.toList_repr

theorem render_negSucc : Number.render (.int (.negSucc m)) = '-' :: Nat.toDigits 10 (m + 1) := by
  rw [← Nat.toList_repr]
  exact String.toList_append

theorem spells_int (hn : IsWord n) : Spells (Number.render (.int n)) (.int n) := by
  have hs : UInt64.size = 18446744073709551616 := rfl
  rw [IsWord] at hn
  cases n
  case ofNat m =>
    rw [Int.ofNat_eq_natCast] at hn
    obtain ⟨d, ds, hd, ht, hw⟩ := through_toDigits false (show m < _ by omega)
    have hc : Numeral.first? d.digitChar = some (whole false d) := by
      rw [← ofDigit_digitChar d hd]
      interval_cases d <;> rfl
    exact ⟨_, ds, _, _, render_ofNat.trans ht, hc, hw, ended_whole value_whole⟩
  case negSucc m =>
    obtain ⟨d, ds, hd, ht, hw⟩ := through_toDigits true (show m + 1 < _ by omega)
    have hv : (whole true (m + 1)).value = some (.int (.negSucc m)) :=
      value_whole_negative_iff.mpr (by omega)
    have hc : Numeral.ofSign.step d.digitChar = .more (whole true d) := by
      rw [← ofDigit_digitChar d hd]
      simp [Numeral.step, Numeral.ofSign, isDigit_digitChar d hd]
    rw [render_negSucc, ht]
    exact ⟨_, _, _, _, rfl, rfl, (Numeral.through?_cons hc).trans hw, ended_whole hv⟩

theorem reading_int (hn : IsWord n) (hr : Delimited rest) :
    reading ⟨stack, .value⟩ (Number.render (.int n) ++ rest) =
    reading (put stack (.num (.int n))) rest :=
  reading_spelled (spells_int hn) hr.ends

-- One or more digits.
structure Digits (cs : List Char) : Prop where
  some  : cs ≠ []
  digit : ∀ c ∈ cs, c.isDigit

-- The parts of the text of a number. A fraction has its point and a power its mark and its sign.
structure NumberText where
  sign       : List Char
  whole      : List Char
  fraction   : List Char
  power      : List Char
  isSign     : sign = [] ∨ sign = ['-']
  isWhole    : Digits whole ∧ (whole.head? = some '0' → whole = ['0'])
  isFraction : fraction = [] ∨ ∃ ds, Digits ds ∧ fraction = '.' :: ds
  isPower    : power = [] ∨ ∃ c ds, (c = '+' ∨ c = '-') ∧ Digits ds ∧ power = 'e' :: c :: ds

def NumberText.chars (t : NumberText) : List Char :=
  t.sign ++ t.whole ++ t.fraction ++ t.power

theorem digits_toDigits (m : Nat) : Digits (Nat.toDigits 10 m) where
  some      := Nat.toDigits_ne_nil
  digit _ h := Nat.isDigit_of_mem_toDigits (by decide) (by decide) h

theorem head?_toDigits (m : Nat) :
    (Nat.toDigits 10 m).head? = some '0' → Nat.toDigits 10 m = ['0'] := by
  induction m using Nat.strong_induction_on
  case h m hi =>
    by_cases hm : m < 10
    case pos =>
      interval_cases m
      all_goals decide
    case neg =>
      intro h
      have hh : (Nat.toDigits 10 (m / 10)).head? = some '0' := by
        rwa [Nat.toDigits_of_base_le (by decide) (by omega), List.head?_append_of_ne_nil _
          Nat.toDigits_ne_nil] at h
      have hz := hi (m / 10) (by omega) hh
      have hv := congrArg (fun ds => Nat.ofDigitChars 10 ds 0) hz
      simp only [Nat.ofDigitChars_ten_toDigits] at hv
      have hv : m / 10 = 0 := hv
      omega

def NumberText.ofInt : Int → NumberText
  | .ofNat m   => ⟨[], Nat.toDigits 10 m, [], [], .inl rfl, ⟨digits_toDigits m, head?_toDigits m⟩, .inl rfl,
      .inl rfl⟩
  | .negSucc m => ⟨['-'], Nat.toDigits 10 (m + 1), [], [], .inr rfl,
      ⟨digits_toDigits _, head?_toDigits _⟩, .inl rfl, .inl rfl⟩

theorem render_int (n : Int) : Number.render (.int n) = (NumberText.ofInt n).chars := by
  cases n
  case ofNat m =>
    rw [render_ofNat]
    simp [NumberText.chars, NumberText.ofInt]
  case negSucc m =>
    rw [render_negSucc]
    simp [NumberText.chars, NumberText.ofInt]

theorem NumberText.exists_chars_eq (t : NumberText) :
    ∃ c cs, t.chars = c :: cs ∧ (c = '-' ∨ c.isDigit) := by
  have ⟨hw, _⟩ := t.isWhole
  have ⟨c, cs, hc⟩ := List.exists_cons_of_ne_nil hw.some
  rw [chars]
  obtain hs | hs := t.isSign
  case inl => exact ⟨c, cs ++ t.fraction ++ t.power, by simp [hs, hc], .inr (hw.digit c (by simp [hc]))⟩
  case inr => exact ⟨'-', t.whole ++ t.fraction ++ t.power, by simp [hs], .inl rfl⟩

end Numbers

end LanguageClient.Json
