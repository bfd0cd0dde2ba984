import LanguageClient.Json.Outline
import LanguageClient.Proofs.Decimal.Range
import LanguageClient.Proofs.Json.Scalars
import LanguageClient.Proofs.Text.Lines

namespace LanguageClient

-- The double that is read from the text of a double. It is the nearest one or one that is close to it.
def Binary64.echo (x : Binary64) : Binary64 :=
  match Json.parse x.text with
  | .ok (.num (.float y)) => y
  | _                     => x

def Binary64.body (d : Nat) (k : Int) : List Char :=
  let digits := (toString d).toList
  let point : Int := digits.length + k
  let zeros (n : Int) := List.replicate n.toNat '0'
  if 0 ≤ k && point ≤ 16 then digits ++ zeros k ++ ['.', '0']
  else if 0 < point && point ≤ 16 then digits.take point.toNat ++ '.' :: digits.drop point.toNat
  else if -5 < point && point ≤ 0 then '0' :: '.' :: zeros (-point) ++ digits
  else
    let fraction := if digits.length = 1 then [] else '.' :: digits.drop 1
    let exponent := point - 1
    let shown := (if exponent < 0 then "e-" else "e+") ++ toString exponent.natAbs
    digits.take 1 ++ fraction ++ shown.toList

theorem Binary64.text_eq (x : Binary64) : x.text = (if x.isNegative then "-" else "") ++
    if x.parts.mantissa = 0 then "0.0" else String.ofList (body x.parts.shortest.1 x.parts.shortest.2) := by
  rw [text]
  split <;> rfl

namespace Json

structure FloatText where
  negative : Bool
  whole    : List Char
  places   : List Char
  power    : Option Int
  isWhole  : Digits whole ∧ (whole.head? = some '0' → whole = ['0'])
  isPlaces : ∀ c ∈ places, c.isDigit
  isFloat  : places ≠ [] ∨ power ≠ none

namespace FloatText

variable {t : FloatText}

def sign (negative : Bool) : List Char :=
  if negative then ['-'] else []

def fraction (ds : List Char) : List Char :=
  if ds = [] then [] else '.' :: ds

def mark (e : Int) : List Char :=
  'e' :: (if e < 0 then '-' else '+') :: Nat.toDigits 10 e.natAbs

def chars (t : FloatText) : List Char :=
  sign t.negative ++ t.whole ++ fraction t.places ++ (t.power.map mark).getD []

def significand (t : FloatText) : Nat :=
  Nat.ofDigitChars 10 (t.whole ++ t.places) 0

def exponent (t : FloatText) : Int :=
  t.power.getD 0 - t.places.length

def toNumberText (t : FloatText) : NumberText where
  sign       := sign t.negative
  whole      := t.whole
  fraction   := fraction t.places
  power      := (t.power.map mark).getD []
  isSign     := by
    rw [sign]
    split
    · exact .inr rfl
    · exact .inl rfl
  isWhole    := t.isWhole
  isFraction := by
    rw [fraction]
    split
    case isTrue    => exact .inl rfl
    case isFalse h => exact .inr ⟨t.places, ⟨h, t.isPlaces⟩, rfl⟩
  isPower    := by
    cases t.power
    case none   => exact .inl rfl
    case some e =>
      refine .inr ⟨_, _, ?_, digits_toDigits e.natAbs, rfl⟩
      split
      · exact .inr rfl
      · exact .inl rfl

-- The digits fit, and so does the power of ten, written and as it is meant.
structure Readable (t : FloatText) : Prop where
  fits   : t.significand < UInt64.size
  near   : ∀ e ∈ t.power, e.natAbs < 2147483648
  scaled : (Numeral.scaled t.significand.toUInt64.toFloat t.exponent).isSome

end FloatText

section Reading

variable {stack : List Frame} {rest ds : List Char} {c : Char} {n : Numeral} {negative : Bool} {s p : Nat}
  {e : Int}

theorem ofDigitChars_head (c : Char) (ds : List Char) (s : Nat) :
    Nat.ofDigitChars 10 (c :: ds) s = Nat.ofDigitChars 10 ds (Nat.ofDigitChars 10 [c] s) :=
  Nat.ofDigitChars_append (l := [c]) s

theorem grow?_digit (h : Nat.ofDigitChars 10 (c :: ds) n.significand < UInt64.size) :
    n.grow? c = some (Nat.ofDigitChars 10 [c] n.significand) := by
  have hs : n.significand * 10 + (c.toNat - 48) = Nat.ofDigitChars 10 [c] n.significand := by
    rw [Nat.ofDigitChars_cons, Nat.ofDigitChars_nil, Nat.mul_comm]
    rfl
  have hl : Nat.ofDigitChars 10 [c] n.significand < UInt64.size := by
    rw [ofDigitChars_head] at h
    exact Nat.lt_of_le_of_lt (Text.le_ofDigitChars _ ds) h
  simp only [Numeral.grow?, hs, if_pos hl]

theorem reading_integer (hd : ∀ c ∈ ds, c.isDigit) (h : Nat.ofDigitChars 10 ds s < UInt64.size) :
    reading ⟨stack, .number ⟨negative, s, e, .integer⟩⟩ (ds ++ rest) =
    reading ⟨stack, .number ⟨negative, Nat.ofDigitChars 10 ds s, e, .integer⟩⟩ rest := by
  induction ds generalizing s
  case nil          => rfl
  case cons c ds hi =>
    have hc : c.isDigit := hd c List.mem_cons_self
    have hg := grow?_digit (n := ⟨negative, s, e, .integer⟩) h
    rw [ofDigitChars_head] at h ⊢
    rw [← hi (fun c hc => hd c (List.mem_cons_of_mem _ hc)) h]
    apply reading_more
    simp only [Numeral.step, if_pos hc, hg]

theorem step_place (hp : n.phase = .point ∨ n.phase = .fraction) (hc : c.isDigit)
    (h : Nat.ofDigitChars 10 (c :: ds) n.significand < UInt64.size) : n.step c =
      .more ⟨n.negative, Nat.ofDigitChars 10 [c] n.significand, n.exponent - 1, .fraction⟩ := by
  have hf : n.step c = n.fractionDigit c := by
    obtain hp | hp := hp
    all_goals simp only [Numeral.step, hp, if_pos hc]
  rw [hf]
  unfold Numeral.fractionDigit
  rw [grow?_digit h]

theorem reading_places (hd : ∀ c ∈ ds, c.isDigit) (h : Nat.ofDigitChars 10 ds s < UInt64.size) :
    reading ⟨stack, .number ⟨negative, s, e, .fraction⟩⟩ (ds ++ rest) =
    reading ⟨stack, .number ⟨negative, Nat.ofDigitChars 10 ds s, e - ds.length, .fraction⟩⟩ rest := by
  induction ds generalizing s e
  case nil          => simp
  case cons c ds hi =>
    have hs := step_place (n := ⟨negative, s, e, .fraction⟩) (.inr rfl) (hd c List.mem_cons_self) h
    have he : e - ((c :: ds).length : Int) = e - 1 - ds.length := by
      rw [List.length_cons]
      omega
    rw [ofDigitChars_head] at h
    rw [he, ofDigitChars_head,
      ← hi (fun c hc => hd c (List.mem_cons_of_mem _ hc)) h]
    exact reading_more hs

theorem reading_power (hd : ∀ c ∈ ds, c.isDigit) (h : Nat.ofDigitChars 10 ds p < 2147483648) {b : Bool} :
    reading ⟨stack, .number ⟨negative, s, e, .power b p⟩⟩ (ds ++ rest) =
    reading ⟨stack, .number ⟨negative, s, e, .power b (Nat.ofDigitChars 10 ds p)⟩⟩ rest := by
  induction ds generalizing p
  case nil          => rfl
  case cons c ds hi =>
    have hc : c.isDigit := hd c List.mem_cons_self
    have hp : p * 10 + (c.toNat - 48) = Nat.ofDigitChars 10 [c] p := by
      rw [Nat.ofDigitChars_cons, Nat.ofDigitChars_nil, Nat.mul_comm]
      rfl
    rw [ofDigitChars_head] at h ⊢
    have hl := Nat.lt_of_le_of_lt (Text.le_ofDigitChars _ ds) h
    rw [← hi (fun c hc => hd c (List.mem_cons_of_mem _ hc)) h]
    apply reading_more
    simp only [Numeral.step, if_pos hc, Numeral.powerDigit, hp, if_pos hl]

theorem reading_first (hc : c.isDigit) : reading ⟨stack, .value⟩ (FloatText.sign negative ++ c :: rest) =
    reading ⟨stack, .number (Numeral.ofDigit negative c)⟩ rest := by
  obtain ⟨d, hd, rfl⟩ := exists_digitChar hc
  cases negative
  case false => exact reading_cons (step_digit d hd)
  case true  => exact (reading_cons rfl).trans (reading_cons (step_digit_of_sign d hd))

def begun (negative : Bool) (ws : List Char) : Numeral :=
  ⟨negative, Nat.ofDigitChars 10 ws 0, 0, if ws = ['0'] then .zero else .integer⟩

theorem reading_whole (hw : Digits ds) (hz : ds.head? = some '0' → ds = ['0'])
    (h : Nat.ofDigitChars 10 ds 0 < UInt64.size) :
    reading ⟨stack, .value⟩ (FloatText.sign negative ++ ds ++ rest) =
    reading ⟨stack, .number (begun negative ds)⟩ rest := by
  obtain ⟨c, ds, rfl⟩ := List.exists_cons_of_ne_nil hw.some
  rw [List.append_assoc, List.cons_append, reading_first (hw.digit c List.mem_cons_self)]
  have hs : c.toNat - 48 = Nat.ofDigitChars 10 [c] 0 := by simp [Nat.ofDigitChars]
  by_cases hc : c = '0'
  case pos =>
    have hz := hz (congrArg some hc)
    rw [List.cons_eq_cons] at hz
    rw [hz.left, hz.right]
    rfl
  case neg =>
    have hn : c :: ds ≠ ['0'] := fun he => hc (List.cons_eq_cons.mp he).left
    rw [Numeral.ofDigit, begun, if_neg hc, if_neg hn, hs]
    rw [ofDigitChars_head] at h ⊢
    exact reading_integer (fun c hc => hw.digit c (List.mem_cons_of_mem _ hc)) h

def placed (n : Numeral) (ds : List Char) : Numeral :=
  if ds = [] then n else ⟨n.negative, Nat.ofDigitChars 10 ds n.significand, n.exponent - ds.length, .fraction⟩

theorem reading_fraction (hp : n.phase = .zero ∨ n.phase = .integer) (hd : ∀ c ∈ ds, c.isDigit)
    (h : Nat.ofDigitChars 10 ds n.significand < UInt64.size) :
    reading ⟨stack, .number n⟩ (FloatText.fraction ds ++ rest) =
    reading ⟨stack, .number (placed n ds)⟩ rest := by
  cases ds
  case nil       => rfl
  case cons c ds =>
    have hpoint : n.step '.' = .more { n with phase := .point } := by
      obtain hp | hp := hp
      all_goals
        rw [Numeral.step, hp]
        rfl
    have hs := step_place (n := { n with phase := .point }) (.inl rfl) (hd c List.mem_cons_self) h
    have he : n.exponent - ((c :: ds).length : Int) = n.exponent - 1 - ds.length := by
      rw [List.length_cons]
      omega
    rw [FloatText.fraction, placed, if_neg (List.cons_ne_nil c ds), if_neg (List.cons_ne_nil c ds), he]
    rw [ofDigitChars_head] at h
    rw [ofDigitChars_head,
      ← reading_places (fun c hc => hd c (List.mem_cons_of_mem _ hc)) h]
    exact (reading_more hpoint).trans (reading_more hs)

theorem reading_mark (hp : n.phase = .zero ∨ n.phase = .integer ∨ n.phase = .fraction)
    (h : e.natAbs < 2147483648) :
    reading ⟨stack, .number n⟩ (FloatText.mark e ++ rest) =
    reading ⟨stack, .number { n with phase := .power (e < 0) e.natAbs }⟩ rest := by
  have hmark : n.step 'e' = .more { n with phase := .mark } := by
    obtain hp | hp | hp := hp
    all_goals
      rw [Numeral.step, hp]
      rfl
  have hsign : Numeral.step { n with phase := .mark } (if e < 0 then '-' else '+') =
      .more { n with phase := .markSign (e < 0) } := by
    by_cases he : e < 0
    all_goals simp [Numeral.step, he]
  have hd := digits_toDigits e.natAbs
  have hv : Nat.ofDigitChars 10 (Nat.toDigits 10 e.natAbs) 0 = e.natAbs := Nat.ofDigitChars_ten_toDigits
  obtain ⟨c, ds, hds⟩ := List.exists_cons_of_ne_nil hd.some
  have hfirst : Numeral.step { n with phase := .markSign (e < 0) } c =
      .more { n with phase := .power (e < 0) (Nat.ofDigitChars 10 [c] 0) } := by
    have hc : c.isDigit := hd.digit c (hds ▸ List.mem_cons_self)
    simp [Numeral.step, hc, Nat.ofDigitChars]
  rw [hds, ofDigitChars_head] at hv
  rw [FloatText.mark, hds, List.cons_append, List.cons_append, List.cons_append, ← hv,
    ← reading_power (fun c hc => hd.digit c (hds ▸ List.mem_cons_of_mem _ hc)) (by rwa [hv])]
  exact (reading_more hmark).trans ((reading_more hsign).trans (reading_more hfirst))

end Reading

namespace FloatText

variable {t : FloatText} {stack : List Frame} {rest : List Char}

def afterPlaces (t : FloatText) : Numeral :=
  placed (begun t.negative t.whole) t.places

def numeral (t : FloatText) : Numeral :=
  match t.power with
  | none   => t.afterPlaces
  | some e => { t.afterPlaces with phase := .power (e < 0) e.natAbs }

theorem phase_begun (negative : Bool) (ws : List Char) :
    (begun negative ws).phase = .zero ∨ (begun negative ws).phase = .integer := by
  rw [begun]
  split
  · exact .inl rfl
  · exact .inr rfl

theorem phase_afterPlaces (t : FloatText) :
    t.afterPlaces.phase = .zero ∨ t.afterPlaces.phase = .integer ∨ t.afterPlaces.phase = .fraction := by
  rw [afterPlaces, placed]
  split
  case isTrue  => exact (phase_begun t.negative t.whole).imp_right .inl
  case isFalse => exact .inr (.inr rfl)

theorem significand_afterPlaces (t : FloatText) : t.afterPlaces.significand = t.significand := by
  rw [significand, Nat.ofDigitChars_append, afterPlaces, placed]
  split
  case isTrue h  => rw [h]; rfl
  case isFalse h => rfl

theorem exponent_afterPlaces (t : FloatText) : t.afterPlaces.exponent = -t.places.length := by
  rw [afterPlaces, placed]
  split
  case isTrue h  => rw [h]; rfl
  case isFalse h => exact Int.zero_sub _

theorem significand_numeral (t : FloatText) : t.numeral.significand = t.significand := by
  rw [numeral]
  split
  all_goals exact significand_afterPlaces t

theorem reading_chars (h : t.Readable) :
    reading ⟨stack, .value⟩ (t.chars ++ rest) = reading ⟨stack, .number t.numeral⟩ rest := by
  have hs := h.fits
  rw [significand, Nat.ofDigitChars_append] at hs
  have hw := Nat.lt_of_le_of_lt (Text.le_ofDigitChars _ t.places) hs
  have hp : reading ⟨stack, .number t.afterPlaces⟩ ((t.power.map mark).getD [] ++ rest) =
      reading ⟨stack, .number t.numeral⟩ rest := by
    rw [numeral]
    cases hp : t.power
    case none   => rfl
    case some e => exact reading_mark (phase_afterPlaces t) (h.near e hp)
  rw [chars, List.append_assoc, List.append_assoc, reading_whole t.isWhole.left t.isWhole.right hw,
    reading_fraction (phase_begun _ _) t.isPlaces hs]
  exact hp

theorem isComplete_numeral (t : FloatText) : t.numeral.isComplete := by
  rw [numeral]
  split
  case h_1 =>
    obtain h | h | h := phase_afterPlaces t
    all_goals
      rw [Numeral.isComplete, h]
  case h_2 => rfl

theorem value_numeral (t : FloatText) : t.numeral.value = t.numeral.double t.exponent := by
  have hf := t.isFloat
  rw [numeral, exponent]
  cases hp : t.power
  case none   =>
    have hn : t.places ≠ [] := hf.resolve_right fun h => h hp
    have he : (0 : Int) - t.places.length = t.afterPlaces.exponent := by
      rw [exponent_afterPlaces, Int.zero_sub]
    have hz : t.afterPlaces.phase = .fraction := by
      rw [afterPlaces, placed, if_neg hn]
    simp only [Option.getD_none, he, Numeral.value, hz]
  case some e =>
    have he : e - t.places.length = t.afterPlaces.exponent + if e < 0 then -(e.natAbs : Int) else e.natAbs := by
      rw [exponent_afterPlaces]
      split <;> omega
    simp only [Option.getD_some, he, Numeral.value, decide_eq_true_eq]

theorem exists_ended (h : t.Readable) : ∃ y, Ended t.numeral (.float y) := by
  obtain ⟨f, hf⟩ := Option.isSome_iff_exists.mp h.scaled
  have hv : t.numeral.value = some (.float (Binary64.ofFloat (if t.numeral.negative then -f else f))) := by
    rw [value_numeral, Numeral.double, significand_numeral, hf]
    rfl
  exact ⟨_, isComplete_numeral t, hv⟩

def Shows (negative : Bool) (body : List Char) : Prop :=
  ∃ t : FloatText, t.Readable ∧ t.chars = sign negative ++ body

variable {d : Nat} {k : Int} {negative : Bool}

theorem head?_toDigits_ne (hd : d ≠ 0) : (Nat.toDigits 10 d).head? ≠ some '0' := by
  intro h
  have hv := congrArg (fun ds => Nat.ofDigitChars 10 ds 0) (head?_toDigits d h)
  rw [Nat.ofDigitChars_ten_toDigits] at hv
  exact hd hv

theorem lt_size {n : Nat} (h : n < 10 ^ 18) : n < UInt64.size :=
  Nat.lt_trans h (by decide)

theorem shows_positional (ws ps : List Char) (hw : Digits ws) (hz : ws.head? = some '0' → ws = ['0'])
    (hp : ∀ c ∈ ps, c.isDigit) (hn : ps ≠ []) (hl : Nat.ofDigitChars 10 (ws ++ ps) 0 < 10 ^ 18) :
    Shows negative (ws ++ '.' :: ps) := by
  have hlen := List.length_pos_iff.mpr hn
  have he : (0 : Int) - ps.length < 0 := by omega
  refine ⟨⟨negative, ws, ps, none, ⟨hw, hz⟩, hp, .inl hn⟩,
    ⟨lt_size hl, by simp, Binary64.scaled_of_neg he⟩, ?_⟩
  simp [chars, fraction, hn]

theorem isDigit_replicate {n : Nat} {c : Char} (h : c ∈ List.replicate n '0') : c.isDigit := by
  rw [List.eq_of_mem_replicate h]
  rfl

theorem shows_zero (negative : Bool) : Shows negative ['0', '.', '0'] :=
  shows_positional ['0'] ['0'] ⟨by simp, by simp⟩ (fun _ => rfl) (by simp) (by simp)
    (by decide)

theorem shows_whole (hd : d ≠ 0) (hk : 0 ≤ k) (hp : (Nat.toDigits 10 d).length + k ≤ 16) :
    Shows negative (Nat.toDigits 10 d ++ List.replicate k.toNat '0' ++ ['.', '0']) := by
  refine shows_positional _ ['0'] ⟨by simp, fun c hc => ?_⟩ (fun h => ?_) (by simp) (by simp) ?_
  case refine_1 =>
    exact (List.mem_append.mp hc).elim ((digits_toDigits d).digit c) isDigit_replicate
  case refine_2 =>
    rw [List.head?_append_of_ne_nil _ Nat.toDigits_ne_nil] at h
    exact absurd h (head?_toDigits_ne hd)
  case refine_3 =>
    have hv : Nat.ofDigitChars 10 (Nat.toDigits 10 d ++ List.replicate k.toNat '0' ++ ['0']) 0 =
        10 ^ (k.toNat + 1) * d := by
      have h0 : ['0'] = List.replicate 1 '0' := rfl
      rw [h0, List.append_assoc, List.replicate_append_replicate, Nat.ofDigitChars_append,
        Nat.ofDigitChars_ten_toDigits, Nat.ofDigitChars_replicate_zero]
    have hl : d < 10 ^ (Nat.toDigits 10 d).length :=
      (Nat.length_toDigits_le_iff (by decide) Nat.length_toDigits_pos).mp (Nat.le_refl _)
    rw [hv]
    calc 10 ^ (k.toNat + 1) * d
      _ < 10 ^ (k.toNat + 1) * 10 ^ (Nat.toDigits 10 d).length :=
        Nat.mul_lt_mul_of_pos_left hl (Nat.pow_pos (by decide))
      _ = 10 ^ (k.toNat + 1 + (Nat.toDigits 10 d).length) := (Nat.pow_add ..).symm
      _ ≤ 10 ^ 18 := Nat.pow_le_pow_right (by decide) (by omega)

theorem shows_point (hd : d ≠ 0) (hl : d < 10 ^ 18) (hk : k < 0) (hp : 0 < (Nat.toDigits 10 d).length + k) :
    Shows negative ((Nat.toDigits 10 d).take ((Nat.toDigits 10 d).length + k).toNat ++
      '.' :: (Nat.toDigits 10 d).drop ((Nat.toDigits 10 d).length + k).toNat) := by
  have hw := digits_toDigits d
  obtain ⟨n, hn⟩ : ∃ n, ((Nat.toDigits 10 d).length + k).toNat = n + 1 :=
    ⟨((Nat.toDigits 10 d).length + k).toNat - 1, by omega⟩
  rw [hn]
  refine shows_positional _ _ ⟨?_, fun c hc => hw.digit c (List.mem_of_mem_take hc)⟩ (fun h => ?_)
    (fun c hc => hw.digit c (List.mem_of_mem_drop hc)) ?_ ?_
  case refine_1 => simp
  case refine_2 =>
    rw [List.head?_take, if_neg (Nat.succ_ne_zero n)] at h
    exact absurd h (head?_toDigits_ne hd)
  case refine_3 =>
    rw [Ne, List.drop_eq_nil_iff]
    omega
  case refine_4 => rwa [List.take_append_drop, Nat.ofDigitChars_ten_toDigits]

theorem shows_small (hl : d < 10 ^ 18) (n : Nat) :
    Shows negative (['0'] ++ '.' :: (List.replicate n '0' ++ Nat.toDigits 10 d)) := by
  refine shows_positional _ _ ⟨by simp, by simp⟩ (fun _ => rfl) (fun c hc => ?_) (by simp) ?_
  case refine_1 =>
    exact (List.mem_append.mp hc).elim isDigit_replicate ((digits_toDigits d).digit c)
  case refine_2 =>
    have h0 : ['0'] = List.replicate 1 '0' := rfl
    rwa [← List.append_assoc, h0, List.replicate_append_replicate, Nat.ofDigitChars_append,
      Nat.ofDigitChars_replicate_zero, Nat.mul_zero, Nat.ofDigitChars_ten_toDigits]

theorem shows_power (hd : d ≠ 0) (hl : d < 10 ^ 18) (hk : k.natAbs ≤ 400)
    (hs : (Numeral.scaled d.toUInt64.toFloat k).isSome) :
    Shows negative ((Nat.toDigits 10 d).take 1 ++
      (if (Nat.toDigits 10 d).length = 1 then [] else '.' :: (Nat.toDigits 10 d).drop 1) ++
      mark ((Nat.toDigits 10 d).length + k - 1)) := by
  have hw := digits_toDigits d
  have hlen := (Nat.length_toDigits_le_iff (b := 10) (by decide) (by decide)).mpr hl
  have hpos := Nat.length_toDigits_pos (b := 10) (n := d)
  have hh : ((Nat.toDigits 10 d).take 1).head? = some '0' → (Nat.toDigits 10 d).take 1 = ['0'] := by
    intro h
    rw [List.head?_take, if_neg (by decide)] at h
    exact absurd h (head?_toDigits_ne hd)
  have ht : (Nat.toDigits 10 d).take 1 ≠ [] := by simp
  refine ⟨⟨negative, (Nat.toDigits 10 d).take 1, (Nat.toDigits 10 d).drop 1,
    some ((Nat.toDigits 10 d).length + k - 1), ⟨⟨ht, fun c hc => hw.digit c (List.mem_of_mem_take hc)⟩, hh⟩,
    fun c hc => hw.digit c (List.mem_of_mem_drop hc), .inr (by simp)⟩, ⟨?_, ?_, ?_⟩, ?_⟩
  case refine_1 =>
    rw [significand, List.take_append_drop, Nat.ofDigitChars_ten_toDigits]
    exact lt_size hl
  case refine_2 =>
    intro e he
    obtain rfl := Option.some.inj he
    omega
  case refine_3 =>
    have he : (Nat.toDigits 10 d).length + k - 1 - ((Nat.toDigits 10 d).drop 1).length = k := by
      rw [List.length_drop]
      omega
    rw [significand, List.take_append_drop, Nat.ofDigitChars_ten_toDigits, exponent, Option.getD_some, he]
    exact hs
  case refine_4 =>
    have hf : fraction ((Nat.toDigits 10 d).drop 1) =
        if (Nat.toDigits 10 d).length = 1 then [] else '.' :: (Nat.toDigits 10 d).drop 1 := by
      have hc : (Nat.toDigits 10 d).drop 1 = [] ↔ (Nat.toDigits 10 d).length = 1 := by
        rw [List.drop_eq_nil_iff]
        omega
      simp only [fraction, hc]
    rw [← hf]
    simp [chars]

end FloatText

variable {x : Binary64} {n : Number} {stack : List Frame} {rest : List Char}

theorem toList_mark (e : Int) :
    ((if e < 0 then "e-" else "e+") ++ toString e.natAbs).toList = FloatText.mark e := by
  have ht : (toString e.natAbs).toList = Nat.toDigits 10 e.natAbs := Nat.toList_repr
  rw [String.toList_append, ht, FloatText.mark]
  split <;> rfl

theorem shows_body {d : Nat} {k : Int} (negative : Bool) (hd : d ≠ 0) (hl : d < 10 ^ 18) (hk : k.natAbs ≤ 400)
    (hs : (Numeral.scaled d.toUInt64.toFloat k).isSome) : FloatText.Shows negative (Binary64.body d k) := by
  have ht : (toString d).toList = Nat.toDigits 10 d := Nat.toList_repr
  simp only [Binary64.body, ht, toList_mark, Bool.and_eq_true, decide_eq_true_eq]
  split
  case isTrue h => exact FloatText.shows_whole hd h.left h.right
  case isFalse h₁ =>
    split
    case isTrue h => exact FloatText.shows_point hd hl (by omega) h.left
    case isFalse h₂ =>
      split
      case isTrue h => exact FloatText.shows_small hl _
      case isFalse  => exact FloatText.shows_power hd hl hk hs

theorem shows_text (hx : x.isFinite) : ∃ t : FloatText, t.Readable ∧ Number.render (.float x) = t.chars := by
  have hs : (if x.isNegative then "-" else "").toList = FloatText.sign x.isNegative := by
    rw [FloatText.sign]
    split <;> rfl
  rw [Number.render, Binary64.text_eq, String.toList_append, hs]
  split
  case isTrue    =>
    have ⟨t, ht, hc⟩ := FloatText.shows_zero x.isNegative
    exact ⟨t, ht, hc.symm⟩
  case isFalse h =>
    have hf := Binary64.finite_parts hx h
    have hd := Binary64.digits_shortest hf
    have ⟨t, ht, hc⟩ := shows_body x.isNegative hd.pos hd.fits hd.near (Binary64.scaled_shortest hf)
    rw [String.toList_ofList]
    exact ⟨t, ht, hc.symm⟩

theorem reading_float (hx : x.isFinite) (hr : Delimited rest) :
    reading ⟨stack, .value⟩ (Number.render (.float x) ++ rest) =
    reading (put stack (.num (.float x.echo))) rest := by
  have ⟨t, ht, hc⟩ := shows_text hx
  have ⟨y, hy⟩ := FloatText.exists_ended ht
  have he : x.echo = y := by
    have hp : parse x.text = .ok (.num (.float y)) := by
      have hc : x.text.toList = t.chars ++ [] := by rwa [List.append_nil]
      refine parse_eq_ok ?_
      rw [hc, start, FloatText.reading_chars ht, reading_number hy delimited_nil.ends]
      rfl
    rw [Binary64.echo, hp]
  rw [hc, FloatText.reading_chars ht, reading_number hy hr.ends, he]

theorem exists_render_float (hx : x.isFinite) : ∃ t : NumberText, Number.render (.float x) = t.chars := by
  have ⟨t, _, hc⟩ := shows_text hx
  exact ⟨t.toNumberText, hc⟩

end Json
end LanguageClient
