import LanguageClient.Proofs.Json.RoundTrip

namespace LanguageClient.Json

inductive Blank : List Char → List Char → Prop
  | none {cs : List Char} : Blank cs cs
  | space {c : Char} {cs rest : List Char} (hc : isSpace c) (h : Blank cs rest) : Blank (c :: cs) rest

inductive Hex : List Char → Nat → Prop
  | nil : Hex [] 0
  | snoc {ds : List Char} {n : Nat} {d : Char} {k : Nat} (h : Hex ds n) (hd : hexValue? d = some k) :
    Hex (ds ++ [d]) (n * 16 + k)

inductive Short : Char → Char → Prop
  | quote     : Short '"' '"'
  | backslash : Short '\\' '\\'
  | slash     : Short '/' '/'
  | backspace : Short 'b' '\x08'
  | formFeed  : Short 'f' '\x0c'
  | lineFeed  : Short 'n' '\n'
  | carriage  : Short 'r' '\r'
  | tab       : Short 't' '\t'

def IsHigh (n : Nat) : Prop := 0xD800 ≤ n ∧ n ≤ 0xDBFF

def IsLow (n : Nat) : Prop := 0xDC00 ≤ n ∧ n ≤ 0xDFFF

-- A character of a string. Surrogates stand in pairs, a high one before a low one.
inductive Glyph : List Char → Char → List Char → Prop
  | plain {c : Char} {rest : List Char} (hq : c ≠ '"') (hb : c ≠ '\\') (hc : 32 ≤ c.toNat) :
    Glyph (c :: rest) c rest
  | short {x c : Char} {rest : List Char} (h : Short x c) : Glyph ('\\' :: x :: rest) c rest
  | unit {ds rest : List Char} {n : Nat} (h : Hex ds n) (hl : ds.length = 4) (hh : ¬IsHigh n) (hn : ¬IsLow n) :
    Glyph ('\\' :: 'u' :: (ds ++ rest)) (Char.ofNat n) rest
  | pair {ds es rest : List Char} {m n : Nat} (hd : Hex ds m) (hdl : ds.length = 4) (hm : IsHigh m)
      (he : Hex es n) (hel : es.length = 4) (hn : IsLow n) :
    Glyph ('\\' :: 'u' :: (ds ++ '\\' :: 'u' :: (es ++ rest)))
      (Char.ofNat ((m - 0xD800) * 1024 + (n - 0xDC00) + 0x10000)) rest

inductive Chars : List Char → List Char → List Char → Prop
  | nil {rest : List Char} : Chars ('"' :: rest) [] rest
  | cons {cs cs' t rest : List Char} {c : Char} (hc : Glyph cs c cs') (h : Chars cs' t rest) :
    Chars cs (c :: t) rest

inductive IsPower : List Char → Prop
  | none : IsPower []
  | some {e : Char} {sign ds : List Char} (he : Numeral.isMark e) (hs : sign = [] ∨ sign = ['+'] ∨ sign = ['-'])
      (hd : Digits ds) : IsPower (e :: (sign ++ ds))

inductive IsFraction : List Char → Prop
  | none {p : List Char} (hp : IsPower p) : IsFraction p
  | some {ds p : List Char} (hd : Digits ds) (hp : IsPower p) : IsFraction ('.' :: (ds ++ p))

inductive IsNumber : List Char → Prop
  | intro {sign ds p : List Char} (hs : sign = [] ∨ sign = ['-']) (hd : Digits ds)
      (hz : ds.head? = some '0' → ds = ['0']) (hp : IsFraction p) : IsNumber (sign ++ ds ++ p)

-- A number that is too large for a double has no value. What an integer is, is in its digits: `evaluates_int_iff`.
structure Evaluates (t : List Char) (x : Number) : Prop where
  isNumber : IsNumber t
  spells   : Spells t x

inductive Part
  | value (v : Json)
  | items (vs : List Json)
  | moreItems (vs : List Json)
  | members (ps : Members)
  | moreMembers (ps : Members)

-- A text begins with a part that holds at most so many containers inside one another.
inductive Derives : Nat → List Char → Part → List Char → Prop
  | null {n : Nat} {rest : List Char} : Derives n ('n' :: 'u' :: 'l' :: 'l' :: rest) (.value .null) rest
  | yes {n : Nat} {rest : List Char} : Derives n ('t' :: 'r' :: 'u' :: 'e' :: rest) (.value (.bool true)) rest
  | no {n : Nat} {rest : List Char} :
    Derives n ('f' :: 'a' :: 'l' :: 's' :: 'e' :: rest) (.value (.bool false)) rest
  | string {n : Nat} {cs t rest : List Char} (h : Chars cs t rest) :
    Derives n ('"' :: cs) (.value (.str (String.ofList t))) rest
  | number {n : Nat} {t rest : List Char} {x : Number} (h : Evaluates t x) :
    Derives n (t ++ rest) (.value (.num x)) rest
  | array {n : Nat} {cs rest : List Char} {vs : List Json} (h : Derives n cs (.items vs) rest) :
    Derives (n + 1) ('[' :: cs) (.value (.arr vs)) rest
  | object {n : Nat} {cs rest : List Char} {ps : Members} (h : Derives n cs (.members ps) rest) :
    Derives (n + 1) ('{' :: cs) (.value (.obj (Members.ofList ps))) rest
  | noItems {n : Nat} {cs rest : List Char} (h : Blank cs (']' :: rest)) : Derives n cs (.items []) rest
  | item {n : Nat} {cs cs₁ cs₂ rest : List Char} {v : Json} {vs : List Json} (hb : Blank cs cs₁)
      (hv : Derives n cs₁ (.value v) cs₂) (hr : Derives n cs₂ (.moreItems vs) rest) :
    Derives n cs (.items (v :: vs)) rest
  | lastItem {n : Nat} {cs rest : List Char} (h : Blank cs (']' :: rest)) : Derives n cs (.moreItems []) rest
  | nextItem {n : Nat} {cs cs₁ rest : List Char} {v : Json} {vs : List Json} (hb : Blank cs (',' :: cs₁))
      (h : Derives n cs₁ (.items (v :: vs)) rest) : Derives n cs (.moreItems (v :: vs)) rest
  | noMembers {n : Nat} {cs rest : List Char} (h : Blank cs ('}' :: rest)) : Derives n cs (.members []) rest
  | member {n : Nat} {cs cs₁ cs₂ cs₃ cs₄ cs₅ t rest : List Char} {v : Json} {ps : Members}
      (hb : Blank cs ('"' :: cs₁)) (ht : Chars cs₁ t cs₂) (hc : Blank cs₂ (':' :: cs₃))
      (hs : Blank cs₃ cs₄) (hv : Derives n cs₄ (.value v) cs₅) (hr : Derives n cs₅ (.moreMembers ps) rest) :
    Derives n cs (.members ((String.ofList t, v) :: ps)) rest
  | lastMember {n : Nat} {cs rest : List Char} (h : Blank cs ('}' :: rest)) : Derives n cs (.moreMembers []) rest
  | nextMember {n : Nat} {cs cs₁ rest : List Char} {p : String × Json} {ps : Members}
      (hb : Blank cs (',' :: cs₁)) (h : Derives n cs₁ (.members (p :: ps)) rest) :
    Derives n cs (.moreMembers (p :: ps)) rest

-- A text that stands for a value and for nothing else.
def Denotes (cs : List Char) (v : Json) : Prop :=
  ∃ cs₁ rest, Blank cs cs₁ ∧ Derives maxDepth cs₁ (.value v) rest ∧ Blank rest []

def Part.Sorted : Part → Prop
  | .value v                       => v.Sorted
  | .items vs | .moreItems vs      => SortedItems vs
  | .members ps | .moreMembers ps  => SortedMembers ps

theorem Derives.sorted {n : Nat} {cs rest : List Char} {p : Part} (h : Derives n cs p rest) : p.Sorted := by
  induction h
  case array hi  => rwa [Part.Sorted, Json.Sorted]
  case object hi =>
    rw [Part.Sorted, Json.Sorted]
    refine ⟨Members.ordered_ofList _, sortedMembers_iff.mpr fun p hp => ?_⟩
    exact sortedMembers_iff.mp hi p (Members.mem_ofList hp)
  case noItems | lastItem     => rw [Part.Sorted, SortedItems]; trivial
  case item hi hj             => rw [Part.Sorted, SortedItems]; exact ⟨hi, hj⟩
  case nextItem hi            => exact hi
  case noMembers | lastMember => rw [Part.Sorted, SortedMembers]; trivial
  case member hi hj           => rw [Part.Sorted, SortedMembers]; exact ⟨hi, hj⟩
  case nextMember hi          => exact hi
  all_goals simp [Part.Sorted, Json.Sorted]

theorem Denotes.sorted {cs : List Char} {v : Json} (h : Denotes cs v) : v.Sorted := by
  obtain ⟨_, _, _, hv, _⟩ := h
  exact hv.sorted

variable {s : State} {c : Char} {cs rest t ds : List Char} {stack : List Frame} {n k : Nat} {v : Json}

def Mode.isBetween : Mode → Bool
  | .value | .item _ | .key _ | .colon | .after | .finished _ => true
  | .literal _ _ | .string _ _ | .number _                    => false

theorem step_space (hm : s.mode.isBetween) (hc : isSpace c) : step s c = .ok s := by
  unfold Mode.isBetween at hm
  unfold step
  split
  case h_5 | h_6 => simp [afterStep, hc]
  all_goals simp_all

theorem reading_blank (hm : s.mode.isBetween) (h : Blank cs rest) : reading s cs = reading s rest := by
  induction h
  case none          => rfl
  case space hc _ hi => rw [reading_cons (step_space hm hc), hi]

section Strings

variable {isKey bad : Bool} {chars : List Char} {high : Option Nat} {bytes value : Nat} {q : Quoted}

theorem utf8Size_of_hexValue? (h : hexValue? c = some k) : c.utf8Size = 1 := by
  have hc : c.toNat ≤ 102 := by
    simp only [hexValue?, Bool.and_eq_true, decide_eq_true_eq] at h
    split_ifs at h
    all_goals omega
  rw [Char.utf8Size_eq_one_iff, UInt32.le_iff_toNat_le]
  exact Nat.le_trans hc (by decide)

theorem hexStep_of_hexValue? (h : hexValue? c = some k) :
    hexStep chars high bytes value bad c =
      if bytes + 1 < 4 then .ok ⟨chars, .hex high (bytes + 1) (value * 16 + k) bad⟩
      else if bad then .error (.invalidEscape, 4 - bytes)
      else hexDone chars high (value * 16 + k) := by
  simp [hexStep, h, utf8Size_of_hexValue? h]

theorem reading_hex (h : Hex ds n) (hl : ds.length < 4) :
    reading ⟨stack, .string isKey ⟨chars, .hex high 0 0 false⟩⟩ (ds ++ rest) =
    reading ⟨stack, .string isKey ⟨chars, .hex high ds.length n false⟩⟩ rest := by
  induction h generalizing rest
  case nil                   => rfl
  case snoc ds n d k _ hd hi =>
    rw [List.length_append, List.length_singleton] at hl
    rw [List.append_assoc, hi (by omega), List.length_append, List.length_singleton, List.singleton_append]
    apply reading_cons
    simp only [step, Quoted.step, hexStep_of_hexValue? hd, if_pos hl, Except.map]

theorem reading_hexes (h : Hex ds n) (hl : ds.length = 4) (hq : hexDone chars high n = .ok q) :
    reading ⟨stack, .string isKey ⟨chars, .hex high 0 0 false⟩⟩ (ds ++ rest) =
    reading ⟨stack, .string isKey q⟩ rest := by
  cases h
  case nil              => cases hl
  case snoc ds n d k h hd =>
    rw [List.length_append, List.length_singleton] at hl
    rw [List.append_assoc, reading_hex h (by omega), List.singleton_append]
    apply reading_cons
    simp only [step, Quoted.step, hexStep_of_hexValue? hd, hl, lt_irrefl, ↓reduceIte, Bool.false_eq_true, hq,
      Except.map]

theorem hexDone_high (h : IsHigh n) : hexDone chars none n = .ok ⟨chars, .highDone n⟩ := by
  have hl : ¬0xDC00 ≤ n := fun hl => absurd (Nat.le_trans hl h.right) (by decide)
  simp [hexDone, hl, h.left, h.right]

theorem hexDone_low (h : IsLow n) {m : Nat} : hexDone chars (some m) n =
    .ok ⟨Char.ofNat ((m - 0xD800) * 1024 + (n - 0xDC00) + 0x10000) :: chars, .none⟩ := by
  simp [hexDone, h.left, h.right]

theorem hexDone_other (hh : ¬IsHigh n) (hl : ¬IsLow n) :
    hexDone chars none n = .ok ⟨Char.ofNat n :: chars, .none⟩ := by
  simp only [IsHigh, IsLow] at hh hl
  simp [hexDone, hh, hl]

theorem reading_glyph (h : Glyph cs c rest) :
    reading ⟨stack, .string isKey ⟨chars, .none⟩⟩ cs =
    reading ⟨stack, .string isKey ⟨c :: chars, .none⟩⟩ rest := by
  cases h
  case plain hq hb hc =>
    apply reading_cons
    simp only [step, Quoted.step, if_neg hq, if_neg hb, if_neg (Nat.not_lt.mpr hc)]
  case short h =>
    rw [reading_cons rfl]
    cases h
    all_goals exact reading_cons rfl
  case unit h hl hh hn =>
    rw [reading_cons rfl, reading_cons rfl]
    exact reading_hexes h hl (hexDone_other hh hn)
  case pair hd hdl hm he hel hn =>
    rw [reading_cons rfl, reading_cons rfl, reading_hexes hd hdl (hexDone_high hm), reading_cons rfl,
      reading_cons rfl, reading_hexes he hel (hexDone_low hn)]

theorem reading_chars (h : Chars cs t rest) :
    reading ⟨stack, .string isKey ⟨chars, .none⟩⟩ cs =
    reading (endString stack isKey ⟨t.reverse ++ chars, .none⟩) rest := by
  induction h generalizing chars
  case nil            => exact reading_cons rfl
  case cons hc _ hi =>
    rw [reading_glyph hc, hi, List.reverse_cons, List.append_assoc, List.singleton_append]

theorem endString_key {ms : Members} {key : String} :
    endString (.object ms key :: stack) true ⟨t.reverse ++ [], .none⟩ =
    ⟨.object ms (String.ofList t) :: stack, .colon⟩ := by
  simp [endString]

end Strings

theorem ends_of_blank (h : Blank cs rest) (hr : Ends rest) : Ends cs := by
  cases h
  case none       => exact hr
  case space hc _ =>
    intro d hd
    cases hd
    simp [isEnd, hc]

theorem ends_cons (h : isEnd c) : Ends (c :: rest) := by
  intro d hd
  cases hd
  exact h

theorem Derives.ends_moreItems {vs : List Json} (h : Derives n cs (.moreItems vs) rest) : Ends cs := by
  cases h
  case lastItem h    => exact ends_of_blank h (ends_cons rfl)
  case nextItem hb _ => exact ends_of_blank hb (ends_cons rfl)

theorem Derives.ends_moreMembers {ps : Members} (h : Derives n cs (.moreMembers ps) rest) : Ends cs := by
  cases h
  case lastMember h    => exact ends_of_blank h (ends_cons rfl)
  case nextMember hb _ => exact ends_of_blank hb (ends_cons rfl)

theorem head_spelled {x : Number} (h : Spells t x) : ∃ c cs, t = c :: cs ∧ ¬isSpace c ∧ c ≠ ']' := by
  obtain ⟨c, cs, m, _, rfl, hc, _⟩ := h
  refine ⟨c, cs, rfl, number_head ?_⟩
  unfold Numeral.first? at hc
  split_ifs at hc with hs hd
  · exact .inl hs
  · exact .inr hd

theorem Derives.head_value (h : Derives n cs (.value v) rest) :
    ∃ c cs', cs = c :: cs' ∧ ¬isSpace c ∧ c ≠ ']' := by
  cases h
  case number h =>
    obtain ⟨c, cs, rfl, hc⟩ := head_spelled h.spells
    exact ⟨c, _, rfl, hc⟩
  all_goals exact ⟨_, _, rfl, by decide, by decide⟩

def addAll (ms : Members) (ps : Members) : Members :=
  ps.foldl (fun ms p => Members.insert p.1 p.2 ms) ms

-- From the mode in which a part is due, the machine comes to where the part is complete.
def Takes (n : Nat) (cs rest : List Char) : Part → Prop
  | .value v        => ∀ stack : List Frame, n + stack.length ≤ maxDepth → Ends rest →
      reading ⟨stack, .value⟩ cs = reading (put stack v) rest
  | .items vs       => ∀ (stack : List Frame) items first, n + (stack.length + 1) ≤ maxDepth →
      (vs = [] → first = true) →
      reading ⟨.array items :: stack, .item first⟩ cs = reading (put stack (.arr (items.reverse ++ vs))) rest
  | .moreItems vs   => ∀ (stack : List Frame) items, n + (stack.length + 1) ≤ maxDepth →
      reading ⟨.array items :: stack, .after⟩ cs = reading (put stack (.arr (items.reverse ++ vs))) rest
  | .members ps     => ∀ (stack : List Frame) ms key first, n + (stack.length + 1) ≤ maxDepth →
      (ps = [] → first = true) →
      reading ⟨.object ms key :: stack, .key first⟩ cs = reading (put stack (.obj (addAll ms ps))) rest
  | .moreMembers ps => ∀ (stack : List Frame) ms key, n + (stack.length + 1) ≤ maxDepth →
      reading ⟨.object ms key :: stack, .after⟩ cs = reading (put stack (.obj (addAll ms ps))) rest

theorem Derives.takes {p : Part} (h : Derives n cs p rest) : Takes n cs rest p := by
  induction h
  case null | yes | no =>
    intro stack _ _
    repeat rw [reading_cons rfl]
  case string n cs t rest h =>
    intro stack _ _
    rw [reading_cons rfl, reading_chars h]
    simp [endString]
  case number h =>
    intro stack _ hr
    exact reading_spelled h.spells hr
  case array hi =>
    intro stack hd _
    rw [reading_array (by omega), hi stack [] true (by omega) (fun _ => rfl)]
    rfl
  case object hi =>
    intro stack hd _
    rw [reading_object (by omega), hi stack [] "" true (by omega) (fun _ => rfl)]
    rfl
  case noItems h =>
    intro stack items first _ hf
    rw [reading_blank rfl h, hf rfl, List.append_nil]
    exact reading_cons rfl
  case item hb hv hr hi hj =>
    intro stack items first hd _
    -- The first character of a value can be taken neither for a blank nor for the end of the array.
    obtain ⟨c, cs, rfl, hc, he⟩ := hv.head_value
    rw [reading_blank rfl hb, reading_item hc he,
      hi (.array items :: stack) hd hr.ends_moreItems, put, hj stack _ hd, List.reverse_cons,
      List.append_assoc, List.singleton_append]
  case lastItem h =>
    intro stack items _
    rw [reading_blank rfl h, List.append_nil]
    exact reading_cons rfl
  case nextItem hb h hi =>
    intro stack items hd
    rw [reading_blank rfl hb, reading_cons rfl, hi stack items false hd (absurd · (List.cons_ne_nil _ _))]
  case noMembers h =>
    intro stack ms key first _ hf
    rw [reading_blank rfl h, hf rfl]
    exact reading_cons rfl
  case member hb ht hc hs hv hr hi hj =>
    intro stack ms key first hd _
    rw [reading_blank rfl hb, reading_cons rfl, reading_chars ht, endString_key, reading_blank rfl hc,
      reading_cons rfl, reading_blank rfl hs, hi (.object ms _ :: stack) hd hr.ends_moreMembers, put,
      hj stack _ _ hd]
    rfl
  case lastMember h =>
    intro stack ms key _
    rw [reading_blank rfl h]
    exact reading_cons rfl
  case nextMember hb h hi =>
    intro stack ms key hd
    rw [reading_blank rfl hb, reading_cons rfl, hi stack ms key false hd (absurd · (List.cons_ne_nil _ _))]

theorem reading_of_denotes (h : Denotes cs v) : reading start cs = .ok v := by
  obtain ⟨cs, rest, hb, hv, hr⟩ := h
  rw [start, reading_blank rfl hb, hv.takes [] (by simp) (ends_of_blank hr delimited_nil.ends), reading_blank rfl hr]
  rfl

end LanguageClient.Json
