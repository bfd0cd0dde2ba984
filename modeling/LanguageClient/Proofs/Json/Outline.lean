import LanguageClient.Json.Outline
import LanguageClient.Proofs.Json.RoundTrip

namespace LanguageClient.Json

variable {c : Char} {cs rest : List Char} {inside : List Bool} {n : Number} {j : Json} {k : String}

theorem passString?_plain (hq : c ≠ '"') (hb : c ≠ '\\') (h : ¬c.toNat < 32) :
    passString? (c :: cs) = passString? cs := by
  rw [passString?, if_neg h]
  · exact hq
  · exact fun _ _ _ _ _ h _ => hb h
  · exact fun _ _ h _ => hb h

theorem passString?_escape (c : Char) (cs : List Char) :
    passString? (escape c ++ cs) = passString? cs := by
  unfold escape
  split
  case h_8 hq hb _ _ _ _ _ =>
    split
    case isTrue h  =>
      have h₁ : c.toNat / 16 < 16 := by omega
      have h₂ : c.toNat % 16 < 16 := by omega
      have h₀ : (hexValue? '0').isSome := rfl
      simp only [List.cons_append, List.nil_append, passString?, List.all_cons, h₀, hexValue?_hexDigit _ h₁,
        hexValue?_hexDigit _ h₂]
      rfl
    case isFalse h => exact passString?_plain hq hb h
  all_goals rfl

theorem passString?_quoted (t : List Char) (cs : List Char) :
    passString? (t.flatMap escape ++ '"' :: cs) = some cs := by
  induction t
  case nil         => rfl
  case cons c t hi => rw [List.flatMap_cons, List.append_assoc, passString?_escape, hi]

theorem passDigits?_append {ds : List Char} (h : Digits ds) (hr : ∀ c ∈ rest.head?, ¬c.isDigit) :
    passDigits? (ds ++ rest) = some rest := by
  have ⟨c, cs, hc⟩ := List.exists_cons_of_ne_nil h.some
  have hd : ((ds ++ rest).head?.any Char.isDigit) = true := by
    rw [hc]
    exact h.digit c (by simp [hc])
  have hw : (ds ++ rest).dropWhile Char.isDigit = rest := by
    rw [List.dropWhile_append_of_pos h.digit]
    cases rest
    case nil      => rfl
    case cons c _ => exact List.dropWhile_cons_of_neg (hr c rfl)
  rw [passDigits?, if_pos hd, dropDigits, hw]

theorem not_isDigit_of_delimited (hr : Delimited rest) : ∀ c ∈ rest.head?, ¬c.isDigit := by
  intro c hc
  obtain rfl | rfl | rfl := hr c hc <;> decide

def dropSign (cs : List Char) : List Char :=
  if cs.head? = some '-' then cs.drop 1 else cs

def passWhole (next : List Char → Option (List Char)) (cs : List Char) : Option (List Char) :=
  match cs with
  | '0' :: rest => if rest.head?.any Char.isDigit then none else next rest
  | _           => (passDigits? cs).bind next

def passFraction (next : List Char → Option (List Char)) (cs : List Char) : Option (List Char) :=
  match cs with
  | '.' :: rest => (passDigits? rest).bind next
  | _           => next cs

def passPower? (cs : List Char) : Option (List Char) :=
  match cs with
  | 'e' :: rest | 'E' :: rest =>
    match rest with
    | '+' :: rest | '-' :: rest => passDigits? rest
    | _                         => passDigits? rest
  | _ => some cs

theorem passNumber?_eq (cs : List Char) :
    passNumber? cs = passWhole (passFraction passPower?) (dropSign cs) := by
  rfl

section Parts

variable {t : NumberText} {next : List Char → Option (List Char)}

theorem not_isDigit_power (hr : Delimited rest) :
    ∀ c ∈ (t.power ++ rest).head?, ¬c.isDigit := by
  obtain hp | ⟨c, ds, _, _, hp⟩ := t.isPower
  case inl => simpa [hp] using not_isDigit_of_delimited hr
  case inr => simp [hp]

theorem not_isDigit_fraction (hr : Delimited rest) :
    ∀ c ∈ (t.fraction ++ (t.power ++ rest)).head?, ¬c.isDigit := by
  obtain hf | ⟨ds, _, hf⟩ := t.isFraction
  case inl => simpa [hf] using not_isDigit_power hr
  case inr => simp [hf]

theorem dropSign_chars : dropSign (t.chars ++ rest) = t.whole ++ (t.fraction ++ (t.power ++ rest)) := by
  have ⟨hw, _⟩ := t.isWhole
  have ⟨c, cs, hc⟩ := List.exists_cons_of_ne_nil hw.some
  have hd : c ≠ '-' := fun h => absurd (h ▸ hw.digit c (by simp [hc])) (by decide)
  obtain hs | hs := t.isSign
  case inl => simp [dropSign, NumberText.chars, hs, hc, hd]
  case inr => simp [dropSign, NumberText.chars, hs]

theorem passWhole_append (hr : ∀ c ∈ rest.head?, ¬c.isDigit) :
    passWhole next (t.whole ++ rest) = next rest := by
  have ⟨hw, hz⟩ := t.isWhole
  have hd := passDigits?_append hw hr
  unfold passWhole
  split
  case h_1 cs he =>
    have ⟨c, ds, hc⟩ := List.exists_cons_of_ne_nil hw.some
    rw [hc] at hz
    have hc' : c = '0' := by
      rw [hc] at he
      exact (List.cons.inj he).left
    rw [hc, hz (by simp [hc'])] at he
    have hn : ¬(rest.head?.any Char.isDigit) = true := by
      cases rest
      case nil      => nofun
      case cons c _ => exact hr c rfl
    cases he
    exact if_neg hn
  case h_2 => rw [hd, Option.bind_some]

theorem passFraction_append (hr : Delimited rest) :
    passFraction next (t.fraction ++ (t.power ++ rest)) = next (t.power ++ rest) := by
  obtain hf | ⟨ds, hd, hf⟩ := t.isFraction
  case inr =>
    rw [hf, List.cons_append, passFraction, passDigits?_append hd (not_isDigit_power hr), Option.bind_some]
  case inl =>
    have hn : ∀ c ∈ (t.power ++ rest).head?, c ≠ '.' := by
      obtain hp | ⟨c, ds, _, _, hp⟩ := t.isPower
      case inr => simp [hp]
      case inl =>
        rw [hp, List.nil_append]
        intro c hc
        obtain rfl | rfl | rfl := hr c hc <;> decide
    rw [hf, List.nil_append]
    unfold passFraction
    split
    case h_1 he => exact absurd rfl (hn '.' (by rw [he]; rfl))
    case h_2    => rfl

theorem passPower?_append (hr : Delimited rest) : passPower? (t.power ++ rest) = some rest := by
  obtain hp | ⟨c, ds, hc, hd, hp⟩ := t.isPower
  case inl =>
    rw [hp, List.nil_append]
    unfold passPower?
    split
    case h_1 =>
      obtain h | h | h := hr _ rfl <;> exact absurd h (by decide)
    case h_2 =>
      obtain h | h | h := hr _ rfl <;> exact absurd h (by decide)
    case h_3 => rfl
  case inr =>
    have hd := passDigits?_append hd (not_isDigit_of_delimited hr)
    rw [hp]
    obtain rfl | rfl := hc
    all_goals exact hd

end Parts

theorem passNumber?_chars (t : NumberText) (hr : Delimited rest) :
    passNumber? (t.chars ++ rest) = some rest := by
  rw [passNumber?_eq, dropSign_chars, passWhole_append (not_isDigit_fraction hr), passFraction_append hr,
    passPower?_append hr]

theorem passScalar?_number (h : (Json.num n).Legible) (hr : Delimited rest) :
    passScalar? (Number.render n ++ rest) = some rest := by
  have ⟨t, ht⟩ := exists_render h
  have ⟨c, cs, hc, hd⟩ := t.exists_chars_eq
  have hn := passNumber?_chars t hr
  rw [ht]
  rw [hc, List.cons_append] at hn ⊢
  unfold passScalar?
  split
  case h_5 => exact hn
  all_goals
    next he =>
      rw [(List.cons.inj he).left] at hd
      exact absurd hd (by decide)

section Containers

variable {m : Nat}

theorem dropSpace_of_not_isSpace (h : ¬isSpace c) : dropSpace (c :: cs) = c :: cs :=
  List.dropWhile_cons_of_neg h

theorem passKey?_quote (k : String) (cs : List Char) : passKey? (quote k ++ ':' :: cs) = some cs := by
  have hd : dropSpace ('"' :: (k.toList.flatMap escape ++ '"' :: ':' :: cs)) =
      '"' :: (k.toList.flatMap escape ++ '"' :: ':' :: cs) := rfl
  simp only [quote, passKey?, List.cons_append, List.append_assoc, List.nil_append, hd,
    passString?_quoted]
  rfl

theorem passScalar?_quote (k : String) (cs : List Char) : passScalar? (quote k ++ cs) = some cs := by
  have hq := passString?_quoted k.toList cs
  simp only [quote, List.cons_append, List.append_assoc]
  exact hq

theorem passFrom_scalar (hs : ¬isSpace c) (ha : c ≠ '[') (ho : c ≠ '{')
    (h : passScalar? (c :: cs) = some rest) :
    passFrom (m + 1) true inside (c :: cs) = passFrom m false inside rest := by
  rw [passFrom, dropSpace_of_not_isSpace hs]
  split
  case h_1 he => exact absurd (List.cons.inj he).left ha
  case h_2 he => exact absurd (List.cons.inj he).left ho
  case h_3 => rw [h, Option.bind_some]

theorem passFrom_array (hs : ¬isSpace c) (hc : c ≠ ']') :
    passFrom (m + 1) true inside ('[' :: c :: cs) = passFrom m true (false :: inside) (c :: cs) := by
  have hd : dropSpace ('[' :: c :: cs) = '[' :: c :: cs := rfl
  rw [passFrom, hd]
  simp only [dropSpace_of_not_isSpace hs]
  split
  case h_1 he => exact absurd (List.cons.inj he).left hc
  case h_2    => rfl

theorem passFrom_object (k : String) (cs : List Char) :
    passFrom (m + 1) true inside ('{' :: (quote k ++ ':' :: cs)) =
    passFrom m true (true :: inside) cs := by
  have hk := passKey?_quote k cs
  have hd : dropSpace ('{' :: (quote k ++ ':' :: cs)) = '{' :: (quote k ++ ':' :: cs) := rfl
  have hq : dropSpace (quote k ++ ':' :: cs) = quote k ++ ':' :: cs := rfl
  rw [passFrom, hd]
  simp only [hq]
  split
  case h_1 he => exact absurd (List.cons.inj he).left (by decide)
  case h_2    => rw [hk, Option.bind_some]

theorem passFrom_key (k : String) (cs : List Char) :
    passFrom (m + 1) false (true :: inside) (',' :: (quote k ++ ':' :: cs)) =
    passFrom m true (true :: inside) cs := by
  have hk := passKey?_quote k cs
  have hd : dropSpace (',' :: (quote k ++ ':' :: cs)) = ',' :: (quote k ++ ':' :: cs) := rfl
  rw [passFrom, hd]
  simp only [if_true, hk, Option.bind_some]

mutual

-- A value is passed in no more steps than it has characters, whatever it stands in.
theorem exists_passFrom : ∀ {j : Json}, j.Legible → ∃ steps ≤ j.render.length,
    ∀ m inside rest, Delimited rest →
      passFrom (m + steps) true inside (j.render ++ rest) = passFrom m false inside rest
  | .null, _ => ⟨1, by simp [render], fun _ _ _ _ =>
      passFrom_scalar (by decide) (by decide) (by decide) rfl⟩
  | .bool true, _ => ⟨1, by simp [render], fun _ _ _ _ =>
      passFrom_scalar (by decide) (by decide) (by decide) rfl⟩
  | .bool false, _ => ⟨1, by simp [render], fun _ _ _ _ =>
      passFrom_scalar (by decide) (by decide) (by decide) rfl⟩
  | .num n, h => by
    have ⟨t, ht⟩ := exists_render h
    have ⟨c, cs, hc, hd⟩ := t.exists_chars_eq
    have hr : (Json.num n).render = c :: cs := by
      rw [render, ht, hc]
    have hs := number_head hd
    refine ⟨1, by simp [hr], fun m inside rest hl => ?_⟩
    have hp := passScalar?_number h hl
    rw [ht, hc, List.cons_append] at hp
    rw [hr, List.cons_append]
    refine passFrom_scalar hs.left ?_ ?_ hp
    all_goals
      rintro rfl
      exact absurd hd (by decide)
  | .str s, _ => by
    refine ⟨1, by simp [render, quote], fun m inside rest hl => ?_⟩
    have hq := passScalar?_quote s rest
    rw [render]
    exact passFrom_scalar (by decide) (by decide) (by decide) hq
  | .arr [], _ => ⟨1, by simp [render], fun _ _ _ _ => rfl⟩
  | .arr (j :: js), h => by
    rw [Legible, LegibleItems] at h
    have ⟨steps, hl, hp⟩ := exists_passFrom h.left
    have ⟨steps', hl', hp'⟩ := exists_passFrom_items h.right
    have ⟨c, cs, hc, hs, hb⟩ := render_head h.left
    -- One step for the bracket, then those of the first item, then those of the others.
    refine ⟨1 + steps + steps', ?_, fun m inside rest hr => ?_⟩
    · simp only [render, List.length_cons, List.length_append]
      omega
    · have ha : passFrom (m + steps' + steps + 1) true inside ('[' :: c :: (cs ++ (renderItems js ++ rest))) =
          passFrom (m + steps' + steps) true (false :: inside) (c :: (cs ++ (renderItems js ++ rest))) :=
        passFrom_array hs hb
      have hm : m + (1 + steps + steps') = m + steps' + steps + 1 := by omega
      rw [← List.cons_append, ← hc, hp _ _ _ renderItems_delimited, hp' _ _ _ hr] at ha
      rw [render, List.cons_append, List.cons_append, List.append_assoc, hm, ha]
  | .obj [], _ => ⟨1, by simp [render], fun _ _ _ _ => rfl⟩
  | .obj ((k, j) :: ms), h => by
    rw [Legible, LegibleMembers] at h
    have ⟨steps, hl, hp⟩ := exists_passFrom h.left
    have ⟨steps', hl', hp'⟩ := exists_passFrom_members h.right
    refine ⟨1 + steps + steps', ?_, fun m inside rest hr => ?_⟩
    · simp only [render, List.length_cons, List.length_append]
      omega
    · have hm : m + (1 + steps + steps') = m + steps' + steps + 1 := by omega
      simp only [render, List.cons_append, List.append_assoc]
      rw [hm, passFrom_object, hp _ _ _ renderMembers_delimited, hp' _ _ _ hr]

theorem exists_passFrom_items : ∀ {js : List Json}, LegibleItems js →
    ∃ steps ≤ (renderItems js).length, ∀ m inside rest, Delimited rest →
      passFrom (m + steps) false (false :: inside) (renderItems js ++ rest) = passFrom m false inside rest
  | [], _ => ⟨1, by simp [renderItems], fun _ _ _ _ => rfl⟩
  | j :: js, h => by
    rw [LegibleItems] at h
    have ⟨steps, hl, hp⟩ := exists_passFrom h.left
    have ⟨steps', hl', hp'⟩ := exists_passFrom_items h.right
    refine ⟨1 + steps + steps', ?_, fun m inside rest hr => ?_⟩
    · simp only [renderItems, List.length_cons, List.length_append]
      omega
    · have hm : m + (1 + steps + steps') = m + steps' + steps + 1 := by omega
      have hc : passFrom (m + steps' + steps + 1) false (false :: inside)
          (',' :: (j.render ++ (renderItems js ++ rest))) =
          passFrom (m + steps' + steps) true (false :: inside) (j.render ++ (renderItems js ++ rest)) := rfl
      rw [renderItems, List.cons_append, List.cons_append, List.append_assoc, hm, hc,
        hp _ _ _ renderItems_delimited, hp' _ _ _ hr]

theorem exists_passFrom_members : ∀ {ms : List (String × Json)}, LegibleMembers ms →
    ∃ steps ≤ (renderMembers ms).length, ∀ m inside rest, Delimited rest →
      passFrom (m + steps) false (true :: inside) (renderMembers ms ++ rest) = passFrom m false inside rest
  | [], _ => ⟨1, by simp [renderMembers], fun _ _ _ _ => rfl⟩
  | (k, j) :: ms, h => by
    rw [LegibleMembers] at h
    have ⟨steps, hl, hp⟩ := exists_passFrom h.left
    have ⟨steps', hl', hp'⟩ := exists_passFrom_members h.right
    refine ⟨1 + steps + steps', ?_, fun m inside rest hr => ?_⟩
    · simp only [renderMembers, List.length_cons, List.length_append]
      omega
    · have hm : m + (1 + steps + steps') = m + steps' + steps + 1 := by omega
      simp only [renderMembers, List.cons_append, List.append_assoc]
      rw [hm, passFrom_key, hp _ _ _ renderMembers_delimited, hp' _ _ _ hr]

end

theorem pass?_render (h : j.Legible) (hr : Delimited rest) : pass? (j.render ++ rest) = some rest := by
  have ⟨steps, hl, hp⟩ := exists_passFrom h
  have hc : steps ≤ 2 * (j.render ++ rest).length + 1 := by
    rw [List.length_append]
    omega
  have ⟨m, hm⟩ := Nat.exists_eq_add_of_le' hc
  have hm : 2 * (j.render ++ rest).length + 2 = m + 1 + steps := by omega
  rw [pass?, hm, hp _ _ _ hr]
  rfl

end Containers

def texts (ms : List (String × Json)) : List (String × String) :=
  ms.map fun (k, j) => (k, j.text)

theorem textBefore_append (cs rest : List Char) : textBefore (cs ++ rest) rest = String.ofList cs := by
  have hl : (cs ++ rest).length - rest.length = cs.length := by
    rw [List.length_append]
    omega
  rw [textBefore, hl, List.take_left]

theorem parse_quote (k : String) : parse (String.ofList (quote k)) = .ok (.str k) := by
  have hq : String.ofList (quote k) = (Json.str k).text := by
    rw [text, render]
  have he : (Json.str k).Exact := by simp [Exact]
  have hn : (Json.str k).normal = .str k := by simp [normal]
  rw [hq, parse_text he (by simp [depth]), hn]

theorem dropSpace_delimited (hr : Delimited rest) : dropSpace rest = rest := by
  cases rest
  case nil       => rfl
  case cons c cs =>
    refine dropSpace_of_not_isSpace ?_
    obtain rfl | rfl | rfl := hr c rfl <;> decide

-- What is found out about the first member of a text.
structure StartsWith (cs : List Char) (k : String) (j : Json) (rest : List Char) : Prop where
  opens    : ∃ more, dropSpace cs = '"' :: more ∧ ∃ afterKey, passString? more = some afterKey ∧
    parse (textBefore ('"' :: more) afterKey) = .ok (.str k) ∧
    passKey? ('"' :: more) = some (j.render ++ rest)
  passed   : pass? (j.render ++ rest) = some rest
  isText   : textBefore (j.render ++ rest) rest = j.text
  trimmed  : dropSpace rest = rest

theorem startsWith (hj : j.Legible) (hr : Delimited rest) (k : String) :
    StartsWith (quote k ++ ':' :: (j.render ++ rest)) k j rest where
  opens := by
    have hq : quote k ++ ':' :: (j.render ++ rest) =
        '"' :: (k.toList.flatMap escape ++ '"' :: ':' :: (j.render ++ rest)) := by
      simp only [quote, List.cons_append, List.append_assoc, List.nil_append]
    have hb := textBefore_append (quote k) (':' :: (j.render ++ rest))
    have hp := passKey?_quote k (j.render ++ rest)
    rw [hq] at hb hp ⊢
    exact ⟨_, rfl, _, passString?_quoted _ _, by rw [hb, parse_quote], hp⟩
  passed  := pass?_render hj hr
  isText  := textBefore_append _ _
  trimmed := dropSpace_delimited hr

theorem membersFrom_comma {m : Nat} (h : StartsWith cs k j (',' :: rest)) :
    membersFrom (m + 1) cs = (membersFrom m rest).map fun (ms, rest) => ((k, j.text) :: ms, rest) := by
  have ⟨more, hd, afterKey, hs, hk, hp⟩ := h.opens
  rw [membersFrom, hd]
  simp only [hs, Option.bind_eq_bind, Option.bind_some, hk, hp, h.passed, h.isText, h.trimmed]

theorem membersFrom_end {m : Nat} (h : StartsWith cs k j ('}' :: rest)) :
    membersFrom (m + 1) cs = some ([(k, j.text)], rest) := by
  have ⟨more, hd, afterKey, hs, hk, hp⟩ := h.opens
  rw [membersFrom, hd]
  simp only [hs, Option.bind_eq_bind, Option.bind_some, hk, hp, h.passed, h.isText, h.trimmed]
  rfl

theorem membersFrom_render {ms : List (String × Json)} {m : Nat} (hj : j.Legible) (h : LegibleMembers ms)
    (hm : ms.length < m) :
    membersFrom m (quote k ++ ':' :: (j.render ++ renderMembers ms)) =
      some (texts ((k, j) :: ms), []) := by
  obtain ⟨m, rfl⟩ := Nat.exists_eq_add_of_le' (Nat.one_le_of_lt hm)
  induction ms generalizing k j m
  case nil =>
    have hs : StartsWith _ k j ['}'] := startsWith hj (delimited_cons (.inr (.inr rfl))) k
    rw [renderMembers, membersFrom_end hs]
    rfl
  case cons p ms hi =>
    obtain ⟨k', j'⟩ := p
    rw [LegibleMembers] at h
    obtain ⟨m, rfl⟩ := Nat.exists_eq_add_of_le' (Nat.one_le_of_lt (Nat.lt_of_succ_lt_succ hm))
    have hs : StartsWith _ k j (',' :: (quote k' ++ ':' :: (j'.render ++ renderMembers ms))) :=
      startsWith hj (delimited_cons (.inl rfl)) k
    have hr := hi h.left h.right m (Nat.lt_of_succ_lt_succ hm) (k := k')
    simp only [renderMembers, List.cons_append, List.append_assoc]
    rw [membersFrom_comma hs, hr]
    rfl

theorem length_le_renderMembers (ms : List (String × Json)) : ms.length ≤ (renderMembers ms).length := by
  induction ms
  case nil => simp
  case cons p ms hi =>
    simp only [renderMembers, List.length_cons, List.length_append]
    omega

theorem outline?_text {ms : List (String × Json)} (h : LegibleMembers ms) :
    outline? (Json.obj ms).text = some (texts ms) := by
  cases ms
  case nil => rfl
  case cons p ms =>
    obtain ⟨k, j⟩ := p
    rw [LegibleMembers] at h
    have ht : (Json.obj ((k, j) :: ms)).text.toList =
        '{' :: (quote k ++ ':' :: (j.render ++ renderMembers ms)) := by
      simp only [text, String.toList_ofList, render, List.cons_append, List.append_assoc]
    have hd : dropSpace ('{' :: (quote k ++ ':' :: (j.render ++ renderMembers ms))) =
        '{' :: (quote k ++ ':' :: (j.render ++ renderMembers ms)) := rfl
    have hq : dropSpace (quote k ++ ':' :: (j.render ++ renderMembers ms)) =
        quote k ++ ':' :: (j.render ++ renderMembers ms) := rfl
    have hm := membersFrom_render (k := k) (m := (quote k ++ ':' :: (j.render ++ renderMembers ms)).length + 1)
      h.left h.right (by
        have hl := length_le_renderMembers ms
        simp only [List.length_append, List.length_cons]
        omega)
    rw [outline?, ht, hd]
    simp only [hq]
    split
    case h_1 he => exact absurd (List.cons.inj he).left (by decide)
    case h_2    =>
      rw [hm]
      rfl

@[simp] theorem legible_null : null.Legible := by simp [Legible]
@[simp] theorem legible_bool (b : Bool) : (bool b).Legible := by simp [Legible]
@[simp] theorem legible_int (n : Int) : (int n).Legible := by simp [int, Legible]
@[simp] theorem legible_str (s : String) : (str s).Legible := by simp [Legible]

theorem legible_arr {js : List Json} (h : ∀ j ∈ js, j.Legible) : (arr js).Legible := by
  rw [Legible]
  exact legibleItems_iff.mpr h

theorem legible_obj {ms : List (String × Json)} (h : ∀ p ∈ ms, p.2.Legible) : (obj ms).Legible := by
  rw [Legible]
  exact legibleMembers_iff.mpr h

theorem legible_object {pairs : List (String × Json)} (h : ∀ p ∈ pairs, p.2.Legible) :
    (object pairs).Legible :=
  legible_obj fun p hp => h p (Members.mem_ofList hp)

end LanguageClient.Json
