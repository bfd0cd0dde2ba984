import LanguageClient.Uri.Reference
import Mathlib.Data.List.TakeWhile

namespace LanguageClient.Uri.Reference

variable {c : Char} {cs front rest : List Char} {i : Nat} {allowed : Char → Bool}

def isPrinted (c : Char) : Bool :=
  32 < c.toNat && c.toNat < 127 && !"<>\\".toList.contains c

-- The printed characters that a reference may not have outside of an address.
def isBarred (c : Char) : Bool :=
  "\"[]^`\x7b|\x7d".toList.contains c

def escapesFit : List Char → Bool
  | []        => true
  | c :: rest =>
    (c ≠ '%' || (rest.length ≥ 2 && (rest.take 2).all fun d => (hexValue? d).isSome)) && escapesFit rest

-- What a text of printed characters needs to be read as the rest of a reference.
structure Tidy (cs : List Char) : Prop where
  clear   : ∀ c ∈ cs, ¬isBarred c
  escapes : escapesFit cs
  marks   : cs.count '#' ≤ 1

theorem of_ascii {p : Char → Prop} (h : ∀ n < 128, p (Char.ofNat n)) (hc : c.toNat < 128) : p c :=
  Char.ofNat_toNat c ▸ h c.toNat hc

theorem isQueryChar_cases (h : isPrinted c) : isQueryChar c ∨ isBarred c ∨ c = '#' ∨ c = '%' := by
  have hc : c.toNat < 128 := by
    simp [isPrinted] at h
    omega
  exact of_ascii (p := fun c => isPrinted c → isQueryChar c ∨ isBarred c ∨ c = '#' ∨ c = '%')
    (by decide) hc h

theorem not_isBarred_of_isQueryChar (h : isQueryChar c) : ¬isBarred c := by
  have hb : "\"[]^`\x7b|\x7d".toList.all fun d => !isQueryChar d := by decide
  intro hc
  have hn := List.all_eq_true.mp hb c (List.contains_iff_mem.mp hc)
  simp [h] at hn

theorem ne_of_isQueryChar (h : isQueryChar c) : c ≠ '#' ∧ c ≠ '%' := by
  constructor
  all_goals
    rintro rfl
    exact absurd h (by decide)

theorem isQueryChar_of_isPathChar (h : isPathChar c) : isQueryChar c := by
  simp [isQueryChar, h]

theorem isPathChar_of_isUserChar (h : isUserChar c) : isPathChar c := by
  simp [isPathChar, h]

theorem isQueryChar_of_hexValue? (h : (hexValue? c).isSome) : isQueryChar c := by
  have hc : c.toNat < 128 := by
    simp only [hexValue?] at h
    grind
  exact of_ascii (p := fun c => (hexValue? c).isSome → isQueryChar c) (by decide) hc h

-- The text `front` is passed over in front of `rest`.
structure Passed (allowed : Char → Bool) (cs front rest : List Char) : Prop where
  split   : cs = front ++ rest
  allows  : ∀ c ∈ front, allowed c ∨ c = '%' ∨ (hexValue? c).isSome
  escapes : escapesFit cs = escapesFit rest
  stops   : ∀ c ∈ rest.head?, ¬allowed c ∧ c ≠ '%'

theorem Passed.refl (h : ∀ c ∈ cs.head?, ¬allowed c ∧ c ≠ '%') : Passed allowed cs [] cs :=
  ⟨rfl, nofun, rfl, h⟩

theorem Passed.cons (h : Passed allowed cs front rest) (ha : allowed c) (hc : c ≠ '%') :
    Passed allowed (c :: cs) (c :: front) rest where
  split   := by rw [h.split, List.cons_append]
  allows  := List.forall_mem_cons.mpr ⟨.inl ha, h.allows⟩
  escapes := by simp [escapesFit, hc, h.escapes]
  stops   := h.stops

theorem Passed.escape {a b : Char} (h : Passed allowed cs front rest) (ha : (hexValue? a).isSome)
    (hb : (hexValue? b).isSome) :
    Passed allowed ('%' :: a :: b :: cs) ('%' :: a :: b :: front) rest where
  split   := by rw [h.split]; rfl
  allows  := by
    refine List.forall_mem_cons.mpr ⟨.inr (.inl rfl), List.forall_mem_cons.mpr ⟨.inr (.inr ha), ?_⟩⟩
    exact List.forall_mem_cons.mpr ⟨.inr (.inr hb), h.allows⟩
  escapes := by
    have ha' := (ne_of_isQueryChar (isQueryChar_of_hexValue? ha)).right
    have hb' := (ne_of_isQueryChar (isQueryChar_of_hexValue? hb)).right
    simp [escapesFit, ha, hb, ha', hb', h.escapes]
  stops   := h.stops

theorem skip_cases (allowed : Char → Bool) (i : Nat) (cs : List Char) :
    (∃ f, skip allowed i cs = .error f ∧ ¬escapesFit cs) ∨
    ∃ front rest, skip allowed i cs = .ok ⟨i + front.length, rest⟩ ∧ Passed allowed cs front rest := by
  fun_induction skip allowed i cs
  case case1 i => exact .inr ⟨[], [], rfl, .refl nofun⟩
  case case2 i a b cs h hi =>
    have ⟨ha, hb⟩ := Bool.and_eq_true_iff.mp h
    obtain ⟨f, hf, he⟩ | ⟨front, rest, hs, hp⟩ := hi
    · have he' : ¬escapesFit ('%' :: a :: b :: cs) := by simp [escapesFit, he]
      exact .inl ⟨f, hf, he'⟩
    · refine .inr ⟨'%' :: a :: b :: front, rest, ?_, hp.escape ha hb⟩
      rw [hs, List.length_cons, List.length_cons, List.length_cons]
      congr 2
      omega
  case case3 i a b cs h =>
    have he : ¬escapesFit ('%' :: a :: b :: cs) := by
      simp only [Bool.and_eq_true] at h
      simp [escapesFit, h]
    exact .inl ⟨_, rfl, he⟩
  case case4 i cs h =>
    have he : ¬escapesFit ('%' :: cs) := by
      match cs, h with
      | [], _          => decide
      | [a], _         => simp [escapesFit]
      | a :: b :: _, h => exact absurd rfl (h a b _)
    exact .inl ⟨_, rfl, he⟩
  case case5 i c cs hc ha hi =>
    obtain ⟨f, hf, he⟩ | ⟨front, rest, hs, hp⟩ := hi
    · have he' : ¬escapesFit (c :: cs) := by simp [escapesFit, he]
      exact .inl ⟨f, hf, he'⟩
    · refine .inr ⟨c :: front, rest, ?_, hp.cons ha hc⟩
      rw [hs, List.length_cons]
      congr 2
      omega
  case case6 i c cs hc ha =>
    have hs : ∀ d ∈ (c :: cs).head?, ¬allowed d ∧ d ≠ '%' := by
      rintro d ⟨⟩
      exact ⟨ha, hc⟩
    exact .inr ⟨[], c :: cs, rfl, .refl hs⟩

theorem Passed.plain (h : Passed allowed cs front rest) (ha : ∀ c, allowed c → isQueryChar c) :
    ∀ c ∈ front, ¬isBarred c ∧ c ≠ '#' := by
  intro c hc
  obtain hc | rfl | hc := h.allows c hc
  · exact ⟨not_isBarred_of_isQueryChar (ha c hc), (ne_of_isQueryChar (ha c hc)).left⟩
  · decide
  · have hq := isQueryChar_of_hexValue? hc
    exact ⟨not_isBarred_of_isQueryChar hq, (ne_of_isQueryChar hq).left⟩

theorem Passed.mem_iff (h : Passed allowed cs front rest) (ha : ∀ c, allowed c → isQueryChar c) :
    '#' ∈ cs ↔ '#' ∈ rest := by
  rw [h.split, List.mem_append]
  exact or_iff_right fun hm => (h.plain ha _ hm).right rfl

theorem Passed.tidy_iff (h : Passed allowed cs front rest) (ha : ∀ c, allowed c → isQueryChar c) :
    Tidy cs ↔ Tidy rest := by
  have hf := h.plain ha
  have hm : cs.count '#' = rest.count '#' := by
    rw [h.split, List.count_append, List.count_eq_zero_of_not_mem, Nat.zero_add]
    exact fun hm => (hf _ hm).right rfl
  constructor
  · intro ht
    have hc := ht.clear
    rw [h.split, List.forall_mem_append] at hc
    exact ⟨hc.right, h.escapes ▸ ht.escapes, hm ▸ ht.marks⟩
  · intro ht
    have hc : ∀ c ∈ cs, ¬isBarred c := by
      rw [h.split, List.forall_mem_append]
      exact ⟨fun c hc => (hf c hc).left, ht.clear⟩
    exact ⟨hc, h.escapes ▸ ht.escapes, hm ▸ ht.marks⟩

theorem Passed.printed (h : Passed allowed cs front rest) (hp : ∀ c ∈ cs, isPrinted c) :
    ∀ c ∈ rest, isPrinted c := by
  rw [h.split, List.forall_mem_append] at hp
  exact hp.right

theorem not_tidy_cons (h : isBarred c) : ¬Tidy (c :: cs) :=
  fun ht => ht.clear c (List.mem_cons_self ..) h

theorem tidy_nil : Tidy [] :=
  ⟨nofun, rfl, Nat.zero_le _⟩

theorem tidy_mark (hb : ¬isBarred c) (hc : c ≠ '%') (hm : c ≠ '#') : Tidy (c :: cs) ↔ Tidy cs := by
  constructor
  all_goals
    intro ⟨hc, he, hm⟩
    constructor
    all_goals simp_all [escapesFit]

theorem tidy_fragment : Tidy ('#' :: cs) ↔ Tidy cs ∧ '#' ∉ cs := by
  constructor
  · intro ht
    have hm : '#' ∉ cs := by simpa [List.count_eq_zero] using ht.marks
    have he : escapesFit cs := by simpa [escapesFit] using ht.escapes
    have hc : ∀ c ∈ cs, ¬isBarred c := fun c hc => ht.clear c (List.mem_cons_of_mem _ hc)
    exact ⟨⟨hc, he, by simp [List.count_eq_zero.mpr hm]⟩, hm⟩
  · intro ⟨ht, hm⟩
    have he : escapesFit ('#' :: cs) := by simpa [escapesFit] using ht.escapes
    exact ⟨List.forall_mem_cons.mpr ⟨by decide, ht.clear⟩, he, by simp [List.count_eq_zero.mpr hm]⟩

def fragmentEnding (p : Place) : Step := do
  let p ← if p.starts '#' then p.next.skip isQueryChar else .ok p
  if p.rest = [] then .ok p else .error (.unexpected p.index)

theorem isOk_fragmentEnding (hp : ∀ c ∈ cs, isPrinted c)
    (hs : ∀ c ∈ cs.head?, isBarred c ∨ c = '#') : (fragmentEnding ⟨i, cs⟩).isOk ↔ Tidy cs := by
  cases cs
  case nil => exact iff_of_true rfl tidy_nil
  case cons c cs =>
    by_cases hc : c = '#'
    case neg =>
      have hb : isBarred c := (hs c rfl).resolve_right hc
      have hf : fragmentEnding ⟨i, c :: cs⟩ = .error (.unexpected i) := by
        simp [fragmentEnding, Place.starts, hc, bind, Except.bind]
      exact iff_of_false (by rw [hf]; nofun) (not_tidy_cons hb)
    case pos =>
      subst hc
      have hp := (List.forall_mem_cons.mp hp).right
      have hf : fragmentEnding ⟨i, '#' :: cs⟩ = (skip isQueryChar (i + 1) cs).bind fun p =>
          if p.rest = [] then .ok p else .error (.unexpected p.index) := rfl
      rw [tidy_fragment, hf]
      obtain ⟨f, h, he⟩ | ⟨front, rest, h, hr⟩ := skip_cases isQueryChar (i + 1) cs
      · exact iff_of_false (by rw [h]; nofun) (fun ht => he ht.left.escapes)
      · rw [h, hr.tidy_iff (fun _ => id), hr.mem_iff (fun _ => id)]
        -- A fragment may hold anything that a query may, but not another mark of a fragment.
        cases rest
        case nil => exact iff_of_true rfl ⟨tidy_nil, nofun⟩
        case cons d ds =>
          refine iff_of_false nofun fun ht => ?_
          have hd := hr.stops d rfl
          obtain hq | hb | rfl | rfl := isQueryChar_cases (hr.printed hp d (List.mem_cons_self ..))
          · exact hd.left hq
          · exact not_tidy_cons hb ht.left
          · exact ht.right (List.mem_cons_self ..)
          · exact hd.right rfl

theorem isOk_ending (hp : ∀ c ∈ cs, isPrinted c)
    (hs : ∀ c ∈ cs.head?, isBarred c ∨ c = '#' ∨ c = '?') : (ending ⟨i, cs⟩).isOk ↔ Tidy cs := by
  by_cases hq : cs.head? = some '?'
  case neg =>
    have he : ending ⟨i, cs⟩ = fragmentEnding ⟨i, cs⟩ := by
      simp [ending, fragmentEnding, Place.starts, hq, bind, Except.bind]
    rw [he]
    refine isOk_fragmentEnding hp fun c hc => ?_
    obtain hb | hm | rfl := hs c hc
    · exact .inl hb
    · exact .inr hm
    · exact absurd (Option.mem_def.mp hc) hq
  case pos =>
    obtain ⟨cs, rfl⟩ := List.head?_eq_some_iff.mp hq
    -- A query has come to its end where a fragment begins.
    have hp := (List.forall_mem_cons.mp hp).right
    have he : ending ⟨i, '?' :: cs⟩ = (skip isQueryChar (i + 1) cs).bind fragmentEnding := rfl
    rw [tidy_mark (by decide) (by decide) (by decide), he]
    obtain ⟨f, h, he⟩ | ⟨front, rest, h, hr⟩ := skip_cases isQueryChar (i + 1) cs
    · exact iff_of_false (by rw [h]; nofun) (fun ht => he ht.escapes)
    · rw [h, hr.tidy_iff (fun _ => id)]
      refine isOk_fragmentEnding (hr.printed hp) fun c hc => ?_
      have hd := hr.stops c hc
      obtain hq | hb | hm | hc := isQueryChar_cases (hr.printed hp c (List.mem_of_mem_head? hc))
      · exact absurd hq hd.left
      · exact .inl hb
      · exact .inr hm
      · exact absurd hc hd.right

theorem isOk_path (hp : ∀ c ∈ cs, isPrinted c) : (path ⟨i, cs⟩).isOk ↔ Tidy cs := by
  have he : path ⟨i, cs⟩ = (skip isPathChar i cs).bind ending := rfl
  rw [he]
  obtain ⟨f, h, he⟩ | ⟨front, rest, h, hr⟩ := skip_cases isPathChar i cs
  · exact iff_of_false (by rw [h]; nofun) (fun ht => he ht.escapes)
  · rw [h, hr.tidy_iff fun _ => isQueryChar_of_isPathChar]
    refine isOk_ending (hr.printed hp) fun c hc => ?_
    have hd := hr.stops c hc
    obtain hq | hb | hm | hc := isQueryChar_cases (hr.printed hp c (List.mem_of_mem_head? hc))
    · simp only [isQueryChar, hd.left, Bool.false_or, decide_eq_true_eq] at hq
      exact .inr (.inr hq)
    · exact .inl hb
    · exact .inr (.inl hm)
    · exact absurd hc hd.right

theorem isOk_pathAfterHost (hp : ∀ c ∈ cs, isPrinted c) (hs : cs.head? = some '/') :
    (pathAfterHost ⟨i, cs⟩).isOk ↔ Tidy cs := by
  have he : pathAfterHost ⟨i, cs⟩ = path ⟨i, cs⟩ := by
    simp [pathAfterHost, path, Place.starts, hs]
  rw [he, isOk_path hp]

theorem tidy_of_pathAfterHost (hp : ∀ c ∈ cs, isPrinted c) (h : (pathAfterHost ⟨i, cs⟩).isOk) :
    Tidy cs := by
  refine (isOk_path hp (i := i)).mp ?_
  cases hk : skip isPathChar i cs
  case error f => simp [pathAfterHost, Place.skip, hk, bind, Except.bind] at h; cases h
  case ok p    =>
    simp only [pathAfterHost, path, Place.skip, hk, bind, Except.bind] at h ⊢
    split at h
    · cases h
    · exact h

theorem isOk_authority_path (hp : ∀ c ∈ cs, isPrinted c) (hs : cs.head? = some '/') :
    (authority ⟨i, cs⟩).isOk ↔ Tidy cs := by
  obtain ⟨cs, rfl⟩ := List.head?_eq_some_iff.mp hs
  have ha : authority ⟨i, '/' :: cs⟩ = pathAfterHost ⟨i, '/' :: cs⟩ := by
    have hu : isUserChar '/' = false := by decide
    simp [authority, Place.skip, skip, Place.starts, bind, Except.bind, hu]
  rw [ha, isOk_pathAfterHost hp rfl]

def isHostChar (c : Char) : Bool :=
  isPrinted c && !"%/:@[?#".toList.contains c

theorem isHostChar_cases (h : isHostChar c) : isUserChar c ∨ isBarred c := by
  have ⟨hp, hn⟩ := Bool.and_eq_true_iff.mp h
  have hn : c ∉ "%/:@[?#".toList := by simpa using hn
  have hm : c ≠ '%' ∧ c ≠ '/' ∧ c ≠ ':' ∧ c ≠ '@' ∧ c ≠ '[' ∧ c ≠ '?' ∧ c ≠ '#' := by simpa using hn
  have hq := isQueryChar_cases hp
  simp only [isQueryChar, isPathChar, Bool.or_eq_true, decide_eq_true_eq] at hq
  grind

theorem ne_of_isHostChar (h : isHostChar c) : c ≠ ':' ∧ c ≠ '@' ∧ c ≠ '[' := by
  refine ⟨?_, ?_, ?_⟩
  all_goals
    rintro rfl
    exact absurd h (by decide)

theorem nameAndPort_of_name {name : List Char} {p : Place} (hc : ∀ c ∈ name, isHostChar c) :
    nameAndPort p name = .ok ⟨⟩ := by
  have ht : name.takeWhile (fun c => !decide (c = ':')) = name :=
    List.takeWhile_eq_self_iff.mpr fun c h => by simpa using (ne_of_isHostChar (hc c h)).left
  have hd : name.drop (name.length + 1) = [] := List.drop_eq_nil_of_le (Nat.le_succ _)
  simp [nameAndPort, ht, hd, lastNonDigit]

-- The characters before a path are passed over up to the path, or up to one that may not be there.
theorem Passed.name_cases {name : List Char} (h : Passed isUserChar (name ++ cs) front rest)
    (hc : ∀ c ∈ name, isHostChar c) (hs : cs.head? = some '/') :
    (front = name ∧ rest = cs) ∨ ∃ c ∈ rest.head?, isBarred c := by
  obtain ⟨cs, rfl⟩ := List.head?_eq_some_iff.mp hs
  obtain ⟨more, hf, hm⟩ | ⟨more, hn, hr⟩ := List.append_eq_append_iff.mp h.split
  · cases more
    case nil => exact .inl ⟨by simpa using hf, by simpa using hm.symm⟩
    case cons d ds =>
      cases hm
      have ha := h.allows '/' (by simp [hf])
      exact absurd ha (by decide)
  · cases more
    case nil => exact .inl ⟨by simpa using hn.symm, hr⟩
    case cons d ds =>
      subst hn hr
      have hd := (h.stops d rfl).left
      exact .inr ⟨d, rfl, (isHostChar_cases (hc d (by simp))).resolve_left hd⟩

theorem isOk_authority_name {name : List Char} (hn : name ≠ []) (hc : ∀ c ∈ name, isHostChar c)
    (hp : ∀ c ∈ cs, isPrinted c) (hs : cs.head? = some '/') :
    (authority ⟨i, name ++ cs⟩).isOk ↔ Tidy (name ++ cs) := by
  have hp' : ∀ c ∈ name ++ cs, isPrinted c :=
    List.forall_mem_append.mpr ⟨fun c h => (Bool.and_eq_true_iff.mp (hc c h)).left, hp⟩
  have hu : ∀ c, isUserChar c → isQueryChar c :=
    fun _ h => isQueryChar_of_isPathChar (isPathChar_of_isUserChar h)
  have hb : Place.starts ⟨i, name ++ cs⟩ '[' = false := by
    obtain ⟨d, ds, rfl⟩ := List.exists_cons_of_ne_nil hn
    simpa [Place.starts] using (ne_of_isHostChar (hc d (by simp))).right.right
  obtain ⟨f, h, he⟩ | ⟨front, rest, h, hr⟩ := skip_cases isUserChar i (name ++ cs)
  · have ha : authority ⟨i, name ++ cs⟩ = .error f := by
      simp [authority, Place.skip, h, bind, Except.bind]
    exact iff_of_false (by rw [ha]; nofun) (fun ht => he ht.escapes)
  · rw [hr.tidy_iff hu]
    obtain ⟨rfl, rfl⟩ | ⟨d, hd, hd'⟩ := hr.name_cases hc hs
    · have ha : authority ⟨i, front ++ rest⟩ = pathAfterHost ⟨i + front.length, rest⟩ := by
        simp [authority, Place.skip, h, bind, Except.bind, Place.starts, hs, hn, nameAndPort_of_name hc]
      rw [ha, isOk_pathAfterHost hp hs]
    · obtain ⟨ds, rfl⟩ := List.head?_eq_some_iff.mp hd
      have hne : d ≠ '@' := by
        rintro rfl
        exact absurd hd' (by decide)
      refine iff_of_false (fun ha => ?_) (not_tidy_cons hd')
      have hat : Place.starts ⟨i + front.length, d :: ds⟩ '@' = false := by simp [Place.starts, hne]
      simp only [authority, Place.skip, h, bind, Except.bind, hat, hb, Bool.false_eq_true,
        ↓reduceIte] at ha
      split at ha
      · exact not_tidy_cons hd' ((hr.tidy_iff hu).mp (tidy_of_pathAfterHost hp' ha))
      · split at ha
        · cases ha
        · exact not_tidy_cons hd' (tidy_of_pathAfterHost (hr.printed hp') ha)

theorem address_of_parse? {inside : List Char} (ha : (Ipv6.parse? inside).isSome) (hb : ']' ∉ inside) :
    address ⟨i, '[' :: inside ++ ']' :: cs⟩ = .ok ⟨i + inside.length + 2, cs⟩ := by
  have ht : (inside ++ ']' :: cs).takeWhile (· ≠ ']') = inside := by
    rw [List.takeWhile_append_of_pos, List.takeWhile_cons_of_neg (by decide), List.append_nil]
    intro c hc
    simpa using ne_of_mem_of_not_mem hc hb
  have hd : ('[' :: inside ++ ']' :: cs).drop (inside.length + 1) = ']' :: cs := by
    rw [List.cons_append, List.drop_succ_cons, List.drop_left]
  have hi : (('[' :: inside ++ ']' :: cs).drop 1).takeWhile (· ≠ ']') = inside := ht
  rw [address]
  simp only [hi, hd]
  simp [ha]

theorem isOk_authority_address {inside : List Char} (ha : (Ipv6.parse? inside).isSome)
    (hb : ']' ∉ inside) (hp : ∀ c ∈ cs, isPrinted c) (hs : cs.head? = some '/') :
    (authority ⟨i, '[' :: inside ++ ']' :: cs⟩).isOk ↔ Tidy cs := by
  obtain ⟨cs, rfl⟩ := List.head?_eq_some_iff.mp hs
  have hu : isUserChar '[' = false := by decide
  have ha : authority ⟨i, '[' :: inside ++ ']' :: '/' :: cs⟩ =
      pathAfterHost ⟨i + inside.length + 2, '/' :: cs⟩ := by
    rw [authority, address_of_parse? ha hb]
    simp [Place.skip, skip, hu, Place.starts, bind, Except.bind, port]
  rw [ha, isOk_pathAfterHost hp rfl]

theorem isOk_check : (check ("file://".toList ++ cs)).isOk = (authority ⟨7, cs⟩).isOk := by
  have hc : check ("file://".toList ++ cs) = (authority ⟨7, cs⟩).bind fun _ => .ok ⟨⟩ := rfl
  rw [hc]
  cases authority ⟨7, cs⟩
  all_goals rfl

end LanguageClient.Uri.Reference
