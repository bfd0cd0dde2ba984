import LanguageClient.Proofs.Text.Lines
import LanguageClient.Proofs.Text.Utf8
import LanguageClient.Proofs.Uri.File

namespace LanguageClient

namespace Text

variable {c : Char} {cs part : List Char} {parts : List (List Char)}

theorem flatMap_split (c : Char) (cs : List Char) : (split c cs).flatMap (c :: ·) = c :: cs := by
  induction cs
  case nil          => rfl
  case cons d cs hi =>
    rw [split]
    split
    case isTrue h =>
      rw [List.flatMap_cons, hi, h]
      rfl
    case isFalse =>
      cases hs : split c cs
      case nil => exact absurd hs (split_ne_nil c cs)
      case cons part parts =>
        rw [hs, List.flatMap_cons] at hi
        rw [List.flatMap_cons]
        exact congrArg (fun cs => c :: d :: cs) (List.cons.inj hi).right

theorem split_flatMap (hp : c ∉ part) (h : ∀ part ∈ parts, c ∉ part) :
    split c (part ++ parts.flatMap (c :: ·)) = part :: parts := by
  induction parts generalizing part
  case nil => rw [List.flatMap_nil, List.append_nil, split_of_not_mem hp]
  case cons next parts hi =>
    have ⟨hn, h⟩ := List.forall_mem_cons.mp h
    rw [List.flatMap_cons, List.cons_append, split_append hp, hi hn h]

theorem flatMap_inj {parts' : List (List Char)} (h : ∀ part ∈ parts, c ∉ part)
    (h' : ∀ part ∈ parts', c ∉ part) (he : parts.flatMap (c :: ·) = parts'.flatMap (c :: ·)) :
    parts = parts' := by
  have hs := split_flatMap (List.not_mem_nil (a := c)) h
  rw [he, split_flatMap (List.not_mem_nil (a := c)) h'] at hs
  exact (List.cons.inj hs).right.symm

end Text

namespace Uri

variable {c : Char} {cs ds rest : List Char} {set : EscapeSet}

theorem hexValue?_upperHex : ∀ n < 16, hexValue? (upperHex n) = some n := by
  decide

theorem percentDecode_percentByte (b : UInt8) (rest : List Char) :
    percentDecode (percentByte b ++ rest) = b :: percentDecode rest := by
  have hb : b.toNat < 256 := b.toNat_lt
  have hn : b.toNat / 16 * 16 + b.toNat % 16 = b.toNat := by omega
  simp only [percentByte, List.cons_append, List.nil_append, percentDecode]
  rw [hexValue?_upperHex _ (by omega), hexValue?_upperHex _ (by omega)]
  simp only [hn, UInt8.ofNat_toNat]

theorem percentDecode_cons (h : c ≠ '%') (rest : List Char) :
    percentDecode (c :: rest) = String.utf8EncodeChar c ++ percentDecode rest := by
  rw [percentDecode]
  exact fun _ _ _ hc => absurd hc h

theorem percentDecode_percentChar (hs : '%' ∈ set.extra) (c : Char) (rest : List Char) :
    percentDecode (percentChar set c ++ rest) = String.utf8EncodeChar c ++ percentDecode rest := by
  rw [percentChar]
  split
  case isTrue =>
    generalize String.utf8EncodeChar c = bytes
    induction bytes
    case nil             => rfl
    case cons b bytes hi =>
      rw [List.flatMap_cons, List.append_assoc, percentDecode_percentByte, hi]
      rfl
  case isFalse hn =>
    have hc : c ≠ '%' := by
      rintro rfl
      simp [EscapeSet.contains, hs] at hn
    exact percentDecode_cons hc rest

theorem percentDecode_percentEncode (hs : '%' ∈ set.extra) (cs rest : List Char) :
    percentDecode (percentEncode set cs ++ rest) = cs.flatMap String.utf8EncodeChar ++ percentDecode rest := by
  induction cs
  case nil          => rfl
  case cons c cs hi =>
    have he : percentEncode set (c :: cs) = percentChar set c ++ percentEncode set cs := rfl
    rw [he, List.append_assoc, percentDecode_percentChar hs, hi, List.flatMap_cons, List.append_assoc]

theorem percentEncode_inj (hs : '%' ∈ set.extra) (h : percentEncode set cs = percentEncode set ds) :
    cs = ds := by
  have hc := percentDecode_percentEncode hs cs []
  have hd := percentDecode_percentEncode hs ds []
  rw [h, hd, List.append_cancel_right_eq, ← Utf8.encode_ofList, ← Utf8.encode_ofList] at hc
  have he := congrArg Utf8.decode hc
  rw [Utf8.decode_encode, Utf8.decode_encode] at he
  exact (String.ofList_injective (Except.ok.inj he)).symm

theorem percentEncode_eq_self (h : '%' ∉ percentEncode set cs) : percentEncode set cs = cs := by
  induction cs
  case nil          => rfl
  case cons c cs hi =>
    have he : percentEncode set (c :: cs) = percentChar set c ++ percentEncode set cs := rfl
    rw [he, List.mem_append, not_or] at h
    rw [he, hi h.right]
    have hc := h.left
    rw [percentChar] at hc ⊢
    split at hc
    case isFalse hn => rw [if_neg hn]; rfl
    case isTrue =>
      obtain ⟨b, bytes, hb, _⟩ := Utf8.encodeChar_eq c
      rw [hb, List.flatMap_cons] at hc
      exact absurd (List.mem_cons_self) hc

theorem percentEncode_of_forall (h : ∀ c ∈ cs, set.contains c = false) : percentEncode set cs = cs := by
  induction cs
  case nil          => rfl
  case cons c cs hi =>
    have ⟨hc, h⟩ := List.forall_mem_cons.mp h
    have he : percentEncode set (c :: cs) = percentChar set c ++ percentEncode set cs := rfl
    rw [he, hi h, percentChar, hc]
    rfl

namespace File

variable {path s : List Char} {parts : List (List Char)}

-- A component that is kept in full: none of its characters is dropped.
def Kept (s : List Char) : Prop :=
  ∀ c ∈ s, isDropped c = false

-- By the characters of the list: there is also an instance that goes through all characters.
instance {s : List Char} : Decidable (Kept s) :=
  List.decidableBAll _ s

def IsDots (s : List Char) : Prop :=
  s = ['.'] ∨ s = ['.', '.']

instance : DecidablePred IsDots :=
  fun _ => inferInstanceAs (Decidable (_ ∨ _))

def withColon (s : List Char) : List Char :=
  if isDrive s then s.take 1 ++ [':'] else s

theorem not_contains_of_isAsciiLetter (h : isAsciiLetter c) : EscapeSet.pathSegment.contains c = false := by
  have hx : c ∉ EscapeSet.pathSegment.extra := by
    have hall : EscapeSet.pathSegment.extra.all fun d => !isAsciiLetter d := by decide
    intro hc
    simpa [h] using List.all_eq_true.mp hall c hc
  have hr : 97 ≤ c.toNat ∧ c.toNat ≤ 122 ∨ 65 ≤ c.toNat ∧ c.toNat ≤ 90 := by
    simpa [isAsciiLetter, Char.le_def, UInt32.le_iff_toNat_le] using h
  have hl : ¬c.toNat < 32 ∧ ¬c.toNat > 126 := by omega
  simp [EscapeSet.contains, hx, hl]

theorem percentEncode_of_isDrive (h : isDrive s) : percentEncode .pathSegment s = s := by
  obtain ⟨c, d, rfl⟩ : ∃ c d, s = [c, d] := by
    have ⟨c, d, hs, _⟩ := exists_of_isDrive h
    exact ⟨c, d, hs⟩
  have h : isAsciiLetter c ∧ (d = ':' ∨ d = '|') := by simpa [isDrive] using h
  refine percentEncode_of_forall ?_
  simp only [List.forall_mem_cons, List.not_mem_nil, false_implies, implies_true, and_true]
  refine ⟨not_contains_of_isAsciiLetter h.left, ?_⟩
  obtain rfl | rfl := h.right
  · decide
  · decide

theorem isDrive_percentEncode (s : List Char) : isDrive (percentEncode .pathSegment s) = isDrive s := by
  refine Bool.eq_iff_iff.mpr ⟨fun h => ?_, fun h => by rwa [percentEncode_of_isDrive h]⟩
  have hn : '%' ∉ percentEncode .pathSegment s := by
    obtain ⟨c, d, hs, hc⟩ := exists_of_isDrive h
    rw [hs] at h ⊢
    have h : isAsciiLetter c ∧ (d = ':' ∨ d = '|') := by simpa [isDrive] using h
    rintro hm
    obtain rfl | rfl := h.right
    all_goals simp [hc.symm] at hm
  rwa [percentEncode_eq_self hn] at h

theorem isDots_percentEncode (h : ¬IsDots s) : ¬IsDots (percentEncode .pathSegment s) := by
  intro hc
  have hn : '%' ∉ percentEncode .pathSegment s := by
    obtain hc | hc := hc
    all_goals simp [hc]
  rw [percentEncode_eq_self hn] at hc
  exact h hc

theorem slash_not_mem (s : List Char) : '/' ∉ percentEncode .pathSegment s := by
  intro hm
  refine forall_percentEncode (p := (· ≠ '/')) (by decide) (by decide) (fun c _ hn => ?_) '/' hm rfl
  rintro rfl
  exact hn (by decide)

theorem fragments_of_kept (h : Kept s) : fragments s = [s] :=
  List.splitOnP_eq_singleton h

theorem addSegment_kept (h : Kept s) (hd : ¬IsDots s) (hc : isColonDrive ((opened path).drop 1) = false) :
    addSegment path s = oneSlash (opened path ++
      percentEncode .pathSegment (if (opened path).length = 1 then withColon s else s)) := by
  have hn := isDots_percentEncode hd
  rw [IsDots, not_or] at hn
  have ha : addFragments (opened path) (opened path).length [s] =
      (opened path ++ percentEncode .pathSegment s, (opened path).length) := by
    rw [addFragments, hc, Bool.and_false]
    rfl
  rw [addSegment, ← opened, fragments_of_kept h, ha]
  simp only [List.take_left, List.drop_left, if_neg hn.left, if_neg hn.right, isDrive_percentEncode]
  -- Only a drive behind the first slash is written otherwise than it stands in the path.
  by_cases hl : (opened path).length = 1 ∧ isDrive s
  case neg =>
    have hw : (if (opened path).length = 1 then withColon s else s) = s := by
      rw [withColon]
      split
      case isTrue hl' => rw [if_neg fun hs => hl ⟨hl', hs⟩]
      case isFalse    => rfl
    rw [hw, if_neg (by simpa using hl)]
  case pos =>
    have hw : percentEncode .pathSegment (withColon s) = s.take 1 ++ [':'] := by
      rw [withColon, if_pos hl.right]
      obtain ⟨c, d, rfl, _⟩ := exists_of_isDrive hl.right
      exact percentEncode_of_isDrive (by simpa [isDrive] using (by simpa [isDrive] using hl.right : _ ∧ _).left)
    rw [if_pos (by simpa using hl), if_pos hl.left, hw, percentEncode_of_isDrive hl.right, List.append_assoc]

theorem oneSlash_of_head?_ne {cs : List Char} (h : cs.head? ≠ some '/') : oneSlash ('/' :: cs) = '/' :: cs := by
  have hs : isSlash '/' := rfl
  rw [oneSlash, List.dropWhile_cons_of_pos hs]
  cases cs
  case nil       => rfl
  case cons c cs =>
    rw [List.dropWhile_cons_of_neg]
    simpa [isSlash] using h

theorem addSegment_root (h : Kept s) (hd : ¬IsDots s) :
    addSegment ['/'] s = '/' :: percentEncode .pathSegment (withColon s) := by
  rw [addSegment_kept h hd rfl]
  exact oneSlash_of_head?_ne fun hh => slash_not_mem _ (List.mem_of_mem_head? hh)

def Grown (path : List Char) : Prop :=
  ∃ c cs, path = '/' :: c :: cs ∧ c ≠ '/'

theorem Grown.addSegment (hp : Grown path) (h : Kept s) (hd : ¬IsDots s) :
    addSegment path s = path ++ '/' :: percentEncode .pathSegment s := by
  obtain ⟨c, cs, rfl, hc⟩ := hp
  have ho : opened ('/' :: c :: cs) = '/' :: c :: (cs ++ ['/']) := by simp [opened]
  have hn : isColonDrive ((opened ('/' :: c :: cs)).drop 1) = false := by
    rw [ho]
    obtain _ | ⟨_, _ | _⟩ := cs
    all_goals simp [isColonDrive]
  rw [addSegment_kept h hd hn, ho, if_neg (by simp)]
  exact (oneSlash_of_head?_ne (by simpa using hc)).trans (by simp)

-- Components, each escaped and behind a slash.
def joined (parts : List (List Char)) : List Char :=
  parts.flatMap fun s => '/' :: percentEncode .pathSegment s

theorem Grown.foldl_addSegment (hp : Grown path) (h : ∀ s ∈ parts, Kept s ∧ ¬IsDots s) :
    parts.foldl File.addSegment path = path ++ joined parts := by
  induction parts generalizing path
  case nil             => exact (List.append_nil path).symm
  case cons s parts hi =>
    have ⟨⟨hs, hd⟩, h⟩ := List.forall_mem_cons.mp h
    have hg : Grown (path ++ '/' :: percentEncode .pathSegment s) := by
      obtain ⟨c, cs, rfl, hc⟩ := hp
      exact ⟨c, _, rfl, hc⟩
    rw [List.foldl_cons, hp.addSegment hs hd, hi hg h, joined, joined, List.flatMap_cons, List.append_assoc]

-- The components that a URI has a place for: dots are passed over, and so is what is empty behind the
-- first slash.
def placed (parts : List (List Char)) : List (List Char) :=
  (parts.filter fun s => ¬IsDots s).dropWhile (· = [])

-- The components as they are spelled in a URI.
def spelled (parts : List (List Char)) : List (List Char) :=
  (placed parts).modifyHead withColon

theorem withColon_eq_self (h : ∀ c, isAsciiLetter c → s ≠ [c, '|']) : withColon s = s := by
  rw [withColon]
  split
  case isFalse   => rfl
  case isTrue hd =>
    obtain ⟨c, d, rfl, _⟩ := exists_of_isDrive hd
    have hd : isAsciiLetter c ∧ (d = ':' ∨ d = '|') := by simpa [isDrive] using hd
    obtain ⟨hc, rfl | rfl⟩ := hd
    · rfl
    · exact absurd rfl (h c hc)

theorem withColon_ne_nil (h : s ≠ []) : withColon s ≠ [] := by
  rw [withColon]
  split
  case isTrue  => simp
  case isFalse => exact h

theorem pathOf_kept (h : ∀ s ∈ parts, Kept s) :
    pathOf parts = if spelled parts = [] then ['/'] else joined (spelled parts) := by
  have hf : (fun s : List Char => decide (s ≠ ['.']) && decide (s ≠ ['.', '.'])) = fun s => ¬IsDots s := by
    funext s
    simp [IsDots, not_or]
  rw [pathOf, hf, spelled, placed]
  have h : ∀ s ∈ parts.filter fun s => ¬IsDots s, Kept s ∧ ¬IsDots s := by
    intro s hs
    obtain ⟨hs, hd⟩ := List.mem_filter.mp hs
    exact ⟨h s hs, of_decide_eq_true hd⟩
  generalize (parts.filter fun s => ¬IsDots s) = parts at h ⊢
  induction parts
  case nil             => rfl
  case cons s parts hi =>
    obtain ⟨⟨hs, hd⟩, hps⟩ := List.forall_mem_cons.mp h
    rw [List.foldl_cons, addSegment_root hs hd]
    by_cases he : s = []
    case pos =>
      subst he
      exact hi hps
    case neg =>
      -- What comes behind the first component that is not empty cannot change it any more.
      have hg : Grown ('/' :: percentEncode .pathSegment (withColon s)) := by
        cases hw : percentEncode .pathSegment (withColon s)
        case nil =>
          have hn : percentEncode .pathSegment (withColon s) = percentEncode .pathSegment [] := hw
          exact absurd (percentEncode_inj (by decide) hn) (withColon_ne_nil he)
        case cons c cs => exact ⟨c, cs, rfl, fun hc => slash_not_mem (withColon s) (by simp [hw, hc])⟩
      rw [hg.foldl_addSegment hps, List.dropWhile_cons_of_neg (by simpa using he)]
      rfl

structure IsAbsolute (path : String) : Prop where
  rooted  : path.toList.head? = some '/'
  local_  : ¬['/', '/'] <+: path.toList
  slashed : Slashed path.toList

def components (path : String) : List (List Char) :=
  Text.split '/' (path.toList.drop 1)

section Absolute

variable {path p q : String}

instance {cs : List Char} : Decidable (Slashed cs) :=
  List.decidableBAll _ cs

instance {path : String} : Decidable (IsAbsolute path) :=
  decidable_of_iff (path.toList.head? = some '/' ∧ ¬['/', '/'] <+: path.toList ∧ Slashed path.toList)
    ⟨fun ⟨hr, hl, hs⟩ => ⟨hr, hl, hs⟩, fun h => ⟨h.rooted, h.local_, h.slashed⟩⟩

theorem slashes_eq_self {cs : List Char} (h : Slashed cs) : slashes cs = cs := by
  refine (List.map_congr_left fun c hc => ?_).trans (List.map_id cs)
  exact if_neg (h c hc)

theorem IsAbsolute.eq_cons (h : IsAbsolute path) :
    ∃ cs, path.toList = '/' :: cs ∧ cs.head? ≠ some '/' := by
  obtain ⟨cs, hcs⟩ := List.head?_eq_some_iff.mp h.rooted
  refine ⟨cs, hcs, fun hc => h.local_ ?_⟩
  obtain ⟨cs, rfl⟩ := List.head?_eq_some_iff.mp hc
  rw [hcs]
  exact ⟨cs, rfl⟩

theorem IsAbsolute.ofPath_eq (h : IsAbsolute path) :
    (ofPath path).toList = "file://".toList ++ pathOf (components path) := by
  have hs := slashes_eq_self h.slashed
  have hl : IsLocal path := by
    rw [IsLocal, hs]
    exact h.local_
  obtain ⟨cs, hcs, hc⟩ := h.eq_cons
  have hw : path.toList.dropWhile isSlash = path.toList.drop 1 := by
    rw [hcs, List.drop_one, List.tail_cons]
    exact (List.cons.inj (oneSlash_of_head?_ne hc)).right
  rw [hl.ofPath_eq, hs, hw, components]

theorem IsAbsolute.flatMap_components (h : IsAbsolute path) :
    (components path).flatMap ('/' :: ·) = path.toList := by
  obtain ⟨cs, hcs, _⟩ := h.eq_cons
  rw [components, Text.flatMap_split, hcs]
  rfl

theorem mem_of_mem_component (h : s ∈ components path) (hc : c ∈ s) : c ∈ path.toList :=
  List.mem_of_mem_drop (Text.mem_of_mem_split h hc)

theorem kept_components (h : Kept path.toList) : ∀ s ∈ components path, Kept s :=
  fun _ hs _ hc => h _ (mem_of_mem_component hs hc)

theorem IsAbsolute.head?_components (h : IsAbsolute path) (hn : (components path).head? = some []) :
    components path = [[]] := by
  obtain ⟨cs, hcs, hc⟩ := h.eq_cons
  have hd : components path = Text.split '/' cs := by rw [components, hcs]; rfl
  cases cs
  case nil       => exact hd
  case cons c cs =>
    have hc : c ≠ '/' := by simpa using hc
    rw [hd, Text.split, if_neg hc] at hn
    split at hn <;> simp at hn

-- A path of which everything is kept as it is: characters, components and drives.
structure Faithful (path : String) : Prop where
  absolute : IsAbsolute path
  kept     : Kept path.toList
  dots     : ∀ s ∈ components path, ¬IsDots s
  drive    : ∀ c, isAsciiLetter c → (components path).head? ≠ some [c, '|']

theorem Faithful.pathOf_eq (h : Faithful path) : pathOf (components path) = joined (components path) := by
  have hf : (components path).filter (fun s => ¬IsDots s) = components path :=
    List.filter_eq_self.mpr fun s hs => decide_eq_true (h.dots s hs)
  rw [pathOf_kept (kept_components h.kept), spelled, placed, hf]
  cases hp : components path
  case nil          => exact absurd hp (Text.split_ne_nil _ _)
  case cons s parts =>
    by_cases hs : s = []
    case pos =>
      subst hs
      rw [← hp, h.absolute.head?_components (by rw [hp]; rfl)]
      rfl
    case neg =>
      have hw : withColon s = s := withColon_eq_self fun c hc he => h.drive c hc (by rw [hp, he]; rfl)
      rw [List.dropWhile_cons_of_neg (by simpa using hs), List.modifyHead_cons, hw, if_neg (List.cons_ne_nil _ _)]

theorem percentDecode_joined (parts : List (List Char)) :
    percentDecode (joined parts) = (parts.flatMap ('/' :: ·)).flatMap String.utf8EncodeChar := by
  have hs : '%' ∈ EscapeSet.pathSegment.extra := by decide
  induction parts
  case nil             => rfl
  case cons s parts hi =>
    rw [joined, List.flatMap_cons, ← joined, List.cons_append, percentDecode_cons (by decide),
      percentDecode_percentEncode hs, hi, List.flatMap_cons, List.flatMap_append, List.flatMap_cons,
      List.append_assoc]

def isPathText (c : Char) : Bool :=
  c.toNat < 128 && c ≠ ' ' && c ≠ '?' && c ≠ '#'

theorem isPathText_pathOf (parts : List (List Char)) : ∀ c ∈ pathOf parts, isPathText c := by
  refine forall_pathOf (by decide) (by decide) fun s _ => forall_percentEncode (by decide) (by decide) ?_
  intro c _ hn
  have ht : c ≠ ' ' ∧ c ≠ '?' ∧ c ≠ '#' := by
    refine ⟨?_, ?_, ?_⟩
    all_goals
      rintro rfl
      exact hn (by decide)
  simp only [EscapeSet.contains, Bool.or_eq_true, decide_eq_true_eq, not_or] at hn
  simp [isPathText, ht]
  omega

theorem percentDecode_ofPath (h : Faithful path) : ∃ text : List Char,
    ofPath path = "file://" ++ String.ofList text ∧ text.head? = some '/' ∧ (∀ c ∈ text, isPathText c) ∧
      percentDecode text = Utf8.encode path := by
  refine ⟨pathOf (components path), ?_, pathOf_head, isPathText_pathOf _, ?_⟩
  · rw [← String.toList_inj, h.absolute.ofPath_eq, String.toList_append]
    exact congrArg _ String.toList_ofList.symm
  · rw [h.pathOf_eq, percentDecode_joined, h.absolute.flatMap_components]
    rfl

theorem percentDecode_ofPath_of_escape : Faithful "/C:/%20//ü\x01/" ∧
    ofPath "/C:/%20//ü\x01/" = "file:///C:/%2520//%C3%BC%01/" ∧
    ∃ text : List Char, ofPath "/C:/%20//ü\x01/" = "file://" ++ String.ofList text ∧
      text.head? = some '/' ∧ (∀ c ∈ text, isPathText c) ∧
      percentDecode text = Utf8.encode "/C:/%20//ü\x01/" := by
  have h : Faithful "/C:/%20//ü\x01/" := ⟨by decide, by decide, by decide, by simp [components, Text.split]⟩
  exact ⟨h, by decide +kernel, percentDecode_ofPath h⟩

end Absolute

theorem joined_eq_flatMap (parts : List (List Char)) :
    joined parts = (parts.map (percentEncode .pathSegment)).flatMap ('/' :: ·) := by
  rw [List.flatMap_map, joined]

theorem joined_inj {parts' : List (List Char)} (h : joined parts = joined parts') : parts = parts' := by
  have hs : ∀ parts : List (List Char), ∀ s ∈ parts.map (percentEncode .pathSegment), '/' ∉ s :=
    fun parts => List.forall_mem_map.mpr fun s _ => slash_not_mem s
  rw [joined_eq_flatMap, joined_eq_flatMap] at h
  exact (List.map_inj_right fun _ _ => percentEncode_inj (by decide)).mp (Text.flatMap_inj (hs _) (hs _) h)

theorem placed_head?_ne (parts : List (List Char)) : (placed parts).head? ≠ some [] := by
  intro hn
  have h := List.head?_dropWhile_not (fun s : List Char => decide (s = [])) (parts.filter fun s => ¬IsDots s)
  rw [placed] at hn
  rw [hn] at h
  simp at h

theorem spelled_ne_empty (parts : List (List Char)) : spelled parts ≠ [[]] := by
  have hp := placed_head?_ne parts
  rw [spelled]
  cases hs : placed parts
  case nil => nofun
  case cons s rest =>
    rw [hs, List.head?_cons, ne_eq, Option.some.injEq] at hp
    rw [List.modifyHead_cons]
    exact fun he => withColon_ne_nil hp (List.cons.inj he).left

theorem pathOf_eq_iff {parts' : List (List Char)} (h : ∀ s ∈ parts, Kept s) (h' : ∀ s ∈ parts', Kept s) :
    pathOf parts = pathOf parts' ↔ spelled parts = spelled parts' := by
  have hr : (['/'] : List Char) = joined [[]] := rfl
  rw [pathOf_kept h, pathOf_kept h', hr]
  constructor
  case mpr => exact fun he => by rw [he]
  case mp =>
    intro he
    have hn := spelled_ne_empty parts
    have hn' := spelled_ne_empty parts'
    split at he
    all_goals
      split at he
      all_goals
        have he := joined_inj he
        simp_all

-- Where a path leads: a dot stays at its place, and two dots go up.
def resolved (parts : List (List Char)) : List (List Char) :=
  parts.foldl (fun place s =>
    if s = [] ∨ s = ['.'] then place else if s = ['.', '.'] then place.dropLast else place ++ [s]) []

theorem resolved_of_not_mem (h : ['.', '.'] ∉ parts) : resolved parts = (placed parts).filter (· ≠ []) := by
  have hd (parts : List (List Char)) : (parts.dropWhile (· = [])).filter (· ≠ []) = parts.filter (· ≠ []) := by
    induction parts
    case nil             => rfl
    case cons s parts hi =>
      by_cases hs : s = []
      · simpa [hs] using hi
      · simp [hs]
  have hf (place : List (List Char)) : parts.foldl (fun place s =>
      if s = [] ∨ s = ['.'] then place else if s = ['.', '.'] then place.dropLast else place ++ [s]) place =
      place ++ (parts.filter fun s => ¬IsDots s).filter (· ≠ []) := by
    induction parts generalizing place
    case nil             => exact (List.append_nil place).symm
    case cons s parts hi =>
      rw [List.mem_cons, not_or] at h
      rw [List.foldl_cons, hi h.right]
      by_cases hs : s = [] ∨ s = ['.']
      · obtain rfl | rfl := hs
        all_goals simp [IsDots]
      · rw [if_neg hs, if_neg (Ne.symm h.left)]
        simp_all [IsDots, Ne.symm h.left]
  rw [resolved, hf, List.nil_append, placed, hd]

-- A path that does not go up and does not begin with a drive that is written with a bar.
structure Level (path : String) : Prop where
  dots  : ['.', '.'] ∉ components path
  drive : ∀ c, isAsciiLetter c → (placed (components path)).head? ≠ some [c, '|']

theorem Level.spelled_eq {path : String} (h : Level path) :
    spelled (components path) = placed (components path) := by
  have hd := h.drive
  rw [spelled]
  cases hp : placed (components path)
  case nil          => rfl
  case cons s parts =>
    have hw : withColon s = s := withColon_eq_self fun c hc he => hd c hc (by rw [hp, he]; rfl)
    rw [List.modifyHead_cons, hw]

-- Paths that keep their characters have the same URI if and only if they are spelled alike. So they lead to the
-- same place, unless one of them goes up or has a bar in its drive.
theorem ofPath_eq_iff {p q : String} (hp : IsAbsolute p) (hq : IsAbsolute q) (kp : Kept p.toList)
    (kq : Kept q.toList) :
    (ofPath p = ofPath q ↔ spelled (components p) = spelled (components q)) ∧
      (Level p → Level q → ofPath p = ofPath q → resolved (components p) = resolved (components q)) := by
  have hs : ofPath p = ofPath q ↔ spelled (components p) = spelled (components q) := by
    rw [← String.toList_inj, hp.ofPath_eq, hq.ofPath_eq, List.append_cancel_left_eq]
    exact pathOf_eq_iff (kept_components kp) (kept_components kq)
  refine ⟨hs, fun lp lq he => ?_⟩
  rw [resolved_of_not_mem lp.dots, resolved_of_not_mem lq.dots, ← lp.spelled_eq, ← lq.spelled_eq, hs.mp he]

theorem ofPath_eq_iff_of_dot : IsAbsolute "/a/./b c" ∧ IsAbsolute "/a/b c" ∧ Kept "/a/./b c".toList ∧
    Kept "/a/b c".toList ∧ Level "/a/./b c" ∧ Level "/a/b c" ∧ ofPath "/a/./b c" = ofPath "/a/b c" ∧
    resolved (components "/a/./b c") = resolved (components "/a/b c") := by
  have hp : IsAbsolute "/a/./b c" ∧ IsAbsolute "/a/b c" := by decide
  have kp : Kept "/a/./b c".toList ∧ Kept "/a/b c".toList := by decide
  have lp : Level "/a/./b c" := ⟨by decide, by simp [placed, components, Text.split, IsDots]⟩
  have lq : Level "/a/b c" := ⟨by decide, by simp [placed, components, Text.split, IsDots]⟩
  have he : ofPath "/a/./b c" = ofPath "/a/b c" := by decide +kernel
  exact ⟨hp.left, hp.right, kp.left, kp.right, lp, lq, he,
    (ofPath_eq_iff hp.left hp.right kp.left kp.right).right lp lq he⟩

theorem alike_of_dropped :
    (IsAbsolute "/a\tb" ∧ IsAbsolute "/ab" ∧ ofPath "/a\tb" = ofPath "/ab" ∧
      resolved (components "/a\tb") ≠ resolved (components "/ab")) ∧
    (IsAbsolute "/a/../b" ∧ IsAbsolute "/a/b" ∧ ofPath "/a/../b" = ofPath "/a/b" ∧
      resolved (components "/a/../b") ≠ resolved (components "/a/b")) ∧
    (IsAbsolute "/C|/b" ∧ IsAbsolute "/C:/b" ∧ ofPath "/C|/b" = ofPath "/C:/b" ∧
      resolved (components "/C|/b") ≠ resolved (components "/C:/b")) := by
  decide +kernel

end File
end Uri
end LanguageClient
