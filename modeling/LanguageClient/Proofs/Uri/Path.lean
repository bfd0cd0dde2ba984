import LanguageClient.Proofs.Uri.Domain
import LanguageClient.Uri.File
import Mathlib.Data.List.Induction

namespace LanguageClient.Uri

namespace Reference

variable {as bs cs : List Char}

theorem escapesFit_of_not_mem (h : '%' ∉ cs) : escapesFit cs := by
  induction cs
  case nil => rfl
  case cons c cs hi =>
    have hc : '%' ≠ c := List.ne_of_not_mem_cons h
    simp [escapesFit, hi (List.not_mem_of_not_mem_cons h), hc.symm]

theorem escapesFit_append (ha : escapesFit as) (hb : escapesFit bs) : escapesFit (as ++ bs) := by
  induction as
  case nil => exact hb
  case cons c as hi =>
    simp only [escapesFit, Bool.and_eq_true, Bool.or_eq_true, decide_eq_true_eq] at ha
    obtain ⟨hc, has⟩ := ha
    simp only [List.cons_append, escapesFit, hi has, Bool.and_true, Bool.or_eq_true,
      Bool.and_eq_true, decide_eq_true_eq]
    obtain hc | ⟨hl, hh⟩ := hc
    · exact .inl hc
    · rw [List.take_append_of_le_length hl, List.length_append]
      exact .inr ⟨Nat.le_add_right_of_le hl, hh⟩

theorem escapesFit_of_append (h : escapesFit (as ++ bs)) : escapesFit bs := by
  induction as
  case nil => exact h
  case cons c as hi => exact hi (Bool.and_eq_true_iff.mp h).right

theorem escapesFit_before (h : escapesFit (as ++ '/' :: bs)) : escapesFit as := by
  induction as
  case nil => rfl
  case cons c as hi =>
    obtain ⟨hc, has⟩ := Bool.and_eq_true_iff.mp h
    have hs : (hexValue? '/').isSome = false := by decide
    rw [escapesFit, hi has, Bool.and_true]
    obtain _ | ⟨_, _ | ⟨_, _⟩⟩ := as
    · simpa [hs] using hc
    · simpa [hs] using hc
    · simpa using hc

end Reference

namespace File

open Reference (isPrinted isBarred escapesFit escapesFit_of_not_mem escapesFit_append escapesFit_of_append
  escapesFit_before)

variable {c : Char} {cs path segment text : List Char} {segments : List (List Char)}

theorem forall_percentEncode {p : Char → Prop} {set : EscapeSet} (hm : p '%')
    (hd : ∀ n < 16, p (upperHex n)) (hk : ∀ c ∈ cs, ¬set.contains c → p c) :
    ∀ c ∈ percentEncode set cs, p c := by
  have hb (b : UInt8) : ∀ c ∈ percentByte b, p c := by
    have hb : b.toNat < 256 := b.toNat_lt
    simp only [percentByte, List.forall_mem_cons]
    exact ⟨hm, hd _ (by omega), hd _ (by omega), nofun⟩
  intro c hc
  obtain ⟨d, hd, hc⟩ := List.mem_flatMap.mp hc
  rw [percentChar] at hc
  split at hc
  case isTrue =>
    obtain ⟨b, _, hc⟩ := List.mem_flatMap.mp hc
    exact hb b c hc
  case isFalse hn =>
    cases List.mem_singleton.mp hc
    exact hk c hd hn

def Slashed (cs : List Char) : Prop :=
  ∀ c ∈ cs, c ≠ '\\'

def EscapesBlanks (set : EscapeSet) : Prop :=
  ∀ c ∈ " <>".toList, set.extra.contains c

instance (set : EscapeSet) : Decidable (EscapesBlanks set) :=
  List.decidableBAll (fun c => set.extra.contains c) " <>".toList

theorem isPrinted_percentEncode {set : EscapeSet} (hs : EscapesBlanks set) (h : Slashed cs) :
    ∀ c ∈ percentEncode set cs, isPrinted c := by
  refine forall_percentEncode (by decide) (by decide) fun c hc hn => ?_
  have hm : c ≠ '\\' := h c hc
  have hb : c ∉ " <>".toList := by
    intro hm
    exact hn (by simp only [EscapeSet.contains, hs c hm, Bool.or_true])
  have hb : c ≠ ' ' ∧ c ≠ '<' ∧ c ≠ '>' := by simpa using hb
  simp only [EscapeSet.contains, Bool.or_eq_true, decide_eq_true_eq, not_or] at hn
  have hne : c.toNat ≠ 32 := fun he => hb.left (Char.toNat_inj.mp he)
  simp [isPrinted, hm, hb]
  omega

-- The characters that a reference may not have, but that are not escaped in a segment.
def isSpared (c : Char) : Bool :=
  "[]^|".toList.contains c

theorem clear_percentEncode (h : ∀ c ∈ cs, ¬isSpared c) :
    ∀ c ∈ percentEncode .pathSegment cs, ¬isBarred c ∧ c ≠ '#' := by
  refine forall_percentEncode (by decide) (by decide) fun c hc hn => ⟨fun hb => ?_, ?_⟩
  · have hall : "\"[]^`\x7b|\x7d".toList.all fun d => EscapeSet.pathSegment.contains d || isSpared d := by
      decide
    have hc' := List.all_eq_true.mp hall c (List.contains_iff_mem.mp hb)
    simp [hn, h c hc] at hc'
  · rintro rfl
    exact hn (by decide)

section Paths

variable {p : Char → Prop}

theorem mem_of_mem_parent (h : c ∈ parent path) : c ∈ path := by
  rw [parent, List.mem_reverse] at h
  exact List.mem_reverse.mp ((List.dropWhile_sublist _).subset h)

theorem mem_of_mem_goUp (h : c ∈ goUp path) : c ∈ path := by
  have hd (h : c ∈ path.dropLast) : c ∈ path := (List.dropLast_sublist path).subset h
  simp only [goUp] at h
  split at h
  all_goals split at h
  all_goals grind [mem_of_mem_parent]

theorem mem_of_mem_oneSlash (h : c ∈ oneSlash path) : c = '/' ∨ c ∈ path := by
  obtain rfl | h := List.mem_cons.mp h
  · exact .inl rfl
  · exact .inr ((List.dropWhile_sublist _).subset h)

theorem mem_of_mem_fragments {f : List Char} (hf : f ∈ fragments segment) (hc : c ∈ f) :
    c ∈ segment := by
  rw [fragments] at hf
  induction segment generalizing f
  case nil =>
    cases List.mem_singleton.mp hf
    exact hc
  case cons d segment hi =>
    rw [List.splitOnP_cons_eq_if_modifyHead] at hf
    split at hf
    case isTrue =>
      obtain rfl | hf := List.mem_cons.mp hf
      · cases hc
      · exact List.mem_cons_of_mem _ (hi hf hc)
    case isFalse =>
      match hs : segment.splitOnP isDropped with
      | []         => exact absurd hs (List.splitOnP_ne_nil _ _)
      | first :: _ =>
        rw [hs] at hf hi
        obtain rfl | hf := List.mem_cons.mp hf
        · obtain rfl | hc := List.mem_cons.mp hc
          · exact List.mem_cons_self ..
          · exact List.mem_cons_of_mem _ (hi (List.mem_cons_self ..) hc)
        · exact List.mem_cons_of_mem _ (hi (List.mem_cons_of_mem _ hf) hc)

theorem forall_addFragments {n : Nat} {fs : List (List Char)} (hs : p '/') (hp : ∀ c ∈ path, p c)
    (hf : ∀ f ∈ fs, ∀ c ∈ percentEncode .pathSegment f, p c) :
    ∀ c ∈ (addFragments path n fs).1, p c := by
  induction fs generalizing path n
  case nil => exact hp
  case cons f fs hi =>
    have ⟨hf, hfs⟩ := List.forall_mem_cons.mp hf
    rw [addFragments]
    refine hi (List.forall_mem_append.mpr ⟨?_, hf⟩) hfs
    split
    · exact List.forall_mem_append.mpr ⟨hp, by simpa using hs⟩
    · exact hp

-- What a segment makes of a path, before all but one of the slashes in front are dropped: `added` is the
-- path with the fragments of the segment, which begin at `start`.
inductive Extended (added : List Char) (start : Nat) : List Char → Prop
  | up     : Extended added start (goUp (added.take start))
  | same   : Extended added start (added.take start)
  | closed : Extended added start (added.take start ++ ['/'])
  | drive (h : isDrive (added.drop start)) :
    Extended added start (added.take start ++ (added.drop start).take 1 ++ [':'])
  | whole  : Extended added start added

def opened (path : List Char) : List Char :=
  if path.length > 1 then path ++ ['/'] else path

theorem addSegment_extended (path segment : List Char) :
    ∃ added start cs,
      addFragments (opened path) (opened path).length (fragments segment) = (added, start) ∧
      Extended added start cs ∧ addSegment path segment = oneSlash cs := by
  obtain ⟨added, start, h⟩ : ∃ added start,
      addFragments (opened path) (opened path).length (fragments segment) = (added, start) :=
    ⟨_, _, rfl⟩
  have hs : addSegment path segment = oneSlash
      (if added.drop start = ['.', '.'] then goUp (added.take start)
      else if added.drop start = ['.'] then
        if (added.take start).getLast? = some '/' then added.take start else added.take start ++ ['/']
      else if start = 1 && isDrive (added.drop start) then
        added.take start ++ (added.drop start).take 1 ++ [':']
      else added) := by
    rw [addSegment, ← opened, h]
  refine ⟨added, start, _, h, ?_, hs⟩
  split
  case isTrue => exact .up
  case isFalse =>
    split
    case isTrue =>
      split
      case isTrue  => exact .same
      case isFalse => exact .closed
    case isFalse =>
      split
      case isTrue hd => exact .drive (Bool.and_eq_true_iff.mp hd).right
      case isFalse   => exact .whole

theorem forall_opened (hs : p '/') (hp : ∀ c ∈ path, p c) : ∀ c ∈ opened path, p c := by
  rw [opened]
  split
  case isTrue  => exact List.forall_mem_append.mpr ⟨hp, List.forall_mem_singleton.mpr hs⟩
  case isFalse => exact hp

theorem forall_addSegment (hs : p '/') (hc : p ':') (hp : ∀ c ∈ path, p c)
    (h : ∀ c ∈ percentEncode .pathSegment segment, p c) : ∀ c ∈ addSegment path segment, p c := by
  have hf : ∀ f ∈ fragments segment, ∀ c ∈ percentEncode .pathSegment f, p c := by
    intro f hf c hc
    have ⟨d, hd, hc⟩ := List.mem_flatMap.mp hc
    exact h c (List.mem_flatMap.mpr ⟨d, mem_of_mem_fragments hf hd, hc⟩)
  -- What is added are escaped fragments, slashes and the colon of a drive.
  obtain ⟨added, start, cs, he, hx, ha⟩ := addSegment_extended path segment
  have hadded : ∀ c ∈ added, p c := by
    have ha := forall_addFragments (n := (opened path).length) hs (forall_opened hs hp) hf
    rwa [he] at ha
  have hb : ∀ c ∈ added.take start, p c := fun c hc => hadded c (List.mem_of_mem_take hc)
  have hl : ∀ c ∈ (added.drop start).take 1, p c := fun c hc =>
    hadded c (List.mem_of_mem_drop (List.mem_of_mem_take hc))
  have hcs : ∀ c ∈ cs, p c := by
    cases hx
    case up     => exact fun c hc => hb c (mem_of_mem_goUp hc)
    case same   => exact hb
    case closed => exact List.forall_mem_append.mpr ⟨hb, List.forall_mem_singleton.mpr hs⟩
    case drive  =>
      refine List.forall_mem_append.mpr ⟨List.forall_mem_append.mpr ⟨hb, hl⟩, ?_⟩
      exact List.forall_mem_singleton.mpr hc
    case whole  => exact hadded
  intro c hm
  rw [ha] at hm
  obtain rfl | hm := mem_of_mem_oneSlash hm
  · exact hs
  · exact hcs c hm

theorem forall_pathOf (hs : p '/') (hc : p ':')
    (h : ∀ s ∈ segments, ∀ c ∈ percentEncode .pathSegment s, p c) : ∀ c ∈ pathOf segments, p c := by
  have hf (path : List Char) (segments : List (List Char)) (hp : ∀ c ∈ path, p c)
      (h : ∀ s ∈ segments, ∀ c ∈ percentEncode .pathSegment s, p c) :
      ∀ c ∈ segments.foldl addSegment path, p c := by
    induction segments generalizing path
    case nil => exact hp
    case cons s segments hi =>
      have ⟨h, hs'⟩ := List.forall_mem_cons.mp h
      exact hi _ (forall_addSegment hs hc hp h) hs'
  exact hf _ _ (by simpa using hs) fun s hs => h s (List.mem_filter.mp hs).left

theorem pathOf_head : (pathOf segments).head? = some '/' := by
  rw [pathOf]
  generalize segments.filter _ = segments
  obtain rfl | ⟨before, s, rfl⟩ := segments.eq_nil_or_concat
  case inl => rfl
  case inr =>
    rw [List.concat_eq_append, List.foldl_append]
    rfl

end Paths

theorem isSome_hexValue?_upperHex : ∀ n < 16, (hexValue? (upperHex n)).isSome := by
  decide

theorem escapesFit_percentByte (b : UInt8) : escapesFit (percentByte b) := by
  have hb : b.toNat < 256 := b.toNat_lt
  have h₁ := isSome_hexValue?_upperHex (b.toNat / 16) (by omega)
  have h₂ := isSome_hexValue?_upperHex (b.toNat % 16) (by omega)
  have hp : (hexValue? '%').isSome = false := by decide
  have hn {c : Char} (h : (hexValue? c).isSome) : c ≠ '%' := by
    rintro rfl
    simp [hp] at h
  simp [percentByte, escapesFit, h₁, h₂, hn h₁, hn h₂]

theorem escapesFit_flatMap {α : Type} {f : α → List Char} (h : ∀ a, escapesFit (f a)) (as : List α) :
    escapesFit (as.flatMap f) := by
  induction as
  case nil => rfl
  case cons a as hi =>
    rw [List.flatMap_cons]
    exact escapesFit_append (h a) hi

theorem escapesFit_percentEncode {set : EscapeSet} (hs : '%' ∈ set.extra) (cs : List Char) :
    escapesFit (percentEncode set cs) := by
  refine escapesFit_flatMap (fun c => ?_) cs
  rw [percentChar]
  split
  case isTrue => exact escapesFit_flatMap escapesFit_percentByte _
  case isFalse hn =>
    have hc : c ≠ '%' := by
      rintro rfl
      exact hn (by simp [EscapeSet.contains, hs])
    simp [escapesFit, hc]

theorem escapesFit_slash (h : escapesFit path) : escapesFit (path ++ ['/']) :=
  escapesFit_append h rfl

theorem escapesFit_parent (h : escapesFit path) : escapesFit (parent path) := by
  have hp : parent path ++ lastPart path = path := by
    rw [parent, lastPart, ← List.reverse_append, List.takeWhile_append_dropWhile, List.reverse_reverse]
  cases hd : path.reverse.dropWhile (· ≠ '/')
  case nil =>
    rw [parent, hd]
    rfl
  case cons d ds =>
    have hs : d = '/' := by
      have hn := List.head?_dropWhile_not (· ≠ '/') path.reverse
      rw [hd] at hn
      simpa using hn
    have he : parent path = ds.reverse ++ ['/'] := by rw [parent, hd, hs, List.reverse_cons]
    rw [← hp, he, List.append_assoc, List.singleton_append] at h
    exact he ▸ escapesFit_slash (escapesFit_before h)

theorem escapesFit_goUp (h : escapesFit path) : escapesFit (goUp path) := by
  -- What is left of the path when its last part is looked at.
  have hl (root drive : Bool) :
      escapesFit (if path.getLast? = some '/' && root && drive then path.dropLast else path) := by
    split
    case isFalse   => exact h
    case isTrue hc =>
      simp only [Bool.and_eq_true, decide_eq_true_eq] at hc
      obtain ⟨bare, rfl⟩ := List.getLast?_eq_some_iff.mp hc.left.left
      rw [List.dropLast_concat]
      exact escapesFit_before h
  have hp {left : List Char} (h : escapesFit left) :
      escapesFit (if isColonDrive (lastPart left) then left else parent left) := by
    split
    case isTrue  => exact h
    case isFalse => exact escapesFit_parent h
  exact hp (hl _ _)

theorem escapesFit_oneSlash (h : escapesFit path) : escapesFit (oneSlash path) := by
  have hp : path.takeWhile isSlash ++ path.dropWhile isSlash = path := List.takeWhile_append_dropWhile
  have hd : escapesFit (path.dropWhile isSlash) := escapesFit_of_append (hp.symm ▸ h)
  have hs : escapesFit ['/'] := rfl
  exact escapesFit_append hs hd

theorem escapesFit_opened (h : escapesFit path) : escapesFit (opened path) := by
  rw [opened]
  split
  case isTrue  => exact escapesFit_slash h
  case isFalse => exact h

theorem ne_of_isAsciiLetter (h : isAsciiLetter c) : c ≠ '%' := by
  rintro rfl
  exact absurd h (by decide)

theorem exists_of_isDrive (h : isDrive cs) : ∃ c d, cs = [c, d] ∧ c ≠ '%' := by
  unfold isDrive at h
  split at h
  case h_1 c d => exact ⟨c, d, rfl, ne_of_isAsciiLetter (Bool.and_eq_true_iff.mp h).left⟩
  case h_2     => cases h

-- A place in a path that is not inside of an escape.
structure Whole (path : List Char) (n : Nat) : Prop where
  fits   : escapesFit path
  le     : n ≤ path.length
  before : escapesFit (path.take n)

theorem Whole.end (h : escapesFit path) : Whole path path.length :=
  ⟨h, Nat.le_refl _, by rwa [List.take_length]⟩

theorem Whole.append {n : Nat} (h : Whole path n) (hf : escapesFit text) : Whole (path ++ text) n where
  fits   := escapesFit_append h.fits hf
  le     := by
    rw [List.length_append]
    exact Nat.le_add_right_of_le h.le
  before := by
    rw [List.take_append_of_le_length h.le]
    exact h.before

theorem not_mem_of_isColonDrive (hf : escapesFit path) (h : isColonDrive (path.drop 1)) :
    '%' ∉ path := by
  unfold isColonDrive at h
  split at h
  case h_2 => cases h
  case h_1 c d hd =>
    obtain ⟨a, rfl⟩ : ∃ a, path = [a, c, d] := by
      cases path
      case nil       => cases hd
      case cons a as => exact ⟨a, congrArg _ hd⟩
    have ⟨hc, hd⟩ := Bool.and_eq_true_iff.mp h
    cases decide_eq_true_eq.mp hd
    have hc : c ≠ '%' := ne_of_isAsciiLetter hc
    have hs : (hexValue? ':').isSome = false := by decide
    have ha : a ≠ '%' := by
      rintro rfl
      simp [escapesFit, hs] at hf
    simp [ha.symm, hc.symm]

theorem Whole.next {n : Nat} (h : Whole path n) (hd : isColonDrive (path.drop 1)) :
    Whole (path ++ ['/']) (n + 1) where
  fits   := escapesFit_slash h.fits
  le     := by
    rw [List.length_append, List.length_singleton]
    exact Nat.succ_le_succ h.le
  before := by
    refine escapesFit_of_not_mem fun hm => ?_
    have hm := List.mem_append.mp (List.mem_of_mem_take hm)
    simp [not_mem_of_isColonDrive h.fits hd] at hm

theorem Whole.addFragments {n : Nat} (h : Whole path n) (fs : List (List Char)) :
    Whole (addFragments path n fs).1 (addFragments path n fs).2 := by
  induction fs generalizing path n
  case nil => exact h
  case cons f fs hi =>
    have he : escapesFit (percentEncode .pathSegment f) := escapesFit_percentEncode (by decide) f
    simp only [File.addFragments]
    split
    case isTrue hc => exact hi ((h.next (Bool.and_eq_true_iff.mp hc).right).append he)
    case isFalse   => exact hi (h.append he)

theorem escapesFit_addSegment (h : escapesFit path) (segment : List Char) :
    escapesFit (addSegment path segment) := by
  obtain ⟨added, start, cs, he, hx, ha⟩ := addSegment_extended path segment
  have hw : Whole added start := by
    have hw := (Whole.end (escapesFit_opened h)).addFragments (fragments segment)
    rwa [he] at hw
  rw [ha]
  apply escapesFit_oneSlash
  cases hx
  case up     => exact escapesFit_goUp hw.before
  case same   => exact hw.before
  case closed => exact escapesFit_slash hw.before
  case drive hd =>
    obtain ⟨c, d, he, hc⟩ := exists_of_isDrive hd
    have hc : escapesFit [c] := escapesFit_of_not_mem (by simp [hc.symm])
    rw [he]
    exact escapesFit_append (escapesFit_append hw.before hc) rfl
  case whole  => exact hw.fits

theorem escapesFit_pathOf (segments : List (List Char)) : escapesFit (pathOf segments) := by
  rw [pathOf]
  generalize segments.filter _ = segments
  induction segments using List.reverseRecOn
  case nil => rfl
  case append_singleton segments s hi =>
    rw [List.foldl_append]
    exact escapesFit_addSegment hi s

end File
end LanguageClient.Uri
