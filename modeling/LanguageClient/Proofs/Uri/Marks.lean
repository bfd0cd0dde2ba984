import LanguageClient.Proofs.Uri.Components

namespace LanguageClient.Uri

open Reference (isHostChar isPrinted)

namespace File

variable {c : Char} {host name path shown : List Char}

theorem isPathText_of_isHostChar (h : isHostChar c) : isPathText c := by
  have hc : c.toNat < 128 := by
    simp [isHostChar, isPrinted] at h
    omega
  exact Reference.of_ascii (p := fun c => isHostChar c → isPathText c) (by decide) hc h

theorem isPathText_hostText? (h : hostText? name = some shown) : ∀ c ∈ shown, isPathText c := by
  simp only [hostText?] at h
  split at h
  case isTrue =>
    cases h
    exact List.forall_mem_nil _
  case isFalse =>
    split at h
    case h_1 => cases h
    case h_2 host hh =>
      split at h
      case isTrue =>
        cases h
        exact List.forall_mem_nil _
      case isFalse =>
        cases h
        -- A name, or an address in brackets.
        obtain ⟨_, hc⟩ | ⟨pieces, rfl, _⟩ := Host.text_cases hh
        · exact fun c hm => isPathText_of_isHostChar (hc c hm)
        · have ht : ∀ c ∈ Ipv6.text pieces, isPathText c := Ipv6.forall_text (by decide) (by decide)
          have hb : isPathText '[' := rfl
          have he : isPathText ']' := rfl
          exact List.forall_mem_append.mpr ⟨List.forall_mem_cons.mpr ⟨hb, ht⟩, List.forall_mem_singleton.mpr he⟩

def kept (host : List Char) : List Char :=
  host.filter fun c => !isDropped c

def suffix (host : List Char) : List Char :=
  let marked := (kept host).dropWhile fun c => !isMark c
  if marked = [] then [] else suffixOf (marked ++ ['/'])

theorem ofHost?_eq (host path : List Char) : ofHost? host path =
    (hostText? ((kept host).takeWhile fun c => !isMark c)).map fun shown =>
      "file://".toList ++ (shown ++ pathOf (Text.split '/' (path.dropWhile isSlash)) ++ suffix host) := by
  simp only [ofHost?, Option.map_eq_bind]
  rfl

theorem isPrinted_suffix (h : Slashed host) : ∀ c ∈ suffix host, isPrinted c := by
  simp only [suffix]
  split
  case isTrue  => nofun
  case isFalse =>
    have hs : Slashed ['/'] := List.forall_mem_singleton.mpr (by decide)
    refine isPrinted_suffixOf (List.forall_mem_append.mpr ⟨h.of_subset fun c hc => ?_, hs⟩)
    exact List.filter_sublist.subset ((List.dropWhile_sublist _).subset hc)

theorem suffixOf_mark (h : isMark c) (cs : List Char) : ∃ rest, suffixOf (c :: cs) = c :: rest := by
  have hc : c = '?' ∨ c = '#' := by simpa [isMark] using h
  obtain rfl | rfl := hc
  · simp only [suffixOf]
    split
    all_goals exact ⟨_, rfl⟩
  · exact ⟨_, rfl⟩

theorem exists_isMark_suffix : (∃ c ∈ suffix host, isMark c) ↔ ∃ c ∈ kept host, isMark c := by
  simp only [suffix]
  cases hd : (kept host).dropWhile fun c => !isMark c
  case nil =>
    have hn : ∀ c ∈ kept host, ¬isMark c := by simpa using hd
    simpa using hn
  case cons c marked =>
    have hc : isMark c := by
      have hn := List.head?_dropWhile_not (fun c => !isMark c) (kept host)
      simpa [hd] using hn
    have hm : c ∈ kept host := (List.dropWhile_sublist _).subset (hd ▸ List.mem_cons_self ..)
    obtain ⟨rest, he⟩ := suffixOf_mark hc (marked ++ ['/'])
    simp only [reduceCtorEq, ↓reduceIte, List.cons_append, he]
    exact ⟨fun _ => ⟨c, hm, hc⟩, fun _ => ⟨c, List.mem_cons_self .., hc⟩⟩

-- The text of the host of a path has a mark, and what stands before the first one names a host.
structure IsMarked (path : String) : Prop where
  marked : ∃ c ∈ kept (cutHost (slashes path.toList)).1, isMark c
  named  : (hostText? ((kept (cutHost (slashes path.toList)).1).takeWhile fun c => !isMark c)).isSome

theorem exists_place (path : String) : ∃ place marks : List Char,
    ofPath path = "file://" ++ String.ofList (place ++ marks) ∧ (∀ c ∈ place, isPathText c) ∧
      (∀ c ∈ marks, isPrinted c) ∧ ((∃ c ∈ marks, isMark c) ↔ IsMarked path) := by
  have hs : Slashed (cutHost (slashes path.toList)).1 := slashed_slashes.of_subset (cutHost_subset _).left
  simp only [← String.toList_inj, ofPath, String.toList_append, String.toList_ofList, ofHost?_eq]
  cases hn : hostText? ((kept (cutHost (slashes path.toList)).1).takeWhile fun c => !isMark c)
  case some shown =>
    refine ⟨_, suffix (cutHost (slashes path.toList)).1, rfl, ?_, isPrinted_suffix hs, ?_⟩
    · exact List.forall_mem_append.mpr ⟨isPathText_hostText? hn, isPathText_pathOf _⟩
    · rw [exists_isMark_suffix]
      exact ⟨fun h => ⟨h, by simp [hn]⟩, IsMarked.marked⟩
  case none =>
    -- The path is read again without a host, and no mark is left.
    refine ⟨pathOf (Text.split '/' ((slashes path.toList).dropWhile isSlash)), [], ?_, isPathText_pathOf _,
      List.forall_mem_nil _, ?_⟩
    · simp [kept, hostText?, suffix]
    · have hu : ¬IsMarked path := fun h => by simpa [hn] using h.named
      simp [hu]

-- The URI of a path is ASCII text without blanks behind `file://`, and it has neither a query nor a fragment
-- unless the path has a host with a mark behind its name.
theorem ofPath_unmarked_iff (path : String) : ∃ text : List Char,
    ofPath path = "file://" ++ String.ofList text ∧ (∀ c ∈ text, c.toNat < 128 ∧ c ≠ ' ') ∧
      ((∀ c ∈ text, c ≠ '?' ∧ c ≠ '#') ↔ ¬IsMarked path) := by
  -- Only what is left of the host behind the path can have marks.
  obtain ⟨place, marks, he, hp, hm, hi⟩ := exists_place path
  have hp : ∀ c ∈ place, (c.toNat < 128 ∧ c ≠ ' ') ∧ (c ≠ '?' ∧ c ≠ '#') := fun c hc => by
    simpa [isPathText, and_assoc] using hp c hc
  have hb : ∀ c ∈ marks, c.toNat < 128 ∧ c ≠ ' ' := by
    intro c hc
    have hc := hm c hc
    refine ⟨?_, fun he => absurd (he ▸ hc) (by decide)⟩
    simp [isPrinted] at hc
    omega
  refine ⟨place ++ marks, he, List.forall_mem_append.mpr ⟨fun c hc => (hp c hc).left, hb⟩, ?_⟩
  rw [← hi, List.forall_mem_append]
  constructor
  case mp =>
    rintro ⟨_, hn⟩ ⟨c, hc, h⟩
    simp [isMark, hn c hc] at h
  case mpr =>
    refine fun hn => ⟨fun c hc => (hp c hc).right, fun c hc => ?_⟩
    have hc : ¬isMark c := fun h => hn ⟨c, hc, h⟩
    simpa [isMark] using hc

theorem query_of_verbatim : ofPath "\\\\?\\C:\\proj\\a.ts" = "file:///C:/proj/a.ts?/" ∧
    ¬∀ c ∈ (ofPath "\\\\?\\C:\\proj\\a.ts").toList, c.toNat < 128 ∧ c ≠ ' ' ∧ c ≠ '?' ∧ c ≠ '#' := by
  have he : ofPath "\\\\?\\C:\\proj\\a.ts" = "file:///C:/proj/a.ts?/" := by decide +kernel
  refine ⟨he, fun h => ?_⟩
  have hq := h '?' (he ▸ by decide)
  exact hq.right.right.left rfl

end File
end LanguageClient.Uri
