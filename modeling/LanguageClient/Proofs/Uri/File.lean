import LanguageClient.Proofs.Uri.Path

namespace LanguageClient.Uri.File

open Reference (isPrinted isBarred Tidy)

variable {c : Char} {cs host path segment text : List Char}

theorem slashed_slashes : Slashed (slashes cs) := by
  intro c hc
  obtain ⟨d, _, rfl⟩ := List.mem_map.mp hc
  split
  · decide
  · assumption

theorem Slashed.of_subset (h : Slashed cs) (hs : text ⊆ cs) : Slashed text :=
  fun c hc => h c (hs hc)

theorem cutHost_subset (path : List Char) : (cutHost path).1 ⊆ path ∧ (cutHost path).2 ⊆ path := by
  unfold cutHost
  split
  case h_2 => simp
  case h_1 rest =>
    cases hc : Text.cut? '/' rest
    case none => simp
    case some parts =>
      obtain ⟨a, b⟩ := parts
      simp only [Text.cut?_eq_some hc, Option.getD_some]
      constructor
      all_goals
        intro c h
        simp [h]

theorem mem_of_mem_segments (hs : segment ∈ Text.split '/' (path.dropWhile isSlash))
    (hc : c ∈ segment) : c ∈ path :=
  (List.dropWhile_sublist _).subset (Text.mem_of_mem_split hs hc)

theorem isPrinted_pathOf (h : Slashed path) :
    ∀ c ∈ pathOf (Text.split '/' (path.dropWhile isSlash)), isPrinted c :=
  forall_pathOf (by decide) (by decide) fun _ hs =>
    isPrinted_percentEncode (by decide) fun c hc => h c (mem_of_mem_segments hs hc)

theorem isPrinted_suffixOf (h : Slashed cs) : ∀ c ∈ suffixOf cs, isPrinted c := by
  have hq : EscapesBlanks .query := by decide
  have hf : EscapesBlanks .fragment := by decide
  unfold suffixOf
  split
  case h_1 rest =>
    have hr : Slashed rest := h.of_subset (List.subset_cons_self _ _)
    have ht : Slashed (rest.takeWhile (· ≠ '#')) := hr.of_subset (List.takeWhile_sublist _).subset
    have hd : Slashed (rest.dropWhile (· ≠ '#')) := hr.of_subset (List.dropWhile_sublist _).subset
    split
    case h_1 => exact List.forall_mem_cons.mpr ⟨by decide, isPrinted_percentEncode hq ht⟩
    case h_2 mark fragment he =>
      rw [he] at hd
      have hm : Slashed fragment := hd.of_subset (List.subset_cons_self _ _)
      refine List.forall_mem_append.mpr ⟨?_, ?_⟩
      · exact List.forall_mem_cons.mpr ⟨by decide, isPrinted_percentEncode hq ht⟩
      · exact List.forall_mem_cons.mpr ⟨by decide, isPrinted_percentEncode hf hm⟩
  case h_2 fragment =>
    have hm : Slashed fragment := h.of_subset (List.subset_cons_self _ _)
    exact List.forall_mem_cons.mpr ⟨by decide, isPrinted_percentEncode hf hm⟩
  case h_3 => nofun

inductive IsHostText : List Char → Prop
  | none : IsHostText []
  | name (shown : List Char) (hn : shown ≠ []) (h : ∀ c ∈ shown, Reference.isHostChar c) :
    IsHostText shown
  | address (inside : List Char) (ha : (Ipv6.parse? inside).isSome) (hb : ']' ∉ inside) :
    IsHostText ('[' :: inside ++ [']'])

theorem isHostText_of_hostText? {name shown : List Char} (h : hostText? name = some shown) :
    IsHostText shown := by
  rw [hostText?] at h
  split at h
  case isTrue =>
    cases h
    exact .none
  case isFalse =>
    split at h
    case h_1 => cases h
    case h_2 host hh =>
      split at h
      case isTrue =>
        cases h
        exact .none
      case isFalse =>
        cases h
        obtain ⟨hn, hc⟩ | ⟨pieces, rfl, ha⟩ := Host.text_cases hh
        · exact .name _ hn hc
        · exact .address _ ha Ipv6.not_mem_text

inductive IsFileText : List Char → Prop
  | mk (shown rest : List Char) (hs : IsHostText shown) (hr : rest.head? = some '/')
    (hp : ∀ c ∈ rest, isPrinted c) : IsFileText ("file://".toList ++ (shown ++ rest))

theorem isFileText_of_ofHost? (hh : Slashed host) (hp : Slashed path)
    (h : ofHost? host path = some text) : IsFileText text := by
  have ⟨shown, hs, he⟩ := Option.bind_eq_some_iff.mp h
  cases he
  rw [List.append_assoc, List.append_assoc]
  refine .mk shown _ (isHostText_of_hostText? hs) ?_ ?_
  · rw [List.head?_append, pathOf_head]
    rfl
  · refine List.forall_mem_append.mpr ⟨isPrinted_pathOf hp, ?_⟩
    split
    · nofun
    · apply isPrinted_suffixOf
      have hs : Slashed ['/'] := List.forall_mem_singleton.mpr (by decide)
      refine List.forall_mem_append.mpr ⟨hh.of_subset fun c hc => ?_, hs⟩
      exact (List.filter_sublist).subset ((List.dropWhile_sublist _).subset hc)

theorem isFileText_ofPath (path : String) : IsFileText (ofPath path).toList := by
  have hp : Slashed (slashes path.toList) := slashed_slashes
  have ⟨hh, hr⟩ := cutHost_subset (slashes path.toList)
  have hf (host rest : List Char) (hh : Slashed host) (hr : Slashed rest) :
      ∀ text ∈ ofHost? host rest, IsFileText text := fun _ h => isFileText_of_ofHost? hh hr h
  simp only [ofPath, String.toList_ofList]
  cases h₁ : ofHost? (cutHost (slashes path.toList)).1 (cutHost (slashes path.toList)).2
  case some text => exact hf _ _ (hp.of_subset hh) (hp.of_subset hr) text h₁
  case none =>
    cases h₂ : ofHost? [] (slashes path.toList)
    case some text => exact hf _ _ (by simp [Slashed]) hp text h₂
    case none      => exact .mk [] ['/'] .none rfl (List.forall_mem_singleton.mpr (by decide))

def behindAddress : List Char → List Char
  | '[' :: rest => (rest.dropWhile (· ≠ ']')).drop 1
  | cs          => cs

theorem behindAddress_of_ne (h : cs.head? ≠ some '[') : behindAddress cs = cs := by
  unfold behindAddress
  split
  · simp at h
  · rfl

theorem behindAddress_address {inside : List Char} (h : ']' ∉ inside) :
    behindAddress ('[' :: inside ++ ']' :: cs) = cs := by
  have hd : (inside ++ ']' :: cs).dropWhile (· ≠ ']') = ']' :: cs := by
    rw [List.dropWhile_append_of_pos, List.dropWhile_cons_of_neg (by decide)]
    intro c hc
    simpa using ne_of_mem_of_not_mem hc h
  rw [List.cons_append, behindAddress, hd]
  rfl

theorem isOk_check_of_isFileText (h : IsFileText text) :
    (Reference.check text).isOk ↔ Tidy (behindAddress (text.drop 7)) := by
  obtain ⟨shown, rest, hs, hr, hp⟩ := h
  have hd : ("file://".toList ++ (shown ++ rest)).drop 7 = shown ++ rest := rfl
  rw [Reference.isOk_check, hd]
  cases hs
  case none =>
    rw [List.nil_append, behindAddress_of_ne (by simp [hr])]
    exact Reference.isOk_authority_path hp hr
  case name hn hc =>
    have hh : (shown ++ rest).head? ≠ some '[' := by
      obtain ⟨c, cs, rfl⟩ := List.exists_cons_of_ne_nil hn
      simpa using (Reference.ne_of_isHostChar (hc c (by simp))).right.right
    rw [behindAddress_of_ne hh]
    exact Reference.isOk_authority_name hn hc hp hr
  case address inside ha hb =>
    rw [List.append_assoc, List.singleton_append, behindAddress_address hb]
    exact Reference.isOk_authority_address ha hb hp hr

theorem isOk_check_ofPath (path : String) :
    (Reference.check (ofPath path).toList).isOk ↔ Tidy (behindAddress ((ofPath path).toList.drop 7)) :=
  isOk_check_of_isFileText (isFileText_ofPath path)

def IsLocal (path : String) : Prop :=
  ¬['/', '/'] <+: slashes path.toList

instance {path : String} : Decidable (IsLocal path) :=
  inferInstanceAs (Decidable (¬_))

theorem IsLocal.ofPath_eq {path : String} (h : IsLocal path) :
    (ofPath path).toList = "file://".toList ++
      pathOf (Text.split '/' ((slashes path.toList).dropWhile isSlash)) := by
  have hc : cutHost (slashes path.toList) = ([], slashes path.toList) := by
    unfold cutHost
    split
    case h_1 rest hs => exact absurd (hs ▸ List.prefix_append ['/', '/'] rest) h
    case h_2         => rfl
  simp [ofPath, hc, ofHost?, hostText?]

theorem mem_of_mem_slashes (h : c ∈ slashes cs) : c = '/' ∨ c ∈ cs := by
  obtain ⟨d, hd, rfl⟩ := List.mem_map.mp h
  split
  case isTrue  => exact .inl rfl
  case isFalse => exact .inr hd

theorem IsLocal.isOk_check {path : String} (h : IsLocal path) (hc : ∀ c ∈ path.toList, ¬isSpared c) :
    (Reference.check (ofPath path).toList).isOk := by
  let segments := Text.split '/' ((slashes path.toList).dropWhile isSlash)
  have hs : ∀ c ∈ slashes path.toList, ¬isSpared c := by
    intro c hm
    obtain rfl | hm := mem_of_mem_slashes hm
    · decide
    · exact hc c hm
  have hp : ∀ c ∈ pathOf segments, ¬isBarred c ∧ c ≠ '#' :=
    forall_pathOf (by decide) (by decide) fun _ hm =>
      clear_percentEncode fun c hc => hs c (mem_of_mem_segments hm hc)
  have ht : Tidy (pathOf segments) := by
    refine ⟨fun c hc => (hp c hc).left, escapesFit_pathOf _, ?_⟩
    rw [List.count_eq_zero.mpr fun hm => (hp _ hm).right rfl]
    exact Nat.zero_le 1
  have hd : (ofPath path).toList.drop 7 = pathOf segments := by
    rw [h.ofPath_eq]
    rfl
  have hb : (pathOf segments).head? ≠ some '[' := by
    rw [pathOf_head]
    decide
  rw [isOk_check_ofPath, hd, behindAddress_of_ne hb]
  exact ht

end LanguageClient.Uri.File
