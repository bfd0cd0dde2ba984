import LanguageClient.Proofs.Json.Floats

namespace LanguageClient.Json

variable {s s' : State} {c : Char} {cs rest : List Char} {stack : List Frame} {j v : Json}

section Writable

mutual

def Writable : Json → Prop
  | .num (.int n)   => IsWord n
  | .num (.float x) => x.isFinite
  | .arr items      => WritableItems items
  | .obj members    => WritableMembers members
  | _               => True

def WritableItems : List Json → Prop
  | []      => True
  | j :: js => j.Writable ∧ WritableItems js

def WritableMembers : List (String × Json) → Prop
  | []           => True
  | (_, j) :: ms => j.Writable ∧ WritableMembers ms

end

mutual

-- All doubles of a value are finite. Then its text has the form of a value, however large its integers are.
def Legible : Json → Prop
  | .num (.float x) => x.isFinite
  | .arr items      => LegibleItems items
  | .obj members    => LegibleMembers members
  | _               => True

def LegibleItems : List Json → Prop
  | []      => True
  | j :: js => j.Legible ∧ LegibleItems js

def LegibleMembers : List (String × Json) → Prop
  | []           => True
  | (_, j) :: ms => j.Legible ∧ LegibleMembers ms

end

mutual

-- A value with its doubles as they are read.
def echo : Json → Json
  | .num (.float x) => .num (.float x.echo)
  | .arr items      => .arr (echoItems items)
  | .obj members    => .obj (echoMembers members)
  | j               => j

def echoItems : List Json → List Json
  | []      => []
  | j :: js => j.echo :: echoItems js

def echoMembers : List (String × Json) → List (String × Json)
  | []           => []
  | (k, j) :: ms => (k, j.echo) :: echoMembers ms

end

mutual

theorem writable_of_exact : ∀ {j : Json}, j.Exact → j.Writable
  | .num (.int _), h => by
    rw [Exact] at h
    rwa [Writable]
  | .num (.float _), h => by
    rw [Exact] at h
    cases h
  | .arr items, h => by
    rw [Exact] at h
    rw [Writable]
    exact writableItems_of_exact h
  | .obj members, h => by
    rw [Exact] at h
    rw [Writable]
    exact writableMembers_of_exact h
  | .null, _ | .bool _, _ | .str _, _ => by
    rw [Writable]
    · trivial
    all_goals nofun

theorem writableItems_of_exact : ∀ {js : List Json}, ExactItems js → WritableItems js
  | [], _      => by rw [WritableItems]; trivial
  | j :: js, h => by
    rw [ExactItems] at h
    rw [WritableItems]
    exact ⟨writable_of_exact h.left, writableItems_of_exact h.right⟩

theorem writableMembers_of_exact : ∀ {ms : List (String × Json)}, ExactMembers ms → WritableMembers ms
  | [], _           => by rw [WritableMembers]; trivial
  | (k, j) :: ms, h => by
    rw [ExactMembers] at h
    rw [WritableMembers]
    exact ⟨writable_of_exact h.left, writableMembers_of_exact h.right⟩

end

mutual

theorem legible_of_writable : ∀ {j : Json}, j.Writable → j.Legible
  | .num (.float _), h => by
    rw [Writable] at h
    rwa [Legible]
  | .arr items, h => by
    rw [Writable] at h
    rw [Legible]
    exact legibleItems_of_writable h
  | .obj members, h => by
    rw [Writable] at h
    rw [Legible]
    exact legibleMembers_of_writable h
  | .null, _ | .bool _, _ | .num (.int _), _ | .str _, _ => by
    rw [Legible]
    · trivial
    all_goals nofun

theorem legibleItems_of_writable : ∀ {js : List Json}, WritableItems js → LegibleItems js
  | [], _      => by rw [LegibleItems]; trivial
  | j :: js, h => by
    rw [WritableItems] at h
    rw [LegibleItems]
    exact ⟨legible_of_writable h.left, legibleItems_of_writable h.right⟩

theorem legibleMembers_of_writable : ∀ {ms : List (String × Json)}, WritableMembers ms → LegibleMembers ms
  | [], _           => by rw [LegibleMembers]; trivial
  | (k, j) :: ms, h => by
    rw [WritableMembers] at h
    rw [LegibleMembers]
    exact ⟨legible_of_writable h.left, legibleMembers_of_writable h.right⟩

end

theorem writableItems_iff {js : List Json} : WritableItems js ↔ ∀ j ∈ js, j.Writable := by
  induction js
  case nil          => simp [WritableItems]
  case cons j js hi => simp [WritableItems, hi]

theorem writableMembers_iff {ms : List (String × Json)} : WritableMembers ms ↔ ∀ p ∈ ms, p.2.Writable := by
  induction ms
  case nil          => simp [WritableMembers]
  case cons p ms hi => simp [WritableMembers, hi]

theorem legibleItems_iff {js : List Json} : LegibleItems js ↔ ∀ j ∈ js, j.Legible := by
  induction js
  case nil          => simp [LegibleItems]
  case cons j js hi => simp [LegibleItems, hi]

theorem legibleMembers_iff {ms : List (String × Json)} : LegibleMembers ms ↔ ∀ p ∈ ms, p.2.Legible := by
  induction ms
  case nil          => simp [LegibleMembers]
  case cons p ms hi => simp [LegibleMembers, hi]

mutual

theorem echo_of_exact : ∀ {j : Json}, j.Exact → j.echo = j
  | .num (.float _), h => by
    rw [Exact] at h
    cases h
  | .arr items, h => by
    rw [Exact] at h
    rw [echo, echoItems_of_exact h]
  | .obj members, h => by
    rw [Exact] at h
    rw [echo, echoMembers_of_exact h]
  | .null, _ | .bool _, _ | .num (.int _), _ | .str _, _ => by rw [echo]; all_goals nofun

theorem echoItems_of_exact : ∀ {js : List Json}, ExactItems js → echoItems js = js
  | [], _      => by rw [echoItems]
  | j :: js, h => by
    rw [ExactItems] at h
    rw [echoItems, echo_of_exact h.left, echoItems_of_exact h.right]

theorem echoMembers_of_exact : ∀ {ms : List (String × Json)}, ExactMembers ms → echoMembers ms = ms
  | [], _           => by rw [echoMembers]
  | (k, j) :: ms, h => by
    rw [ExactMembers] at h
    rw [echoMembers, echo_of_exact h.left, echoMembers_of_exact h.right]

end

end Writable

theorem not_isSpace_of_isDigit (h : c.isDigit) : ¬isSpace c := by
  simp only [isSpace, Bool.or_eq_true, decide_eq_true_eq]
  rintro (((rfl | rfl) | rfl) | rfl)
  all_goals exact absurd h (by decide)

theorem number_head (h : c = '-' ∨ c.isDigit) : ¬isSpace c ∧ c ≠ ']' := by
  obtain rfl | h := h
  · decide
  · exact ⟨not_isSpace_of_isDigit h, fun he => absurd (he ▸ h) (by decide)⟩

theorem exists_render {n : Number} (h : (Json.num n).Legible) :
    ∃ t : NumberText, Number.render n = t.chars := by
  cases n
  case int n   => exact ⟨_, render_int n⟩
  case float x =>
    rw [Legible] at h
    exact exists_render_float h

theorem render_head (h : j.Legible) : ∃ c cs, j.render = c :: cs ∧ ¬isSpace c ∧ c ≠ ']' := by
  unfold render
  split
  case h_4 n =>
    have ⟨t, ht⟩ := exists_render h
    have ⟨c, cs, hn, hc⟩ := t.exists_chars_eq
    exact ⟨c, cs, ht.trans hn, number_head hc⟩
  all_goals exact ⟨_, _, rfl, by decide, by decide⟩

theorem reading_item {first : Bool} (hs : ¬isSpace c) (he : c ≠ ']') :
    reading ⟨stack, .item first⟩ (c :: cs) = reading ⟨stack, .value⟩ (c :: cs) := by
  have hs : step ⟨stack, .item first⟩ c = step ⟨stack, .value⟩ c := by
    simp only [step, hs, he, ↓reduceIte, Bool.false_eq_true]
  simp only [reading, run, hs]

theorem reading_item_render {first : Bool} (h : j.Writable) :
    reading ⟨stack, .item first⟩ (j.render ++ rest) = reading ⟨stack, .value⟩ (j.render ++ rest) := by
  have ⟨c, cs, hj, hc, he⟩ := render_head (legible_of_writable h)
  rw [hj, List.cons_append, reading_item hc he]

theorem renderItems_delimited {js : List Json} : Delimited (renderItems js ++ rest) := by
  cases js
  case nil  => exact delimited_cons (.inr (.inl rfl))
  case cons => exact delimited_cons (.inl rfl)

theorem renderMembers_delimited {ms : List (String × Json)} : Delimited (renderMembers ms ++ rest) := by
  cases ms
  case nil  => exact delimited_cons (.inr (.inr rfl))
  case cons => exact delimited_cons (.inl rfl)

theorem reading_array (h : stack.length < maxDepth) :
    reading ⟨stack, .value⟩ ('[' :: cs) = reading ⟨.array [] :: stack, .item true⟩ cs :=
  reading_cons (if_pos h)

theorem reading_object (h : stack.length < maxDepth) :
    reading ⟨stack, .value⟩ ('{' :: cs) = reading ⟨.object [] "" :: stack, .key true⟩ cs :=
  reading_cons (if_pos h)

mutual

theorem reading_render : ∀ {j : Json} {stack rest}, j.Writable → stack.length + j.depth ≤ maxDepth →
    Delimited rest → reading ⟨stack, .value⟩ (j.render ++ rest) = reading (put stack j.echo.normal) rest
  | .null, stack, rest, _, _, _ => by
    rw [render, echo, normal]
    · iterate 4 rw [List.cons_append, reading_cons rfl]
      rfl
    all_goals nofun
  | .bool true, stack, rest, _, _, _ => by
    rw [render, echo, normal]
    · iterate 4 rw [List.cons_append, reading_cons rfl]
      rfl
    all_goals nofun
  | .bool false, stack, rest, _, _, _ => by
    rw [render, echo, normal]
    · iterate 5 rw [List.cons_append, reading_cons rfl]
      rfl
    all_goals nofun
  | .num (.int n), _, _, h, _, hr => by
    rw [Writable] at h
    rw [render, reading_int h hr, echo, normal]
    all_goals nofun
  | .num (.float _), _, _, h, _, hr => by
    rw [Writable] at h
    rw [render, reading_float h hr, echo, normal]
    all_goals nofun
  | .str t, _, _, _, _, _ => by
    rw [render, reading_quote, echo, normal]
    all_goals nofun
  | .arr [], stack, rest, _, hd, _ => by
    rw [depth, depthItems] at hd
    have ho : stack.length < maxDepth := by omega
    rw [render, List.cons_append, reading_array ho, List.singleton_append, reading_cons rfl, echo,
      echoItems, normal, normalItems]
    rfl
  | .arr (j :: js), stack, rest, h, hd, _ => by
    rw [Writable, WritableItems] at h
    rw [depth, depthItems] at hd
    have ho : stack.length < maxDepth := by omega
    have hl : (Frame.array [] :: stack).length = stack.length + 1 := rfl
    rw [render, List.cons_append, List.cons_append, List.append_assoc, reading_array ho,
      reading_item_render h.left, reading_render h.left (by omega) renderItems_delimited, put,
      reading_renderItems h.right (by omega), echo, echoItems, normal, normalItems]
    rfl
  | .obj [], stack, rest, _, hd, _ => by
    rw [depth, depthMembers] at hd
    have ho : stack.length < maxDepth := by omega
    rw [render, List.cons_append, reading_object ho, List.singleton_append, reading_cons rfl, echo,
      echoMembers, normal, normalMembers]
    rfl
  | .obj ((k, j) :: ms), stack, rest, h, hd, _ => by
    rw [Writable, WritableMembers] at h
    rw [depth, depthMembers] at hd
    have ho : stack.length < maxDepth := by omega
    have hl : (Frame.object [] k :: stack).length = stack.length + 1 := rfl
    simp only [render, List.cons_append, List.append_assoc]
    rw [reading_object ho, reading_key,
      reading_render h.left (by omega) renderMembers_delimited, put,
      reading_renderMembers h.right (by omega), echo, echoMembers, normal, normalMembers]
    rfl

theorem reading_renderItems : ∀ {js : List Json} {items stack rest}, WritableItems js →
    stack.length + 1 + depthItems js ≤ maxDepth →
    reading ⟨.array items :: stack, .after⟩ (renderItems js ++ rest) =
      reading (put stack (.arr (items.reverse ++ normalItems (echoItems js)))) rest
  | [], items, stack, rest, _, _ => by
    rw [renderItems, echoItems, normalItems, List.append_nil, List.singleton_append]
    exact reading_cons rfl
  | j :: js, items, stack, rest, h, hd => by
    rw [WritableItems] at h
    rw [depthItems] at hd
    have hl : (Frame.array items :: stack).length = stack.length + 1 := rfl
    rw [renderItems, List.cons_append, List.cons_append, List.append_assoc, reading_cons rfl,
      reading_item_render h.left, reading_render h.left (by omega) renderItems_delimited, put,
      reading_renderItems h.right (by omega), echoItems, normalItems, List.reverse_cons, List.append_assoc,
      List.singleton_append]

theorem reading_renderMembers : ∀ {ms : List (String × Json)} {members stack rest}, WritableMembers ms →
    stack.length + 1 + depthMembers ms ≤ maxDepth →
    reading ⟨.object members "" :: stack, .after⟩ (renderMembers ms ++ rest) =
      reading (put stack
        (.obj ((normalMembers (echoMembers ms)).foldl (fun ms (k, v) => Members.insert k v ms) members))) rest
  | [], members, stack, rest, _, _ => by
    rw [renderMembers, echoMembers, normalMembers, List.singleton_append]
    exact reading_cons rfl
  | (k, j) :: ms, members, stack, rest, h, hd => by
    rw [WritableMembers] at h
    rw [depthMembers] at hd
    have hl : (Frame.object members k :: stack).length = stack.length + 1 := rfl
    simp only [renderMembers, List.cons_append, List.append_assoc]
    rw [reading_cons rfl, reading_key, reading_render h.left (by omega) renderMembers_delimited, put,
      reading_renderMembers h.right (by omega), echoMembers, normalMembers, List.foldl_cons]

end

theorem parse_writable (h : j.Writable) (hd : j.depth ≤ maxDepth) : parse j.text = .ok j.echo.normal := by
  apply parse_eq_ok
  rw [text, String.toList_ofList, ← List.append_nil j.render, start,
    reading_render h (by simpa using hd) delimited_nil]
  rfl

theorem parse_text (h : j.Exact) (hd : j.depth ≤ maxDepth) : parse j.text = .ok j.normal := by
  rw [parse_writable (writable_of_exact h) hd, echo_of_exact h]

end LanguageClient.Json
