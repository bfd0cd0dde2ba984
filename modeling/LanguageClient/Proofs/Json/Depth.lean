import LanguageClient.Json.Outline
import LanguageClient.Proofs.Json.RoundTrip

namespace LanguageClient.Json

variable {cs rest : List Char} {stack : List Frame} {j : Json}

def Fails (s : State) (cs : List Char) : Prop :=
  ∃ cause, reading s cs = .error cause

theorem openFrame_full (h : stack.length = maxDepth) (frame : Frame) (mode : Mode) :
    openFrame stack frame mode = .error (.tooDeep, 1) := by
  rw [openFrame, if_neg (by omega)]

theorem fails_array (h : stack.length = maxDepth) (cs : List Char) : Fails ⟨stack, .value⟩ ('[' :: cs) := by
  have hs : step ⟨stack, .value⟩ '[' = .error (.tooDeep, 1) := openFrame_full h _ _
  exact ⟨.tooDeep, by simp only [reading, run, hs]⟩

theorem fails_object (h : stack.length = maxDepth) (cs : List Char) : Fails ⟨stack, .value⟩ ('{' :: cs) := by
  have hs : step ⟨stack, .value⟩ '{' = .error (.tooDeep, 1) := openFrame_full h _ _
  exact ⟨.tooDeep, by simp only [reading, run, hs]⟩

mutual

theorem fails_render : ∀ {j : Json} {stack rest}, j.Writable → stack.length ≤ maxDepth →
    maxDepth < stack.length + j.depth → Delimited rest → Fails ⟨stack, .value⟩ (j.render ++ rest)
  | .null, _, _, _, _, hd, _ | .bool _, _, _, _, _, hd, _ | .num _, _, _, _, _, hd, _
  | .str _, _, _, _, _, hd, _ => by
    rw [depth] at hd
    · omega
    all_goals nofun
  | .arr [], stack, rest, _, hs, hd, _ => by
    rw [depth, depthItems] at hd
    rw [render]
    exact fails_array (by omega) _
  | .arr (j :: js), stack, rest, h, hs, hd, _ => by
    rw [Writable, WritableItems] at h
    rw [depth, depthItems] at hd
    rw [render, List.cons_append, List.cons_append, List.append_assoc]
    -- Either there is no room for the container itself, or for something in it.
    by_cases hl : stack.length = maxDepth
    case pos => exact fails_array hl _
    case neg =>
      have hl : (Frame.array [] :: stack).length ≤ maxDepth := by
        rw [List.length_cons]
        omega
      rw [Fails, reading_array hl, reading_item_render h.left]
      by_cases hj : (Frame.array [] :: stack).length + j.depth ≤ maxDepth
      case pos =>
        rw [reading_render h.left hj renderItems_delimited]
        rw [List.length_cons] at hj hl
        exact fails_renderItems h.right hl (by omega)
      case neg => exact fails_render h.left hl (by omega) renderItems_delimited
  | .obj [], stack, rest, _, hs, hd, _ => by
    rw [depth, depthMembers] at hd
    rw [render]
    exact fails_object (by omega) _
  | .obj ((k, j) :: ms), stack, rest, h, hs, hd, _ => by
    rw [Writable, WritableMembers] at h
    rw [depth, depthMembers] at hd
    simp only [render, List.cons_append, List.append_assoc]
    by_cases hl : stack.length = maxDepth
    case pos => exact fails_object hl _
    case neg =>
      have hl : (Frame.object [] k :: stack).length ≤ maxDepth := by
        rw [List.length_cons]
        omega
      rw [Fails, reading_object hl, reading_key]
      by_cases hj : (Frame.object [] k :: stack).length + j.depth ≤ maxDepth
      case pos =>
        rw [reading_render h.left hj renderMembers_delimited]
        rw [List.length_cons] at hj hl
        exact fails_renderMembers h.right hl (by omega)
      case neg => exact fails_render h.left hl (by omega) renderMembers_delimited

theorem fails_renderItems : ∀ {js : List Json} {items stack rest}, WritableItems js →
    stack.length + 1 ≤ maxDepth → maxDepth < stack.length + 1 + depthItems js →
    Fails ⟨.array items :: stack, .after⟩ (renderItems js ++ rest)
  | [], items, stack, rest, _, hs, hd => by
    rw [depthItems] at hd
    omega
  | j :: js, items, stack, rest, h, hs, hd => by
    rw [WritableItems] at h
    rw [depthItems] at hd
    have hl : (Frame.array items :: stack).length = stack.length + 1 := rfl
    rw [renderItems, List.cons_append, List.cons_append, List.append_assoc, Fails, reading_cons rfl,
      reading_item_render h.left]
    by_cases hj : stack.length + 1 + j.depth ≤ maxDepth
    case pos =>
      rw [reading_render h.left (hl ▸ hj) renderItems_delimited]
      exact fails_renderItems h.right hs (by omega)
    case neg => exact fails_render h.left (hl ▸ hs) (by omega) renderItems_delimited

theorem fails_renderMembers : ∀ {ms : List (String × Json)} {members stack rest}, WritableMembers ms →
    stack.length + 1 ≤ maxDepth → maxDepth < stack.length + 1 + depthMembers ms →
    Fails ⟨.object members "" :: stack, .after⟩ (renderMembers ms ++ rest)
  | [], members, stack, rest, _, hs, hd => by
    rw [depthMembers] at hd
    omega
  | (k, j) :: ms, members, stack, rest, h, hs, hd => by
    rw [WritableMembers] at h
    rw [depthMembers] at hd
    have hl : (Frame.object members k :: stack).length = stack.length + 1 := rfl
    simp only [renderMembers, List.cons_append, List.append_assoc]
    rw [Fails, reading_cons rfl, reading_key]
    by_cases hj : stack.length + 1 + j.depth ≤ maxDepth
    case pos =>
      rw [reading_render h.left (hl ▸ hj) renderMembers_delimited]
      exact fails_renderMembers h.right hs (by omega)
    case neg => exact fails_render h.left (hl ▸ hs) (by omega) renderMembers_delimited

end

theorem parse_deep (h : j.Writable) (hd : maxDepth < j.depth) : ∃ fault, parse j.text = .error fault := by
  have hf : Fails ⟨[], .value⟩ (j.render ++ []) :=
    fails_render h (Nat.zero_le _) (by simpa using hd) delimited_nil
  obtain ⟨cause, hr⟩ := hf
  rw [List.append_nil, ← String.toList_ofList (l := j.render)] at hr
  rw [reading] at hr
  rw [parse, text]
  cases hs : run ⟨[], .value⟩ (String.ofList j.render).toList
  case ok s =>
    rw [hs] at hr
    simp only [start, hs, hr]
    exact ⟨_, rfl⟩
  case error e =>
    simp only [start, hs]
    exact ⟨_, rfl⟩

theorem parseInside_text (h : j.Writable) :
    parseInside j.text = if j.depth < maxDepth then some j.echo.normal else none := by
  have ht : "[" ++ j.text ++ "]" = (Json.arr [j]).text := by
    rw [← String.toList_inj]
    simp [text, render, renderItems]
  have hw : (Json.arr [j]).Writable := by
    rw [Writable, WritableItems, WritableItems]
    exact ⟨h, trivial⟩
  have hd : (Json.arr [j]).depth = j.depth + 1 := by simp [depth, depthItems]
  have he : (Json.arr [j]).echo.normal = .arr [j.echo.normal] := by
    simp [echo, echoItems, normal, normalItems]
  rw [parseInside, ht]
  by_cases hj : j.depth < maxDepth
  case pos => rw [parse_writable hw (by omega), he, if_pos hj]
  case neg =>
    obtain ⟨fault, hf⟩ := parse_deep hw (by omega)
    rw [hf, if_neg hj]

end LanguageClient.Json
