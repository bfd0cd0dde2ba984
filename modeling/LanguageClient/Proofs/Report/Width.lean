import LanguageClient.Report

namespace LanguageClient.Report

open Protocol (Diagnostic Severity)

variable {width : Nat} {cs path : List Char} {d : Diagnostic}

-- What is to become of a text in a width: it stays as it is if it fits, and otherwise fills the width with
-- its beginning and three dots, or as many as there is room for.
structure Shortens (width : Nat) (cs shortened : List Char) : Prop where
  fits : cs.length ≤ width → shortened = cs
  cut  : width < cs.length →
    shortened.length = width ∧ shortened = cs.take (width - 3) ++ List.replicate (min 3 width) '.'

theorem truncate_narrow (h : width ≤ 3) (cs : List Char) : truncate width cs = List.replicate width '.' :=
  if_pos h

theorem truncate_of_fits (h : 3 < width) (hl : cs.length ≤ width) : truncate width cs = cs := by
  rw [truncate, if_neg (Nat.not_le.mpr h), if_pos hl]

theorem truncate_of_cut (h : 3 < width) (hl : width < cs.length) :
    truncate width cs = cs.take (width - 3) ++ ['.', '.', '.'] := by
  rw [truncate, if_neg (Nat.not_le.mpr h), if_neg (Nat.not_le.mpr hl)]

theorem length_truncate (width : Nat) (cs : List Char) :
    (truncate width cs).length = if width ≤ 3 then width else min cs.length width := by
  split
  case isTrue h  => rw [truncate_narrow h, List.length_replicate]
  case isFalse h =>
    have h := Nat.lt_of_not_le h
    by_cases hl : cs.length ≤ width
    case pos => rw [truncate_of_fits h hl, Nat.min_eq_left hl]
    case neg =>
      have hl := Nat.lt_of_not_le hl
      rw [truncate_of_cut h hl, List.length_append, List.length_take]
      simp only [List.length_cons, List.length_nil]
      omega

theorem truncate_shortens_of_cut (hl : width < cs.length) : Shortens width cs (truncate width cs) := by
  refine ⟨fun h => absurd hl (Nat.not_lt.mpr h), fun _ => ⟨?_, ?_⟩⟩
  · have hc := length_truncate width cs
    split at hc
    · exact hc
    · exact hc.trans (Nat.min_eq_right (Nat.le_of_lt hl))
  · by_cases h : width ≤ 3
    case pos =>
      rw [truncate_narrow h, Nat.min_eq_right h, Nat.sub_eq_zero_of_le h, List.take_zero, List.nil_append]
    case neg =>
      have h := Nat.lt_of_not_le h
      rw [truncate_of_cut h hl, Nat.min_eq_left (Nat.le_of_lt h)]
      rfl

theorem truncate_shortens_iff (width : Nat) (cs : List Char) : Shortens width cs (truncate width cs) ↔
    3 < width ∨ width < cs.length ∨ cs = List.replicate width '.' := by
  by_cases hl : width < cs.length
  case pos => exact iff_of_true (truncate_shortens_of_cut hl) (.inr (.inl hl))
  case neg =>
    have hf := Nat.le_of_not_lt hl
    have hs : Shortens width cs (truncate width cs) ↔ truncate width cs = cs :=
      ⟨fun h => h.fits hf, fun h => ⟨fun _ => h, fun h => absurd h hl⟩⟩
    by_cases h : width ≤ 3
    case pos =>
      rw [hs, truncate_narrow h]
      constructor
      · exact fun he => .inr (.inr he.symm)
      · rintro (hw | hw | he)
        · exact absurd h (Nat.not_le.mpr hw)
        · exact absurd hw hl
        · exact he.symm
    case neg =>
      have h := Nat.lt_of_not_le h
      exact iff_of_true (hs.mpr (truncate_of_fits h hf)) (.inl h)

-- Two characters that fit into three become dots.
theorem truncate_dots : ¬∀ (width : Nat) (cs : List Char), Shortens width cs (truncate width cs) := by
  intro h
  exact absurd ((h 3 ['a', 'b']).fits (by decide)) (by decide)

def heading (path : List Char) (d : Diagnostic) : List Char :=
  place path d ++ separator ++ severityName d.severity ++ codeLabel d.code ++ separator

def reserved (path : List Char) (d : Diagnostic) : Nat :=
  Utf8.size (place path d ++ separator)

def headline (d : Diagnostic) : List Char :=
  (Text.lines d.message.toList).headD []

theorem severityLabel_plain (severity : Option Severity) : severityLabel false severity = severityName severity := by
  rw [severityLabel]
  cases severityShade? severity <;> rfl

theorem line_plain (width : Nat) (path : List Char) (d : Diagnostic) :
    line false width path d = heading path d ++ summary width (place path d) d.message.toList := by
  have hp (shade : Shade) (cs : List Char) : paint false shade cs = cs := rfl
  simp only [line, heading, hp, severityLabel_plain]

theorem summary_eq (width : Nat) (path : List Char) (d : Diagnostic) :
    summary width (place path d) d.message.toList =
      if width > reserved path d then truncate (width - reserved path d) (headline d) else headline d :=
  rfl

theorem length_summary (width : Nat) (path : List Char) (d : Diagnostic) :
    (summary width (place path d) d.message.toList).length =
      if width ≤ reserved path d then (headline d).length
      else if width ≤ reserved path d + 3 then width - reserved path d
      else min (headline d).length (width - reserved path d) := by
  rw [summary_eq]
  by_cases hr : width ≤ reserved path d
  case pos => rw [if_neg (Nat.not_lt.mpr hr), if_pos hr]
  case neg =>
    have hn : width ≤ reserved path d + 3 ↔ width - reserved path d ≤ 3 := by omega
    rw [if_pos (Nat.lt_of_not_le hr), if_neg hr, length_truncate]
    simp only [hn]

-- A line is too wide unless its message fits behind its heading, or the place has so many bytes that the
-- heading has no more characters. A message that fits is lost where there is room for dots only.
theorem length_line_le_iff (width : Nat) (path : List Char) (d : Diagnostic) :
    (line false width path d).length ≤ max width (heading path d).length ↔
      reserved path d < width ∧ (heading path d).length ≤ reserved path d ∨
      (headline d).length ≤ width - (heading path d).length ∧
        (width ≤ reserved path d ∨ reserved path d + 3 < width) := by
  rw [line_plain, List.length_append, length_summary]
  split
  · omega
  · split
    · omega
    · omega

theorem line_overflows : ¬∀ (width : Nat) (path : List Char) (d : Diagnostic), 0 < width →
    d.range.first.line + 1 < UInt32.size → d.range.first.character + 1 < UInt32.size →
    (line false width path d).length ≤ max width (heading path d).length := by
  let d : Diagnostic :=
    { range    := ⟨⟨4, 0⟩, ⟨4, 3⟩⟩
      severity := some Severity.hint
      code     := some (.text "E0308")
      codeUri  := none
      source   := none
      message  := "a very long message indeed"
      related  := none
      tags     := none
      data     := none }
  intro h
  have hl := h 30 "a.rs".toList d (by decide) (by decide) (by decide)
  exact absurd hl (by decide)

end LanguageClient.Report
