import LanguageClient.Proofs.Report.Width
import LanguageClient.Proofs.Text.Lines

namespace LanguageClient.Report

open Protocol (Diagnostic Severity)

variable {c : Char} {cs code rest path : List Char} {d : Diagnostic}

inductive Piece
  | glyph (c : Char)
  | selection (code : List Char)
  deriving DecidableEq, Repr

namespace Piece

def glyph? : Piece → Option Char
  | .glyph c     => some c
  | .selection _ => none

def code? : Piece → Option (List Char)
  | .glyph _        => none
  | .selection code => some code

theorem filterMap_glyph? (cs : List Char) : (cs.map glyph).filterMap glyph? = cs := by
  rw [List.filterMap_map]
  exact List.filterMap_some

theorem filterMap_code? (cs : List Char) : (cs.map glyph).filterMap code? = [] := by
  rw [List.filterMap_map]
  exact List.filterMap_eq_nil_iff.mpr fun _ _ => rfl

end Piece

def cutSelection? : List Char → Option (List Char × List Char)
  | '\x1b' :: '[' :: cs => (Text.cut? 'm' cs).filter fun (code, _) => code ≠ [] && code.all Char.isDigit
  | _ => none

theorem select_append (code rest : List Char) :
    select code ++ rest = '\x1b' :: '[' :: (code ++ 'm' :: rest) := by
  simp [select]

theorem cutSelection?_eq_some_iff : cutSelection? cs = some (code, rest) ↔
    cs = select code ++ rest ∧ code ≠ [] ∧ ∀ c ∈ code, c.isDigit := by
  constructor
  case mp =>
    intro h
    rw [cutSelection?.eq_def] at h
    split at h
    case h_2 => cases h
    case h_1 cs =>
      obtain ⟨hc, hp⟩ := Option.filter_eq_some_iff.mp h
      rw [select_append, Text.cut?_eq_some hc]
      exact ⟨rfl, by simpa using hp⟩
  case mpr =>
    rintro ⟨rfl, hn, hd⟩
    have hm : 'm' ∉ code := fun hm => absurd (hd _ hm) (by decide)
    rw [select_append, cutSelection?, Text.cut?_append hm]
    exact Option.filter_eq_some_iff.mpr ⟨rfl, by simpa using ⟨hn, hd⟩⟩

theorem cutSelection?_of_ne (h : c ≠ '\x1b') (cs : List Char) : cutSelection? (c :: cs) = none := by
  refine Option.eq_none_iff_forall_ne_some.mpr fun (code, rest) hs => ?_
  have hc := (cutSelection?_eq_some_iff.mp hs).left
  rw [select_append] at hc
  cases hc
  exact h rfl

theorem length_cutSelection? (h : cutSelection? cs = some (code, rest)) : rest.length < cs.length := by
  rw [(cutSelection?_eq_some_iff.mp h).left, select_append]
  simp only [List.length_append, List.length_cons]
  omega

def pieces : List Char → List Piece
  | [] => []
  | c :: cs =>
    match _h : cutSelection? (c :: cs) with
    | some (code, rest) => .selection code :: pieces rest
    | none              => .glyph c :: pieces cs
termination_by cs => cs.length
decreasing_by
  · exact length_cutSelection? _h
  · exact Nat.lt_succ_self _

def strip (cs : List Char) : List Char :=
  (pieces cs).filterMap Piece.glyph?

def selections (cs : List Char) : List (List Char) :=
  (pieces cs).filterMap Piece.code?

theorem pieces_glyph (h : c ≠ '\x1b') (cs : List Char) : pieces (c :: cs) = .glyph c :: pieces cs := by
  rw [pieces]
  split
  case h_1 hs => rw [cutSelection?_of_ne h] at hs; cases hs
  case h_2    => rfl

theorem pieces_append (h : '\x1b' ∉ cs) (rest : List Char) :
    pieces (cs ++ rest) = cs.map .glyph ++ pieces rest := by
  induction cs
  case nil => rfl
  case cons c cs hi =>
    obtain ⟨hc, hcs⟩ : '\x1b' ≠ c ∧ '\x1b' ∉ cs := by simpa using h
    rw [List.cons_append, pieces_glyph (Ne.symm hc), hi hcs]
    rfl

theorem pieces_select (hn : code ≠ []) (hd : ∀ c ∈ code, c.isDigit) (rest : List Char) :
    pieces (select code ++ rest) = .selection code :: pieces rest := by
  have hc : cutSelection? (select code ++ rest) = some (code, rest) :=
    cutSelection?_eq_some_iff.mpr ⟨rfl, hn, hd⟩
  rw [select_append] at hc ⊢
  rw [pieces]
  split
  case h_1 he => rw [hc] at he; cases he; rfl
  case h_2 he => rw [hc] at he; cases he

def plain : List Char := ['0']

-- Colours each of which is ended before there is another one.
inductive Settled : List (List Char) → Prop
  | nil : Settled []
  | cons {shade : List Char} {codes : List (List Char)} (h : shade ≠ plain) (hs : Settled codes) :
      Settled (shade :: plain :: codes)

namespace Shade

theorem code_ne_plain (shade : Shade) : shade.code ≠ plain := by
  cases shade <;> decide

theorem code_ne_nil (shade : Shade) : shade.code ≠ [] := by
  cases shade <;> decide

theorem isDigit_code (shade : Shade) : ∀ c ∈ shade.code, c.isDigit := by
  have ha : shade.code.all Char.isDigit := by cases shade <;> rfl
  exact List.all_eq_true.mp ha

end Shade

theorem pieces_paint (shade : Shade) (h : '\x1b' ∉ cs) (rest : List Char) :
    pieces (paint true shade cs ++ rest) =
      .selection shade.code :: (cs.map .glyph ++ .selection plain :: pieces rest) := by
  have hp : paint true shade cs ++ rest = select shade.code ++ (cs ++ (select plain ++ rest)) := by
    simp [paint, plain]
  have hn : plain ≠ [] := List.cons_ne_nil _ _
  have hd : ∀ c ∈ plain, c.isDigit := List.forall_mem_singleton.mpr rfl
  rw [hp, pieces_select shade.code_ne_nil shade.isDigit_code, pieces_append h, pieces_select hn hd]

inductive Recolors : List Char → List Char → Prop
  | plain {text : List Char} (h : '\x1b' ∉ text) : Recolors text text
  | paint {text : List Char} (shade : Shade) (h : '\x1b' ∉ text) : Recolors text (paint true shade text)
  | append {a b a' b' : List Char} (h : Recolors a b) (h' : Recolors a' b') : Recolors (a ++ a') (b ++ b')

namespace Recolors

variable {a b : List Char}

theorem strip_append (h : Recolors a b) (rest : List Char) : strip (b ++ rest) = a ++ strip rest := by
  induction h generalizing rest
  case plain h =>
    rw [strip, pieces_append h, List.filterMap_append, Piece.filterMap_glyph?]
    rfl
  case paint shade h =>
    rw [strip, pieces_paint shade h, List.filterMap_cons_none rfl, List.filterMap_append,
      Piece.filterMap_glyph?]
    rfl
  case append hi hi' => rw [List.append_assoc, hi, hi', List.append_assoc]

theorem settled_append (h : Recolors a b) (hr : Settled (selections rest)) :
    Settled (selections (b ++ rest)) := by
  induction h generalizing rest
  case plain h =>
    rw [selections, pieces_append h, List.filterMap_append, Piece.filterMap_code?]
    exact hr
  case paint shade h =>
    rw [selections, pieces_paint shade h, List.filterMap_cons_some (f := Piece.code?) rfl,
      List.filterMap_append, Piece.filterMap_code?]
    exact .cons shade.code_ne_plain hr
  case append hi hi' => exact List.append_assoc .. ▸ hi (hi' hr)

theorem strip_eq (h : Recolors a b) : strip b = a := by
  have hs := h.strip_append []
  rw [List.append_nil] at hs
  rw [hs, strip, pieces]
  exact List.append_nil a

theorem settled (h : Recolors a b) : Settled (selections b) := by
  have hn : Settled (selections []) := by
    rw [selections, pieces]
    exact .nil
  exact List.append_nil b ▸ h.settled_append hn

end Recolors

-- A path and a diagnostic in whose texts no escape sequence begins.
structure Unescaped (path : List Char) (d : Diagnostic) : Prop where
  path    : '\x1b' ∉ path
  code    : ∀ text, d.code = some (.text text) → '\x1b' ∉ text.toList
  message : '\x1b' ∉ d.message.toList

theorem not_mem_toDigits (n : Nat) : '\x1b' ∉ Nat.toDigits 10 n := by
  intro h
  exact absurd (Nat.isDigit_of_mem_toDigits (by decide) (by decide) h) (by decide)

theorem not_mem_int (n : Int) : '\x1b' ∉ (toString n).toList := by
  cases n
  case ofNat n => exact Nat.toList_repr ▸ not_mem_toDigits n
  case negSucc n =>
    intro h
    have h : '\x1b' ∈ "-".toList ++ (toString (n + 1)).toList := String.toList_append ▸ h
    obtain h | h := List.mem_append.mp h
    · exact absurd h (by decide)
    · exact not_mem_toDigits (n + 1) (Nat.toList_repr ▸ h)

theorem not_mem_severityName (severity : Option Severity) : '\x1b' ∉ severityName severity := by
  unfold severityName
  split <;> decide

theorem mem_truncate {width : Nat} (h : c ∈ truncate width cs) : c = '.' ∨ c ∈ cs := by
  by_cases hw : width ≤ 3
  case pos =>
    rw [truncate_narrow hw] at h
    exact .inl (List.eq_of_mem_replicate h)
  case neg =>
    have hw := Nat.lt_of_not_le hw
    by_cases hl : cs.length ≤ width
    case pos => exact .inr (truncate_of_fits hw hl ▸ h)
    case neg =>
      rw [truncate_of_cut hw (Nat.lt_of_not_le hl)] at h
      obtain h | h := List.mem_append.mp h
      · exact .inr (List.mem_of_mem_take h)
      · exact .inl (by simpa using h)

namespace Unescaped

theorem not_mem_place (h : Unescaped path d) : '\x1b' ∉ place path d := by
  simpa [place] using ⟨h.path, not_mem_toDigits _, not_mem_toDigits _⟩

theorem not_mem_codeLabel (h : Unescaped path d) : '\x1b' ∉ codeLabel d.code := by
  cases hc : d.code
  case none => exact List.not_mem_nil
  case some code =>
    cases code
    case number n  => simpa [codeLabel] using not_mem_int n
    case text text => simp [codeLabel, h.code text hc]

theorem not_mem_headline (h : Unescaped path d) : '\x1b' ∉ headline d := by
  unfold headline
  cases hm : Text.lines d.message.toList
  case nil => exact List.not_mem_nil
  case cons line lines =>
    have hl : line ∈ Text.lines d.message.toList := hm ▸ List.mem_cons_self
    exact fun hc => h.message (Text.mem_of_mem_lines hl hc)

theorem not_mem_summary (h : Unescaped path d) (width : Nat) :
    '\x1b' ∉ summary width (place path d) d.message.toList := by
  rw [summary_eq]
  split
  · exact fun ht => (mem_truncate ht).elim (by decide) h.not_mem_headline
  · exact h.not_mem_headline

theorem recolors_line (h : Unescaped path d) (width : Nat) :
    Recolors (line false width path d) (line true width path d) := by
  have hp := Recolors.paint .cyan h.not_mem_place
  have hc := Recolors.paint .dim h.not_mem_codeLabel
  have hm := Recolors.plain (h.not_mem_summary width)
  have hs : Recolors separator separator := .plain (by decide)
  have hl : Recolors (severityLabel false d.severity) (severityLabel true d.severity) := by
    have hn := not_mem_severityName d.severity
    unfold severityLabel
    cases severityShade? d.severity
    case none       => exact .plain hn
    case some shade => exact .paint shade hn
  exact ((((hp.append hs).append hl).append hc).append hs).append hm

end Unescaped

theorem strip_line (h : Unescaped path d) (width : Nat) :
    strip (line true width path d) = line false width path d ∧
      Settled (selections (line true width path d)) :=
  ⟨(h.recolors_line width).strip_eq, (h.recolors_line width).settled⟩

theorem strip_line_of_warning :
    let d : Diagnostic :=
      { range    := ⟨⟨4, 0⟩, ⟨4, 3⟩⟩
        severity := some Severity.warning
        code     := some (.text "E0308")
        codeUri  := none
        source   := none
        message  := "a very long message\nindeed"
        related  := none
        tags     := none
        data     := none }
    Unescaped "a.rs".toList d ∧
      strip (line true 24 "a.rs".toList d) = line false 24 "a.rs".toList d ∧
      Settled (selections (line true 24 "a.rs".toList d)) := by
  intro d
  have h : Unescaped "a.rs".toList d :=
    { path    := by decide
      code    := by rintro text ⟨⟩; decide
      message := by decide }
  exact ⟨h, strip_line h 24⟩

end LanguageClient.Report
