import LanguageClient.Proofs.Json.Rereading
import LanguageClient.Protocol.Completion

namespace LanguageClient.Protocol

open Fields

theorem Position.rereads : Rereads read toJson := by
  refine rereads_record fun get => forAll_seq (forAll_map ?_)
  intro line h₁ character h₂
  refine ⟨_, rfl, reads_seq (reads_map (rereads_required rereads_nat32 h₁ (.ofList ?_)))
    (rereads_required rereads_nat32 h₂ (.ofList ?_))⟩
  all_goals simp [Members.Gives, eq_comm]

theorem Range.rereads : Rereads read toJson := by
  refine rereads_record fun get => forAll_seq (forAll_map ?_)
  intro first h₁ last h₂
  refine ⟨_, rfl, reads_seq (reads_map (rereads_required Position.rereads h₁ (.ofList ?_)))
    (rereads_required Position.rereads h₂ (.ofList ?_))⟩
  all_goals simp [Members.Gives, eq_comm]

theorem TextEdit.rereads : Rereads read toJson := by
  refine rereads_record fun get => forAll_seq (forAll_map ?_)
  intro range h₁ newText h₂
  refine ⟨_, rfl, reads_seq (reads_map (rereads_required Range.rereads h₁ (.ofList ?_)))
    (rereads_required rereads_string h₂ (.ofList ?_))⟩
  all_goals simp [Members.Gives, eq_comm]

theorem LabelDetails.rereads : Rereads read toJson := by
  refine rereads_record fun get => forAll_seq (forAll_map ?_)
  intro detail h₁ description h₂
  refine rewrites_objectOf rfl (by simp) fun members given => ?_
  obtain ⟨g₁, g₂, -⟩ := by simpa only [List.forall_mem_cons] using given
  exact reads_seq (reads_map (rereads_optional rereads_string h₁ g₁)) (rereads_optional rereads_string h₂ g₂)

theorem rereads_values : Rereads (Reader.list Reader.json) .arr where
  again {j as} h := by
    have := rereads_json.list.again h
    simpa only [List.map_id] using this
  filled _ _ := nofun

theorem Command.rereads : Rereads read toJson := by
  refine rereads_record fun get => forAll_seq (forAll_seq (forAll_map ?_))
  intro title h₁ command h₂ arguments h₃
  refine rewrites_objectOf rfl (by simp) fun members given => ?_
  obtain ⟨g₁, g₂, g₃, -⟩ := by simpa only [List.forall_mem_cons] using given
  exact reads_seq (reads_seq (reads_map (rereads_required rereads_string h₁ g₁))
    (rereads_required rereads_string h₂ g₂)) (rereads_optional rereads_values h₃ g₃)

theorem Documentation.rereads_format : Rereads readFormat .str where
  again {j s} h := by
    simp only [readFormat] at h
    split at h
    case h_3 => cases h
    all_goals
      cases h
      rfl
  filled _ _ := nofun

theorem Documentation.rereads : Rereads read toJson := by
  refine .firstOf (.map rereads_string) ?_ ?_
  case refine_1 =>
    refine rereads_record fun get => forAll_seq (forAll_map ?_)
    intro kind h₁ value h₂
    refine ⟨_, rfl, reads_seq (reads_map (rereads_required rereads_format h₁ (.ofList ?_)))
      (rereads_required rereads_string h₂ (.ofList ?_))⟩
    all_goals simp [Members.Gives, eq_comm]
  case refine_2 =>
    intro j d h
    refine forall_record (p := fun d => ∃ e, (Reader.string d.toJson).map text = .error e)
      (fun get => forAll_seq (forAll_map ?_)) h
    intro _ _ _ _
    exact ⟨_, rfl⟩

theorem CompletionEdit.rereads : Rereads read toJson := by
  refine .firstOf (.map TextEdit.rereads) ?_ ?_
  case refine_1 =>
    refine rereads_record fun get => forAll_seq (forAll_seq (forAll_map ?_))
    intro newText h₁ inserted h₂ replaced h₃
    refine ⟨_, rfl, reads_seq (reads_seq (reads_map (rereads_required rereads_string h₁ (.ofList ?_)))
      (rereads_required Range.rereads h₂ (.ofList ?_))) (rereads_required Range.rereads h₃ (.ofList ?_))⟩
    all_goals simp [Members.Gives, eq_comm]
  case refine_2 =>
    intro j e h
    refine forall_record (p := fun e => ∃ why, (TextEdit.read e.toJson).map replace = .error why)
      (fun get => forAll_seq (forAll_seq (forAll_map ?_))) h
    intro newText _ inserted _ replaced _
    cases hr : TextEdit.read (choice newText inserted replaced).toJson
    case error e => exact ⟨e, rfl⟩
    case ok e    =>
      -- What is written for a choice has no range.
      obtain ⟨_, _, hb, _, _⟩ := built_seq (built_of_record hr)
      obtain ⟨_, hb, _⟩ := built_map hb
      obtain ⟨j, hj, _⟩ := built_required hb
      have := Members.mem_ofList (Members.mem_of_get? hj)
      simp at this

theorem CompletionItem.rereads : Rereads read toJson := by
  refine rereads_record fun get => ?_
  -- The fields are built from the last one to the first, and reread in this order.
  iterate 17 refine forAll_seq ?_
  refine forAll_map ?_
  intro label h₁ labelDetails h₂ kind h₃ detail h₄ documentation h₅ deprecated h₆ preselect h₇ sortText h₈
    filterText h₉ insertText h₁₀ insertTextFormat h₁₁ insertTextMode h₁₂ textEdit h₁₃ additionalTextEdits h₁₄
    command h₁₅ commitCharacters h₁₆ data h₁₇ tags h₁₈
  refine rewrites_objectOf rfl (by simp) fun members given => ?_
  obtain ⟨g₁, g₂, g₃, g₄, g₅, g₆, g₇, g₈, g₉, g₁₀, g₁₁, g₁₂, g₁₃, g₁₄, g₁₅, g₁₆, g₁₇, g₁₈, -⟩ := by
    simpa only [List.forall_mem_cons] using given
  refine reads_seq ?_ (rereads_optional rereads_integer.list h₁₈ g₁₈)
  refine reads_seq ?_ (rereads_optional rereads_json h₁₇ (by simpa using g₁₇))
  refine reads_seq ?_ (rereads_optional rereads_string.list h₁₆ g₁₆)
  refine reads_seq ?_ (rereads_optional Command.rereads h₁₅ g₁₅)
  refine reads_seq ?_ (rereads_optional TextEdit.rereads.list h₁₄ g₁₄)
  refine reads_seq ?_ (rereads_optional CompletionEdit.rereads h₁₃ g₁₃)
  refine reads_seq ?_ (rereads_optional rereads_integer h₁₂ g₁₂)
  refine reads_seq ?_ (rereads_optional rereads_integer h₁₁ g₁₁)
  refine reads_seq ?_ (rereads_optional rereads_string h₁₀ g₁₀)
  refine reads_seq ?_ (rereads_optional rereads_string h₉ g₉)
  refine reads_seq ?_ (rereads_optional rereads_string h₈ g₈)
  refine reads_seq ?_ (rereads_optional rereads_bool h₇ g₇)
  refine reads_seq ?_ (rereads_optional rereads_bool h₆ g₆)
  refine reads_seq ?_ (rereads_optional Documentation.rereads h₅ g₅)
  refine reads_seq ?_ (rereads_optional rereads_string h₄ g₄)
  refine reads_seq ?_ (rereads_optional rereads_integer h₃ g₃)
  refine reads_seq ?_ (rereads_optional LabelDetails.rereads h₂ g₂)
  exact reads_map (rereads_required rereads_string h₁ g₁)

-- The ways of answering with a list: the list, or an object that has it under its key.
def Answers (list v : Json) : Prop :=
  v = list ∨ ∃ members, v = .obj members ∧ Members.get? "items" members = some list

theorem completionItems_of_answers {list v : Json} (h : Answers list v) (hl : ∃ as, list = .arr as) :
    completionItems v = Reader.list CompletionItem.read list := by
  obtain ⟨as, rfl⟩ := hl
  obtain rfl | ⟨members, rfl, hi⟩ := h
  · rfl
  · rw [completionItems, hi]
    rfl

theorem exists_list_of_completionItems {v : Json} {items : List CompletionItem} (h : completionItems v = .ok items) :
    ∃ j, Reader.list CompletionItem.read j = .ok items := by
  unfold completionItems at h
  split at h
  case h_1 =>
    cases h
    exact ⟨.arr [], rfl⟩
  all_goals exact ⟨_, h⟩

-- The items of an answer, written as a list, are the answer again, in either way of giving the list. And the
-- two ways agree on every list, also where it is no list of items.
theorem completionItems_settled :
    (∀ v items, completionItems v = .ok items →
      ∀ w, Answers (.arr (items.map CompletionItem.toJson)) w → completionItems w = .ok items) ∧
    ∀ as w, Answers (.arr as) w → completionItems w = completionItems (.arr as) := by
  constructor
  case left =>
    intro v items h w hw
    obtain ⟨j, hj⟩ := exists_list_of_completionItems h
    rw [completionItems_of_answers hw ⟨_, rfl⟩]
    exact CompletionItem.rereads.list.again hj
  case right =>
    intro as w hw
    rw [completionItems_of_answers hw ⟨_, rfl⟩, completionItems_of_answers (.inl rfl) ⟨as, rfl⟩]

def insertion : CompletionItem where
  label               := "foo"
  labelDetails        := none
  kind                := none
  detail              := none
  documentation       := none
  deprecated          := none
  preselect           := none
  sortText            := none
  filterText          := none
  insertText          := none
  insertTextFormat    := none
  insertTextMode      := none
  textEdit            := some (.replace ⟨⟨⟨0, 1⟩, ⟨0, 2⟩⟩, "foo"⟩)
  additionalTextEdits := none
  command             := none
  commitCharacters    := none
  data                := none
  tags                := none

theorem completionItems_settled_positional :
    completionItems (.obj [("items", .arr [.obj [("kind", .null), ("label", .str "foo"), ("textEdit",
      .arr [.arr [.arr [.nat 0, .nat 1], .arr [.nat 0, .nat 2]], .str "foo"])]])]) = .ok [insertion] ∧
    completionItems (.arr [insertion.toJson]) = .ok [insertion] ∧
    completionItems (.obj [("items", .arr [.null])]) = completionItems (.arr [.null]) :=
  have h := rfl
  ⟨h, completionItems_settled.left _ _ h _ (.inl rfl), completionItems_settled.right _ _ (.inr ⟨_, rfl, rfl⟩)⟩

end LanguageClient.Protocol
