import Mathlib.Data.List.Induction

/-!
# Lists that are built step by step

A list is stepwise good when each member is good after the members before it.  Such lists are made
by appending, as `stepwise_concat` says, and of two members one is good after the other.
-/

namespace Workflow

variable {α : Type} {good : List α → α → Prop}

/-- Each member of the list is good after those before it. -/
def Stepwise (good : List α → α → Prop) (items : List α) : Prop :=
  ∀ before item after, items = before ++ item :: after → good before item

theorem stepwise_nil : Stepwise good [] := by
  intro before item after split
  simp at split

theorem stepwise_concat {items : List α} {last : α} :
    Stepwise good (items ++ [last]) ↔ Stepwise good items ∧ good items last := by
  constructor
  · intro stepwise
    refine ⟨fun before item after split => ?_, stepwise items last [] rfl⟩
    exact stepwise before item (after ++ [last]) (by simp [split])
  · rintro ⟨stepwise, last_good⟩ before item after split
    rcases List.eq_nil_or_concat after with rfl | ⟨after, final, rfl⟩
    · obtain ⟨rfl, rfl⟩ := List.append_inj' split rfl |>.imp_right List.singleton_inj.1
      exact last_good
    · have parts : items ++ [last] = (before ++ item :: after) ++ [final] := by simp [split]
      exact stepwise before item after (List.append_inj' parts rfl).1

theorem stepwise_cons {first : α} {items : List α} :
    Stepwise good (first :: items) ↔
      good [] first ∧ Stepwise (fun before => good (first :: before)) items := by
  constructor
  · intro stepwise
    refine ⟨stepwise [] first items rfl, fun before item after split => ?_⟩
    exact stepwise (first :: before) item after (by simp [split])
  · rintro ⟨first_good, rest_good⟩ before item after split
    rcases List.cons_eq_append_iff.1 split with ⟨rfl, same⟩ | ⟨before, rfl, rest_split⟩
    · obtain ⟨rfl, rfl⟩ := List.cons.inj same
      exact first_good
    · exact rest_good before item after rest_split

/-- In a list that is not stepwise good some member is the first one that is not good. -/
theorem exists_first_of_not_stepwise {items : List α} (bad : ¬Stepwise good items) :
    ∃ before item after, items = before ++ item :: after ∧ Stepwise good before ∧
      ¬good before item := by
  induction items using List.reverseRecOn with
  | nil => exact absurd stepwise_nil bad
  | append_singleton items last ih =>
      by_cases front : Stepwise good items
      · exact ⟨items, last, [], rfl, front, fun last_good =>
          bad (stepwise_concat.2 ⟨front, last_good⟩)⟩
      · obtain ⟨before, item, after, rfl, before_good, item_bad⟩ := ih front
        exact ⟨before, item, after ++ [last], by simp, before_good, item_bad⟩

namespace Stepwise

theorem mono {better : List α → α → Prop} {items : List α} (stepwise : Stepwise good items)
    (imp : ∀ before item, good before item → better before item) : Stepwise better items :=
  fun before item after split => imp _ _ (stepwise before item after split)

theorem front {items : List α} {last : α} (stepwise : Stepwise good (items ++ [last])) :
    Stepwise good items :=
  (stepwise_concat.1 stepwise).1

theorem last {items : List α} {last : α} (stepwise : Stepwise good (items ++ [last])) :
    good items last :=
  (stepwise_concat.1 stepwise).2

theorem good_of_mem {items : List α} {item : α} (stepwise : Stepwise good items)
    (member : item ∈ items) : ∃ before, before ⊆ items ∧ good before item := by
  obtain ⟨before, after, rfl⟩ := List.append_of_mem member
  exact ⟨before, List.subset_append_left _ _, stepwise before item after rfl⟩

theorem apart {items : List α} {first second : α} (stepwise : Stepwise good items)
    (first_mem : first ∈ items) (second_mem : second ∈ items) :
    first = second ∨ (∃ before, first ∈ before ∧ good before second) ∨
      ∃ before, second ∈ before ∧ good before first := by
  induction items using List.reverseRecOn with
  | nil => simp at first_mem
  | append_singleton items final ih =>
      rcases List.mem_append.1 first_mem with first_earlier | first_last
      · rcases List.mem_append.1 second_mem with second_earlier | second_last
        · exact ih stepwise.front first_earlier second_earlier
        · rw [List.mem_singleton.1 second_last]
          exact .inr (.inl ⟨items, first_earlier, stepwise.last⟩)
      · rw [List.mem_singleton.1 first_last]
        rcases List.mem_append.1 second_mem with second_earlier | second_last
        · exact .inr (.inr ⟨items, second_earlier, stepwise.last⟩)
        · exact .inl (List.mem_singleton.1 second_last).symm

theorem pairwise {related : α → α → Prop} {items : List α} (stepwise : Stepwise good items)
    (relates : ∀ before item, good before item → ∀ earlier ∈ before, related earlier item) :
    items.Pairwise related := by
  induction items using List.reverseRecOn with
  | nil => exact .nil
  | append_singleton items last ih =>
      refine List.pairwise_append.2 ⟨ih stepwise.front, List.pairwise_singleton _ _, ?_⟩
      intro earlier member other other_mem
      rw [List.mem_singleton.1 other_mem]
      exact relates items last stepwise.last earlier member

end Stepwise
end Workflow
