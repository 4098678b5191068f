import FieldCheck.Proofs.FirstSuch
import Mathlib.Data.List.Basic

/-!
# The last item with a property

Where values are set again and again the last setting counts.  `LastSuch` says
which one that is, and the lemmas below show that what is read after a row of
writings is what the last one has written.
-/

namespace FieldCheck

variable {α : Type}

/-- An item is the last one of a list that has a property: none after it has
it. -/
def LastSuch (property : α → Prop) (items : List α) (item : α) : Prop :=
  ∃ before after, items = before ++ item :: after ∧ property item ∧
    ∀ later ∈ after, ¬ property later

section Last

variable {property : α → Prop} {items : List α} {item : α}

theorem lastSuch_iff_firstSuch_reverse :
    LastSuch property items item ↔ FirstSuch property items.reverse item := by
  constructor
  · intro last
    obtain ⟨before, after, rfl, here, absent⟩ := last
    exact ⟨after.reverse, before.reverse, by simp, here, by simpa using absent⟩
  · intro first
    obtain ⟨before, after, equal, here, absent⟩ := first
    refine ⟨after.reverse, before.reverse, ?_, here, by simpa using absent⟩
    rw [← List.reverse_reverse items, equal]
    simp

theorem getLast?_filter_eq_some_iff {property : α → Bool}
    {items : List α} {item : α} :
    (items.filter property).getLast? = some item ↔
      LastSuch (fun item => property item = true) items item := by
  rw [List.getLast?_eq_head?_reverse, ← List.filter_reverse, List.head?_filter,
    find?_eq_some_iff_firstSuch, lastSuch_iff_firstSuch_reverse]

namespace LastSuch

theorem has (last : LastSuch property items item) : property item := by
  obtain ⟨_, _, _, here, _⟩ := last
  exact here

theorem mem (last : LastSuch property items item) : item ∈ items := by
  obtain ⟨before, after, rfl, _, _⟩ := last
  simp

theorem unique {other : α} (last : LastSuch property items item)
    (second : LastSuch property items other) : item = other :=
  (lastSuch_iff_firstSuch_reverse.mp last).unique
    (lastSuch_iff_firstSuch_reverse.mp second)

end LastSuch

theorem exists_lastSuch_or_none (property : α → Prop) (items : List α) :
    (∃ item, LastSuch property items item) ∨
      ∀ item ∈ items, ¬ property item := by
  by_cases some : ∃ item ∈ items.reverse, property item
  · obtain ⟨item, first⟩ := exists_firstSuch_iff.mpr some
    exact .inl ⟨item, lastSuch_iff_firstSuch_reverse.mpr first⟩
  · refine .inr ?_
    intro item member here
    exact some ⟨item, List.mem_reverse.mpr member, here⟩

/-- A list may be exchanged for another one that keeps its last item and has
one as soon as the list has any. -/
private theorem lastSuch_iff_of_imp {others : List α}
    (keeps : ∀ item, LastSuch property items item →
      LastSuch property others item)
    (reflects : ∀ item ∈ others, property item →
      ∃ item ∈ items, property item) :
    LastSuch property others item ↔ LastSuch property items item := by
  constructor
  · intro last
    obtain ⟨found, member, here⟩ := reflects item last.mem last.has
    obtain ⟨whole, isLast⟩ :=
      (exists_lastSuch_or_none property items).resolve_right
        (fun none => none found member here)
    rw [last.unique (keeps whole isLast)]
    exact isLast
  · exact keeps item

theorem lastSuch_filter {keep : α → Bool}
    (kept : ∀ item, property item → keep item = true) :
    LastSuch property (items.filter keep) item ↔
      LastSuch property items item := by
  apply lastSuch_iff_of_imp
  · intro item last
    obtain ⟨before, after, rfl, here, absent⟩ := last
    refine ⟨before.filter keep, after.filter keep, ?_, here, ?_⟩
    · simp [List.filter_append, kept item here]
    · intro later member
      exact absent later (List.mem_filter.mp member).1
  · intro item member here
    exact ⟨item, (List.mem_filter.mp member).1, here⟩

/-- Nothing before an item with the property can be the last one. -/
theorem lastSuch_append {before after : List α}
    (some : ∃ item ∈ after, property item) :
    LastSuch property (before ++ after) item ↔
      LastSuch property after item := by
  apply lastSuch_iff_of_imp
  · intro item last
    obtain ⟨front, back, rfl, here, absent⟩ := last
    exact ⟨before ++ front, back, by simp, here, absent⟩
  · intro _ _ _
    exact some

theorem lastSuch_append_cons {before after : List α} {middle : α}
    (here : property middle) :
    LastSuch property (before ++ middle :: after) item ↔
      LastSuch property (middle :: after) item :=
  lastSuch_append ⟨middle, List.mem_cons_self, here⟩

end Last

section Writing

variable {σ γ : Type} {step : σ → α → σ} {writes : α → Prop}
  {items : List α} {state : σ}

theorem view_foldl_of_silent (view : σ → γ)
    (kept : ∀ state item, ¬ writes item → view (step state item) = view state)
    (silent : ∀ item ∈ items, ¬ writes item) :
    view (items.foldl step state) = view state := by
  induction items generalizing state with
  | nil => rfl
  | cons item rest induction =>
      obtain ⟨itemSilent, restSilent⟩ := List.forall_mem_cons.mp silent
      rw [List.foldl_cons, induction restSilent, kept state item itemSilent]

/-- A view shows what the last item that writes to it has written. -/
theorem view_foldl_of_lastSuch (view : σ → γ) {content : α → γ} {item : α}
    (kept : ∀ state item, ¬ writes item → view (step state item) = view state)
    (written : ∀ state item, writes item →
      view (step state item) = content item)
    (last : LastSuch writes items item) :
    view (items.foldl step state) = content item := by
  obtain ⟨before, after, rfl, here, silent⟩ := last
  rw [List.foldl_append, List.foldl_cons,
    view_foldl_of_silent view kept silent, written _ item here]

/-- What a view shows in the end was written by the last item that writes to
it, or it was there from the beginning. -/
theorem view_foldl_eq_iff (view : σ → γ) {content : α → γ} {value : γ}
    (kept : ∀ state item, ¬ writes item → view (step state item) = view state)
    (written : ∀ state item, writes item →
      view (step state item) = content item) :
    view (items.foldl step state) = value ↔
      (∃ item, LastSuch writes items item ∧ content item = value) ∨
        (∀ item ∈ items, ¬ writes item) ∧ view state = value := by
  constructor
  · intro shown
    rcases exists_lastSuch_or_none writes items with ⟨item, last⟩ | silent
    · rw [view_foldl_of_lastSuch view kept written last] at shown
      exact .inl ⟨item, last, shown⟩
    · rw [view_foldl_of_silent view kept silent] at shown
      exact .inr ⟨silent, shown⟩
  · intro described
    rcases described with ⟨item, last, rfl⟩ | ⟨silent, rfl⟩
    · exact view_foldl_of_lastSuch view kept written last
    · exact view_foldl_of_silent view kept silent

end Writing

end FieldCheck
