/-!
# The first item with a property

Tokens and fields are looked at from left to right, and the first one with a
property decides.  `FirstSuch` says which one that is without mentioning a
scan; the lemmas below carry it through the lists that a scan runs over.
-/

namespace FieldCheck

variable {α β : Type}

/-- An item is the first one of a list that has a property: none before it
has it. -/
def FirstSuch (property : α → Prop) (items : List α) (item : α) : Prop :=
  ∃ before after, items = before ++ item :: after ∧ property item ∧
    ∀ earlier ∈ before, ¬ property earlier

theorem not_firstSuch_nil {property : α → Prop} {item : α} :
    ¬ FirstSuch property [] item := by
  intro first
  obtain ⟨before, after, equal, _, _⟩ := first
  simp at equal

/-- The head is the first item with a property, or it lacks the property and
the first one is in the tail. -/
theorem firstSuch_cons {property : α → Prop} {head : α} {tail : List α}
    {item : α} :
    FirstSuch property (head :: tail) item ↔
      (property head ∧ item = head) ∨
        (¬ property head ∧ FirstSuch property tail item) := by
  constructor
  · intro first
    obtain ⟨before, after, equal, here, absent⟩ := first
    cases before with
    | nil =>
        obtain ⟨rfl, rfl⟩ := List.cons.inj equal
        exact .inl ⟨here, rfl⟩
    | cons first before =>
        obtain ⟨rfl, rfl⟩ := List.cons.inj equal
        refine .inr ⟨absent head List.mem_cons_self, before, after, rfl, here, ?_⟩
        intro earlier member
        exact absent earlier (List.mem_cons_of_mem _ member)
  · intro described
    rcases described with ⟨here, rfl⟩ | ⟨notHead, before, after, rfl, here,
      absent⟩
    · exact ⟨[], tail, rfl, here, by simp⟩
    · refine ⟨head :: before, after, rfl, here, ?_⟩
      intro earlier member
      rcases List.mem_cons.mp member with rfl | inside
      · exact notHead
      · exact absent earlier inside

namespace FirstSuch

variable {property : α → Prop} {items : List α} {item : α}

theorem has (first : FirstSuch property items item) : property item := by
  obtain ⟨_, _, _, here, _⟩ := first
  exact here

theorem mem (first : FirstSuch property items item) : item ∈ items := by
  obtain ⟨before, after, rfl, _, _⟩ := first
  simp

theorem strengthen {stronger : α → Prop}
    (first : FirstSuch property items item) (here : stronger item)
    (implies : ∀ item, stronger item → property item) :
    FirstSuch stronger items item := by
  obtain ⟨before, after, equal, _, absent⟩ := first
  refine ⟨before, after, equal, here, ?_⟩
  intro earlier member has
  exact absent earlier member (implies earlier has)

theorem unique {other : α} (first : FirstSuch property items item)
    (second : FirstSuch property items other) : item = other := by
  induction items with
  | nil => exact absurd first not_firstSuch_nil
  | cons head tail induction =>
      rcases firstSuch_cons.mp first with ⟨here, rfl⟩ | ⟨notHead, inTail⟩
      · rcases firstSuch_cons.mp second with ⟨_, rfl⟩ | ⟨notHead, _⟩
        · rfl
        · exact absurd here notHead
      · rcases firstSuch_cons.mp second with ⟨here, _⟩ | ⟨_, otherInTail⟩
        · exact absurd here notHead
        · exact induction inTail otherInTail

end FirstSuch

theorem exists_firstSuch_iff {property : α → Prop} {items : List α} :
    (∃ item, FirstSuch property items item) ↔
      ∃ item ∈ items, property item := by
  constructor
  · intro described
    obtain ⟨item, first⟩ := described
    exact ⟨item, first.mem, first.has⟩
  · intro described
    obtain ⟨item, member, here⟩ := described
    induction items with
    | nil => simp at member
    | cons head tail induction =>
        by_cases headHas : property head
        · exact ⟨head, firstSuch_cons.mpr (.inl ⟨headHas, rfl⟩)⟩
        · rcases List.mem_cons.mp member with rfl | inside
          · exact absurd here headHas
          · obtain ⟨first, inTail⟩ := induction inside
            exact ⟨first, firstSuch_cons.mpr (.inr ⟨headHas, inTail⟩)⟩

theorem find?_eq_some_iff_firstSuch {property : α → Bool}
    {items : List α} {item : α} :
    items.find? property = some item ↔
      FirstSuch (fun item => property item = true) items item := by
  rw [List.find?_eq_some_iff_append]
  simp only [FirstSuch, Bool.not_eq_true', Bool.not_eq_true]
  constructor
  · intro found
    obtain ⟨here, before, after, split, absent⟩ := found
    exact ⟨before, after, split, here, absent⟩
  · intro first
    obtain ⟨before, after, split, here, absent⟩ := first
    exact ⟨here, before, after, split, absent⟩

theorem firstSuch_congr {left right : α → Prop} {items : List α} {item : α}
    (agree : ∀ item ∈ items, left item ↔ right item) :
    FirstSuch left items item ↔ FirstSuch right items item := by
  induction items with
  | nil => simp [not_firstSuch_nil]
  | cons head tail induction =>
      have tailAgree : ∀ item ∈ tail, left item ↔ right item :=
        fun item member => agree item (List.mem_cons_of_mem _ member)
      rw [firstSuch_cons, firstSuch_cons, agree head List.mem_cons_self,
        induction tailAgree]

theorem firstSuch_map {property : β → Prop} {function : α → β}
    {items : List α} {image : β} :
    FirstSuch property (items.map function) image ↔
      ∃ item, FirstSuch (fun item => property (function item)) items item ∧
        function item = image := by
  induction items with
  | nil => simp [not_firstSuch_nil]
  | cons head tail induction =>
      simp only [List.map_cons, firstSuch_cons, induction]
      constructor
      · intro described
        rcases described with ⟨here, rfl⟩ | ⟨notHead, item, first, equal⟩
        · exact ⟨head, .inl ⟨here, rfl⟩, rfl⟩
        · exact ⟨item, .inr ⟨notHead, first⟩, equal⟩
      · intro described
        obtain ⟨item, ⟨here, rfl⟩ | ⟨notHead, first⟩, equal⟩ := described
        · exact .inl ⟨here, equal.symm⟩
        · exact .inr ⟨notHead, item, first, equal⟩

/-- Items without an image are passed over. -/
theorem firstSuch_filterMap {property : β → Prop} {function : α → Option β}
    {items : List α} {image : β} :
    FirstSuch property (items.filterMap function) image ↔
      ∃ item,
        FirstSuch
          (fun item => ∃ image, function item = some image ∧ property image)
          items item ∧
        function item = some image := by
  induction items with
  | nil => simp [not_firstSuch_nil]
  | cons head tail induction =>
      cases mapped : function head with
      | none =>
          rw [List.filterMap_cons_none mapped, induction]
          simp [firstSuch_cons, mapped]
      | some headImage =>
          rw [List.filterMap_cons_some mapped]
          simp only [firstSuch_cons, induction, mapped, Option.some.injEq,
            exists_eq_left']
          constructor
          · intro described
            rcases described with ⟨here, rfl⟩ | ⟨notHead, item, first, equal⟩
            · exact ⟨head, .inl ⟨here, rfl⟩, mapped⟩
            · exact ⟨item, .inr ⟨notHead, first⟩, equal⟩
          · intro described
            obtain ⟨item, ⟨here, rfl⟩ | ⟨notHead, first⟩, equal⟩ := described
            · rw [mapped, Option.some.injEq] at equal
              exact .inl ⟨here, equal.symm⟩
            · exact .inr ⟨notHead, item, first, equal⟩

end FieldCheck
