import FieldCheck.Text.ByteOrder

/-!
# Dictionaries

A dictionary keeps one value per key, sorted by the bytes of the keys.  The
order is part of the type, so that two dictionaries with the same readings are
the same dictionary (`Dictionary.ext_get?`) whatever the order of insertion.
-/

namespace FieldCheck

open Text

/-- Finitely many texts with a value each, in the order of the keys. -/
structure Dictionary (α : Type) where
  entries : List (String × α)
  sorted : entries.Pairwise (fun left right => Before left.1 right.1)
deriving DecidableEq

namespace Dictionary

variable {α : Type}

def empty : Dictionary α :=
  ⟨[], .nil⟩

def get? (dictionary : Dictionary α) (key : String) : Option α :=
  dictionary.entries.lookup key

def contains (dictionary : Dictionary α) (key : String) : Bool :=
  (dictionary.get? key).isSome

def keys (dictionary : Dictionary α) : List String :=
  dictionary.entries.map Prod.fst

def size (dictionary : Dictionary α) : Nat :=
  dictionary.entries.length

def isEmpty (dictionary : Dictionary α) : Bool :=
  dictionary.entries.isEmpty

/-- Put a key at its place in a sorted list.  A value that is there already is
joined with the new one. -/
def placed (join : α → α → α) (key : String) (value : α) :
    List (String × α) → List (String × α)
  | [] => [(key, value)]
  | (present, old) :: rest =>
      if Before key present then (key, value) :: (present, old) :: rest
      else if key = present then (present, join old value) :: rest
      else (present, old) :: placed join key value rest

theorem fst_mem_placed {join : α → α → α} {key : String} {value : α}
    {entries : List (String × α)} {entry : String × α}
    (member : entry ∈ placed join key value entries) :
    entry.1 = key ∨ ∃ old ∈ entries, old.1 = entry.1 := by
  induction entries with
  | nil =>
      simp only [placed, List.mem_singleton] at member
      exact .inl (by simp [member])
  | cons first rest induction =>
      obtain ⟨present, old⟩ := first
      simp only [placed] at member
      by_cases before : Before key present
      · rw [if_pos before] at member
        rcases List.mem_cons.mp member with equal | inside
        · exact .inl (by simp [equal])
        · exact .inr ⟨entry, inside, rfl⟩
      · rw [if_neg before] at member
        by_cases equal : key = present
        · rw [if_pos equal] at member
          rcases List.mem_cons.mp member with same | inside
          · exact .inl (by simp [same, equal])
          · exact .inr ⟨entry, List.mem_cons_of_mem _ inside, rfl⟩
        · rw [if_neg equal] at member
          rcases List.mem_cons.mp member with same | inside
          · exact .inr ⟨(present, old), List.mem_cons_self, by simp [same]⟩
          · rcases induction inside with equal | ⟨found, inRest, equal⟩
            · exact .inl equal
            · exact .inr ⟨found, List.mem_cons_of_mem _ inRest, equal⟩

theorem placed_sorted (join : α → α → α) (key : String) (value : α)
    {entries : List (String × α)}
    (sorted : entries.Pairwise (fun left right => Before left.1 right.1)) :
    (placed join key value entries).Pairwise
      (fun left right => Before left.1 right.1) := by
  induction entries with
  | nil => simp [placed]
  | cons first rest induction =>
      obtain ⟨present, old⟩ := first
      obtain ⟨ahead, restSorted⟩ := List.pairwise_cons.mp sorted
      simp only [placed]
      by_cases before : Before key present
      · rw [if_pos before]
        refine List.pairwise_cons.mpr ⟨?_, sorted⟩
        intro entry member
        rcases List.mem_cons.mp member with same | inside
        · simpa [same] using before
        · exact before.trans (ahead entry inside)
      · rw [if_neg before]
        by_cases same : key = present
        · rw [if_pos same]
          exact List.pairwise_cons.mpr ⟨ahead, restSorted⟩
        · rw [if_neg same]
          refine List.pairwise_cons.mpr ⟨?_, induction restSorted⟩
          intro entry member
          rcases fst_mem_placed member with equal | ⟨found, inside, equal⟩
          · simp only [equal]
            apply Decidable.byContradiction
            intro notAfter
            exact same (eq_of_not_before before notAfter)
          · rw [← equal]
            exact ahead found inside

def insert (dictionary : Dictionary α) (key : String) (value : α) :
    Dictionary α :=
  ⟨placed (fun _ new => new) key value dictionary.entries,
    placed_sorted _ key value dictionary.sorted⟩

def insertNew (dictionary : Dictionary α) (key : String) (value : α) :
    Dictionary α :=
  ⟨placed (fun old _ => old) key value dictionary.entries,
    placed_sorted _ key value dictionary.sorted⟩

/-- Insert pairs from left to right; the last value of a key stays. -/
def ofPairs (pairs : List (String × α)) : Dictionary α :=
  pairs.foldl (fun dictionary pair => dictionary.insert pair.1 pair.2) empty

private theorem lookup_cons_eq_ite (key present : String) (value : α)
    (rest : List (String × α)) :
    ((present, value) :: rest).lookup key =
      if key = present then some value else rest.lookup key := by
  rw [List.lookup_cons]
  by_cases same : key = present
  · simp [same]
  · rw [beq_eq_false_iff_ne.mpr same, if_neg same]

theorem lookup_placed (join : α → α → α) (key : String) (value : α)
    (entries : List (String × α))
    (sorted : entries.Pairwise (fun left right => Before left.1 right.1))
    (queried : String) :
    (placed join key value entries).lookup queried =
      if queried = key then
        some (match entries.lookup key with
          | none => value
          | some old => join old value)
      else entries.lookup queried := by
  induction entries with
  | nil => simp [placed, lookup_cons_eq_ite]
  | cons first rest induction =>
      obtain ⟨present, old⟩ := first
      obtain ⟨ahead, restSorted⟩ := List.pairwise_cons.mp sorted
      simp only [placed]
      by_cases before : Before key present
      · rw [if_pos before]
        have unread : List.lookup key ((present, old) :: rest) = none := by
          rw [List.lookup_eq_none_iff]
          intro entry member
          apply bne_iff_ne.mpr
          intro equal
          rcases List.mem_cons.mp member with same | inside
          · subst same
            exact not_before_self key (equal ▸ before)
          · exact not_before_self key
              (equal ▸ before.trans (ahead entry inside))
        rw [unread, lookup_cons_eq_ite]
      · rw [if_neg before]
        by_cases same : key = present
        · subst same
          simp only [lookup_cons_eq_ite, if_pos]
          split <;> rfl
        · simp only [lookup_cons_eq_ite, induction restSorted, if_neg same]
          by_cases here : queried = present
          · have other : queried ≠ key := fun equal =>
              same (equal ▸ here)
            simp [here, Ne.symm same]
          · simp [here]

@[simp] theorem get?_empty (queried : String) :
    (empty : Dictionary α).get? queried = none :=
  rfl

theorem get?_insert (dictionary : Dictionary α) (key : String) (value : α)
    (queried : String) :
    (dictionary.insert key value).get? queried =
      if queried = key then some value else dictionary.get? queried := by
  simp only [get?, insert, lookup_placed _ key value _ dictionary.sorted]
  split
  · cases dictionary.entries.lookup key <;> rfl
  · rfl

theorem get?_insertNew (dictionary : Dictionary α) (key : String)
    (value : α) (queried : String) :
    (dictionary.insertNew key value).get? queried =
      if queried = key then some ((dictionary.get? key).getD value)
      else dictionary.get? queried := by
  simp only [get?, insertNew, lookup_placed _ key value _ dictionary.sorted]
  split
  · cases dictionary.entries.lookup key <;> rfl
  · rfl

theorem mem_entries_iff (dictionary : Dictionary α) (key : String)
    (value : α) :
    (key, value) ∈ dictionary.entries ↔
      dictionary.get? key = some value := by
  obtain ⟨entries, sorted⟩ := dictionary
  simp only [get?]
  induction entries with
  | nil => simp
  | cons first rest induction =>
      obtain ⟨present, old⟩ := first
      obtain ⟨ahead, restSorted⟩ := List.pairwise_cons.mp sorted
      rw [List.mem_cons, induction restSorted, lookup_cons_eq_ite]
      by_cases here : key = present
      · subst here
        have unread : rest.lookup key = none := by
          rw [List.lookup_eq_none_iff]
          intro entry member
          apply bne_iff_ne.mpr
          intro equal
          exact not_before_self entry.1 (equal ▸ ahead entry member)
        simp [unread, eq_comm]
      · simp [here]

theorem ext_get? {left right : Dictionary α}
    (readings : ∀ key, left.get? key = right.get? key) : left = right := by
  have members : ∀ entry, entry ∈ left.entries ↔ entry ∈ right.entries := by
    rintro ⟨key, value⟩
    rw [mem_entries_iff, mem_entries_iff, readings]
  have distinct : ∀ dictionary : Dictionary α,
      dictionary.entries.Nodup := fun dictionary =>
    dictionary.sorted.imp (by
      intro first second before equal
      exact not_before_self first.1 (by simpa [← equal] using before))
  have permutation : left.entries.Perm right.entries :=
    (List.perm_ext_iff_of_nodup (distinct left) (distinct right)).mpr
      (fun entry => members entry)
  have equal : left.entries = right.entries := by
    refine permutation.eq_of_pairwise ?_ left.sorted right.sorted
    intro first second _ _ forward backward
    exact absurd (forward.trans backward) (not_before_self _)
  cases left
  cases right
  simpa using equal

end Dictionary

end FieldCheck
