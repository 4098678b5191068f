import FieldCheck.Dictionary
import FieldCheck.Proofs.LastSuch

/-!
# What is read from a dictionary

The keys of a dictionary are distinct and stand in the order of their UTF-8
encodings.  Of the pairs that a dictionary is made from, the last one of a key
counts; in particular a dictionary is made again from its own entries.
-/

namespace FieldCheck

namespace Text

/-- The UTF-8 encoding of a text, character by character. -/
def encoded (text : String) : List UInt8 :=
  text.toList.flatMap String.utf8EncodeChar

theorem bytes_eq_encoded (text : String) : bytes text = encoded text := by
  rw [bytes, ← String.utf8Encode_toList, List.utf8Encode,
    List.data_toByteArray, encoded]

theorem before_iff_encoded_lt {left right : String} :
    Before left right ↔ encoded left < encoded right := by
  rw [Before, bytes_eq_encoded, bytes_eq_encoded]

end Text

namespace Dictionary

variable {α : Type}

/-- Of the pairs that a dictionary is made from, the last one of a key is
read. -/
theorem get?_ofPairs_eq_some_iff {pairs : List (String × α)} {key : String}
    {value : α} :
    (ofPairs pairs).get? key = some value ↔
      LastSuch (fun pair => pair.1 = key) pairs (key, value) := by
  have kept : ∀ (dictionary : Dictionary α) (pair : String × α),
      ¬ pair.1 = key →
        (dictionary.insert pair.1 pair.2).get? key = dictionary.get? key := by
    intro dictionary pair other
    rw [get?_insert, if_neg (Ne.symm other)]
  have written : ∀ (dictionary : Dictionary α) (pair : String × α),
      pair.1 = key →
        (dictionary.insert pair.1 pair.2).get? key = some pair.2 := by
    intro dictionary pair here
    rw [get?_insert, if_pos here.symm]
  unfold ofPairs
  rw [view_foldl_eq_iff (get? · key) kept written, get?_empty]
  constructor
  · intro shown
    rcases shown with ⟨⟨_, content⟩, last, same⟩ | ⟨_, impossible⟩
    · obtain rfl : _ = key := last.has
      obtain rfl := Option.some.inj same
      exact last
    · contradiction
  · intro last
    exact .inl ⟨(key, value), last, rfl⟩

theorem nodup_keys (dictionary : Dictionary α) : dictionary.keys.Nodup := by
  apply List.Pairwise.map _ _ dictionary.sorted
  intro left right before equal
  exact Text.not_before_self _ (equal ▸ before)

theorem mem_keys_iff {dictionary : Dictionary α} {key : String} :
    key ∈ dictionary.keys ↔ ∃ value, dictionary.get? key = some value := by
  simp only [keys, List.mem_map, Prod.exists, mem_entries_iff]
  constructor
  · intro described
    obtain ⟨_, value, found, rfl⟩ := described
    exact ⟨value, found⟩
  · intro described
    obtain ⟨value, found⟩ := described
    exact ⟨key, value, found, rfl⟩

theorem ofPairs_entries (dictionary : Dictionary α) :
    ofPairs dictionary.entries = dictionary := by
  apply ext_get?
  intro key
  apply Option.ext
  intro value
  rw [get?_ofPairs_eq_some_iff, ← mem_entries_iff]
  constructor
  · exact LastSuch.mem
  · intro member
    obtain ⟨before, after, split⟩ := List.append_of_mem member
    refine ⟨before, after, split, rfl, ?_⟩
    intro later inside same
    have distinct := dictionary.nodup_keys
    rw [keys, split, List.map_append, List.map_cons] at distinct
    have onlyHere := (List.nodup_cons.mp (List.nodup_append.mp distinct).2.1).1
    exact onlyHere (List.mem_map.mpr ⟨later, inside, same⟩)

end Dictionary

end FieldCheck
