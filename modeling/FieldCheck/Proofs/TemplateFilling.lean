import FieldCheck.Message
import Mathlib.Data.List.Infix

/-!
# Filling in a template in one pass

A message is rendered by two replacements, the second of which runs over what
the first has put in.  For templates in which every `$` begins a placeholder,
and labels without `$`, this is the same as one pass over the pieces of the
template: neither the label nor the bound is searched or changed.
-/

namespace FieldCheck.Message

/-- A piece of a template: text without `$`, or a placeholder. -/
inductive Piece where
  | text (content : String) (plain : '$' ∉ content.toList)
  | label
  | bound

namespace Piece

def written : Piece → String
  | .text content _ => content
  | .label => labelPlaceholder
  | .bound => boundPlaceholder

def filled (label bound : String) : Piece → String
  | .text content _ => content
  | .label => label
  | .bound => bound

/-- The template that consists of given pieces. -/
def template (pieces : List Piece) : String :=
  String.join (pieces.map written)

/-- The pieces of a template, each of them filled in for itself. -/
def message (label bound : String) (pieces : List Piece) : String :=
  String.join (pieces.map (filled label bound))

end Piece

/-- Every `$` in a text begins a placeholder. -/
def Complete (text : List Char) : Prop :=
  ∀ rest ∈ text.tails, rest.head? = some '$' →
    labelPlaceholder.toList <+: rest ∨ boundPlaceholder.toList <+: rest

instance (text : List Char) : Decidable (Complete text) :=
  inferInstanceAs (Decidable (∀ rest ∈ text.tails, _))

/-- The two replacements, one after the other. -/
def passes (label bound template : List Char) : List Char :=
  Text.replaceCovered boundPlaceholder.toList bound 0
    (Text.replaceCovered labelPlaceholder.toList label 0 template)

theorem toList_labelPlaceholder :
    labelPlaceholder.toList = '$' :: "\x7blabel\x7d".toList := by
  decide

theorem toList_boundPlaceholder :
    boundPlaceholder.toList = '$' :: "\x7brule_value\x7d".toList := by
  decide

section Passes

variable {label bound : List Char}

/-- The first replacement leaves the placeholders of the bound alone. -/
theorem replaceCovered_boundPlaceholder_append (rest : List Char) :
    Text.replaceCovered labelPlaceholder.toList label 0
        (boundPlaceholder.toList ++ rest) =
      boundPlaceholder.toList ++
        Text.replaceCovered labelPlaceholder.toList label 0 rest := by
  have noMatch : labelPlaceholder.toList.isPrefixOf
      ('$' :: ("\x7brule_value\x7d".toList ++ rest)) = false := by
    rfl
  have plain : '$' ∉ "\x7brule_value\x7d".toList := by
    decide
  rw [toList_boundPlaceholder, List.cons_append, Text.replaceCovered, noMatch,
    if_neg Bool.false_ne_true, toList_labelPlaceholder,
    Text.replaceCovered_append_of_not_mem plain, List.cons_append]

theorem passes_plain_append {text : List Char} (plain : '$' ∉ text)
    (rest : List Char) :
    passes label bound (text ++ rest) = text ++ passes label bound rest := by
  unfold passes
  rw [toList_labelPlaceholder, toList_boundPlaceholder,
    Text.replaceCovered_append_of_not_mem plain,
    Text.replaceCovered_append_of_not_mem plain]

/-- A label that has been put in is not searched again. -/
theorem passes_labelPlaceholder_append (plainLabel : '$' ∉ label)
    (rest : List Char) :
    passes label bound (labelPlaceholder.toList ++ rest) =
      label ++ passes label bound rest := by
  have nonempty : labelPlaceholder.toList ≠ [] := by
    decide
  unfold passes
  rw [Text.replaceCovered_pattern_append nonempty, toList_boundPlaceholder,
    Text.replaceCovered_append_of_not_mem plainLabel]

theorem passes_boundPlaceholder_append (rest : List Char) :
    passes label bound (boundPlaceholder.toList ++ rest) =
      bound ++ passes label bound rest := by
  have nonempty : boundPlaceholder.toList ≠ [] := by
    decide
  unfold passes
  rw [replaceCovered_boundPlaceholder_append,
    Text.replaceCovered_pattern_append nonempty]

end Passes

section Pieces

variable {label bound : String}

theorem passes_template (plainLabel : '$' ∉ label.toList)
    (pieces : List Piece) :
    passes label.toList bound.toList (Piece.template pieces).toList =
      (Piece.message label bound pieces).toList := by
  simp only [Piece.template, Piece.message, String.toList_join]
  induction pieces with
  | nil => rfl
  | cons piece pieces induction =>
      simp only [List.map_cons, List.flatMap_cons]
      rw [← induction]
      cases piece with
      | text content plain => exact passes_plain_append plain _
      | label => exact passes_labelPlaceholder_append plainLabel _
      | bound => exact passes_boundPlaceholder_append _

end Pieces

section Completeness

variable {text rest : List Char}

theorem complete_cons {character : Char} :
    Complete (character :: rest) ↔
      (character = '$' →
        labelPlaceholder.toList <+: character :: rest ∨
          boundPlaceholder.toList <+: character :: rest) ∧
      Complete rest := by
  unfold Complete
  rw [List.tails_cons, List.forall_mem_cons, List.head?_cons,
    Option.some.injEq]

theorem complete_plain_append (plain : '$' ∉ text) :
    Complete (text ++ rest) ↔ Complete rest := by
  induction text with
  | nil => rfl
  | cons character text induction =>
      have different : character ≠ '$' := (List.ne_of_not_mem_cons plain).symm
      have plainLater : '$' ∉ text :=
        fun member => plain (List.mem_cons_of_mem character member)
      rw [List.cons_append, complete_cons, induction plainLater]
      simp [different]

theorem complete_placeholder_append {placeholder tail : List Char}
    (known : placeholder = labelPlaceholder.toList ∨
      placeholder = boundPlaceholder.toList)
    (spelled : placeholder = '$' :: tail) (plain : '$' ∉ tail) :
    Complete (placeholder ++ rest) ↔ Complete rest := by
  have begins : labelPlaceholder.toList <+: placeholder ++ rest ∨
      boundPlaceholder.toList <+: placeholder ++ rest := by
    rcases known with rfl | rfl
    · exact .inl (List.prefix_append _ rest)
    · exact .inr (List.prefix_append _ rest)
  rw [spelled, List.cons_append] at begins ⊢
  rw [complete_cons, complete_plain_append plain]
  exact and_iff_right (fun _ => begins)

theorem complete_written_append (piece : Piece) :
    Complete (piece.written.toList ++ rest) ↔ Complete rest := by
  cases piece with
  | text content plain => exact complete_plain_append plain
  | label =>
      exact complete_placeholder_append (.inl rfl) toList_labelPlaceholder
        (by decide)
  | bound =>
      exact complete_placeholder_append (.inr rfl) toList_boundPlaceholder
        (by decide)

theorem exists_piece_append (complete : Complete text)
    (nonempty : text ≠ []) :
    ∃ (piece : Piece) (rest : List Char),
      text = piece.written.toList ++ rest ∧ rest.length < text.length := by
  have shorter : ∀ placeholder : String, 0 < placeholder.toList.length →
      ∀ rest, placeholder.toList ++ rest = text →
        rest.length < text.length := by
    intro placeholder long rest equal
    rw [← equal, List.length_append]
    omega
  obtain ⟨character, later, rfl⟩ := List.exists_cons_of_ne_nil nonempty
  obtain ⟨begins, _⟩ := complete_cons.mp complete
  by_cases marker : character = '$'
  · rcases begins marker with ⟨rest, equal⟩ | ⟨rest, equal⟩
    · exact ⟨.label, rest, equal.symm, shorter _ (by decide) rest equal⟩
    · exact ⟨.bound, rest, equal.symm, shorter _ (by decide) rest equal⟩
  · have plain : '$' ∉ (String.ofList [character]).toList := by
      simpa using Ne.symm marker
    exact ⟨.text _ plain, later, by simp [Piece.written], by simp⟩

theorem exists_pieces (complete : Complete text) :
    ∃ pieces, (Piece.template pieces).toList = text := by
  induction length : text.length using Nat.strong_induction_on
    generalizing text with
  | _ length induction =>
      by_cases empty : text = []
      · exact ⟨[], by simp [empty, Piece.template]⟩
      · obtain ⟨piece, rest, rfl, isShorter⟩ :=
          exists_piece_append complete empty
        obtain ⟨pieces, rfl⟩ := induction rest.length (length ▸ isShorter)
          ((complete_written_append piece).mp complete) rfl
        exact ⟨piece :: pieces, by simp [Piece.template, String.toList_join]⟩

theorem complete_template (pieces : List Piece) :
    Complete (Piece.template pieces).toList := by
  simp only [Piece.template, String.toList_join]
  induction pieces with
  | nil => simp [Complete]
  | cons piece pieces induction =>
      simp only [List.map_cons, List.flatMap_cons]
      exact (complete_written_append piece).mpr induction

end Completeness

theorem complete_iff {template : String} :
    Complete template.toList ↔
      ∃ pieces, Piece.template pieces = template := by
  constructor
  · intro complete
    obtain ⟨pieces, equal⟩ := exists_pieces complete
    exact ⟨pieces, String.toList_inj.mp equal⟩
  · rintro ⟨pieces, rfl⟩
    exact complete_template pieces

/-- The message of a template under a label without `$`.  The templates in which
every `$` begins a placeholder are those that consist of pieces; the message of
such a template is made of its pieces, each of them filled in for itself,
whatever the bound holds; and the template is kept as it is. -/
theorem render_of_pieces (template label : String) (bound? : Option String)
    (plainLabel : '$' ∉ label.toList) :
    (Complete template.toList ↔
      ∃ pieces, Piece.template pieces = template) ∧
    (∀ pieces, Piece.template pieces = template →
      (render template label bound?).rendered =
        Piece.message label (bound?.getD "") pieces) ∧
    (render template label bound?).template = template := by
  refine ⟨complete_iff, ?_, rfl⟩
  intro pieces equal
  apply String.toList_inj.mp
  rw [← passes_template plainLabel, equal]
  unfold render Text.replaceAll passes
  rw [String.toList_ofList, String.toList_ofList]

/-- Placeholders side by side, and a bound that looks like one itself. -/
theorem render_of_pieces_adjacent :
    let template := "$\x7brule_value\x7d$\x7blabel\x7d\x7d, $\x7blabel\x7d"
    let pieces : List Piece :=
      [.bound, .label, .text "\x7d, " (by decide), .label]
    Complete template.toList ∧ '$' ∉ "rule_value\x7d".toList ∧
      Piece.template pieces = template ∧
      (render template "rule_value\x7d" (some labelPlaceholder)).rendered =
        "$\x7blabel\x7drule_value\x7d\x7d, rule_value\x7d" := by
  intro template pieces
  have plainLabel : '$' ∉ "rule_value\x7d".toList := by decide
  have consists : Piece.template pieces = template := by decide
  obtain ⟨complete, rendered, _⟩ := render_of_pieces template "rule_value\x7d"
    (some labelPlaceholder) plainLabel
  exact ⟨complete.mpr ⟨pieces, consists⟩, plainLabel, consists,
    rendered pieces consists⟩

/-- A label that holds a placeholder does not stay as it is. -/
example :
    (render "$\x7blabel\x7d!" "$\x7brule_value\x7d" (some "5")).rendered =
      "5!" := by
  decide

end FieldCheck.Message
