import FieldCheck.Proofs.ExpressionSequence
import FieldCheck.Proofs.ExpressionWriting
import Mathlib.Data.List.DropRight

/-!
# Joining tokens

An expression falls into one token more than it has commas.  `Expression.Joins`
describes the way back: tokens with blanks around each of them and commas in
between.  A list is read from exactly the expressions in which it is joined,
provided that there is a token in it and that none has a comma or blank ends.
So it does no harm to replace an expression by the plain join of its tokens.
-/

namespace FieldCheck

namespace Text

/-- A text without blank ends. -/
structure Bare (text : List Char) : Prop where
  beginning : ∀ first rest, text = first :: rest → isBlank first = false
  ending : ∀ front last, text = front ++ [last] → isBlank last = false

theorem bare_trimmed (text : List Char) : Bare (trimmed text) where
  beginning := by
    intro first rest equal
    obtain ⟨after, restored⟩ :=
      List.rdropWhile_prefix isBlank (text.dropWhile isBlank)
    have begins : text.dropWhile isBlank = first :: (rest ++ after) := by
      rw [← restored, ← List.cons_append, ← equal]
      rfl
    have notBlank := List.head_dropWhile_not isBlank
      (show text.dropWhile isBlank ≠ [] by simp [begins])
    simpa [begins] using notBlank
  ending := by
    intro front last equal
    have dropped : (text.dropWhile isBlank).rdropWhile isBlank =
        front ++ [last] :=
      equal
    have notBlank := List.rdropWhile_last_not isBlank (text.dropWhile isBlank)
      (by simp [dropped])
    simpa [dropped] using notBlank

theorem trimmed_of_bare {text : List Char} (bare : Bare text) :
    trimmed text = text := by
  have begins : text.dropWhile isBlank = text := by
    cases text with
    | nil => rfl
    | cons first rest =>
        apply List.dropWhile_cons_of_neg
        simp [bare.beginning first rest rfl]
  have ends : text.rdropWhile isBlank = text := by
    apply List.rdropWhile_eq_self_iff.mpr
    intro nonempty
    simp [bare.ending _ _ (List.dropLast_append_getLast nonempty).symm]
  change (text.dropWhile isBlank).rdropWhile isBlank = text
  rw [begins, ends]

end Text

namespace Expression

open Text

/-- A token as it comes from an expression.  It may be empty. -/
structure IsToken (token : String) : Prop where
  commaFree : ',' ∉ token.toList
  bare : Bare token.toList

/-- Tokens in an expression, in order: blanks may stand around each of them and
commas stand between. -/
def Joins (listed : List String) (expression : String) : Prop :=
  ∃ pieces,
    List.Forall₂ (fun token piece => Padded token.toList piece) listed pieces ∧
    expression = String.ofList ([','].intercalate pieces)

section Joining

variable {listed : List String} {expression token : String}

theorem length_tokens (expression : String) :
    (tokens expression).length = expression.toList.count ',' + 1 := by
  rw [tokens, List.length_map, length_splitOn]

theorem tokens_ne_nil (expression : String) : tokens expression ≠ [] := by
  apply List.ne_nil_of_length_pos
  rw [length_tokens]
  exact Nat.succ_pos _

theorem isToken_of_mem_tokens (member : token ∈ tokens expression) :
    IsToken token := by
  obtain ⟨piece, isPiece, rfl⟩ := List.mem_map.mp member
  have pieceFree : ',' ∉ piece := not_mem_of_mem_splitOn isPiece
  have notBlank : Text.isBlank ',' = false := by decide
  constructor
  · rwa [String.toList_ofList,
      ← mem_iff_of_padded (padded_trimmed piece) notBlank]
  · rw [String.toList_ofList]
    exact bare_trimmed piece

theorem joins_tokens (expression : String) :
    Joins (tokens expression) expression := by
  refine ⟨expression.toList.splitOn ',', ?_, ?_⟩
  · apply List.forall₂_map_left_iff.mpr
    apply List.forall₂_same.mpr
    intro piece _
    rw [String.toList_ofList]
    exact padded_trimmed piece
  · rw [List.intercalate_splitOn, String.ofList_toList]

theorem joins_intercalate (listed : List String) :
    Joins listed (",".intercalate listed) := by
  refine ⟨listed.map String.toList, ?_, ?_⟩
  · apply List.forall₂_map_right_iff.mpr
    apply List.forall₂_same.mpr
    intro token _
    exact padded_self token.toList
  · apply String.toList_inj.mp
    simp only [String.toList_intercalate, String.toList_ofList]
    rfl

theorem not_mem_comma_of_padded {pieces : List (List Char)}
    (padded : List.Forall₂ (fun token piece => Padded token.toList piece)
      listed pieces)
    (areTokens : ∀ token ∈ listed, IsToken token) :
    ∀ piece ∈ pieces, ',' ∉ piece := by
  induction padded with
  | nil => simp
  | cons headPadded restPadded induction =>
      obtain ⟨isToken, restAre⟩ := List.forall_mem_cons.mp areTokens
      rw [List.forall_mem_cons]
      constructor
      · rw [mem_iff_of_padded headPadded (by decide)]
        exact isToken.commaFree
      · exact induction restAre

theorem map_trimmed_of_padded {pieces : List (List Char)}
    (padded : List.Forall₂ (fun token piece => Padded token.toList piece)
      listed pieces)
    (areTokens : ∀ token ∈ listed, IsToken token) :
    pieces.map (fun piece => String.ofList (trimmed piece)) = listed := by
  induction padded with
  | nil => rfl
  | cons headPadded restPadded induction =>
      obtain ⟨isToken, restAre⟩ := List.forall_mem_cons.mp areTokens
      rw [List.map_cons, trimmed_of_padded headPadded,
        trimmed_of_bare isToken.bare, String.ofList_toList, induction restAre]

/-- Reading takes the blanks away and finds the commas again. -/
theorem tokens_of_joins (nonempty : listed ≠ [])
    (areTokens : ∀ token ∈ listed, IsToken token)
    (joins : Joins listed expression) : tokens expression = listed := by
  obtain ⟨pieces, padded, rfl⟩ := joins
  have somePiece : pieces ≠ [] := by
    rintro rfl
    exact nonempty (List.forall₂_nil_right_iff.mp padded)
  rw [tokens_intercalate somePiece (not_mem_comma_of_padded padded areTokens),
    map_trimmed_of_padded padded areTokens]

theorem tokens_eq_iff :
    tokens expression = listed ↔
      listed ≠ [] ∧ (∀ token ∈ listed, IsToken token) ∧
        Joins listed expression := by
  constructor
  · rintro rfl
    exact ⟨tokens_ne_nil expression, fun _ => isToken_of_mem_tokens,
      joins_tokens expression⟩
  · intro described
    obtain ⟨nonempty, areTokens, joins⟩ := described
    exact tokens_of_joins nonempty areTokens joins

/-- A plain join of the tokens of an expression has the same tokens. -/
theorem tokens_intercalate_tokens (expression : String) :
    tokens (",".intercalate (tokens expression)) = tokens expression :=
  tokens_of_joins (tokens_ne_nil expression)
    (fun _ => isToken_of_mem_tokens) (joins_intercalate _)

end Joining

/-- What the tokens of an expression are.  There is one more of them than there
are commas, and each is without commas and blank ends.  They are the only such
list that is joined in the expression, whatever blanks are around its tokens,
so their plain join has the same tokens; and the tokens of another expression
are added by writing it behind a comma. -/
theorem tokens_of_expression (expression : String) :
    (tokens expression).length = expression.toList.count ',' + 1 ∧
    (∀ token ∈ tokens expression, IsToken token) ∧
    (∀ listed, tokens expression = listed ↔
      listed ≠ [] ∧ (∀ token ∈ listed, IsToken token) ∧
        Joins listed expression) ∧
    tokens (",".intercalate (tokens expression)) = tokens expression ∧
    ∀ other, tokens (expression ++ "," ++ other) =
      tokens expression ++ tokens other :=
  ⟨length_tokens expression, fun _ => isToken_of_mem_tokens,
    fun _ => tokens_eq_iff, tokens_intercalate_tokens expression,
    tokens_joined expression⟩

/-- Two commas next to each other have an empty token between them, and blanks
of several scripts go. -/
theorem tokens_of_expression_empty_token :
    let expression := " min=5 ,,\u3000required\t"
    let listed := ["min=5", "", "required"]
    Joins listed expression ∧ tokens expression = listed ∧ IsToken "" ∧
      tokens "min=5,,required" = listed ∧
      tokens " min=5 ,,\u3000required\t, max = 9" =
        ["min=5", "", "required", "max = 9"] := by
  intro expression listed
  obtain ⟨_, areTokens, characterized, rejoined, appended⟩ :=
    tokens_of_expression expression
  have read : tokens expression = listed := by decide
  obtain ⟨_, _, joins⟩ := (characterized listed).mp read
  have isToken : IsToken "" := areTokens "" (by rw [read]; decide)
  rw [read] at rejoined appended
  exact ⟨joins, read, isToken, rejoined, appended " max = 9"⟩

end Expression

end FieldCheck
