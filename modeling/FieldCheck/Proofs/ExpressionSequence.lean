import FieldCheck.Proofs.PassAdequacy
import FieldCheck.Proofs.TokenGrammar

/-!
# Rule expressions in sequence

Two rule expressions with a comma between them are one expression, whatever
blanks and commas stand at the seam: its tokens are those of the first and then
those of the second.  A check of a field with both looks at the second one only
when it finds nothing in the first.  Expressions of ignored tokens are neutral
in this.  Blank ones are among them, although a field with a blank expression
is not looked at.
-/

namespace FieldCheck

/-- What comes of two searches one after the other.  The second one counts only
when the first finds nothing. -/
def firstFinding {ε α : Type} (first second : Except ε (Option α)) :
    Except ε (Option α) :=
  match first with
  | .ok none => second
  | .ok (some _) | .error _ => first

section Findings

variable {ε α β : Type} {first second : Except ε (Option α)}

@[simp] theorem firstFinding_none_left :
    firstFinding (.ok none) second = second :=
  rfl

@[simp] theorem firstFinding_none_right :
    firstFinding first (.ok none) = first := by
  rcases first with fault | (_ | found) <;> rfl

theorem firstFinding_of_ne (decided : first ≠ .ok none) :
    firstFinding first second = first := by
  rcases first with fault | (_ | found)
  · rfl
  · exact absurd rfl decided
  · rfl

theorem firstFinding_map (function : α → β) :
    (firstFinding first second).map (·.map function) =
      firstFinding (first.map (·.map function))
        (second.map (·.map function)) := by
  rcases first with fault | (_ | found) <;> rfl

end Findings

namespace Expression

def joined (front back : String) : String :=
  front ++ "," ++ back

theorem tokens_joined (front back : String) :
    tokens (joined front back) = tokens front ++ tokens back := by
  have characters : (joined front back).toList =
      front.toList ++ ',' :: back.toList := by
    simp [joined]
  unfold tokens
  rw [characters, List.splitOn_append_cons_self, List.map_append]

end Expression

theorem Step.verdict_append (front back : List Step) :
    verdict (front ++ back) = firstFinding (verdict front) (verdict back) := by
  induction front with
  | nil => rfl
  | cons step rest induction =>
      cases step with
      | ignored | passed => exact induction
      | failed | faulty => rfl

namespace ValueClass

/-- A class ignores a token that is written like no rule, and one that is a rule
for the other class only. -/
inductive Ignores (valueClass : ValueClass) (token : String) : Prop where
  | unknown (unwritten : ∀ rule : Rule, token ≠ rule.write)
  | foreign (rule : Rule) (written : token = rule.write)
      (absent : rule.name ∉ valueClass.vocabulary)

theorem rule?_eq_none_iff {valueClass : ValueClass} {token : String} :
    valueClass.rule? token = none ↔ valueClass.Ignores token := by
  constructor
  · intro unread
    by_cases written : ∃ rule : Rule, token = rule.write
    · obtain ⟨rule, isWritten⟩ := written
      refine .foreign rule isWritten ?_
      intro known
      rw [rule?_eq_some_iff.mpr ⟨known, isWritten⟩] at unread
      contradiction
    · exact .unknown (fun rule isWritten => written ⟨rule, isWritten⟩)
  · intro ignored
    rw [Option.eq_none_iff_forall_ne_some]
    intro rule read
    obtain ⟨known, written⟩ := rule?_eq_some_iff.mp read
    cases ignored with
    | unknown unwritten => exact unwritten rule written
    | foreign other otherWritten absent =>
        have same : rule = other :=
          Rule.write_injective (written.symm.trans otherWritten)
        exact absent (same ▸ known)

end ValueClass

namespace Field

def withRules (field : Field) (rules : String) : Field :=
  { field with rules := rules }

/-- An expression makes no difference to a field: its tokens are ignored in the
class of the value.  Values of no class are not tested on anything. -/
def Idle (field : Field) (expression : String) : Prop :=
  ∀ valueClass, field.kind.valueClass? = some valueClass →
    ∀ token ∈ Expression.tokens expression, valueClass.Ignores token

section Sequences

variable {field : Field} {presence : Presence} {expression : String}

theorem steps_joined (valueClass : ValueClass) (front back : String) :
    (field.withRules (Expression.joined front back)).steps presence
        valueClass =
      (field.withRules front).steps presence valueClass ++
        (field.withRules back).steps presence valueClass := by
  change (Expression.tokens (Expression.joined front back)).map
      (field.step presence valueClass) = _
  rw [Expression.tokens_joined, List.map_append]
  rfl

theorem verdict_joined (front back : String) :
    (field.withRules (Expression.joined front back)).verdict presence =
      firstFinding ((field.withRules front).verdict presence)
        ((field.withRules back).verdict presence) := by
  cases classified : field.kind.valueClass? with
  | none =>
      have nothing : ∀ rules,
          (field.withRules rules).verdict presence = .ok none :=
        fun _ => verdict_of_unclassified classified
      rw [nothing, nothing, nothing, firstFinding_none_left]
  | some valueClass =>
      have judged : ∀ rules,
          (field.withRules rules).verdict presence =
            (Step.verdict
              ((field.withRules rules).steps presence valueClass)).map
                (·.map (fun rule => (valueClass, rule))) :=
        fun _ => verdict_of_classified classified
      rw [judged, judged, judged, steps_joined, Step.verdict_append,
        firstFinding_map]

theorem idle_of_isBlank (blank : Expression.isBlank expression = true) :
    field.Idle expression := by
  intro valueClass _ token member
  rw [Expression.tokens_of_isBlank blank, List.mem_singleton] at member
  subst member
  exact ValueClass.rule?_eq_none_iff.mp valueClass.rule?_empty

theorem verdict_of_idle (idle : field.Idle expression) :
    (field.withRules expression).verdict presence = .ok none := by
  rw [verdict_eq_ok_none_iff]
  intro valueClass classified rule stated
  obtain ⟨token, member, read⟩ := List.mem_filterMap.mp stated
  have unread : valueClass.rule? token = none :=
    ValueClass.rule?_eq_none_iff.mpr (idle valueClass classified token member)
  rw [unread] at read
  contradiction

end Sequences

end Field

namespace Validator

/-- The check of a field by its tokens, whether its expression is blank or
not. -/
def checkTokens (validator : Validator) (field : Field) :
    Except RuleFault (Option Message) :=
  match field.kind.valueClass? with
  | none => .ok none
  | some valueClass =>
      (Step.verdict
        (field.steps validator.settings.presence valueClass)).map
          (·.map (validator.failure field valueClass))

section Checks

variable {validator : Validator} {field : Field}

theorem check_eq_checkTokens :
    validator.check field = validator.checkTokens field := by
  unfold check checkTokens
  cases classified : field.kind.valueClass? with
  | none =>
      rw [Field.verdict_of_unclassified classified]
      rfl
  | some valueClass =>
      rw [Field.verdict_of_classified classified]
      dsimp only
      generalize Step.verdict
        (field.steps validator.settings.presence valueClass) = judgement
      rcases judgement with fault | (_ | rule) <;> rfl

theorem check_joined (front back : String) :
    validator.check (field.withRules (Expression.joined front back)) =
      firstFinding (validator.check (field.withRules front))
        (validator.check (field.withRules back)) := by
  unfold check
  rw [Field.verdict_joined]
  exact firstFinding_map _

theorem check_of_idle {expression : String} (idle : field.Idle expression) :
    validator.check (field.withRules expression) = .ok none :=
  check_eq_ok_none_iff.mpr (Field.verdict_of_idle idle)

end Checks

/-- The law of two expressions in sequence.  With both of them a field is
checked on the first one, and on the second one if nothing is found, so that
further rules never change what has been found.  Idle expressions, blank ones
in particular, find nothing and are neutral on both sides; and not to look at a
blank expression comes to the same as to look at its tokens. -/
theorem check_of_joined_rules (validator : Validator) (field : Field) :
    (∀ front back,
      validator.check (field.withRules (Expression.joined front back)) =
        firstFinding (validator.check (field.withRules front))
          (validator.check (field.withRules back))) ∧
    (∀ front back,
      validator.check (field.withRules front) ≠ .ok none →
        validator.check (field.withRules (Expression.joined front back)) =
          validator.check (field.withRules front)) ∧
    (∀ idle, field.Idle idle →
      validator.check (field.withRules idle) = .ok none ∧
      ∀ expression,
        validator.check (field.withRules (Expression.joined idle expression)) =
            validator.check (field.withRules expression) ∧
        validator.check (field.withRules (Expression.joined expression idle)) =
            validator.check (field.withRules expression)) ∧
    (∀ expression, Expression.isBlank expression = true →
      field.Idle expression) ∧
    (∀ expression,
      validator.check (field.withRules expression) =
        validator.checkTokens (field.withRules expression)) := by
  refine ⟨check_joined, ?_, ?_, fun _ => Field.idle_of_isBlank,
    fun _ => check_eq_checkTokens⟩
  · intro front back decided
    rw [check_joined, firstFinding_of_ne decided]
  · intro idle isIdle
    have nothing : validator.check (field.withRules idle) = .ok none :=
      check_of_idle isIdle
    refine ⟨nothing, ?_⟩
    intro expression
    constructor
    · rw [check_joined, nothing, firstFinding_none_left]
    · rw [check_joined, nothing, firstFinding_none_right]

/-- Rules for texts, an unknown word and blanks stand before the rule that a
number breaks; a defective rule behind it is not read. -/
theorem check_of_joined_rules_number :
    let field : Field := ⟨"age", "Age", .integer 3, ""⟩
    let idle := "alpha ,\u3000len=2, Required,,"
    let broken := Expression.joined idle "min=18"
    field.Idle idle ∧
      Validator.standard.check (field.withRules broken) =
        Validator.standard.check (field.withRules "min=18") ∧
      Validator.standard.check
          (field.withRules
            (Expression.joined broken "max=99999999999999999999")) =
        .ok (some ⟨"Age cannot less than minimum 18 value",
          "$\x7blabel\x7d cannot less than minimum $\x7brule_value\x7d value"⟩) := by
  intro field idle broken
  have isIdle : field.Idle idle := by
    intro valueClass classified token member
    cases classified
    apply ValueClass.rule?_eq_none_iff.mp
    revert token
    decide
  obtain ⟨_, appended, neutral, _⟩ :=
    check_of_joined_rules Validator.standard field
  have found : Validator.standard.check (field.withRules broken) =
      Validator.standard.check (field.withRules "min=18") :=
    ((neutral idle isIdle).2 "min=18").1
  have failure : Validator.standard.check (field.withRules "min=18") =
      .ok (some ⟨"Age cannot less than minimum 18 value",
        "$\x7blabel\x7d cannot less than minimum $\x7brule_value\x7d value"⟩) := by
    decide +kernel
  refine ⟨isIdle, found, ?_⟩
  rw [appended broken _ (by rw [found, failure]; simp), found, failure]

end Validator

end FieldCheck
