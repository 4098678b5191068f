import FieldCheck.Field
import FieldCheck.Presence

/-!
# The verdict on a field

The tokens of a field are looked at from left to right.  A token is passed
over, or it is a rule that the value obeys, breaks, or cannot be tested on
because the bound is too large.  The first broken rule or defective bound
decides; what comes later is not looked at.
-/

namespace FieldCheck

/-- Test a rule on a value.  The bound is read only when the rule is tested.
Rules that say nothing about a value of this kind hold. -/
def Rule.holds (presence : Presence) (key : String) (value : Value)
    (rule : Rule) : Except RuleFault Bool :=
  match value, rule with
  | .text content, .required => .ok (Constraint.isPresent content)
  | .text content, .alpha => .ok (Constraint.isAlphabetic content)
  | .text content, .email => .ok (Constraint.isEmail content)
  | .text content, .len _ =>
      (rule.argument .word key).map (Constraint.hasLength content)
  | .text content, .min _ =>
      (rule.argument .word key).map (Constraint.hasMinLength content)
  | .text content, .max _ =>
      (rule.argument .word key).map (Constraint.hasMaxLength content)
  | .integer number, .required => .ok (presence.admits number)
  | .integer number, .min _ =>
      (rule.argument .word key).map
        (fun bound : Nat => Constraint.atLeast number (bound : Int))
  | .integer number, .max _ =>
      (rule.argument .word key).map
        (fun bound : Nat => Constraint.atMost number (bound : Int))
  | _, _ => .ok true

/-- What one token of an expression comes to. -/
inductive Step where
  | ignored (token : String)
  | passed (rule : Rule)
  | failed (rule : Rule)
  | faulty (fault : RuleFault)

namespace Step

/-- Whether later tokens are not looked at. -/
def isDecisive : Step → Bool
  | .ignored _ | .passed _ => false
  | .failed _ | .faulty _ => true

/-- The first broken rule, unless a defect comes before it. -/
def verdict : List Step → Except RuleFault (Option Rule)
  | [] => .ok none
  | .ignored _ :: rest | .passed _ :: rest => verdict rest
  | .failed rule :: _ => .ok (some rule)
  | .faulty fault :: _ => .error fault

/-- The steps that are taken: all up to the first decisive one. -/
def taken : List Step → List Step
  | [] => []
  | step :: rest => if step.isDecisive then [step] else step :: taken rest

end Step

namespace Field

def step (presence : Presence) (valueClass : ValueClass) (field : Field)
    (token : String) : Step :=
  match valueClass.rule? token with
  | none => .ignored token
  | some rule =>
      match rule.holds presence field.key field.value with
      | .error fault => .faulty fault
      | .ok true => .passed rule
      | .ok false => .failed rule

def steps (presence : Presence) (valueClass : ValueClass) (field : Field) :
    List Step :=
  (Expression.tokens field.rules).map (field.step presence valueClass)

/-- The class in which the field is tested: none if it declares nothing or if
there are no rules for values of its kind. -/
def testedClass? (field : Field) : Option ValueClass :=
  if field.hasRules then field.kind.valueClass? else none

/-- The first broken rule of the field, with the class it was read in. -/
def verdict (presence : Presence) (field : Field) :
    Except RuleFault (Option (ValueClass × Rule)) :=
  match field.testedClass? with
  | none => .ok none
  | some valueClass =>
      (Step.verdict (field.steps presence valueClass)).map
        (·.map (fun rule => (valueClass, rule)))

end Field

end FieldCheck
