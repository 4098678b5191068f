import FieldCheck.Journal.Note
import FieldCheck.Report
import FieldCheck.Settings
import FieldCheck.Verdict

/-!
# Validators

A validator holds settings, a catalog, templates for single fields, and the
report of its last pass.  A pass looks at every field of a record; a defective
rule declaration ends it and leaves an empty report.
-/

namespace FieldCheck

/-- The state of validation. -/
structure Validator where
  settings : Settings
  catalog : Message.Catalog
  ownMessages : Dictionary (Dictionary String)
  report : Report

namespace Validator

def standard : Validator :=
  ⟨Settings.standard, .standard, Dictionary.empty, Report.empty⟩

def ofSettings (settings : Settings) : Except SettingsFault Validator :=
  settings.catalog.map
    (fun catalog => ⟨settings, catalog, Dictionary.empty, Report.empty⟩)

def withCatalog (validator : Validator) (catalog : Message.Catalog) :
    Validator :=
  { validator with catalog := catalog }

/-- Set the templates for one field by the names of rules.  The templates that
the field had before are given up. -/
def withOwnMessages (validator : Validator) (field : String)
    (templates : List (String × String)) : Validator :=
  { validator with
    ownMessages :=
      validator.ownMessages.insert field (Dictionary.ofPairs templates) }

/-- The template for a failed rule: the field's own one, unless that is empty,
and otherwise the one in the catalog. -/
def template (validator : Validator) (field : String)
    (valueClass : ValueClass) (rule : RuleName) : String :=
  let own? := (validator.ownMessages.get? field).bind (·.get? rule.text)
  match own?.filter (fun own => !own.isEmpty) with
  | some own => own
  | none => validator.catalog.template (Message.Kind.ofRule rule valueClass)

def failure (validator : Validator) (field : Field) (valueClass : ValueClass)
    (rule : Rule) : Message :=
  Message.render (validator.template field.key valueClass rule.name)
    field.displayLabel rule.literal?

def check (validator : Validator) (field : Field) :
    Except RuleFault (Option Message) :=
  (field.verdict validator.settings.presence).map
    (·.map (fun (valueClass, rule) =>
      validator.failure field valueClass rule))

def cleared (validator : Validator) : Validator :=
  { validator with report := Report.empty }

def recorded (validator : Validator) (field : String) (message : Message) :
    Validator :=
  { validator with report := validator.report.record field message }

/-- Look at fields from left to right and record what fails.  A defective rule
ends this, and what has been recorded is forgotten. -/
def scan (validator : Validator) :
    List Field → Except RuleFault Unit × Validator
  | [] => (.ok (), validator)
  | field :: rest =>
      match validator.check field with
      | .error fault => (.error fault, validator.cleared)
      | .ok none => validator.scan rest
      | .ok (some message) => (validator.recorded field.key message).scan rest

/-- Run a pass over a record: whether it came to its end, and the validator
with the new report, which is empty after a defective rule. -/
def tryValidate (validator : Validator) (fields : List Field) :
    Except RuleFault Unit × Validator :=
  validator.cleared.scan fields

/-- The complaint of a pass that takes a defective rule for a programming
error. -/
def complaint (fault : RuleFault) : String :=
  "invalid rule declaration: " ++ fault.message

def validate (validator : Validator) (fields : List Field) :
    Except String Unit × Validator :=
  ((validator.tryValidate fields).1.mapError complaint,
    (validator.tryValidate fields).2)

/-- Record the outcome of a check that rules cannot express.  Only the first
template set counts, and only if the field has no message yet. -/
def checkOwn (validator : Validator) (field label : String)
    (templates : List String) : Validator :=
  let shown := if label.isEmpty then field else label
  { validator with
    report := validator.report.recordAll
      (templates.map
        (fun template => (field, Message.render template shown none))) }

/-- The report of the last pass and of the checks after it, if anything has
failed. -/
def errors? (validator : Validator) : Option Report :=
  validator.report.nonEmpty?

def stepNotes (validator : Validator) (field : Field)
    (valueClass : ValueClass) : Step → List Journal.Note
  | .ignored token => [.ignoredToken field.key token]
  | .passed _ | .faulty _ => []
  | .failed rule =>
      if validator.settings.logFailures then
        [.failedRule field.key rule.name
          (validator.failure field valueClass rule).rendered]
      else []

def fieldNotes (validator : Validator) (field : Field) : List Journal.Note :=
  if field.hasRules then
    match field.kind.valueClass? with
    | none => [.skippedField field.key field.kind]
    | some valueClass =>
        (Step.taken
          (field.steps validator.settings.presence valueClass)).flatMap
          (validator.stepNotes field valueClass)
  else []

/-- The fields that a pass looks at: all up to the first with a defective
rule. -/
def visited (validator : Validator) : List Field → List Field
  | [] => []
  | field :: rest =>
      match validator.check field with
      | .error _ => [field]
      | .ok _ => field :: validator.visited rest

def passNotes (validator : Validator) (fields : List Field) :
    List Journal.Note :=
  (validator.visited fields).flatMap validator.fieldNotes ++
    match validator.tryValidate fields with
    | (.ok _, after) => [.finished after.report.size]
    | (.error _, _) => []

end Validator

end FieldCheck
