import FieldCheck.Validator

/-!
# Sessions

A session is a sequence of operations on a validator.  It answers each of them
and leaves notes for the journal.  A second validator can be kept aside.
-/

namespace FieldCheck

namespace Validator

inductive Operation where
  | useCatalog (templates : List (Message.Kind × String))
  | useOwnMessages (field : String) (templates : List (String × String))
  | tryValidate (fields : List Field)
  | validate (fields : List Field)
  | checkOwn (field label : String) (templates : List String)

def after (validator : Validator) : Operation → Validator
  | .useCatalog templates =>
      validator.withCatalog (Message.Catalog.ofPairs templates)
  | .useOwnMessages field templates =>
      validator.withOwnMessages field templates
  | .tryValidate fields => (validator.tryValidate fields).2
  | .validate fields => (validator.validate fields).2
  | .checkOwn field label templates =>
      validator.checkOwn field label templates

def notes (validator : Validator) : Operation → List Journal.Note
  | .tryValidate fields | .validate fields => validator.passNotes fields
  | .useCatalog _ | .useOwnMessages _ _ | .checkOwn _ _ _ => []

def afterAll (validator : Validator) (operations : List Operation) :
    Validator :=
  operations.foldl after validator

end Validator

inductive Answer where
  | done
  | defective (fault : RuleFault)
  | stopped (complaint : String)
  | field (key : String)
  | rejected (fault : SettingsFault)
  | errors (report? : Option Report)

/-- A validator in use and one that is kept. -/
structure Session where
  current : Validator
  kept : Validator

namespace Session

inductive Operation where
  | apply (operation : Validator.Operation)
  | renew
  | configure (settings : Except SettingsFault Settings)
  | takeErrors
  | keep
  | exchange

def fresh : Session :=
  ⟨Validator.standard, Validator.standard⟩

def reply (validator : Validator) : Validator.Operation → Answer
  | .useCatalog _ | .useOwnMessages _ _ => .done
  | .tryValidate fields =>
      match (validator.tryValidate fields).1 with
      | .ok _ => .done
      | .error fault => .defective fault
  | .validate fields =>
      match (validator.validate fields).1 with
      | .ok _ => .done
      | .error complaint => .stopped complaint
  | .checkOwn field _ _ => .field field

/-- Perform an operation: the answer, and the session after it.  Settings that
cannot be used leave the current validator in its place. -/
def perform (session : Session) : Operation → Answer × Session
  | .apply operation =>
      (reply session.current operation,
        { session with current := session.current.after operation })
  | .renew => (.done, { session with current := Validator.standard })
  | .configure settings =>
      match settings.bind Validator.ofSettings with
      | .error fault => (.rejected fault, session)
      | .ok validator => (.done, { session with current := validator })
  | .takeErrors =>
      (.errors session.current.errors?,
        { session with current := Validator.standard })
  | .keep => (.done, { session with kept := session.current })
  | .exchange => (.done, ⟨session.kept, session.current⟩)

def notes (session : Session) : Operation → List Journal.Note
  | .apply operation => session.current.notes operation
  | _ => []

end Session

end FieldCheck
