import FieldCheck.Binding.Declaration
import FieldCheck.Binding.ModulePath

/-!
# Bindings

The binding of a record is read off its declaration.  Every `rule` attribute
of a field binds that field once, under a key, with a label and a rule
expression; the `validatable` attributes of the record choose the module that
the binding refers to.  The first complaint ends the reading: first the
attributes of the record, then its shape, then the attributes of its fields.
-/

namespace FieldCheck

namespace Binding

/-- Why a declaration has no binding. -/
inductive Fault where
  | noArguments (path : String)
  | noBrackets (path : String)
  | badList (flaw : Flaw)
  | expectedModule
  | expectedRuleArgument
  | missingValue
  | missingText
  | notText
  | badPath (fault : PathFault)
  | notRecord
  | unnamedFields
  | missingRules
  | emptyKey
deriving DecidableEq

namespace Fault

def message : Fault → String
  | .noArguments path =>
      "expected attribute arguments in parentheses: #[" ++ path ++ "(...)]"
  | .noBrackets path => "expected parentheses: #[" ++ path ++ "(...)]"
  | .badList flaw => flaw.message
  | .expectedModule => "expected `crate = \"...\"`"
  | .expectedRuleArgument => "expected `key`, `label` or `rules`"
  | .missingValue => "expected `=`"
  | .missingText => "unexpected end of input, expected string literal"
  | .notText => "expected string literal"
  | .badPath fault => fault.message
  | .notRecord => "Validatable can only be derived for structs"
  | .unnamedFields =>
      "Validatable can only be derived for structs with named fields"
  | .missingRules => "missing `rules = \"...\"`"
  | .emptyKey => "field key cannot be empty"

end Fault

def ArgumentValue.content : ArgumentValue → Except Fault String
  | .text content => .ok content
  | .number => .error .notText
  | .ended => .error .missingText
  | .missing => .error .missingValue

/-- Read all arguments that are listed.  What ends the list early is complained
about when these have been read. -/
def Listing.read {α : Type} (listing : Listing)
    (readAll : List Argument → Except Fault α) : Except Fault α :=
  match readAll listing.arguments, listing.flaw? with
  | .error fault, _ => .error fault
  | .ok _, some flaw => .error (.badList flaw)
  | .ok value, none => .ok value

def moduleOfArgument (argument : Argument) : Except Fault ModulePath :=
  if argument.name = "crate" then do
    let source ← argument.value.content
    (ModulePath.parse source).mapError .badPath
  else .error .expectedModule

/-- Read arguments of a `validatable` attribute; the last module counts. -/
def moduleOfArguments (current? : Option ModulePath) :
    List Argument → Except Fault (Option ModulePath)
  | [] => .ok current?
  | argument :: rest =>
      match moduleOfArgument argument with
      | .error fault => .error fault
      | .ok path => moduleOfArguments (some path) rest

/-- Read attributes of a declaration; those with another path do not count. -/
def moduleOfAttributes (current? : Option ModulePath) :
    List Attribute → Except Fault (Option ModulePath)
  | [] => .ok current?
  | first :: rest =>
      if first.path = "validatable" then
        match first.arguments with
        | .none => .error (.noArguments "validatable")
        | .assigned => .error (.noBrackets "validatable")
        | .bracketed lexemes =>
            match (Lexeme.listing lexemes).read
                (moduleOfArguments current?) with
            | .error fault => .error fault
            | .ok home? => moduleOfAttributes home? rest
      else moduleOfAttributes current? rest

/-- The module that a binding refers to when none is chosen. -/
def standardModule : ModulePath :=
  ⟨true, [⟨"fieldrule_validation", ""⟩]⟩

structure RuleDraft where
  key? : Option String
  label? : Option String
  rules? : Option String
deriving DecidableEq

def RuleDraft.add (draft : RuleDraft) (argument : Argument) :
    Except Fault RuleDraft :=
  if argument.name = "key" then
    argument.value.content.map
      (fun content => { draft with key? := some content })
  else if argument.name = "label" then
    argument.value.content.map
      (fun content => { draft with label? := some content })
  else if argument.name = "rules" then
    argument.value.content.map
      (fun content => { draft with rules? := some content })
  else .error .expectedRuleArgument

/-- Read arguments of a `rule` attribute; the last one of a name counts. -/
def RuleDraft.addAll (draft : RuleDraft) :
    List Argument → Except Fault RuleDraft
  | [] => .ok draft
  | argument :: rest =>
      match draft.add argument with
      | .error fault => .error fault
      | .ok draft => draft.addAll rest

structure Bound where
  member : String
  key : String
  label? : Option String
  rules : String
deriving DecidableEq

/-- Leave out the marks of raw form in front of an identifier. -/
def withoutRawMark : List Char → List Char
  | 'r' :: '#' :: rest => withoutRawMark rest
  | rest => rest

/-- The key of a field that none is given for. -/
def standardKey (member : String) : String :=
  String.ofList (withoutRawMark member.toList)

/-- The binding that a draft describes.  Rules are required, and a key may be
missing but not empty. -/
def RuleDraft.bound (draft : RuleDraft) (member : String) :
    Except Fault Bound :=
  match draft.rules? with
  | none => .error .missingRules
  | some rules =>
      if draft.key? = some "" then .error .emptyKey
      else
        .ok ⟨member, draft.key?.getD (standardKey member), draft.label?, rules⟩

/-- Read the arguments of a `rule` attribute on a field.  A text that stands
alone gives the rules. -/
def boundOfArguments (member : String) : Arguments → Except Fault Bound
  | .none => .error (.noArguments "rule")
  | .assigned => .error (.noBrackets "rule")
  | .bracketed lexemes =>
      match Lexeme.alone? lexemes with
      | some rules => .ok ⟨member, standardKey member, none, rules⟩
      | none =>
          match (Lexeme.listing lexemes).read
              (RuleDraft.addAll ⟨none, none, none⟩) with
          | .error fault => .error fault
          | .ok draft => draft.bound member

def Member.ruleAttributes (member : Member) : List Attribute :=
  member.attributes.filter (·.path = "rule")

def Declaration.ruleAttributes (declaration : Declaration) :
    List (String × Arguments) :=
  declaration.members.flatMap (fun member =>
    member.ruleAttributes.map
      (fun binding => (member.name, binding.arguments)))

def boundsOfAttributes :
    List (String × Arguments) → Except Fault (List Bound)
  | [] => .ok []
  | (member, arguments) :: rest =>
      match boundOfArguments member arguments with
      | .error fault => .error fault
      | .ok bound => (boundsOfAttributes rest).map (bound :: ·)

def Shape.fault? : Shape → Option Fault
  | .record => none
  | .tuple | .unit => some .unnamedFields
  | .enumeration | .union => some .notRecord

end Binding

/-- The binding of a record: its module, its name and parameters, and what is
bound. -/
structure Binding where
  home : Binding.ModulePath
  name : String
  parameters : List Binding.Parameter
  bounds : List Binding.Bound
deriving DecidableEq

namespace Binding

def ofDeclaration (declaration : Declaration) : Except Fault Binding :=
  match moduleOfAttributes none declaration.attributes with
  | .error fault => .error fault
  | .ok home? =>
      match declaration.shape.fault? with
      | some fault => .error fault
      | none =>
          (boundsOfAttributes declaration.ruleAttributes).map
            (fun bounds =>
              ⟨home?.getD standardModule, declaration.name,
                declaration.parameters, bounds⟩)

def parameterText (binding : Binding) : String :=
  writeParameters Parameter.declared binding.parameters

def interfacePath (binding : Binding) : String :=
  binding.home.item "Validatable"

def selfType (binding : Binding) : String :=
  binding.name ++ writeParameters Parameter.name binding.parameters

def descriptorPath (binding : Binding) : String :=
  binding.home.item "FieldDescriptor::new"

def Bound.valueText (bound : Bound) : String :=
  "&self." ++ bound.member

end Binding

end FieldCheck
