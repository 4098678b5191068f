import FieldCheck.Binding.Token

/-!
# Complaints about paths

A path is read from left to right, and the first complaint ends the reading.
What is missing at the end of the text, or of a group in brackets, is told
apart from what something else stands in place of.
-/

namespace FieldCheck.Binding

inductive Demand where
  | identifier
  | typeForm
  | boundType
  | lifetime
  | mutability
  | parentheses
  | delimiter
  | expression
  | keyword (word : String)
deriving DecidableEq

namespace Demand

def message : Demand → String
  | .identifier => "identifier"
  | .typeForm =>
      "one of: `for`, parentheses, `fn`, `unsafe`, `extern`, identifier, " ++
        "`::`, `<`, `dyn`, square brackets, `*`, `&`, `!`, `impl`, `_`, " ++
        "lifetime"
  | .boundType =>
      "one of: identifier, `fn`, `unsafe`, `extern`, `super`, `self`, " ++
        "`Self`, `crate`"
  | .lifetime => "lifetime"
  | .mutability => "`const` or `mut`"
  | .parentheses => "parentheses"
  | .delimiter => "delimiter"
  | .expression => "an expression"
  | .keyword word => "`" ++ word ++ "`"

end Demand

inductive PathFault where
  /-- It is no sequence of tokens. -/
  | unreadable
  /-- Something else, or nothing more, stands where a form is demanded. -/
  | missing (demand : Demand) (ended : Bool)
  /-- A mark is missing. -/
  | missingMark (spelling : String)
  /-- A keyword stands where an identifier is demanded. -/
  | keyword (word : String)
  /-- Tokens are left at the end, or at the end of a group. -/
  | leftOver (bracket? : Option Bracket)
  /-- A type is described by lifetimes alone. -/
  | noTrait (named : Bool)
deriving DecidableEq

namespace PathFault

def message : PathFault → String
  | .unreadable => "cannot parse string into token stream"
  | .missing demand ended =>
      (if ended then "unexpected end of input, " else "") ++ "expected " ++
        demand.message
  | .missingMark spelling => "expected `" ++ spelling ++ "`"
  | .keyword word => "expected identifier, found keyword `" ++ word ++ "`"
  | .leftOver none => "unexpected token"
  | .leftOver (some bracket) =>
      "unexpected token, expected `" ++ bracket.closing.toString ++ "`"
  | .noTrait true => "at least one trait is required for an object type"
  | .noTrait false => "at least one trait must be specified"

end PathFault

end FieldCheck.Binding
