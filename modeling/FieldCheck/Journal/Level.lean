import FieldCheck.Text.Blank

/-!
# Journal levels

The levels go from the chattiest to the gravest.  The last one stands for
silence: nothing is written at it, and a threshold there lets nothing pass.
-/

namespace FieldCheck.Journal

inductive Level where
  | trace
  | debug
  | info
  | warn
  | error
  | off
deriving DecidableEq

namespace Level

def rank : Level → Nat
  | .trace => 0
  | .debug => 1
  | .info => 2
  | .warn => 3
  | .error => 4
  | .off => 5

def reaches (level threshold : Level) : Bool :=
  threshold.rank ≤ level.rank

def text : Level → String
  | .trace => "TRACE"
  | .debug => "DEBUG"
  | .info => "INFO"
  | .warn => "WARN"
  | .error => "ERROR"
  | .off => "OFF"

/-- Read the name of a level; blank ends and ASCII case do not count. -/
def parse? (name : String) : Option Level :=
  match Text.normalized name with
  | "trace" => some .trace
  | "debug" => some .debug
  | "info" => some .info
  | "warn" | "warning" => some .warn
  | "error" => some .error
  | "off" | "none" => some .off
  | _ => none

end Level

end FieldCheck.Journal
