import FieldCheck.Environment
import FieldCheck.Journal.Entry

/-!
# The journal

The journal writes the entries whose level reaches its threshold.  It is set
up from the environment by the first operation that needs it, once and before
that operation takes effect: from then on layout and time stamps stay as they
are, while the threshold can be moved.
-/

namespace FieldCheck

namespace Journal

structure Setup where
  level : Level
  layout : Layout
  timestamps : Bool
deriving DecidableEq

namespace Setup

def standard : Setup :=
  ⟨.warn, .pretty, true⟩

/-- Whether the text of a variable turns it on: `1`, or `true` in any ASCII
case, without blanks. -/
def turnsOn (text : String) : Bool :=
  text == "1" || Text.lowered text == "true"

/-- The setup that an environment describes.  A level that is not understood
counts as not given, and so does a layout. -/
def ofEnvironment (environment : Environment) : Setup where
  level :=
    match (environment.get? Environment.levelName).bind Level.parse? with
    | some level => level
    | none =>
        if (environment.get? Environment.debugName).any turnsOn then .debug
        else standard.level
  layout :=
    ((environment.get? Environment.layoutName).bind Layout.parse?).getD
      standard.layout
  timestamps :=
    ((environment.get? Environment.timestampsName).map turnsOn).getD
      standard.timestamps

end Setup

end Journal

/-- The threshold of the journal, and its setup once it has been made. -/
structure Journal where
  threshold : Journal.Level
  setup? : Option Journal.Setup
deriving DecidableEq

namespace Journal

def untouched : Journal :=
  ⟨Setup.standard.level, none⟩

def isOpen (journal : Journal) : Bool :=
  journal.setup?.isSome

/-- Take the threshold from an environment, whatever it is now. -/
def reread (environment : Environment) (journal : Journal) : Journal :=
  { journal with threshold := (Setup.ofEnvironment environment).level }

def opened (environment : Environment) (journal : Journal) : Journal :=
  match journal.setup? with
  | some _ => journal
  | none =>
      { journal.reread environment with
        setup? := some (Setup.ofEnvironment environment) }

/-- The setup of a journal that is open; the standard one stands in before. -/
def setup (journal : Journal) : Setup :=
  journal.setup?.getD .standard

def admits (journal : Journal) (level : Level) : Bool :=
  level != .off && level.reaches journal.threshold

def setThreshold (environment : Environment) (level : Level)
    (journal : Journal) : Journal :=
  { journal.opened environment with threshold := level }

def entryOf? (journal : Journal) (level : Level) (target message : String) :
    Option Entry :=
  if journal.admits level then
    some ⟨journal.setup.layout, journal.setup.timestamps, level, target,
      message⟩
  else none

@[simp] theorem opened_opened (first second : Environment)
    (journal : Journal) :
    (journal.opened first).opened second = journal.opened first := by
  obtain ⟨threshold, setup?⟩ := journal
  cases setup? <;> rfl

end Journal

end FieldCheck
