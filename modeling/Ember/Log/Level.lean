import Ember.Text.Numeral

/-!
# Levels and thresholds

Every line of the log has a level, which says how important it is. A threshold
is the least important level that is still written.
-/

namespace Ember

/-- How important a line of the log is. -/
inductive Level where
  | error
  | warn
  | info
  | debug
  | trace
  deriving DecidableEq, Repr

namespace Level

/-- All levels, from the most important one. -/
def all : List Level :=
  [.error, .warn, .info, .debug, .trace]

/-- The position of a level, counted from one. -/
def rank : Level → Nat
  | .error => 1
  | .warn => 2
  | .info => 3
  | .debug => 4
  | .trace => 5

/-- The name by which a level is chosen. -/
def name : Level → String
  | .error => "error"
  | .warn => "warn"
  | .info => "info"
  | .debug => "debug"
  | .trace => "trace"

/-- The name of a level at the front of a line. -/
def heading (level : Level) : String :=
  level.name.toUpper

/-- The level of that name; only lower case is taken. -/
def ofName? (name : String) : Option Level :=
  all.find? fun level => level.name == name

end Level

/-- The least important level that passes, or none. -/
inductive Threshold where
  | off
  | upTo (level : Level)
  deriving DecidableEq, Repr

namespace Threshold

/-- Whether lines of a level pass. -/
def admits (threshold : Threshold) (level : Level) : Bool :=
  match threshold with
  | .off => false
  | .upTo least => level.rank ≤ least.rank

/-- The threshold at a position, where nothing passes at zero. -/
def ofRank? : Nat → Option Threshold
  | 0 => some .off
  | rank => (Level.all.find? fun level => level.rank == rank).map .upTo

/-- The threshold that a word stands for, in either case. -/
def ofWord? (word : String) : Option Threshold :=
  if word.toLower == "off" then
    some .off
  else
    (Level.ofName? word.toLower).map .upTo

/-- The threshold that a numeral or a word stands for. -/
def ofText? (text : String) : Option Threshold :=
  match Text.numeral? text.toList with
  | some rank => ofRank? rank
  | none => ofWord? text

/-- Every position of a level is read as the threshold at that level. -/
theorem ofRank?_rank (level : Level) : ofRank? level.rank = some (.upTo level) := by
  cases level <;> rfl

end Threshold

end Ember
