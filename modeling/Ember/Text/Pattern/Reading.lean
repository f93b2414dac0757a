import Ember.Text.Pattern.Class
import Ember.Text.Pattern.Group

/-!
# Reading patterns

Which texts are patterns, and why the others are none. A pattern is read from
left to right. The groups that are open are kept on a stack, with the flags that
hold again behind them and the height of the tree that has been read so far,
because patterns may not be nested too deeply.
-/

namespace Ember.Text.Pattern

/-- Why a text is no pattern that can be used. -/
inductive Fault where
  | malformed
  /-- The edges of words are not supported unless bytes are matched. -/
  | wordEdge
  deriving DecidableEq, Repr

/-- A group that is being read, or the whole pattern. -/
structure Frame where
  /-- The flags that hold behind the group. -/
  restored : Flags
  /-- The number of parts of the alternative that is being read. -/
  items : Nat
  /-- The height of the highest of them. -/
  height : Nat
  /-- The height of the last part, if it may be repeated. -/
  last : Option Nat
  /-- The height of the highest alternative that has been read. -/
  branches : Option Nat
  deriving DecidableEq, Repr

namespace Frame

/-- A group of which nothing has been read. -/
def new (restored : Flags) : Frame := ⟨restored, 0, 0, none, none⟩

/-- Adds a part of a height, which may be repeated or not. -/
def push (frame : Frame) (height : Nat) (repeatable : Bool) : Frame :=
  { frame with
    items := frame.items + 1
    height := max frame.height height
    last := if repeatable then some height else none }

/-- Repeats the last part. -/
def repeat? (frame : Frame) : Option Frame :=
  frame.last.map fun last =>
    { frame with height := max frame.height (last + 1), last := some (last + 1) }

/-- The height of the alternative that is being read. -/
def sequence (frame : Frame) : Nat :=
  if frame.items ≤ 1 then frame.height else frame.height + 1

/-- Begins the next alternative. -/
def alternate (frame : Frame) : Frame :=
  { new frame.restored with branches := some (max (frame.branches.getD 0) frame.sequence) }

/-- The height of all that has been read. -/
def whole (frame : Frame) : Nat :=
  match frame.branches with
  | none => frame.sequence
  | some branches => max branches frame.sequence + 1

end Frame

/-- How far a pattern has been read. -/
structure Reading where
  flags : Flags
  frame : Frame
  /-- The groups around, the innermost first. -/
  outer : List Frame
  /-- The names of groups so far. -/
  names : List (List Char)
  /-- Whether there was the edge of a word between characters. -/
  wordEdge : Bool
  deriving DecidableEq, Repr

namespace Reading

/-- Before the first character. -/
def initial : Reading := ⟨.initial, .new .initial, [], [], false⟩

/-- Adds a part that may be repeated. -/
def push (reading : Reading) (height : Nat) : Reading :=
  { reading with frame := reading.frame.push height true }

/-- Adds a primitive, if it is supported. -/
def pushPrimitive? (reading : Reading) (primitive : Primitive) : Option Reading :=
  if primitive.stands reading.flags then
    some { reading.push 0 with
      wordEdge := reading.wordEdge || (primitive = .wordEdge && reading.flags.unicode) }
  else
    none

/-- Goes into a group with flags. -/
def enter (reading : Reading) (flags : Flags) : Reading :=
  { reading with flags, frame := .new reading.flags, outer := reading.frame :: reading.outer }

/-- Goes on behind the opening of a group. A name may be given only once. -/
def open? (reading : Reading) : GroupOpening → Option Reading
  | .group flags => some (reading.enter flags)
  | .namedGroup name =>
    if reading.names.contains name then none
    else some { reading.enter reading.flags with names := name :: reading.names }
  | .setting flags => some { reading with flags, frame := reading.frame.push 0 false }

/-- Ends the innermost group. -/
def close? (reading : Reading) : Option Reading :=
  match reading.outer with
  | [] => none
  | around :: outer => some { reading with
      flags := reading.frame.restored
      frame := around.push (reading.frame.whole + 1) true
      outer }

/-- Reads one part, from a character on. -/
def readPart? (reading : Reading) (char : Char) (rest : List Char) :
    Option (Reading × List Char) :=
  match char with
  | '(' => (readGroup? reading.flags rest).bind fun (opening, rest) =>
      (reading.open? opening).map fun reading => (reading, rest)
  | ')' => reading.close?.map fun reading => (reading, rest)
  | '|' => some ({ reading with frame := reading.frame.alternate }, rest)
  | '[' => (readClass? reading.flags (rest.length + 1) .new [] rest).map fun (height, rest) =>
      (reading.push height, rest)
  | '*' | '+' | '?' => reading.frame.repeat?.map fun frame =>
      ({ reading with frame }, if rest.head? = some '?' then rest.tail else rest)
  | '\x7b' => none
  | '.' => if reading.flags.unicode then some (reading.push 0, rest) else none
  | '^' | '$' => (reading.pushPrimitive? .edge).map fun reading => (reading, rest)
  | _ => (readPrimitive? reading.flags char rest).bind fun (primitive, rest) =>
      (reading.pushPrimitive? primitive).map fun reading => (reading, rest)

/-- Reads the rest of a pattern. Every step takes a character, so there are at
most as many of them as there are characters. -/
def readAll? : Nat → Reading → List Char → Option Reading
  | 0, reading, chars => if chars.isEmpty then some reading else none
  | steps + 1, reading, chars =>
    match reading.flags.skip chars with
    | [] => some reading
    | char :: rest => (reading.readPart? char rest).bind fun (reading, rest) =>
        readAll? steps reading rest

end Reading

/-- How high the tree of a pattern may be. -/
def heightLimit : Nat := 250

/-- What is wrong with a text as a pattern, if anything is. -/
def fault? (text : List Char) : Option Fault :=
  match Reading.initial.readAll? text.length text with
  | none => some .malformed
  | some reading =>
    if !reading.outer.isEmpty || heightLimit < reading.frame.whole then some .malformed
    else if reading.wordEdge then some .wordEdge
    else none

end Ember.Text.Pattern
