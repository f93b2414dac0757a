import Ember.Text.Pattern.Basic

/-!
# Classes of characters in patterns

A class stands in square brackets and lists characters, ranges of them, classes
with a name and other classes. Two signs of the same kind combine what stands
before and behind them. Classes within classes are kept on a stack, with the
height of the tree that has been read so far.
-/

namespace Ember.Text.Pattern

/-- How far the opening of a class has been read. -/
inductive ClassPhase where
  | opening
  | negated
  /-- Hyphens at the beginning stand for themselves. -/
  | hyphens
  | body
  deriving DecidableEq, Repr

/-- A class that is being read. -/
structure ClassFrame where
  phase : ClassPhase
  /-- The number of items behind the last operator. -/
  items : Nat
  /-- The height of the highest of them. -/
  height : Nat
  /-- The height of what stands in front of the last operator. -/
  left : Option Nat
  deriving DecidableEq, Repr

namespace ClassFrame

/-- A class right behind its bracket. -/
def new : ClassFrame := ⟨.opening, 0, 0, none⟩

/-- Adds an item of a height. -/
def push (frame : ClassFrame) (height : Nat) : ClassFrame :=
  { frame with phase := .body, items := frame.items + 1, height := max frame.height height }

/-- The height of the items behind the last operator. -/
def union (frame : ClassFrame) : Nat :=
  if frame.items ≤ 1 then frame.height else frame.height + 1

/-- The height of all that has been read. -/
def whole (frame : ClassFrame) : Nat :=
  match frame.left with
  | none => frame.union
  | some left => max left frame.union + 1

/-- Goes on behind an operator. -/
def operate (frame : ClassFrame) : ClassFrame :=
  ⟨.body, 0, 0, some frame.whole⟩

/-- Takes a character that stands for itself only because the class begins. -/
def first? (frame : ClassFrame) (char : Char) : Option ClassFrame :=
  if char = '-' then some { frame.push 0 with phase := .hyphens }
  else if char = ']' then some (frame.push 0)
  else none

/-- Takes a character that belongs to the opening of the class. -/
def opening? (frame : ClassFrame) (char : Char) : Option ClassFrame :=
  match frame.phase with
  | .opening => if char = '^' then some { frame with phase := .negated } else frame.first? char
  | .negated => frame.first? char
  | .hyphens => if char = '-' then frame.first? char else none
  | .body => none

end ClassFrame

/-- The names of classes. -/
def classNames : List String :=
  ["alnum", "alpha", "ascii", "blank", "cntrl", "digit", "graph", "lower", "print", "punct",
   "space", "upper", "word", "xdigit"]

/-- Reads a class with a name from behind its bracket, and whether it is
negated. -/
def readNamed? : List Char → Option (Bool × List Char)
  | ':' :: chars =>
    let negated := chars.head? = some '^'
    let chars := if negated then chars.tail else chars
    let name := chars.takeWhile (· ≠ ':')
    match chars.drop name.length with
    | ':' :: ']' :: rest =>
      if classNames.contains (String.ofList name) then some (negated, rest) else none
    | _ => none
  | _ => none

/-- Whether a class with a name is supported. -/
def namedStands (flags : Flags) (negated : Bool) : Bool :=
  if flags.unicode then !flags.ignoreCase else !negated

/-- Where the reading of a class has come to. -/
inductive ClassReading where
  /-- In a class, in the classes around it. -/
  | inside (frame : ClassFrame) (outer : List ClassFrame)
  /-- Behind the outermost class, of a height. -/
  | closed (height : Nat)
  deriving DecidableEq, Repr

/-- Reads a character, or a range from it to another one. -/
def readRange? (flags : Flags) (frame : ClassFrame) (outer : List ClassFrame) (char : Char)
    (rest : List Char) : Option (ClassReading × List Char) := do
  let (low, behind) ← readPrimitive? flags char rest
  let item := ClassReading.inside (frame.push 0) outer
  match flags.skip behind with
  | [] => none
  | next :: behind =>
    let following := flags.peek? behind
    if next ≠ '-' || following = some ']' || following = some '-' then
      if low.standsInClass flags then some (item, next :: behind) else none
    else
      match flags.skip behind with
      | [] => none
      | first :: behind =>
        let (high, behind) ← readPrimitive? flags first behind
        let lowChar ← low.char?
        let highChar ← high.char?
        if lowChar ≤ highChar && low.standsInClass flags && high.standsInClass flags then
          some (item, behind)
        else
          none

/-- Ends the innermost class. -/
def closeClass (frame : ClassFrame) : List ClassFrame → ClassReading
  | [] => .closed (frame.whole + 1)
  | around :: outer => .inside (around.push (frame.whole + 1)) outer

/-- Reads on in the body of a class, from a character on. -/
def readBody? (flags : Flags) (frame : ClassFrame) (outer : List ClassFrame) (char : Char)
    (rest : List Char) : Option (ClassReading × List Char) :=
  if char = '[' then
    match readNamed? rest with
    | some (negated, behind) =>
      if namedStands flags negated then some (.inside (frame.push 0) outer, behind) else none
    | none => some (.inside .new (frame :: outer), rest)
  else if char = ']' then
    some (closeClass frame outer, rest)
  else if (char = '&' || char = '-' || char = '~') && rest.head? = some char then
    some (.inside frame.operate outer, rest.tail)
  else
    readRange? flags frame outer char rest

/-- Reads on in a class, from a character on. A class may be negated only if
characters are matched: the bytes outside of it would not be characters. -/
def readClassChar? (flags : Flags) (frame : ClassFrame) (outer : List ClassFrame) (char : Char)
    (rest : List Char) : Option (ClassReading × List Char) :=
  match frame.opening? char with
  | some opened =>
    let stands :=
      if opened.phase = .negated then flags.unicode
      else (Primitive.literal char false).standsInClass flags
    if stands then some (.inside opened outer, rest) else none
  | none => readBody? flags { frame with phase := .body } outer char rest

/-- Reads the rest of a class, and gives its height. Every step takes a character,
so there are at most as many of them as there are characters. -/
def readClass? (flags : Flags) :
    Nat → ClassFrame → List ClassFrame → List Char → Option (Nat × List Char)
  | 0, _, _, _ => none
  | steps + 1, frame, outer, chars =>
    match flags.skip chars with
    | [] => none
    | char :: rest =>
      match readClassChar? flags frame outer char rest with
      | none => none
      | some (.closed height, behind) => some (height, behind)
      | some (.inside frame outer, behind) => readClass? flags steps frame outer behind

end Ember.Text.Pattern
