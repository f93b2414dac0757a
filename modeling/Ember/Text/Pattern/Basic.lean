import Ember.Text.Blank

/-!
# Parts of patterns

A pattern is a regular expression: characters, classes of characters, edges,
groups with alternatives, and repetitions. Flags inside a pattern say how it is
to be read: whether upper and lower case are told apart, whether characters or
bytes are matched, and whether blanks and comments may stand between the parts.

A pattern stands in front of a closing brace and holds none itself. So whatever
needs one, such as a repetition with counts, is never completed. Tables of cases,
of properties and of the classes named by a letter are not at hand: what needs
them is refused.
-/

namespace Ember.Text.Pattern

/-- How a pattern is read. -/
structure Flags where
  ignoreCase : Bool
  /-- Whether characters are matched, and not bytes. -/
  unicode : Bool
  /-- Whether blanks and comments may stand between the parts. -/
  verbose : Bool
  deriving DecidableEq, Repr

/-- Characters without the blanks and comments in front. A comment goes from a
hash sign to the end of the line. -/
def dropComments (inComment : Bool) : List Char → List Char
  | [] => []
  | char :: rest =>
    if inComment then dropComments (char ≠ '\n') rest
    else if isBlank char then dropComments false rest
    else if char = '#' then dropComments true rest
    else char :: rest

namespace Flags

/-- The flags at the beginning of a pattern. -/
def initial : Flags := ⟨false, true, false⟩

/-- Passes over what does not count. -/
def skip (flags : Flags) (chars : List Char) : List Char :=
  if flags.verbose then dropComments false chars else chars

/-- The character that comes next, as far as it can be told in advance: of a
comment the first character is taken. -/
def peek? (flags : Flags) (chars : List Char) : Option Char :=
  if flags.verbose then
    match chars.dropWhile isBlank with
    | '#' :: rest => (rest.dropWhile isBlank).head?
    | others => others.head?
  else
    chars.head?

end Flags

/-- The smallest parts of a pattern. -/
inductive Primitive where
  /-- A character, and whether it was written as a byte. -/
  | literal (char : Char) (byte : Bool)
  /-- Digits, blanks or word characters, or all the others. -/
  | letterClass (negated : Bool)
  /-- The edge of a line or of the text. -/
  | edge
  /-- The edge of a word, or a place that is none. -/
  | wordEdge
  deriving DecidableEq, Repr

namespace Primitive

/-- The character that a primitive stands for. -/
def char? : Primitive → Option Char
  | .literal char _ => some char
  | _ => none

/-- Whether a primitive is supported outside of classes. A byte that is no
character of its own is not. -/
def stands (flags : Flags) : Primitive → Bool
  | .literal char byte =>
    if flags.unicode then !flags.ignoreCase else !(byte && 0x7F < char.toNat)
  | .letterClass negated => !flags.unicode && !negated
  | .edge | .wordEdge => true

/-- Whether a primitive is supported in classes. Edges have no place there, and
bytes and other characters do not go together. -/
def standsInClass (flags : Flags) : Primitive → Bool
  | .literal char _ => if flags.unicode then !flags.ignoreCase else char.toNat ≤ 0x7F
  | .letterClass negated => !flags.unicode && !negated
  | .edge | .wordEdge => false

end Primitive

/-- Whether a backslash takes the meaning from a character. -/
def isEscapable (char : Char) : Bool :=
  char.toNat < 0x80 && !char.isAlphanum && char ≠ '<' && char ≠ '>'

/-- The value of a digit in the base sixteen. -/
def hexValue? (char : Char) : Option Nat :=
  if char.isDigit then some (char.toNat - 0x30)
  else if 'a' ≤ char && char ≤ 'f' then some (char.toNat - 0x57)
  else if 'A' ≤ char && char ≤ 'F' then some (char.toNat - 0x37)
  else none

/-- Reads so many digits in the base sixteen, behind a value so far. -/
def readHex? (flags : Flags) : Nat → Nat → List Char → Option (Nat × List Char)
  | 0, value, chars => some (value, chars)
  | digits + 1, value, chars =>
    match flags.skip chars with
    | [] => none
    | char :: rest => (hexValue? char).bind fun digit =>
        readHex? flags digits (16 * value + digit) rest

/-- Reads a character that is written by its number in so many digits. -/
def readNumbered? (flags : Flags) (digits : Nat) (chars : List Char) :
    Option (Primitive × List Char) :=
  (readHex? flags digits 0 chars).bind fun (value, rest) =>
    if value.isValidChar then some (.literal (Char.ofNat value) (digits = 2), rest) else none

/-- What a letter behind a backslash stands for. -/
def ofLetter? : Char → Option Primitive
  | 'a' => some (.literal '\x07' false)
  | 'f' => some (.literal '\x0c' false)
  | 'n' => some (.literal '\n' false)
  | 'r' => some (.literal '\r' false)
  | 't' => some (.literal '\t' false)
  | 'v' => some (.literal '\x0b' false)
  | 'd' | 's' | 'w' => some (.letterClass false)
  | 'D' | 'S' | 'W' => some (.letterClass true)
  | 'A' | 'z' => some .edge
  | 'b' | 'B' | '<' | '>' => some .wordEdge
  | _ => none

/-- Reads what stands behind a backslash. -/
def readEscaped? (flags : Flags) : List Char → Option (Primitive × List Char)
  | [] => none
  | char :: rest =>
    if char = 'x' then readNumbered? flags 2 rest
    else if char = 'u' then readNumbered? flags 4 rest
    else if char = 'U' then readNumbered? flags 8 rest
    else if isEscapable char then some (.literal char false, rest)
    else (ofLetter? char).map fun primitive => (primitive, rest)

/-- Reads a primitive that begins with a character. Only the backslash has a
meaning of its own. -/
def readPrimitive? (flags : Flags) (char : Char) (rest : List Char) :
    Option (Primitive × List Char) :=
  if char = '\\' then readEscaped? flags rest else some (.literal char false, rest)

end Ember.Text.Pattern
