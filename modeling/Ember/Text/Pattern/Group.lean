import Ember.Text.Alphanumeric
import Ember.Text.Pattern.Basic

/-!
# Groups in patterns

A group may have a name, or flags that hold in it. Flags may also stand alone in
the brackets, and then they hold up to the end of the group around them.
-/

namespace Ember.Text.Pattern

/-- What the opening of a group begins. -/
inductive GroupOpening where
  | group (flags : Flags)
  | namedGroup (name : List Char)
  /-- Flags for the rest of the group around. -/
  | setting (flags : Flags)
  deriving DecidableEq, Repr

/-- Whether a text can be the name of a group. -/
def isGroupName : List Char → Bool
  | [] => false
  | first :: rest =>
    (first = '_' || isAlphabetic first) &&
      rest.all fun char => char = '_' || char = '.' || char = '[' || char = ']' ||
        isAlphanumeric char

/-- Reads the name of a group and the bracket behind it. -/
def readGroupName? (chars : List Char) : Option (GroupOpening × List Char) :=
  let name := chars.takeWhile (· ≠ '>')
  match chars.drop name.length with
  | [] => none
  | _ :: rest => if isGroupName name then some (.namedGroup name, rest) else none

/-- The letters of flags, and the hyphen in front of those that are taken back. -/
def flagLetters : List Char := "imsUuRx-".toList

/-- Whether a letter is switched on or off by some letters; otherwise it stays as
it is. -/
def switched (letters : List Char) (letter : Char) (before : Bool) : Bool :=
  if (letters.takeWhile (· ≠ '-')).contains letter then true
  else !letters.contains letter && before

/-- Sets flags by letters, none of which may stand twice. -/
def Flags.set? (flags : Flags) (letters : List Char) : Option Flags :=
  if letters.all flagLetters.contains && letters.eraseDups.length = letters.length &&
      letters.getLast? ≠ some '-' then
    some ⟨switched letters 'i' flags.ignoreCase, switched letters 'u' flags.unicode,
      switched letters 'x' flags.verbose⟩
  else
    none

/-- Reads flags up to a colon, behind which the group begins, or up to the closing
bracket. -/
def readFlags? (flags : Flags) (chars : List Char) : Option (GroupOpening × List Char) := do
  let letters := chars.takeWhile fun char => char ≠ ':' && char ≠ ')'
  let after ← flags.set? letters
  match chars.drop letters.length with
  | ':' :: rest => some (.group after, rest)
  | ')' :: rest => if letters.isEmpty then none else some (.setting after, rest)
  | _ => none

/-- Reads the opening of a group from behind its bracket. -/
def readGroup? (flags : Flags) (chars : List Char) : Option (GroupOpening × List Char) :=
  match flags.skip chars with
  | '?' :: 'P' :: '<' :: rest => readGroupName? rest
  | '?' :: '<' :: rest => readGroupName? rest
  | '?' :: rest => readFlags? flags rest
  | others => some (.group flags, others)

end Ember.Text.Pattern
