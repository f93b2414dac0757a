import Ember.Log.Condition
import Ember.Log.Level
import Ember.Text.Alphanumeric
import Ember.Text.Blank
import Ember.Text.Size

/-!
# Directives

A directive sets a threshold for a part of the log: for the targets that begin
in a certain way, for what happens in the course of certain activities, for both
together, or for everything. It is written as a threshold, or as a target,
activities in square brackets, a sign of equality and a threshold, of which the
target or the brackets may be missing, and the threshold too. Activities are
given by a name, by a condition on a field in braces, or by both.
-/

namespace Ember

/-- A threshold for the targets that begin with a text and for the course of the
activities that have a name and fulfil a condition. What is missing stands for
all of them. -/
structure Directive where
  target : Option String
  activity : Option String
  condition : Option Condition
  threshold : Threshold
  deriving DecidableEq, Repr

/-- Why a text is no directive. -/
inductive DirectiveFault where
  | malformed
  | unknownThreshold
  /-- The value that a condition asks for is neither a number nor a pattern. -/
  | badValue (fault : Text.Pattern.Fault)
  deriving DecidableEq, Repr

/-- The wording of a fault. -/
def DirectiveFault.message : DirectiveFault → String
  | .malformed => "invalid filter directive"
  | .unknownThreshold => "error parsing level filter: expected one of \"off\", \"error\", " ++
      "\"warn\", \"info\", \"debug\", \"trace\", or a number 0-5"
  | .badValue .malformed => "invalid field filter: error building NFA"
  | .badValue .wordEdge => "invalid field filter: unsupported regex feature for DFAs: cannot " ++
      "build DFAs for regexes with Unicode word boundaries; switch to ASCII word boundaries, " ++
      "or heuristically enable Unicode word boundaries or use a different regex engine"

namespace Directive

/-- A threshold for everything. -/
def general (threshold : Threshold) : Directive :=
  ⟨none, none, none, threshold⟩

/-- Whether a directive may begin with a character, brackets apart. -/
def isOpening (char : Char) : Bool :=
  char = '-' || char = ':' || char = '_' || Text.isAlphanumeric char

/-- Whether a character ends a target. -/
def endsTarget (char : Char) : Bool :=
  char = '=' || char = '['

/-- Whether a character ends the name of an activity. -/
def endsActivity (char : Char) : Bool :=
  char = ']' || char = '\x7b'

/-- A directive without brackets and without a sign of equality: a threshold for
everything, or else a target for which everything passes. -/
def ofWord (word : List Char) : Directive :=
  match Threshold.ofText? (String.ofList word) with
  | some threshold => general threshold
  | none => { general (.upTo .trace) with target := some (String.ofList word) }

/-- Completes a directive by the threshold behind a sign of equality. Without one
it stays as it is. -/
def withThreshold (directive : Directive) (text : List Char) : Except DirectiveFault Directive :=
  if text.isEmpty then
    .ok directive
  else
    match Threshold.ofText? (String.ofList text) with
    | some threshold => .ok { directive with threshold }
    | none => .error .unknownThreshold

/-- The text of a directive. Its parts are told apart without the blanks around
it, and then taken at the same places of the text as it stands: a blank in front
moves all of them by its size. Places and lengths are numbers of bytes. -/
structure Draft where
  text : List Char
  core : List Char

namespace Draft

/-- The draft of a text. -/
def ofText (text : String) : Draft :=
  ⟨text.toList, Text.trimBlanks text.toList⟩

/-- The characters that are still to be told apart from a place on. -/
def ahead (draft : Draft) (place : Nat) : List Char :=
  Text.dropBytes place draft.core

/-- How much there is from a place up to a character that ends it. -/
def extent (draft : Draft) (place : Nat) (ends : Char → Bool) : Nat :=
  Text.byteSize ((draft.ahead place).takeWhile fun char => !ends char)

/-- The part of a length at a place. -/
def part (draft : Draft) (place length : Nat) : String :=
  String.ofList (Text.takeBytes length (Text.dropBytes place draft.text))

/-- Everything from a place on. -/
def rest (draft : Draft) (place : Nat) : List Char :=
  Text.dropBytes place draft.text

/-- Reads on behind a closing bracket. -/
def behindBrackets (draft : Draft) (directive : Directive) (place : Nat) :
    Except DirectiveFault Directive :=
  match draft.ahead place with
  | [] => .ok directive
  | '=' :: _ => directive.withThreshold (draft.rest (place + 1))
  | _ => .error .malformed

/-- Reads a condition and what stands behind it, from the character behind an
opening brace on. -/
def ofBrace (draft : Draft) (directive : Directive) (place : Nat) :
    Except DirectiveFault Directive :=
  let length := draft.extent place (· = '\x7d')
  let written := draft.part place length
  match draft.ahead (place + length) with
  | [] => .error .malformed
  | _ :: behind =>
    if written.isEmpty then
      .error .malformed
    else
      match Condition.ofText written with
      | .error fault => .error (.badValue fault)
      | .ok condition =>
        if behind.head? = some ']' then
          draft.behindBrackets { directive with condition := some condition } (place + length + 2)
        else
          .error .malformed

/-- Reads activities and what stands behind them, from the character behind an
opening bracket on. An empty name in front of a condition stands for all. -/
def ofBracket (draft : Draft) (directive : Directive) (place : Nat) :
    Except DirectiveFault Directive :=
  let length := draft.extent place endsActivity
  let name := draft.part place length
  match draft.ahead (place + length) with
  | [] => .error .malformed
  | ']' :: _ => draft.behindBrackets { directive with activity := some name } (place + length + 1)
  | _ =>
    let activity := if name.isEmpty then none else some name
    draft.ofBrace { directive with activity } (place + length + 1)

end Draft

/-- Reads a directive. -/
def ofText (text : String) : Except DirectiveFault Directive :=
  let draft := Draft.ofText text
  let unlimited := general (.upTo .trace)
  match draft.core with
  | [] => .error .malformed
  | '[' :: _ => draft.ofBracket unlimited 1
  | first :: _ =>
    if !isOpening first then
      .error .malformed
    else
      let length := draft.extent 0 endsTarget
      let targeted := { unlimited with target := some (draft.part 0 length) }
      match draft.ahead length with
      | [] => .ok (ofWord draft.text)
      | '=' :: _ => targeted.withThreshold (draft.rest (length + 1))
      | _ => draft.ofBracket targeted (length + 1)

/-- Whether the target of a directive is the beginning of a target. -/
def covers (directive : Directive) (target : String) : Bool :=
  match directive.target with
  | none => true
  | some start => start.toList.isPrefixOf target.toList

/-- Whether a directive is about activities only. -/
def isAboutActivities (directive : Directive) : Bool :=
  directive.activity.isSome || directive.condition.any fun condition => condition.value.isSome

/-- How much a directive says about the targets it covers. -/
def detail (directive : Directive) : Nat :=
  match directive.target with
  | none => 0
  | some start => start.utf8ByteSize + 1

/-- Whether a directive takes the place of one that came before it: only the
thresholds differ, if anything does. -/
def replaces (directive other : Directive) : Bool :=
  { directive with threshold := other.threshold } = other

/-- A directive takes the place of itself. -/
theorem replaces_self (directive : Directive) : directive.replaces directive = true := by
  simp [replaces]

/-- The field that a directive asks for, or an empty name. -/
def askedField (directive : Directive) : String :=
  (directive.condition.map Condition.field).getD ""

/-- Whether a directive wins over another one that came before it: it says at
least as much about targets, and of two that say the same one that asks for a
field wins, and of two fields the one whose name is later in the order of
texts. -/
def winsOver (directive other : Directive) : Bool :=
  other.detail < directive.detail ||
    (other.detail = directive.detail && other.askedField ≤ directive.askedField)

end Directive

end Ember
