import Ember.Log.Directive
import Ember.Text.Joined

/-!
# Log filters

Every line of the log has a target, which says where it comes from, and a level.
A filter is a list of directives. The directive that says most about a target
decides on it, and of two that say the same the later one. Directives that name
an activity, or a condition on its fields, let more pass in the course of it, and
make the activity itself show.
-/

namespace Ember

/-- An activity in the course of which lines are written. -/
structure Activity where
  target : String
  name : String
  fields : List (String × Nat)
  deriving DecidableEq, Repr

namespace Activity

/-- How important an activity is. -/
def level : Level := .debug

/-- An activity as it shows in a line: the name, and the fields in braces. -/
def text (activity : Activity) : String :=
  if activity.fields.isEmpty then
    activity.name
  else
    activity.name ++ "\x7b" ++ Text.joined " "
      (activity.fields.map fun (name, value) => name ++ "=" ++ toString value) ++ "\x7d"

end Activity

/-- The directives that decide which lines are written. -/
structure Filter where
  directives : List Directive
  deriving DecidableEq, Repr

/-- What a filter makes of the activities around a line: those that show, the
outermost first, and the thresholds that hold in the course of them. -/
structure Surroundings where
  shown : List Activity
  thresholds : List Threshold
  deriving DecidableEq, Repr

/-- Whether a level passes because of the activities around. -/
def Surroundings.allow (surroundings : Surroundings) (level : Level) : Bool :=
  surroundings.thresholds.any fun threshold => threshold.admits level

namespace Filter

/-- The directive that decides on a target, of those that are not only about
activities and that a test lets pass. -/
def governing? (filter : Filter) (test : Directive → Bool) (target : String) :
    Option Directive :=
  filter.directives.foldl
    (fun best directive =>
      if !directive.isAboutActivities && test directive && directive.covers target &&
          best.all directive.winsOver then
        some directive
      else
        best)
    none

/-- Whether the directive that decides on a target lets a level pass. -/
def passes (filter : Filter) (test : Directive → Bool) (target : String) (level : Level) :
    Bool :=
  (filter.governing? test target).any fun directive => directive.threshold.admits level

/-- Whether lines of a target, a level and some fields are written wherever they
come up. A directive that asks for a field is about lines that have it. -/
def enables (filter : Filter) (target : String) (level : Level) (fields : List String) : Bool :=
  filter.passes (fun directive => directive.condition.all fun condition =>
    fields.contains condition.field) target level

/-- Whether something of a target and a level is let pass wherever it comes up,
when no fields are looked at. Directives that ask for a field count as well, and
whether it is there does not matter. -/
def anticipates (filter : Filter) (target : String) (level : Level) : Bool :=
  filter.passes (fun _ => true) target level

/-- Whether the filter lets a level pass at all. It has to, if some directive
asks for the value of a field. -/
def reaches (filter : Filter) (level : Level) : Bool :=
  filter.directives.any fun directive => directive.threshold.admits level ||
    directive.condition.any fun condition => condition.value.isSome

/-- Directives without those whose place a later one takes. -/
def lasting : List Directive → List Directive
  | [] => []
  | directive :: rest =>
    if rest.any fun later => later.replaces directive then lasting rest
    else directive :: lasting rest

/-- Nothing is made up: lasting directives were there before. -/
theorem mem_of_mem_lasting {directive : Directive} {directives : List Directive}
    (member : directive ∈ lasting directives) : directive ∈ directives := by
  induction directives with
  | nil => exact member
  | cons first rest hypothesis =>
    rw [lasting] at member
    split at member
    · exact List.mem_cons_of_mem first (hypothesis member)
    · rcases List.mem_cons.mp member with equal | member
      · exact List.mem_cons.mpr (Or.inl equal)
      · exact List.mem_cons_of_mem first (hypothesis member)

/-- The directives about the course of activities that mention this one. -/
def mentions (filter : Filter) (activity : Activity) : List Directive :=
  (lasting filter.directives).filter fun directive =>
    (directive.activity.isSome || directive.condition.isSome) &&
      directive.covers activity.target && directive.activity.all (· = activity.name) &&
      directive.condition.all fun condition => condition.isAbout activity.fields

/-- The thresholds of the directives that mention an activity and whose conditions
it fulfils. -/
def thresholdsFor (filter : Filter) (activity : Activity) : List Threshold :=
  ((filter.mentions activity).filter fun directive =>
    directive.condition.all fun condition => condition.holds activity.fields).map
      Directive.threshold

/-- Goes into an activity. It shows if it is enabled where it begins, or if a
directive mentions it and the filter lets its level pass at all. -/
def enter (filter : Filter) (surroundings : Surroundings) (activity : Activity) : Surroundings :=
  if filter.anticipates activity.target Activity.level || surroundings.allow Activity.level ||
      (!(filter.mentions activity).isEmpty && filter.reaches Activity.level) then
    ⟨surroundings.shown ++ [activity],
      surroundings.thresholds ++ filter.thresholdsFor activity⟩
  else
    surroundings

/-- What the filter makes of some activities, the outermost first. -/
def surroundings (filter : Filter) (activities : List Activity) : Surroundings :=
  activities.foldl filter.enter ⟨[], []⟩

/-- Whether lines of a target and a level may pass in the course of some
activities, before their fields are known. -/
def awaits (filter : Filter) (target : String) (level : Level) (activities : List Activity) :
    Bool :=
  filter.anticipates target level || (filter.surroundings activities).allow level

/-- The directives in a list of texts, and what is said about the texts that are
none. -/
def readDirectives (texts : List String) : List Directive × List String :=
  (texts.filterMap fun text => (Directive.ofText text).toOption,
    texts.filterMap fun text =>
      match Directive.ofText text with
      | .ok _ => none
      | .error fault => some ("ignoring `" ++ text ++ "`: " ++ fault.message))

/-- The filter for a level and for the directives that may stand beside it,
separated by commas, and what is said about parts that make no sense. The level
counts only if there is no directive. With a full trace everything passes for
which no directive names a target. -/
def configure (level : Level) (configured : String) (fullTrace : Bool) : Filter × List String :=
  let texts := (configured.splitOn ",").filter (· ≠ "")
  let (directives, complaints) := readDirectives texts
  let chosen := if directives.isEmpty then [.general (.upTo level)] else directives
  let traced := if fullTrace then [.general (.upTo .trace)] else []
  (⟨chosen ++ traced⟩, complaints)

end Filter

end Ember
