import RouterTelemetry.Event

/-!
# Log filters

A filter is a list of directives with commas between them.  A directive names a
severity for everything, or a part of a program and a severity for it; the
directive for the longest part that an event belongs to decides about the event.
-/

namespace RouterTelemetry.Startup

/-- How much is logged: nothing, everything, or all that is severe enough. -/
inductive Threshold where
  | off
  | upTo (level : Level)
  | everything
deriving Repr, DecidableEq

/-- The event is logged. -/
def Threshold.admits (threshold : Threshold) (event : Event) : Bool :=
  match threshold with
  | .off => false
  | .upTo level => event.reaches level
  | .everything => true

/-- A threshold for the events of a part; the empty name stands for every part. -/
structure Directive where
  part : String
  threshold : Threshold
deriving Repr, DecidableEq

/-- A list of directives. -/
abbrev Filter := List Directive

/-- The words for thresholds, in lower case; each also has a number. -/
def thresholdWords : List (String × Threshold) :=
  [("off", .off), ("0", .off), ("error", .upTo .error), ("1", .upTo .error),
    ("warn", .upTo .warn), ("2", .upTo .warn), ("info", .upTo .info), ("3", .upTo .info),
    ("debug", .upTo .debug), ("4", .upTo .debug), ("trace", .everything), ("5", .everything)]

/-- The threshold that a word stands for, in any case. -/
def Threshold.ofWord? (word : String) : Option Threshold :=
  thresholdWords.lookup word.toLower

/-- May stand in the name of a part. -/
def isPartChar (c : Char) : Bool :=
  c.isAlphanum || c = '_' || c = ':' || c = '-'

/-- Reads a directive. -/
def Directive.parse? (cs : List Char) : Option Directive :=
  match Threshold.ofWord? (String.ofList cs) with
  | some threshold => some ⟨"", threshold⟩
  | none =>
      match cs.takeWhile isPartChar, cs.dropWhile isPartChar with
      | [], _ => none
      | part, [] => some ⟨String.ofList part, .everything⟩
      | part, ['='] => some ⟨String.ofList part, .everything⟩
      | part, '=' :: word =>
          (Threshold.ofWord? (String.ofList word)).map fun threshold =>
            ⟨String.ofList part, threshold⟩
      | _, _ => none

/-- The pieces of a text between commas. -/
def betweenCommas : (current : List Char) → List Char → List (List Char)
  | current, [] => [current]
  | current, c :: cs =>
      if c = ',' then current :: betweenCommas [] cs else betweenCommas (current ++ [c]) cs

/-- Reads a filter; without any directive only errors are logged. -/
def Filter.parse? (text : String) : Option Filter := do
  let pieces := (betweenCommas [] text.toList).filter (!·.isEmpty)
  if pieces.isEmpty then
    return [⟨"", .upTo .error⟩]
  pieces.mapM Directive.parse?

/-- The part that the events of this program belong to. -/
def programPart : String :=
  "bbox_exporter"

/-- The directive counts for the events of this program. -/
def Directive.applies (directive : Directive) : Bool :=
  directive.part.toList.isPrefixOf programPart.toList

/-- Of two directives the one for the longer part; of equally long ones the later. -/
def Directive.sharper (one other : Directive) : Directive :=
  if one.part.length ≤ other.part.length then other else one

/-- The threshold for the events of this program. -/
def Filter.threshold (filter : Filter) : Threshold :=
  match filter.filter Directive.applies with
  | [] => .off
  | directive :: directives => (directives.foldl Directive.sharper directive).threshold

/-- The logged events. -/
def Filter.admitted (filter : Filter) (events : List Event) : List Event :=
  events.filter filter.threshold.admits

end RouterTelemetry.Startup
