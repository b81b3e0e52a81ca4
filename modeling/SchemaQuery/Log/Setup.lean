import SchemaQuery.Log
import SchemaQuery.Text.Uppercase

/-!
# Setting up the log

The level of the log is given by name, in any case. Events below the level are not shown.
-/

namespace SchemaQuery

namespace LogLevel

/-- The number that a name in capitals stands for. Two names go beyond the levels of events, one
shows everything, and some levels have two names. -/
def numberOf? (name : Text) : Option Nat :=
  if name = "CRITICAL" ∨ name = "FATAL" then some 50
  else if name = "WARN" then some warning.number
  else if name = "NOTSET" then some 0
  else ([debug, info, warning, error].find? fun level => level.name = name).map number

end LogLevel

structure LogSetup where
  /-- Events of a smaller number are not shown. -/
  threshold : Nat

namespace LogSetup

/-- The setup for a level given by name; an empty name counts as none. The level that the
environment names comes second, and `INFO` last. A name that is no level is given back in
capitals. -/
def ofNames (given environment : Option Text) : Except Text LogSetup :=
  let named (name : Option Text) : Option Text := name.filter (· ≠ [])
  let name := (((named given).or (named environment)).getD "INFO").upperCase
  match LogLevel.numberOf? name with
  | some threshold => .ok ⟨threshold⟩
  | none => .error name

def unknownLevel (name : Text) : Text := "Unknown level: " ++ name.quoted

/-- The threshold of the component that reads dates, whose own trials are of no interest. -/
def datesThreshold : Nat := LogLevel.warning.number

def layout : Text := "%(asctime)s %(levelname)s %(name)s %(message)s"

def shows (s : LogSetup) (e : LogEvent) : Bool := s.threshold ≤ e.level.number

end LogSetup

end SchemaQuery
