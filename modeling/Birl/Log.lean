import Birl.Text.Case

/-!
# Log events

Events tell what a session does. An event is kept when its level is at or above the level of the
log.
-/

namespace Birl

inductive LogLevel where
  | trace
  | debug
  | info
  | warn
  | error
  | disabled
  deriving DecidableEq, Repr, Inhabited

namespace LogLevel

def name : LogLevel → Text
  | trace => "trace"
  | debug => "debug"
  | info => "info"
  | warn => "warn"
  | error => "error"
  | disabled => "disabled"

/-- The level with a given name, in any case; a name that is no level stands for `warn`. -/
def ofName (name : Text) : LogLevel :=
  let name := name.lower
  if name = "trace" then trace
  else if name = "debug" then debug
  else if name = "info" then info
  else if name = "error" then error
  else if name = "disabled" || name = "off" then disabled
  else warn

def rank : LogLevel → Nat
  | trace => 0
  | debug => 1
  | info => 2
  | warn => 3
  | error => 4
  | disabled => 5

def admits (log event : LogLevel) : Bool := log.rank ≤ event.rank && event != disabled

end LogLevel

inductive LogField where
  | text (t : Text)
  | int (n : Int)
  | bool (b : Bool)
  deriving DecidableEq, Repr

structure LogEvent where
  level : LogLevel
  message : Text
  fields : List (Text × LogField)
  deriving DecidableEq, Repr

/-- A log with its events, newest first. -/
structure Log where
  level : LogLevel := .disabled
  events : List LogEvent := []
  deriving DecidableEq, Repr, Inhabited

namespace Log

def add (log : Log) (event : LogEvent) : Log :=
  if log.level.admits event.level then { log with events := event :: log.events } else log

def addAll (log : Log) (events : List LogEvent) : Log := events.foldl add log

def toList (log : Log) : List LogEvent := log.events.reverse

end Log
end Birl
