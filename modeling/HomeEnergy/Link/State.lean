/-!
# Connections

What a connection to a device goes through, and the events it reports on the way.
-/

namespace HomeEnergy

/-- The state of a connection. -/
inductive LinkState where
  | uninitialized
  | initializing
  | ready
  /-- The last use failed; the next use starts by making the connection ready again. -/
  | failed
deriving DecidableEq, Repr, Inhabited

/-- What a connection reports. -/
inductive LinkEvent where
  | initialized
  | initFailed
  | reinitialized
  | requestFailed
deriving DecidableEq, Repr

namespace LinkState

/-- The word for a state. -/
def name : LinkState → String
  | uninitialized => "uninitialized"
  | initializing => "initializing"
  | ready => "ready"
  | failed => "failed"

/-- All states, in the order of a connection's life. -/
def all : List LinkState := [uninitialized, initializing, ready, failed]

end LinkState

namespace LinkEvent

/-- The word for an event. -/
def name : LinkEvent → String
  | initialized => "initialized"
  | initFailed => "init_failed"
  | reinitialized => "reinitialized"
  | requestFailed => "request_failed"

/-- All events. -/
def all : List LinkEvent := [initialized, initFailed, reinitialized, requestFailed]

end LinkEvent

end HomeEnergy
