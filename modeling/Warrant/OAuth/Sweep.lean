-- The sweep: a task that purges the codes every minute, the first time at
-- once. It has a clock of its own, which only counts the seconds since the
-- task was started. A purge that dies ends the task, and puts the codes out
-- of reach, so that purges at later ticks would change nothing.
import Warrant.OAuth.Server

namespace Warrant.OAuth

namespace Sweep

/-- The seconds from one tick to the next. -/
def interval : Nat := 60

/-- The ticks from one second of the task to another, the last one not
included. -/
def ticks (start stop : Nat) : List Nat :=
  let next := (start + interval - 1) / interval
  let past := (stop + interval - 1) / interval
  (List.range (past - next)).map fun i => (next + i) * interval

/-- The server after a purge at each tick. -/
def run (s : Server) (wall : Nat → Instant) (ticks : List Nat) : Server :=
  ticks.foldl (fun s t => (s.purge (wall t)).1) s

end Sweep

end Warrant.OAuth
