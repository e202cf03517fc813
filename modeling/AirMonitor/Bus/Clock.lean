namespace AirMonitor

/-- A free-running microsecond counter that wraps around, with the advance each reading of it
brings. -/
structure Clock where
  now : UInt32
  advance : Nat → UInt32
  reads : Nat := 0

def Clock.read (clock : Clock) : UInt32 × Clock :=
  (clock.now, { clock with
    now := clock.now + clock.advance clock.reads
    reads := clock.reads + 1 })

/-- Reads the clock until `period` has passed since `start`; `none` if it never gets there. -/
def Clock.awaitSince (start period : UInt32) (clock : Clock) : Option Clock :=
  let seen := clock.read
  if seen.1 - start < period then seen.2 |>.awaitSince start period else some seen.2
partial_fixpoint

def Clock.wait? (period : UInt32) (clock : Clock) : Option Clock :=
  if period = 0 then some clock
  else
    let seen := clock.read
    seen.2 |>.awaitSince seen.1 period

/-- The clock after a wait, or as it was if the wait never ends. -/
def Clock.wait (period : UInt32) (clock : Clock) : Clock := (clock.wait? period).getD clock

end AirMonitor
