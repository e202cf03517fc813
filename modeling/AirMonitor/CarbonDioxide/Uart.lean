namespace AirMonitor.CarbonDioxide

inductive Arrival where
  | bytes (bytes : List UInt8)
  /-- A pause until the receiver is polled again. -/
  | gap
  | endOfStream
  | fault
  deriving DecidableEq, Repr

structure Uart where
  inbox : List Arrival := []
  /-- How many polls a timer survives before it fires. -/
  patience : Nat := 0
  writeMax : Option Nat := none
  failWrite : Bool := false
  failFlush : Bool := false
  sent : List UInt8 := []
  timers : List UInt32 := []

inductive ReceiveError where
  | broken
  | timeout
  deriving DecidableEq, Repr

structure Reception where
  result : Except ReceiveError (List UInt8)
  inbox : List Arrival
  /-- Whether the timer was ever asked. -/
  timed : Bool

/-- Collects `wanted` more bytes after `got`. When nothing is there the timer is asked, which
allows `patience` more polls; bytes collected before it fires are lost. -/
def receive (wanted patience : Nat) (timed : Bool) (got : List UInt8) :
    List Arrival → Reception
  | [] => if wanted = 0 then ⟨.ok got, [], timed⟩ else ⟨.error .timeout, [], true⟩
  | arrival :: inbox =>
    if wanted = 0 then ⟨.ok got, arrival :: inbox, timed⟩
    else
      match arrival with
      | .bytes [] | .endOfStream | .fault => ⟨.error .broken, inbox, timed⟩
      | .gap =>
        match patience with
        | 0 => ⟨.error .timeout, inbox, true⟩
        | patience + 1 => receive wanted patience true got inbox
      | .bytes bytes =>
        if wanted < bytes.length then
          ⟨.ok (got ++ bytes.take wanted), .bytes (bytes.drop wanted) :: inbox, timed⟩
        else receive (wanted - bytes.length) patience timed (got ++ bytes) inbox

namespace Uart

def sendAll (uart : Uart) (bytes : List UInt8) : Uart :=
  match bytes with
  | [] => uart
  | byte :: rest =>
    let taken := rest.take ((uart.writeMax.getD bytes.length) - 1)
    sendAll { uart with sent := uart.sent ++ byte :: taken } (rest.drop taken.length)
termination_by bytes.length
decreasing_by
  simp only [List.length_drop, List.length_cons]
  omega

/-- Sends all bytes and flushes; a failing write takes none of them. Yields whether both
succeeded. -/
def transmit (uart : Uart) (bytes : List UInt8) : Bool × Uart :=
  if uart.failWrite then (false, uart) else (!uart.failFlush, uart.sendAll bytes)

def receiveExactly (uart : Uart) (count : Nat) (millis : UInt32) :
    Except ReceiveError (List UInt8) × Uart :=
  let reception := receive count uart.patience false [] uart.inbox
  (reception.result, { uart with
    inbox := reception.inbox
    timers := if reception.timed then uart.timers ++ [millis] else uart.timers })

end Uart

end AirMonitor.CarbonDioxide
