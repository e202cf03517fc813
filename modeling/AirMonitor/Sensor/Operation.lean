import AirMonitor.Sensor.Session

namespace AirMonitor

inductive Operation where
  | softReset
  | uniqueId
  | readRegisters (register : UInt8) (length : Nat)
  | writeRegisters (pairs : List (UInt8 × UInt8))
  | setAmbient (celsius : Int8)
  | setMode (mode : Mode)
  | readMode
  | readConfig
  | setOversampling (temperature pressure humidity : Oversampling)
  | setFilter (filter : Filter)
  | setStandby (standby : Standby)
  | setHeater (profile : HeaterProfile)
  | fetch
  | nextField

inductive Reply where
  | done
  | uniqueId (id : UInt32)
  | bytes (bytes : List UInt8)
  | mode (mode : Mode)
  | config (config : Config)
  | fetched (count : Nat)
  | field (field : Field) (remaining : Nat)

def Session.perform {σ : Type} [Transport σ] [Settling σ] :
    Operation → StateM (Session σ) (Except SensorError Reply)
  | .softReset => return (← softReset).map fun _ => .done
  | .uniqueId => return (← uniqueId).map .uniqueId
  | .readRegisters register length =>
    return (← readRegisters register length).map fun bytes => .bytes bytes.toList
  | .writeRegisters pairs => return (← writeRegisters pairs).map fun _ => .done
  | .setAmbient celsius => do
    setAmbient celsius
    return .ok .done
  | .setMode mode => return (← setMode mode).map fun _ => .done
  | .readMode => return (← readMode).map .mode
  | .readConfig => return (← readConfig).map .config
  | .setOversampling temperature pressure humidity =>
    return (← setOversampling temperature pressure humidity).map fun _ => .done
  | .setFilter filter => return (← setFilter filter).map fun _ => .done
  | .setStandby standby => return (← setStandby standby).map fun _ => .done
  | .setHeater profile => return (← setHeater profile).map fun _ => .done
  | .fetch => return (← fetch).map .fetched
  | .nextField => do
    let (field, remaining) ← nextField
    return .ok (.field field remaining)

/-- Performs operations one after another, whatever becomes of each. -/
def Session.performAll {σ : Type} [Transport σ] [Settling σ] (operations : List Operation) :
    StateM (Session σ) (List (Except SensorError Reply)) :=
  operations.mapM perform

end AirMonitor
