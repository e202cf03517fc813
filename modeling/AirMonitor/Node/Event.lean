import AirMonitor.Node

namespace AirMonitor

inductive NodeEvent (σ : Type) where
  | arrive (id : Nat) (purpose : Purpose)
  | poll (id : Nat)
  | cancel (id : Nat)
  | hold
  | release
  /-- Someone who is no reader uses the sensor in between. -/
  | operate (operation : Operation)
  /-- The bus or the chip changes by itself. -/
  | disturb (change : σ → σ)
  | listen (change : CarbonDioxide.Uart → CarbonDioxide.Uart)
  | setOffline (offline : Bool)

inductive NodeReply where
  | done
  | progress (progress : Progress)
  | operated (reply : Except SensorError Reply)

namespace Node

variable {σ : Type} [Transport σ] [Settling σ]

def step : NodeEvent σ → StateM (Node σ) NodeReply
  | .arrive id purpose => do
    arrive id purpose
    return .done
  | .poll id => return .progress (← poll id)
  | .cancel id => do
    cancel id
    return .done
  | .hold => do
    modify fun node => { node with held := true }
    return .done
  | .release => do
    modify fun node => { node with held := false }
    return .done
  | .operate operation =>
    return .operated (← useSensor (SharedSensor.use (Session.perform operation)))
  | .disturb change => do
    modify fun node => { node with
      sensor.session.link := change node.sensor.session.link }
    return .done
  | .listen change => do
    modify fun node => { node with uart := change node.uart }
    return .done
  | .setOffline offline => do
    modify fun node => { node with sink.offline := offline }
    return .done

def run (events : List (NodeEvent σ)) : StateM (Node σ) (List NodeReply) :=
  events.mapM step

end Node

end AirMonitor
