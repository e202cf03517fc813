import AirMonitor.Sensor.Register
import AirMonitor.Sensor.Setting

namespace AirMonitor

structure Config where
  temperature : Oversampling
  pressure : Oversampling
  humidity : Oversampling
  filter : Filter
  standby : Standby
  deriving DecidableEq, Repr

/-- What is assumed of a chip that has not been read yet. -/
def Config.initial : Config := ⟨.skip, .skip, .skip, .off, .none⟩

def Config.cycles (config : Config) : Nat :=
  config.temperature.cycles + config.pressure.cycles + config.humidity.cycles

/-- Conversion time of one cycle in microseconds: the conversions, nine switching steps, and the
wake-up that every mode but `parallel` starts with. -/
def Config.measurementMicros (config : Config) (mode : Mode) : Nat :=
  config.cycles * 1963 + 477 * 9 + if mode = .parallel then 0 else 1000

theorem Config.cycles_le (config : Config) : config.cycles ≤ 48 := by
  have ht := config.temperature.cycles_le
  have hp := config.pressure.cycles_le
  have hh := config.humidity.cycles_le
  simp only [Config.cycles]
  omega

/-- The five registers from `ctrlGas1` to `config`. -/
abbrev ConfigBlock := Vector UInt8 5

def Config.ofBlock (block : ConfigBlock) : Config where
  temperature := .ofBits (Register.temperatureOversampling.get block[3])
  pressure := .ofBits (Register.pressureOversampling.get block[3])
  humidity := .ofBits (Register.humidityOversampling.get block[1])
  filter := .ofBits (Register.filter.get block[4])
  standby :=
    if Register.noStandby.get block[0] = 0 then .ofBits (Register.standby.get block[4]) else .none

def Standby.fields (standby : Standby) : UInt8 × UInt8 :=
  if standby = .none then (1, 0) else (0, standby.bits)

def Config.patch (config : Config) (block : ConfigBlock) : ConfigBlock :=
  #v[Register.noStandby.set block[0] config.standby.fields.1,
    Register.humidityOversampling.set block[1] config.humidity.bits,
    block[2],
    Register.pressureOversampling.set
      (Register.temperatureOversampling.set block[3] config.temperature.bits) config.pressure.bits,
    Register.standby.set (Register.filter.set block[4] config.filter.bits)
      config.standby.fields.2]

end AirMonitor
