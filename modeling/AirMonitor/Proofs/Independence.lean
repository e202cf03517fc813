import AirMonitor.Proofs.ConfigMirror
import AirMonitor.Proofs.Steady

namespace AirMonitor

namespace RegisterBits

/-- The bits that say how many steps a cycle has and whether gas is measured. -/
def gas : RegisterBits := fun address => if address = Register.ctrlGas1 then 0x3F else 0

/-- The bits beside the settings that no setting is stored in. -/
def spare : RegisterBits := fun address =>
  if address = Register.ctrlGas1 then 0x40
  else if address = Register.ctrlHum then 0xF8
  else if address = 0x73 then 0xFF
  else if address = Register.config then 0x03
  else 0

theorem mode_apart_gas : mode.Apart gas := by decide +kernel

theorem config_apart_gas : config.Apart gas := by decide +kernel

theorem mode_apart_spare : mode.Apart spare := by decide +kernel

theorem config_apart_spare : config.Apart spare := by decide +kernel

theorem heater_apart_spare : heater.Apart spare := by decide +kernel

end RegisterBits

namespace RegisterFile

/-- The mode a chip is in. -/
def mode (file : RegisterFile) : Mode := .ofBits file.modeBits

theorem mode_withMode (mode : Mode) (file : RegisterFile) :
    (file.withMode mode.bits).mode = mode := by
  rw [RegisterFile.mode, modeBits_withMode]
  cases mode <;> rfl

theorem modeBits_eq (file : RegisterFile) : file.modeBits = file.mode.bits :=
  (Mode.bits_ofBits _).symm

/-- The step count and the gas code of a profile lie side by side. -/
theorem gas_set (byte count code : UInt8) :
    Register.runGas.set (Register.heaterSteps.set byte count) code &&& 0x3F =
      (count &&& 0x0F) ||| (code <<< (4 : UInt8) &&& 0x30) := by
  have hsplit (value : UInt8) : value &&& 0x3F =
      (value &&& Register.heaterSteps.mask) ||| (value &&& Register.runGas.mask) := by
    apply UInt8.toBitVec_inj.1
    simp only [UInt8.toBitVec_and, UInt8.toBitVec_or]
    rw [← BitVec.and_or_distrib_left]
    rfl
  rw [hsplit, BitField.set_inside, BitField.set_and_of_apart (by decide), BitField.set_inside]
  simp [Register.heaterSteps, Register.runGas]

end RegisterFile

/-- What the low six bits of `ctrlGas1` are when a profile is programmed. -/
def HeaterProfile.gas (variant : UInt8) (profile : HeaterProfile) : UInt8 :=
  profile.cycle ||| (Register.runGasCode variant <<< (4 : UInt8))

theorem HeaterProfile.cycle_and (profile : HeaterProfile) :
    profile.cycle &&& 0x0F = profile.cycle := by
  have hfit (steps : HeaterSteps) :
      UInt8.ofNat steps.1.length &&& 0x0F = UInt8.ofNat steps.1.length := by
    have hall : ∀ count : Fin 11, UInt8.ofNat count.val &&& 0x0F = UInt8.ofNat count.val := by
      decide
    exact hall ⟨steps.1.length, Nat.lt_succ_of_le steps.2⟩
  cases profile with
  | forced step => exact UInt8.zero_and
  | sequential steps => exact hfit steps
  | parallel steps sharedMillis => exact hfit steps

theorem HeaterProfile.pairs_range {target : HeaterStep → UInt8} {profile : HeaterProfile}
    {pair : UInt8 × UInt8} (h : pair ∈ profile.pairs target) :
    Register.heaterTarget0 ≤ pair.1 ∧ pair.1 ≤ Register.heaterShared := by
  cases profile with
  | forced step =>
    simp only [pairs, List.mem_cons, List.not_mem_nil, or_false] at h
    rcases h with rfl | rfl <;> simp only <;> decide
  | sequential steps =>
    rcases List.mem_append.1 h with h | h
    · exact Link.heater_range (.inl rfl) steps target pair h
    · exact Link.heater_range (.inr rfl) steps _ pair h
  | parallel steps sharedMillis =>
    rcases List.mem_append.1 h with h | h
    · rcases List.mem_append.1 h with h | h
      · exact Link.heater_range (.inl rfl) steps target pair h
      · exact Link.heater_range (.inr rfl) steps _ pair h
    · rw [List.mem_singleton.1 h]
      simp only
      decide

namespace RegisterFile

variable {variant : UInt8} {target : HeaterStep → UInt8} {profile : HeaterProfile}

theorem gas_withHeater (file : RegisterFile) :
    (file.withHeater variant target profile).get Register.ctrlGas1 &&& 0x3F =
      profile.gas variant := by
  have hcode : Register.runGasCode variant <<< (4 : UInt8) &&& 0x30 =
      Register.runGasCode variant <<< (4 : UInt8) := by
    rw [Register.runGasCode]
    split <;> rfl
  apply (congrArg (· &&& 0x3F) (get_set_self _ _ _)).trans
  rw [gas_set, profile.cycle_and, hcode, HeaterProfile.gas]

theorem bits_withHeater {chosen : RegisterBits} (hheater : RegisterBits.heater.Apart chosen)
    (file : RegisterFile) :
    (file.withHeater variant target profile).bits chosen = (file.withMode 0).bits chosen := by
  have hoff : Register.heaterOff.mask &&& chosen Register.ctrlGas0 = 0 := hheater.of_and rfl
  have hsteps : Register.heaterSteps.mask &&& chosen Register.ctrlGas1 = 0 := hheater.of_and rfl
  have hrun : Register.runGas.mask &&& chosen Register.ctrlGas1 = 0 := hheater.of_and rfl
  have hstored : ((file.withMode 0).setPairs (profile.pairs target)).bits chosen =
      (file.withMode 0).bits chosen := by
    apply bits_setPairs
    intro pair hpair
    obtain ⟨hlow, hhigh⟩ := profile.pairs_range hpair
    rw [hheater.of_range hlow hhigh, UInt8.and_zero, UInt8.and_zero]
  rw [withHeater, ← hstored]
  apply bits_setPairs
  intro pair hpair
  simp only [List.mem_cons, List.not_mem_nil, or_false] at hpair
  rcases hpair with rfl | rfl
  · exact BitField.set_and_of_apart hoff _ _
  · exact (BitField.set_and_of_apart hrun _ _).trans (BitField.set_and_of_apart hsteps _ _)

theorem modeBits_withHeater (file : RegisterFile) :
    (file.withHeater variant target profile).modeBits = 0 := by
  have h := @bits_withHeater variant target profile _ RegisterBits.heater_apart_mode file
  have hbits : (file.withHeater variant target profile).modeBits = (file.withMode 0).modeBits :=
    BitField.get_congr (and_of_bits h rfl)
  rw [hbits, modeBits_withMode]
  rfl

end RegisterFile

/-- Some settings of a configuration. -/
structure Config.Partial where
  temperature : Option Oversampling := none
  pressure : Option Oversampling := none
  humidity : Option Oversampling := none
  filter : Option Filter := none
  standby : Option Standby := none

/-- The settings that are there, and those of a configuration where there are none. -/
def Config.Partial.over (settings : Config.Partial) (config : Config) : Config where
  temperature := settings.temperature.getD config.temperature
  pressure := settings.pressure.getD config.pressure
  humidity := settings.humidity.getD config.humidity
  filter := settings.filter.getD config.filter
  standby := settings.standby.getD config.standby

namespace Operation

/-- The settings of the configuration that an operation is asked for. -/
def settings : Operation → Config.Partial
  | .setOversampling temperature pressure humidity =>
    { temperature := temperature, pressure := pressure, humidity := humidity }
  | .setFilter filter => { filter := filter }
  | .setStandby standby => { standby := standby }
  | _ => {}

/-- The mode that an operation leaves the chip in, where it is not the one before. -/
def mode? : Operation → Option Mode
  | .setMode mode => some mode
  | .setHeater _ => some .sleep
  | _ => none

/-- What an operation programs into the low six bits of `ctrlGas1`. -/
def gas? (variant : UInt8) : Operation → Option UInt8
  | .setHeater profile => some (profile.gas variant)
  | _ => none

/-- The operations that set the chip up, with a heater profile that can be programmed. -/
def SetsUp : Operation → Prop
  | .setMode _ | .readConfig | .setOversampling _ _ _ | .setFilter _ | .setStandby _ => True
  | .setHeater profile => profile.steps ≠ []
  | _ => False

/-- Whether the configuration is known after the operation. -/
def Informs (operation : Operation) : Prop :=
  operation = .readConfig ∨ operation.change?.isSome

section

variable {operation : Operation} {change : Config → Config}

theorem over_of_change (h : operation.change? = some change) (config : Config) :
    operation.settings.over config = change config := by
  cases operation with
  | setOversampling temperature pressure humidity =>
    cases h
    rfl
  | setFilter filter =>
    cases h
    rfl
  | setStandby standby =>
    cases h
    rfl
  | _ => cases h

theorem mode?_of_change (h : operation.change? = some change) : operation.mode? = none := by
  cases operation with
  | setMode mode => cases h
  | setHeater profile => cases h
  | _ => rfl

theorem gas?_of_change (h : operation.change? = some change) (variant : UInt8) :
    operation.gas? variant = none := by
  cases operation with
  | setHeater profile => cases h
  | _ => rfl

end

end Operation

namespace Session

/-- An operation changed what it is about on the chip and nothing else. -/
structure Follows (operation : Operation) (s after : Session (Traced Device)) : Prop where
  steady : after.link.inner.Steady
  variant : after.driver.variant = s.driver.variant
  config : after.registers.config = operation.settings.over s.registers.config
  known : operation.Informs → after.driver.config = after.registers.config
  unknown : ¬ operation.Informs → after.driver.config = s.driver.config
  mode : after.registers.mode = operation.mode?.getD s.registers.mode
  gas : after.registers.get Register.ctrlGas1 &&& 0x3F =
    (operation.gas? s.driver.variant).getD (s.registers.get Register.ctrlGas1 &&& 0x3F)
  spare : after.registers.bits .spare = s.registers.bits .spare

theorem attempt_yields {program : Link (Traced Device) α} {s : Session (Traced Device)} {a : α}
    {file : RegisterFile} (h : program.Yields s.registers a file) (hs : s.link.inner.Steady)
    (learn : α → Driver → Driver) :
    (attempt program learn s).1 = .ok a ∧
    (attempt program learn s).2.driver = learn a { s.driver with outcome := .success } ∧
    (attempt program learn s).2.link.inner.Steady ∧
    (attempt program learn s).2.registers = file := by
  obtain ⟨hok, hsteady, hfile⟩ := h s.link hs rfl
  have hdriver : (attempt program learn s).2.driver =
      learn a { s.driver with outcome := .success } := by
    simp only [attempt, hok]
    rfl
  exact ⟨hok, hdriver, hsteady, hfile⟩

variable {s : Session (Traced Device)}

theorem gas_congr {file other : RegisterFile} (h : file.bits .gas = other.bits .gas) :
    file.get Register.ctrlGas1 &&& 0x3F = other.get Register.ctrlGas1 &&& 0x3F :=
  RegisterFile.and_of_bits h rfl

theorem setMode_follows (hs : s.link.inner.Steady) (mode : Mode) :
    (perform (.setMode mode) s).1.isOk ∧
      Follows (.setMode mode) s (perform (.setMode mode) s).2 := by
  obtain ⟨hok, hdriver, hsteady, hfile⟩ :=
    attempt_yields (Link.Yields.changeMode mode) hs fun _ => Driver.withMode mode
  have hkept (driver : Driver) : (driver.withMode mode).variant = driver.variant ∧
      (driver.withMode mode).config = driver.config := by
    rw [Driver.withMode]
    split <;> exact ⟨rfl, rfl⟩
  have hreply : (perform (.setMode mode) s).1 = .ok .done :=
    congrArg (Except.map fun _ => Reply.done) hok
  have hdriver : (perform (.setMode mode) s).2.driver = _ := hdriver
  have hfile : (perform (.setMode mode) s).2.registers = _ := hfile
  rw [hreply]
  apply And.intro rfl
  constructor
  case steady => exact hsteady
  case variant =>
    rw [hdriver]
    exact (hkept _).1
  case config =>
    rw [hfile]
    exact RegisterFile.config_congr (RegisterFile.bits_withMode RegisterBits.mode_apart_config _ _)
  case known => rintro (h | h) <;> cases h
  case unknown =>
    intro _
    rw [hdriver]
    exact (hkept _).2
  case mode =>
    rw [hfile]
    exact RegisterFile.mode_withMode mode _
  case gas =>
    rw [hfile]
    exact gas_congr (RegisterFile.bits_withMode RegisterBits.mode_apart_gas _ _)
  case spare =>
    rw [hfile]
    exact RegisterFile.bits_withMode RegisterBits.mode_apart_spare _ _

theorem readConfig_follows (hs : s.link.inner.Steady) :
    (perform .readConfig s).1.isOk ∧ Follows .readConfig s (perform .readConfig s).2 := by
  obtain ⟨hok, hdriver, hsteady, hfile⟩ :=
    attempt_yields Link.Yields.readConfig hs Driver.withConfig
  have hreply : (perform .readConfig s).1 = .ok (.config s.registers.config) :=
    congrArg (Except.map Reply.config) hok
  have hdriver : (perform .readConfig s).2.driver = _ := hdriver
  have hfile : (perform .readConfig s).2.registers = _ := hfile
  rw [hreply]
  apply And.intro rfl
  constructor
  case steady => exact hsteady
  case variant =>
    rw [hdriver]
    rfl
  case config =>
    rw [hfile]
    rfl
  case known =>
    intro _
    rw [hdriver, hfile]
    rfl
  case unknown =>
    intro h
    exact (h (.inl rfl)).elim
  case mode =>
    rw [hfile]
    rfl
  case gas =>
    rw [hfile]
    rfl
  case spare => rw [hfile]

theorem setHeater_follows (hs : s.link.inner.Steady) {profile : HeaterProfile}
    (hprofile : profile.steps ≠ []) :
    (perform (.setHeater profile) s).1.isOk ∧
      Follows (.setHeater profile) s (perform (.setHeater profile) s).2 := by
  obtain ⟨hok, hdriver, hsteady, hfile⟩ :=
    attempt_yields (@Link.Yields.programHeater _ s.driver.variant s.driver.heaterTarget _ hprofile)
      hs fun _ => Driver.withHeater profile
  obtain ⟨hresult, hdriver', hlink⟩ := setHeater_run profile s
  have hreply : (perform (.setHeater profile) s).1 = .ok .done :=
    congrArg (Except.map fun _ => Reply.done) (hresult.trans hok)
  have hdriver : (perform (.setHeater profile) s).2.driver = _ := hdriver'.trans hdriver
  have hfile : (perform (.setHeater profile) s).2.registers = _ :=
    (congrArg (·.inner.registers) hlink).trans hfile
  have hsteady : (perform (.setHeater profile) s).2.link.inner.Steady :=
    (congrArg (·.inner.Steady) hlink).mpr hsteady
  have hbits {chosen : RegisterBits} (hmode : RegisterBits.mode.Apart chosen)
      (hheater : RegisterBits.heater.Apart chosen) :
      (perform (.setHeater profile) s).2.registers.bits chosen = s.registers.bits chosen := by
    rw [hfile, RegisterFile.bits_withHeater hheater, RegisterFile.bits_withMode hmode]
  rw [hreply]
  apply And.intro rfl
  constructor
  case steady => exact hsteady
  case variant =>
    rw [hdriver]
    rfl
  case config =>
    exact RegisterFile.config_congr
      (hbits RegisterBits.mode_apart_config RegisterBits.heater_apart_config)
  case known => rintro (h | h) <;> cases h
  case unknown =>
    intro _
    rw [hdriver]
    rfl
  case mode =>
    rw [hfile, RegisterFile.mode, RegisterFile.modeBits_withHeater]
    rfl
  case gas =>
    rw [hfile]
    exact RegisterFile.gas_withHeater _
  case spare => exact hbits RegisterBits.mode_apart_spare RegisterBits.heater_apart_spare

theorem changeConfig_run (change : Config → Config) (hs : s.link.inner.Steady) :
    (changeConfig change s).1 = .ok () ∧
    (changeConfig change s).2.driver.variant = s.driver.variant ∧
    (changeConfig change s).2.driver.config = change s.registers.config ∧
    (changeConfig change s).2.link.inner.Steady ∧
    (changeConfig change s).2.registers =
      ((s.registers.withMode 0).withConfig (change s.registers.config)).withMode
        s.registers.modeBits := by
  obtain ⟨hread, hdriver, hsteady, hfile⟩ :=
    attempt_yields Link.Yields.readConfig hs Driver.withConfig
  have hread : (readConfig s).1 = .ok s.registers.config := hread
  have hfile : (readConfig s).2.registers = s.registers := hfile
  have hvariant : (readConfig s).2.driver.variant = s.driver.variant :=
    (congrArg Driver.variant hdriver).trans rfl
  have hwrite := @Link.Yields.writeConfig (readConfig s).2.registers (change s.registers.config)
  obtain ⟨hok, hdriver', hsteady', hfile'⟩ :=
    attempt_yields hwrite hsteady fun _ => Driver.withConfig (change s.registers.config)
  have hvariant' := (congrArg Driver.variant hdriver').trans hvariant
  have hconfig' := congrArg Driver.config hdriver'
  rw [hfile] at hfile'
  rw [changeConfig, bind_run, hread]
  exact ⟨hok, hvariant', hconfig', hsteady', hfile'⟩

theorem setter_follows (hs : s.link.inner.Steady) {operation : Operation}
    {change : Config → Config} (hchange : operation.change? = some change) :
    (perform operation s).1.isOk ∧ Follows operation s (perform operation s).2 := by
  obtain ⟨hok, hvariant, hconfig, hsteady, hfile⟩ := changeConfig_run change hs
  have hbits {chosen : RegisterBits} (hmode : RegisterBits.mode.Apart chosen)
      (hapart : RegisterBits.config.Apart chosen) :
      (changeConfig change s).2.registers.bits chosen = s.registers.bits chosen := by
    rw [hfile, RegisterFile.bits_withMode hmode, RegisterFile.bits_withConfig hapart,
      RegisterFile.bits_withMode hmode]
  have hset : (changeConfig change s).2.registers.config = change s.registers.config := by
    rw [hfile, RegisterFile.config_congr
      (RegisterFile.bits_withMode RegisterBits.mode_apart_config _ _),
      RegisterFile.config_withConfig]
  rw [perform_of_change hchange, hok]
  apply And.intro rfl
  constructor
  case steady => exact hsteady
  case variant => exact hvariant
  case config =>
    rw [Operation.over_of_change hchange]
    exact hset
  case known =>
    intro _
    exact hconfig.trans hset.symm
  case unknown =>
    intro h
    exact (h (.inr (Option.isSome_of_eq_some hchange))).elim
  case mode =>
    rw [Operation.mode?_of_change hchange]
    apply (congrArg RegisterFile.mode hfile).trans
    rw [RegisterFile.modeBits_eq, RegisterFile.mode_withMode]
    rfl
  case gas =>
    rw [Operation.gas?_of_change hchange]
    exact gas_congr (hbits RegisterBits.mode_apart_gas RegisterBits.config_apart_gas)
  case spare => exact hbits RegisterBits.mode_apart_spare RegisterBits.config_apart_spare

theorem perform_follows (hs : s.link.inner.Steady) {operation : Operation}
    (h : operation.SetsUp) :
    (perform operation s).1.isOk ∧ Follows operation s (perform operation s).2 := by
  cases operation with
  | setMode mode => exact setMode_follows hs mode
  | readConfig => exact readConfig_follows hs
  | setOversampling temperature pressure humidity => exact setter_follows hs rfl
  | setFilter filter => exact setter_follows hs rfl
  | setStandby standby => exact setter_follows hs rfl
  | setHeater profile => exact setHeater_follows hs h
  | _ => exact h.elim

/-- Lets the chip ignore so many more requests to sleep. -/
def resist (extra : Nat) (s : Session (Traced Device)) : Session (Traced Device) :=
  { s with link :=
    { s.link with inner := { s.link.inner with stuck := s.link.inner.stuck + extra } } }

/-- Performs operations one after another, before each of which the chip gets that many more
requests to sleep to ignore. -/
def ride : List (Nat × Operation) → Session (Traced Device) →
    List (Except SensorError Reply) × Session (Traced Device)
  | [], s => ([], s)
  | (extra, operation) :: rest, s =>
    let performed := perform operation (s.resist extra)
    let rode := ride rest performed.2
    (performed.1 :: rode.1, rode.2)

/-- What operations set last, or else what was there before. -/
def lastSet {β : Type} (pick : Operation → Option β) (operations : List Operation)
    (initial : β) : β :=
  (operations.filterMap pick).getLastD initial

theorem lastSet_cons {β : Type} (pick : Operation → Option β) (operation : Operation)
    (rest : List Operation) (initial : β) :
    lastSet pick (operation :: rest) initial =
      lastSet pick rest ((pick operation).getD initial) := by
  rw [lastSet, lastSet]
  cases h : pick operation with
  | none => rw [List.filterMap_cons_none h, Option.getD_none]
  | some value => rw [List.filterMap_cons_some h, List.getLastD_cons, Option.getD_some]

theorem lastSet_concat {β : Type} (pick : Operation → Option β) (past : List Operation)
    (operation : Operation) (initial : β) :
    lastSet pick (past ++ [operation]) initial =
      (pick operation).getD (lastSet pick past initial) := by
  induction past generalizing initial with
  | nil =>
    rw [List.nil_append, lastSet_cons]
    rfl
  | cons first past ih => rw [List.cons_append, lastSet_cons, ih, lastSet_cons]

/-- The settings that operations set last, over those of a configuration. -/
def lastConfig (operations : List Operation) (config : Config) : Config where
  temperature := lastSet (·.settings.temperature) operations config.temperature
  pressure := lastSet (·.settings.pressure) operations config.pressure
  humidity := lastSet (·.settings.humidity) operations config.humidity
  filter := lastSet (·.settings.filter) operations config.filter
  standby := lastSet (·.settings.standby) operations config.standby

theorem lastConfig_cons (operation : Operation) (rest : List Operation) (config : Config) :
    lastConfig (operation :: rest) config =
      lastConfig rest (operation.settings.over config) := by
  simp only [lastConfig, lastSet_cons, Config.Partial.over]

/-- Every operation did what it is about, and nothing else happened to the chip. -/
structure Rode (operations : List Operation) (s after : Session (Traced Device)) : Prop where
  config : after.registers.config = lastConfig operations s.registers.config
  known : (s.driver.config = s.registers.config ∨ ∃ operation ∈ operations, operation.Informs) →
    after.driver.config = after.registers.config
  mode : after.registers.mode = lastSet Operation.mode? operations s.registers.mode
  gas : after.registers.get Register.ctrlGas1 &&& 0x3F =
    lastSet (Operation.gas? s.driver.variant) operations
      (s.registers.get Register.ctrlGas1 &&& 0x3F)
  spare : after.registers.bits .spare = s.registers.bits .spare

theorem Follows.known_of {operation : Operation} {after : Session (Traced Device)}
    (h : Follows operation s after)
    (hknown : s.driver.config = s.registers.config ∨ operation.Informs) :
    after.driver.config = after.registers.config := by
  by_cases hinforms : operation.Informs
  · exact h.known hinforms
  · have hsame : operation.settings.over s.registers.config = s.registers.config := by
      cases operation with
      | setOversampling temperature pressure humidity => exact (hinforms (.inr rfl)).elim
      | setFilter filter => exact (hinforms (.inr rfl)).elim
      | setStandby standby => exact (hinforms (.inr rfl)).elim
      | _ => rfl
    rw [h.config, h.unknown hinforms, hsame]
    exact hknown.resolve_right hinforms

theorem Follows.rode {operation : Operation} {rest : List Operation}
    {next after : Session (Traced Device)} (hfirst : Follows operation s next)
    (hrest : Rode rest next after) : Rode (operation :: rest) s after := by
  constructor
  case config => rw [hrest.config, hfirst.config, lastConfig_cons]
  case known =>
    intro hknown
    apply hrest.known
    rcases hknown with hknown | ⟨other, hother, hinforms⟩
    · exact .inl (hfirst.known_of (.inl hknown))
    · rcases List.mem_cons.1 hother with rfl | hother
      · exact .inl (hfirst.known_of (.inr hinforms))
      · exact .inr ⟨other, hother, hinforms⟩
  case mode => rw [hrest.mode, hfirst.mode, lastSet_cons]
  case gas => rw [hrest.gas, hfirst.gas, hfirst.variant, lastSet_cons]
  case spare => exact hrest.spare.trans hfirst.spare

theorem Follows.of_resist {extra : Nat} {operation : Operation}
    {after : Session (Traced Device)} (h : Follows operation (s.resist extra) after) :
    Follows operation s after :=
  ⟨h.steady, h.variant, h.config, h.known, h.unknown, h.mode, h.gas, h.spare⟩

theorem ride_rode {run : List (Nat × Operation)} (hrun : ∀ step ∈ run, step.2.SetsUp)
    (hs : s.link.inner.Steady) :
    (∀ reply ∈ (ride run s).1, reply.isOk) ∧ Rode (run.map Prod.snd) s (ride run s).2 := by
  induction run generalizing s with
  | nil =>
    constructor
    · simp [ride]
    · refine ⟨rfl, ?_, rfl, rfl, rfl⟩
      rintro (h | ⟨operation, hoperation, _⟩)
      · exact h
      · simp at hoperation
  | cons step run ih =>
    obtain ⟨extra, operation⟩ := step
    have hresist : (s.resist extra).link.inner.Steady :=
      ⟨hs.scheduled, hs.reads, hs.writes, hs.stays⟩
    obtain ⟨hreply, hfirst⟩ := perform_follows hresist (hrun _ List.mem_cons_self)
    obtain ⟨hreplies, hrest⟩ :=
      ih (fun step hstep => hrun step (List.mem_cons_of_mem _ hstep)) hfirst.steady
    constructor
    · intro reply hmem
      rcases List.mem_cons.1 hmem with rfl | hmem
      · exact hreply
      · exact hreplies reply hmem
    · exact hfirst.of_resist.rode hrest

/-- On a chip that may ignore requests to sleep, over a bus without failures, the settings of the
configuration, the mode and the heater do not get in each other's way. -/
theorem settings_independent {run : List (Nat × Operation)}
    (hrun : ∀ step ∈ run, step.2.SetsUp) (hs : s.link.inner.Steady) :
    (∀ reply ∈ (ride run s).1, reply.isOk) ∧
    (ride run s).2.registers.config = lastConfig (run.map Prod.snd) s.registers.config ∧
    ((∃ step ∈ run, step.2.Informs) →
      (ride run s).2.driver.config = (ride run s).2.registers.config) ∧
    (∀ past step rest, run = past ++ step :: rest → step.2.change?.isSome →
      (ride (past ++ [step]) s).2.registers.mode = (ride past s).2.registers.mode) ∧
    (ride run s).2.registers.get Register.ctrlGas1 &&& 0x40 =
      s.registers.get Register.ctrlGas1 &&& 0x40 ∧
    (ride run s).2.registers.get Register.ctrlHum &&& 0xF8 =
      s.registers.get Register.ctrlHum &&& 0xF8 ∧
    (ride run s).2.registers.get 0x73 = s.registers.get 0x73 ∧
    (ride run s).2.registers.get Register.config &&& 0x03 =
      s.registers.get Register.config &&& 0x03 ∧
    (ride run s).2.registers.get Register.ctrlGas1 &&& 0x3F =
      lastSet (Operation.gas? s.driver.variant) (run.map Prod.snd)
        (s.registers.get Register.ctrlGas1 &&& 0x3F) := by
  obtain ⟨hreplies, hrode⟩ := ride_rode hrun hs
  have hspare := hrode.spare
  refine ⟨hreplies, hrode.config, ?_, ?_, RegisterFile.and_of_bits hspare rfl,
    RegisterFile.and_of_bits hspare rfl, ?_, RegisterFile.and_of_bits hspare rfl, hrode.gas⟩
  · rintro ⟨step, hstep, hinforms⟩
    exact hrode.known (.inr ⟨step.2, List.mem_map_of_mem hstep, hinforms⟩)
  · rintro past step rest rfl hchange
    have hpast : ∀ other ∈ past ++ [step], other.2.SetsUp := by
      intro other hother
      apply hrun
      rw [List.append_cons]
      exact List.mem_append_left rest hother
    have hbefore := (ride_rode (fun other hother =>
      hpast other (List.mem_append_left _ hother)) hs).2.mode
    have hafter := (ride_rode hpast hs).2.mode
    obtain ⟨change, hsome⟩ := Option.isSome_iff_exists.1 hchange
    rw [List.map_append, List.map_singleton, lastSet_concat, Operation.mode?_of_change hsome,
      Option.getD_none] at hafter
    rw [hafter, hbefore]
  · have h := @RegisterFile.and_of_bits _ _ _ hspare 0x73 (-1) rfl
    rwa [UInt8.and_neg_one, UInt8.and_neg_one] at h

/-- A chip that ignores a request to sleep, and as many more as a run gives it. -/
def stubborn : Session (Traced Device) where
  link := ⟨{ registers := .zero, stuck := 1 }, []⟩

/-- A filter is set between two changes of the mode that the chip resists. -/
def setUp : List (Nat × Operation) :=
  [(0, .setMode .forced), (2, .setFilter .size3), (1, .setHeater (.forced ⟨320, 150⟩))]

theorem settings_independent_setUp :
    (∀ step ∈ setUp, step.2.SetsUp) ∧ stubborn.link.inner.Steady ∧
    (∀ reply ∈ (ride setUp stubborn).1, reply.isOk) ∧
    (ride setUp stubborn).2.driver.config.filter = .size3 := by
  have hrun : ∀ step ∈ setUp, step.2.SetsUp := by
    intro step hstep
    simp only [setUp, List.mem_cons, List.not_mem_nil, or_false] at hstep
    rcases hstep with rfl | rfl | rfl
    · trivial
    · trivial
    · exact List.cons_ne_nil _ _
  have hs : stubborn.link.inner.Steady := ⟨fun _ => rfl, rfl, rfl, rfl⟩
  obtain ⟨hreplies, hconfig, hknown, _⟩ := settings_independent hrun hs
  have hinforms : ∃ step ∈ setUp, step.2.Informs :=
    ⟨(2, .setFilter .size3), by simp [setUp], .inr rfl⟩
  refine ⟨hrun, hs, hreplies, ?_⟩
  rw [hknown hinforms, hconfig]
  rfl

end Session

end AirMonitor
