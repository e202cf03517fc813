import AirMonitor.Proofs.Untouched
import AirMonitor.Sensor.Operation
import Mathlib

namespace AirMonitor

/-- How writing a configuration can end: the chip has either not been sent it, or it works with
it. -/
inductive ConfigWrite (config : Config) (t : Traced Device) :
    Except SensorError Unit × Traced Device → Prop where
  | unsent {after : Traced Device} (h : Same (Traced.shown .config) t after) :
    ConfigWrite config t (.error .commFailure, after)
  | sent {after : Traced Device} {reply : Except SensorError Unit}
    (hreply : ∀ e, reply = .error e → e = .commFailure)
    (hconfig : after.inner.registers.config = config)
    (hsent : after.configWrites = t.configWrites + 1) : ConfigWrite config t (reply, after)

namespace Link

/-- A program that leaves the configuration alone may come first. -/
theorem configWrite_bind {config : Config} {first : Link (Traced Device) α}
    {next : α → Link (Traced Device) Unit} (hkeeps : Within (Same (Traced.shown .config)) first)
    (hcomm : OnlyComm first) (hnext : ∀ a t, ConfigWrite config t (next a t))
    (t : Traced Device) :
    ConfigWrite config t ((first >>= next : Link (Traced Device) Unit) t) := by
  have hfirst := hkeeps t
  have hwrites : (first t).2.configWrites = t.configWrites := congrArg Prod.snd hfirst
  rw [bind_apply]
  cases hr : (first t).1 with
  | error e =>
    rw [hcomm t e hr]
    exact .unsent hfirst
  | ok a =>
    change ConfigWrite config t (next a (first t).2)
    have h := hnext a (first t).2
    generalize next a (first t).2 = ended at h
    cases h with
    | unsent h => exact .unsent (h.trans hfirst)
    | sent hreply hconfig hsent => exact .sent hreply hconfig (hsent.trans (by rw [hwrites]))

/-- Nothing that comes after a configuration was taken over changes it again. -/
theorem configWrite_write {resume : Link (Traced Device) Unit}
    (hkeeps : Within (Same (Traced.shown .config)) resume) (hcomm : OnlyComm resume)
    (config : Config) (block : ConfigBlock) (t : Traced Device) : ConfigWrite config t ((do
      write (consecutive Register.ctrlGas1 (config.patch block).toList)
      resume : Link (Traced Device) Unit) t) := by
  generalize hpairs : consecutive Register.ctrlGas1 (config.patch block).toList = pairs
  rw [bind_apply]
  rcases write_cases pairs t with ⟨hlength, _⟩ | ⟨frame, hf, hw | hw⟩
  · subst hpairs
    simp [Config.patch, consecutive, Register.maxWritePairs] at hlength
  · rw [hw]
    exact .unsent (Traced.same_counted .config t (by simp))
  · rw [hw]
    have hresume := hkeeps ⟨t.inner.counted.storeAll pairs, t.events ++ [.write frame true]⟩
    apply ConfigWrite.sent (hcomm _)
    · apply (RegisterFile.config_congr (congrArg Prod.fst hresume)).trans
      rw [RegisterFile.config_congr (Device.storeAll_bits RegisterBits.mode_apart_config _ _),
        ← hpairs, RegisterFile.setPairs_consecutive]
      exact RegisterFile.config_setBlock _ config block
    · have hframe : frame.register = Register.ctrlGas1 :=
        WriteFrame.register_of_consecutive (hpairs ▸ hf)
      apply (congrArg Prod.snd hresume).trans
      simp [Traced.shown, Traced.configWrites, hframe]

theorem writeConfig_cases (config : Config) (t : Traced Device) :
    ConfigWrite config t (writeConfig config t) := by
  have hmode := RegisterBits.mode_apart_config
  have hread : Within (Same (Traced.shown .config)) (readMode : Link (Traced Device) Mode) :=
    within_bind (within_bind (read_keeps _ _) fun _ => within_pure _) fun _ => within_pure _
  apply configWrite_bind hread .readMode
  intro mode t
  apply configWrite_bind (changeMode_keeps hmode .sleep) (.changeMode .sleep)
  intro _ t
  apply configWrite_bind (read_keeps _ _) (.read _ (by decide) (by decide))
  intro block t
  apply configWrite_write
  · split
    · exact changeMode_keeps hmode mode
    · exact within_pure _
  · split
    · exact .changeMode mode
    · exact .pure _

theorem readConfig_keeps {chosen : RegisterBits} :
    Within (Same (Traced.shown chosen)) (readConfig : Link (Traced Device) Config) :=
  within_bind (read_keeps _ _) fun _ => within_pure _

theorem readConfig_ok {t : Traced Device} {config : Config}
    (h : (readConfig t).1 = .ok config) : config = t.inner.registers.config := by
  rw [readConfig, bind_apply] at h
  rcases read_cases Register.ctrlGas1 5 t with ⟨_, hr⟩ | hr | hr
  · simp [hr] at h
  · simp [hr] at h
  · simp only [hr, pure_apply, Except.ok.injEq] at h
    exact h.symm

end Link

/-- A configuration setter and what it does to a configuration. -/
def Operation.change? : Operation → Option (Config → Config)
  | .setOversampling temperature pressure humidity =>
    some fun config => { config with temperature, pressure, humidity }
  | .setFilter filter => some fun config => { config with filter }
  | .setStandby standby => some fun config => { config with standby }
  | _ => none

namespace Session

def registers (s : Session (Traced Device)) : RegisterFile := s.link.inner.registers

/-- How changing the configuration can end, by what is known of it afterwards. -/
inductive Changed (change : Config → Config) (s : Session (Traced Device)) :
    Except SensorError Unit × Session (Traced Device) → Prop where
  | skipped {after : Session (Traced Device)} (hknown : after.driver.config = s.driver.config)
    (hlink : Same (Traced.shown .config) s.link after.link) :
    Changed change s (.error .configWriteSkipped, after)
  | unsent {after : Session (Traced Device)}
    (hknown : after.driver.config = s.link.inner.registers.config)
    (hlink : Same (Traced.shown .config) s.link after.link) :
    Changed change s (.error .commFailure, after)
  | torn {after : Session (Traced Device)}
    (hknown : after.driver.config = s.link.inner.registers.config)
    (hconfig : after.link.inner.registers.config = change s.link.inner.registers.config)
    (hsent : after.link.configWrites = s.link.configWrites + 1) :
    Changed change s (.error .commFailure, after)
  | written {after : Session (Traced Device)}
    (hknown : after.driver.config = change s.link.inner.registers.config)
    (hconfig : after.link.inner.registers.config = change s.link.inner.registers.config) :
    Changed change s (.ok (), after)

theorem readConfig_known (s : Session (Traced Device)) : (readConfig s).2.driver.config =
    match (Link.readConfig s.link).1 with
    | .ok config => config
    | .error _ => s.driver.config := by
  rw [readConfig, attempt]
  cases (Link.readConfig s.link).1 <;> rfl

theorem changeConfig_cases (change : Config → Config) (s : Session (Traced Device)) :
    Changed change s (changeConfig change s) := by
  have hread := @Link.readConfig_keeps .config s.link
  have hknown := readConfig_known s
  rw [changeConfig, bind_run]
  cases hr : (Link.readConfig s.link).1 with
  | error e =>
    rw [hr] at hknown
    have hreply : (readConfig s).1 = .error e := hr
    rw [hreply]
    exact .skipped hknown hread
  | ok config =>
    rw [hr] at hknown
    have hreply : (readConfig s).1 = .ok config := hr
    have hconfig : config = s.link.inner.registers.config := Link.readConfig_ok hr
    have hwrites : (readConfig s).2.link.configWrites = s.link.configWrites :=
      congrArg Prod.snd hread
    rw [hreply]
    have hwrite := Link.writeConfig_cases (change config) (readConfig s).2.link
    simp only [attempt]
    generalize Link.writeConfig (change config) (readConfig s).2.link = ended at hwrite
    cases hwrite with
    | unsent h => exact .unsent (hknown.trans hconfig) (h.trans hread)
    | @sent after reply hcomm htaken hsent =>
      rw [hconfig] at htaken
      cases reply with
      | ok u => exact .written (congrArg change hconfig) htaken
      | error e =>
        rw [hcomm e rfl]
        exact .torn (hknown.trans hconfig) htaken (hsent.trans (by rw [hwrites]))

theorem perform_of_change {σ : Type} [Transport σ] [Settling σ] {operation : Operation}
    {change : Config → Config} (h : operation.change? = some change) (s : Session σ) :
    perform operation s =
      ((changeConfig change s).1.map fun _ => .done, (changeConfig change s).2) := by
  cases operation with
  | setOversampling temperature pressure humidity =>
    cases h
    rfl
  | setFilter filter =>
    cases h
    rfl
  | setStandby standby =>
    cases h
    rfl
  | _ => cases h

/-- The warning about a shared time that is missing is only logged. -/
theorem setHeater_run {σ : Type} [Transport σ] [Settling σ] (profile : HeaterProfile)
    (s : Session σ) :
    (setHeater profile s).1 = (attempt (Link.programHeater s.driver.variant s.driver.heaterTarget
      profile) (fun _ => Driver.withHeater profile) s).1 ∧
    (setHeater profile s).2.driver = (attempt (Link.programHeater s.driver.variant
      s.driver.heaterTarget profile) (fun _ => Driver.withHeater profile) s).2.driver ∧
    (setHeater profile s).2.link = (attempt (Link.programHeater s.driver.variant
      s.driver.heaterTarget profile) (fun _ => Driver.withHeater profile) s).2.link := by
  simp only [setHeater, bind_run, get_run]
  split <;> exact ⟨rfl, rfl, rfl⟩

@[simp] theorem performAll_cons {σ : Type} [Transport σ] [Settling σ] (operation : Operation)
    (rest : List Operation) (s : Session σ) :
    (performAll (operation :: rest) s).2 = (performAll rest (perform operation s).2).2 := by
  simp only [performAll, List.mapM_cons, bind_run, pure_run]

theorem performAll_append {σ : Type} [Transport σ] [Settling σ] (past rest : List Operation)
    (s : Session σ) :
    (performAll (past ++ rest) s).2 = (performAll rest (performAll past s).2).2 := by
  induction past generalizing s with
  | nil => rfl
  | cons operation past ih => rw [List.cons_append, performAll_cons, performAll_cons, ih]

/-- The configuration that is known, the one the chip works with, and how many it was sent. -/
def mirrored (s : Session (Traced Device)) : Config × RegisterBits × Nat :=
  (s.driver.config, s.link.shown .config)

theorem within_attempt {program : Link (Traced Device) α} {learn : α → Driver → Driver}
    (hprogram : Within (Same (Traced.shown .config)) program)
    (hlearn : ∀ a driver, (learn a driver).config = driver.config) :
    Within (Same mirrored) (attempt program learn) := by
  intro s
  have hlink := hprogram s.link
  have hknown : (s.driver.conclude learn (program s.link).1).config = s.driver.config := by
    cases (program s.link).1 with
    | ok a => exact hlearn a _
    | error e => rfl
  exact Prod.ext hknown hlink

/-- What the chip works with is what is known of it. -/
def Mirrors (s : Session (Traced Device)) : Prop :=
  s.driver.config = s.link.inner.registers.config

theorem mirrors_congr {s t : Session (Traced Device)} (h : Same mirrored s t) :
    t.Mirrors ↔ s.Mirrors := by
  have hknown : t.driver.config = s.driver.config := congrArg Prod.fst h
  have hconfig : t.link.inner.registers.config = s.link.inner.registers.config :=
    RegisterFile.config_congr (congrArg (fun shown => shown.2.1) h)
  rw [Mirrors, Mirrors, hknown, hconfig]

theorem setMode_mirrored (mode : Mode) :
    Within (Same mirrored) (setMode (σ := Traced Device) mode) := by
  apply within_attempt (Link.changeMode_keeps RegisterBits.mode_apart_config mode)
  intro _ driver
  rw [Driver.withMode]
  split <;> rfl

theorem setHeater_mirrored (profile : HeaterProfile) :
    Within (Same mirrored) (setHeater (σ := Traced Device) profile) := by
  have hprogram (driver : Driver) :=
    Link.programHeater_keeps RegisterBits.mode_apart_config RegisterBits.heater_apart_config
      driver.variant driver.heaterTarget profile
  refine Within.bind Within.get fun s => Within.bind ?_ fun result => ?_
  · exact within_attempt (hprogram s.driver) fun _ _ => rfl
  · split
    · exact Within.bind (fun _ => rfl) fun _ => Within.pure _
    · exact Within.bind (Within.pure _) fun _ => Within.pure _

theorem fetch_mirrored : Within (Same mirrored) (fetch (σ := Traced Device)) := by
  exact Within.bind (fun _ => rfl) fun _ => Within.bind Within.get fun s =>
    Within.bind (within_attempt (Link.readFields_keeps _) fun _ _ => rfl) fun _ =>
      Within.bind Within.get fun _ => Within.pure _

/-- The configuration was read from the chip, or one was sent to it after it was read. -/
def Told (operation : Operation) (s : Session (Traced Device)) : Prop :=
  ((perform operation s).1.isOk ∧ (operation = .readConfig ∨ operation.change?.isSome)) ∨
  ((perform operation s).1 = .error .commFailure ∧ operation.change?.isSome)

/-- A setter failed, although the chip had already taken over the configuration that it sent, and
that is not the one the chip had. -/
def Torn (operation : Operation) (s : Session (Traced Device)) : Prop :=
  (perform operation s).1 = .error .commFailure ∧
  s.link.configWrites < (perform operation s).2.link.configWrites ∧
  ∃ change, operation.change? = some change ∧
    change s.link.inner.registers.config ≠ s.link.inner.registers.config

theorem mirrors_of_change {operation : Operation} {change : Config → Config}
    (hchange : operation.change? = some change) {s : Session (Traced Device)}
    (h : Told operation s) : (perform operation s).2.Mirrors ↔ ¬ Torn operation s := by
  have hperform := perform_of_change hchange s
  have hcases := changeConfig_cases change s
  have htorn : Torn operation s ↔ (changeConfig change s).1.map (fun _ => Reply.done) =
      .error .commFailure ∧ s.link.configWrites < (changeConfig change s).2.link.configWrites ∧
      change s.link.inner.registers.config ≠ s.link.inner.registers.config := by
    simp [Torn, hperform, hchange]
  rw [htorn, hperform]
  rw [Told, hperform] at h
  generalize changeConfig change s = ended at hcases h
  cases hcases with
  | skipped hknown hlink => simp [Except.map, Except.isOk, Except.toBool] at h
  | unsent hknown hlink =>
    apply iff_of_true
    · exact hknown.trans (RegisterFile.config_congr (congrArg Prod.fst hlink)).symm
    · intro ht
      exact absurd ht.2.1 (Nat.not_lt.2 (Nat.le_of_eq (congrArg Prod.snd hlink)))
  | torn hknown hconfig hsent =>
    rw [Mirrors, hknown, hconfig, hsent]
    constructor
    · intro he ht
      exact ht.2.2 he.symm
    · intro ht
      by_cases he : change s.link.inner.registers.config = s.link.inner.registers.config
      · exact he.symm
      · exact (ht ⟨rfl, Nat.lt_succ_self _, he⟩).elim
  | written hknown hconfig =>
    apply iff_of_true (hknown.trans hconfig.symm)
    intro ht
    cases ht.1

theorem mirrors_of_readConfig {s : Session (Traced Device)} (h : (perform .readConfig s).1.isOk) :
    (perform .readConfig s).2.Mirrors := by
  have hknown := readConfig_known s
  have hlink := @Link.readConfig_keeps .config s.link
  cases hr : (Link.readConfig s.link).1 with
  | error e =>
    have hreply : (perform .readConfig s).1 = (Except.error e).map Reply.config :=
      congrArg (Except.map Reply.config) hr
    rw [hreply] at h
    cases h
  | ok config =>
    rw [hr] at hknown
    have hconfig := RegisterFile.config_congr (congrArg Prod.fst hlink)
    exact hknown.trans ((Link.readConfig_ok hr).trans hconfig.symm)

theorem mirrors_of_told {operation : Operation} {s : Session (Traced Device)}
    (h : Told operation s) : (perform operation s).2.Mirrors ↔ ¬ Torn operation s := by
  cases hchange : operation.change? with
  | some change => exact mirrors_of_change hchange h
  | none =>
    rcases h with ⟨hok, rfl | hsome⟩ | ⟨_, hsome⟩
    · apply iff_of_true (mirrors_of_readConfig hok)
      intro ht
      obtain ⟨change, hc, _⟩ := ht.2.2
      cases hc
    · simp [hchange] at hsome
    · simp [hchange] at hsome

end Session

/-- The operations that only change registers of the chip as its driver means them to be. -/
def Operation.Managed : Operation → Prop
  | .setMode _ | .readConfig | .setOversampling _ _ _ | .setFilter _ | .setStandby _
  | .setHeater _ | .fetch => True
  | _ => False

namespace Session

theorem mirrors_of_unchanged {operation : Operation} {change : Config → Config}
    (hchange : operation.change? = some change) {s : Session (Traced Device)}
    (h : ¬ Told operation s) : (perform operation s).2.Mirrors ↔ s.Mirrors := by
  have hperform := perform_of_change hchange s
  have hcases := changeConfig_cases change s
  rw [Told, hperform, hchange] at h
  rw [hperform]
  generalize changeConfig change s = ended at hcases h
  cases hcases with
  | skipped hknown hlink => exact mirrors_congr (Prod.ext hknown hlink)
  | unsent hknown hlink => exact (h (.inr ⟨rfl, rfl⟩)).elim
  | torn hknown hconfig hsent => exact (h (.inr ⟨rfl, rfl⟩)).elim
  | written hknown hconfig => exact (h (.inl ⟨rfl, .inr rfl⟩)).elim

/-- Whatever else is done changes neither the configuration nor what is known of it. -/
theorem mirrors_of_untold {operation : Operation} (hmanaged : operation.Managed)
    {s : Session (Traced Device)} (h : ¬ Told operation s) :
    (perform operation s).2.Mirrors ↔ s.Mirrors := by
  cases operation with
  | setMode mode => exact mirrors_congr (setMode_mirrored mode s)
  | setHeater profile => exact mirrors_congr (setHeater_mirrored profile s)
  | fetch => exact mirrors_congr (fetch_mirrored s)
  | readConfig =>
    have hknown := readConfig_known s
    have hlink := @Link.readConfig_keeps .config s.link
    cases hr : (Link.readConfig s.link).1 with
    | error e =>
      rw [hr] at hknown
      exact mirrors_congr (Prod.ext hknown hlink)
    | ok config =>
      have hreply : (perform .readConfig s).1 = (Except.ok config).map Reply.config :=
        congrArg (Except.map Reply.config) hr
      have hok : (perform .readConfig s).1.isOk := by
        rw [hreply]
        rfl
      exact (h (.inl ⟨hok, .inl rfl⟩)).elim
  | setOversampling temperature pressure humidity => exact mirrors_of_unchanged rfl h
  | setFilter filter => exact mirrors_of_unchanged rfl h
  | setStandby standby => exact mirrors_of_unchanged rfl h
  | _ => exact hmanaged.elim

/-- A run in which nothing more is told about the configuration. -/
def Untold : List Operation → Session (Traced Device) → Prop
  | [], _ => True
  | operation :: rest, s =>
    operation.Managed ∧ ¬ Told operation s ∧ Untold rest (perform operation s).2

theorem mirrors_of_all_untold {rest : List Operation} {s : Session (Traced Device)}
    (h : Untold rest s) : (performAll rest s).2.Mirrors ↔ s.Mirrors := by
  induction rest generalizing s with
  | nil => rfl
  | cons operation rest ih =>
    obtain ⟨hmanaged, huntold, hrest⟩ := h
    rw [performAll_cons, ih hrest, mirrors_of_untold hmanaged huntold]

/-- What is known of the configuration is what the chip works with, from the time it was told
until it is told again, unless a setter was torn. -/
theorem mirrors_iff_not_torn {past rest : List Operation} {operation : Operation}
    {s : Session (Traced Device)} (htold : Told operation (performAll past s).2)
    (hrest : Untold rest (perform operation (performAll past s).2).2) :
    (performAll (past ++ operation :: rest) s).2.Mirrors ↔
      ¬ Torn operation (performAll past s).2 := by
  rw [performAll_append, performAll_cons, mirrors_of_all_untold hrest, mirrors_of_told htold]

/-- An active chip on a bus that fails when the mode is to be resumed. -/
def resumeFails : Session (Traced Device) where
  link := ⟨{ registers := RegisterFile.zero.set Register.ctrlMeas 1, failAt := (· == 7) }, []⟩

set_option maxRecDepth 100000 in
theorem setFilter_resumeFails :
    (perform (.setFilter .size3) resumeFails).1 = .error .commFailure ∧
    (perform (.setFilter .size3) resumeFails).2.link.configWrites = 1 ∧
    (perform (.setFilter .size3) resumeFails).2.driver.config.filter = .off ∧
    (perform (.setFilter .size3) resumeFails).2.link.inner.registers.config.filter = .size3 := by
  refine ⟨?_, ?_, ?_, ?_⟩ <;> cbv

theorem mirrors_iff_not_torn_resumeFails :
    Told (.setFilter .size3) resumeFails ∧
    Untold [.fetch] (perform (.setFilter .size3) resumeFails).2 ∧
    ¬ (performAll ([] ++ .setFilter .size3 :: [.fetch]) resumeFails).2.Mirrors := by
  obtain ⟨hreply, hsent, _, _⟩ := setFilter_resumeFails
  have htold : Told (.setFilter .size3) resumeFails := .inr ⟨hreply, rfl⟩
  have hfetch : ¬ Told .fetch (perform (.setFilter .size3) resumeFails).2 := by
    intro h
    rcases h with ⟨_, hnone | hnone⟩ | ⟨_, hnone⟩ <;> cases hnone
  have huntold : Untold [.fetch] (perform (.setFilter .size3) resumeFails).2 :=
    ⟨trivial, hfetch, trivial⟩
  have hother : ({ resumeFails.link.inner.registers.config with filter := .size3 } : Config) ≠
      resumeFails.link.inner.registers.config := by
    intro he
    have hfilter : Filter.size3 = .off := congrArg Config.filter he
    cases hfilter
  have htorn : Torn (.setFilter .size3) resumeFails :=
    ⟨hreply, hsent ▸ Nat.zero_lt_one, _, rfl, hother⟩
  exact ⟨htold, huntold, fun h => (mirrors_iff_not_torn htold huntold).1 h htorn⟩

/-- The setter fails and leaves what is known of the configuration behind the chip. -/
theorem setFilter_not_mirrored :
    (perform (.setFilter .size3) resumeFails).1 = .error .commFailure ∧
    (perform (.setFilter .size3) resumeFails).2.driver.config ≠
      (perform (.setFilter .size3) resumeFails).2.link.inner.registers.config := by
  obtain ⟨hreply, _, hknown, hconfig⟩ := setFilter_resumeFails
  apply And.intro hreply
  intro h
  rw [h, hconfig] at hknown
  cases hknown

end Session

end AirMonitor
