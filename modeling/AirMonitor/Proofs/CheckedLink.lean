import AirMonitor.Checked.Link
import AirMonitor.Proofs.CheckedDriver

namespace AirMonitor.Checked

variable {σ α β : Type}

theorem carry_pure (a : α) : carry (pure a : Link σ α) = pure a := rfl

theorem carry_bind (first : Link σ α) (next : α → Link σ β) :
    carry (first >>= next) = carry first >>= fun a => carry (next a) := by
  funext link
  simp only [carry, bind, ExceptT.bind, ExceptT.mk, StateT.bind]
  obtain ⟨result, after⟩ := first link
  cases result <;> rfl

theorem check_some (a : α) : check (σ := σ) (some a) = pure a := rfl

variable [Transport σ]

theorem write?_eq (pairs : List (UInt8 × UInt8)) :
    write? (σ := σ) pairs = carry (Link.write pairs) := by
  funext link
  cases pairs with
  | nil => rfl
  | cons pair pairs =>
    rw [write?, carry]
    by_cases h : Register.maxWritePairs < (pair :: pairs).length
    · rw [if_pos (.inr h), Link.write_refused (.inr h)]
      rfl
    · have hshort : pairs.length < Register.maxWritePairs := Nat.not_lt.1 h
      have hfits : ¬((pair :: pairs).length = 0 ∨
          Register.maxWritePairs < (pair :: pairs).length) :=
        not_or.2 ⟨Nat.succ_ne_zero _, h⟩
      rw [if_neg hfits, frame?_cons pair hshort, check_some, Link.write_sent rfl (Nat.not_lt.1 h)]
      rfl

/-- What is read takes the place of the middle part. -/
theorem readInto?_eq (register : UInt8) (front middle rest : List UInt8) (low high : Nat)
    (hlow : low = front.length) (hhigh : high = front.length + middle.length) :
    readInto? (σ := σ) register low high (front ++ middle ++ rest) = carry (do
      let bytes ← Link.read register middle.length
      return front ++ bytes.toList ++ rest) := by
  subst hlow hhigh
  rw [readInto?, slice?_middle, check_some, pure_bind, carry_bind, take_before_middle,
    drop_past_middle]
  rfl

theorem reset?_eq : (reset? : CheckedLink σ Unit) = carry Link.reset := by
  rw [reset?, Link.reset, write?_eq, carry_bind]

theorem readId?_eq : (readId? : CheckedLink σ UInt32) = carry Link.uniqueId := by
  have hbytes (id : Vector UInt8 4) : id.toList = [id[0], id[1], id[2], id[3]] :=
    toList_eq_ofFn id
  rw [readId?, Link.uniqueId, carry_bind]
  simp only [hbytes, uniqueId?_eq]
  rfl

theorem readDump?_eq : (readDump? : CheckedLink σ (List UInt8)) = carry (do
    let dump ← Link.readDump
    return dump.bytes) := by
  have hfirst := readInto?_eq (σ := σ) Register.coefficients1 [] (List.replicate 23 0)
    (List.replicate 19 0) 0 23 rfl rfl
  have hsecond (first : Vector UInt8 23) : readInto? (σ := σ) Register.coefficients2 23 (23 + 14)
      ([] ++ first.toList ++ List.replicate 19 0) = carry (do
        let bytes ← Link.read Register.coefficients2 14
        return first.toList ++ bytes.toList ++ List.replicate 5 0) := by
    have h := readInto?_eq (σ := σ) Register.coefficients2 first.toList (List.replicate 14 0)
      (List.replicate 5 0) 23 37 first.length_toList.symm (by simp)
    rwa [List.append_assoc] at h
  have hthird (first : Vector UInt8 23) (second : Vector UInt8 14) : readInto? (σ := σ)
      Register.coefficients3 (23 + 14)
      (first.toList ++ second.toList ++ List.replicate 5 0).length
      (first.toList ++ second.toList ++ List.replicate 5 0) = carry (do
        let bytes ← Link.read Register.coefficients3 5
        return first.toList ++ second.toList ++ bytes.toList) := by
    have h := readInto?_eq (σ := σ) Register.coefficients3 (first.toList ++ second.toList)
      (List.replicate 5 0) [] 37 _ (by simp) List.length_append
    simp only [List.append_nil] at h
    exact h
  rw [readDump?, Link.readDump]
  change (readInto? Register.coefficients1 0 23 ([] ++ List.replicate 23 0 ++ List.replicate 19 0)
    >>= fun buffer => _) = _
  simp only [hfirst, hsecond, hthird, carry_bind, bind_assoc, carry_pure, pure_bind]
  rfl

theorem handshake?_eq :
    (handshake? : CheckedLink σ (UInt8 × Calibration)) = carry Link.handshake := by
  rw [handshake?, Link.handshake, reset?_eq, readDump?_eq]
  simp only [carry_bind, bind_assoc]
  refine congrArg _ (funext fun _ => congrArg _ (funext fun chip => ?_))
  split
  · rfl
  · simp only [carry_bind, carry_pure, pure_bind, calibration?_eq, check_some]

theorem readConfig?_eq : (readConfig? : CheckedLink σ Config) = carry Link.readConfig := by
  rw [readConfig?, Link.readConfig, carry_bind]
  simp only [config?_eq]
  rfl

theorem writeTable?_eq {capacity : Nat} {base : UInt8} {values : List UInt8}
    (hroom : values.length ≤ capacity) (hregister : base.toNat + values.length ≤ 256) :
    writeTable? (σ := σ) capacity base values = carry (Link.write (consecutive base values)) := by
  rw [writeTable?, table?_eq hroom hregister, check_some, pure_bind, write?_eq]

theorem mapM_some {γ δ : Type} (f : γ → δ) (xs : List γ) :
    xs.mapM (fun x => some (f x)) = some (xs.map f) :=
  List.mapM_pure

theorem writeSteps?_eq {target wait : HeaterStep → Option UInt8}
    {target' wait' : HeaterStep → UInt8} (htarget : ∀ step, target step = some (target' step))
    (hwait : ∀ step, wait step = some (wait' step)) (steps : HeaterSteps) :
    writeSteps? (σ := σ) target wait steps.1 = carry (Link.writeSteps target' wait' steps.1) := by
  obtain ⟨steps, hsteps⟩ := steps
  have htable {base : UInt8} (hbase : base.toNat ≤ 246) (value : HeaterStep → UInt8) :
      table? HeaterSteps.capacity base (steps.map value) =
        some (consecutive base (steps.map value)) := by
    have hlength : (steps.map value).length ≤ 10 := by
      rw [List.length_map]
      exact hsteps
    exact table?_eq hlength (by omega)
  cases steps with
  | nil => rfl
  | cons step steps =>
    have hsome : (step :: steps).length ≠ 0 := Nat.succ_ne_zero _
    rw [writeSteps?, Link.writeSteps, if_neg hsome, funext htarget, funext hwait, mapM_some,
      mapM_some]
    simp only [check_some, pure_bind, htable (show Register.heaterTarget0.toNat ≤ 246 by decide),
      htable (show Register.heaterWait0.toNat ≤ 246 by decide), write?_eq, carry_bind]

theorem writeProfile?_eq (target : HeaterStep → UInt8) (profile : HeaterProfile) :
    writeProfile? (σ := σ) target profile = carry (Link.writeProfile target profile) := by
  cases profile with
  | forced step =>
    simp only [writeProfile?, Link.writeProfile, encode?_eq, check_some, pure_bind, write?_eq,
      carry_bind]
    rfl
  | sequential steps =>
    simp only [writeProfile?, Link.writeProfile, carry_bind]
    rw [writeSteps?_eq (fun _ => rfl) (fun step => encode?_eq step.duration) steps]
    rfl
  | parallel steps sharedMillis =>
    simp only [writeProfile?, Link.writeProfile, carry_bind, encodeShared?_eq, check_some,
      pure_bind, write?_eq]
    rw [writeSteps?_eq (fun _ => rfl) (fun _ => rfl) steps]
    rfl

theorem blocks_eq_map (count : Nat) (bytes : List UInt8) : blocks count bytes =
    (List.range count).map fun i => (bytes.drop (17 * i)).take 17 := by
  induction count generalizing bytes with
  | zero => rfl
  | succ count ih =>
    rw [blocks, ih, List.range_succ_eq_map, List.map_cons, List.map_map]
    simp only [Register.fieldLength, List.drop_drop, Nat.mul_zero, List.drop_zero,
      Function.comp_def, Nat.mul_succ, Nat.add_comm 17]

theorem toList_slice {count : Nat} (bytes : Vector UInt8 (17 * count)) (i : Fin count) :
    (FieldBlock.slice bytes i).toList = (bytes.toList.drop (17 * i.val)).take 17 := by
  have hi := i.isLt
  apply List.ext_getElem
  · rw [Vector.length_toList, List.length_take_of_le]
    rw [List.length_drop, Vector.length_toList]
    omega
  · intro j hj hj'
    simp [FieldBlock.slice]

theorem blocks_eq {count : Nat} (bytes : Vector UInt8 (17 * count)) :
    blocks count bytes.toList =
      ((List.finRange count).map (FieldBlock.slice bytes)).map Vector.toList := by
  rw [blocks_eq_map, List.map_map, ← List.map_coe_finRange_eq_range, List.map_map]
  exact List.map_congr_left fun i _ => (toList_slice bytes i).symm

theorem readBlocks?_eq {count : Nat} (h : count ≤ 3) : readBlocks? (σ := σ) count = carry (do
    let blocks ← Link.readBlocks count
    return blocks.map Vector.toList) := by
  have hread := readInto?_eq (σ := σ) Register.field0 [] (List.replicate (17 * count) 0)
    (List.replicate (51 - 17 * count) 0) 0 (17 * count) rfl (by simp)
  rw [List.nil_append, List.replicate_append_replicate, Nat.add_sub_cancel' (by omega),
    List.length_replicate] at hread
  have hslice (bytes : Vector UInt8 (17 * count)) :
      slice? ([] ++ bytes.toList ++ List.replicate (51 - 17 * count) 0) 0 (17 * count) =
        some bytes.toList := by
    have hall := slice?_append bytes.toList (List.replicate (51 - 17 * count) 0)
    rwa [bytes.length_toList] at hall
  rw [readBlocks?, Link.readBlocks, Register.fieldLength, Register.maxReadLength,
    Nat.mul_comm count, hread]
  simp only [carry_bind, bind_assoc, carry_pure, pure_bind, hslice, check_some, blocks_eq]

theorem readFields?_eq (mode : Mode) : readFields? (σ := σ) mode = carry (do
    let blocks ← Link.readFields mode
    return blocks.map Vector.toList) := by
  cases mode with
  | sleep => rfl
  | forced => exact readBlocks?_eq (by decide)
  | parallel => exact readBlocks?_eq (by decide)
  | sequential => exact readBlocks?_eq (by decide)

variable [Settling σ]

theorem sleep?_step (link : σ) : sleep? link =
    match (Transport.read Register.ctrlMeas 1 link).1 with
    | .error _ => some (.error .commFailure, (Transport.read Register.ctrlMeas 1 link).2)
    | .ok control =>
      if Register.mode.get (onlyByte control) = 0 then
        some (.ok (onlyByte control), (Transport.read Register.ctrlMeas 1 link).2)
      else
        let asked := Transport.write (sleepRequest (onlyByte control))
          (Transport.read Register.ctrlMeas 1 link).2
        match asked.1 with
        | .error _ => some (.error .commFailure, asked.2)
        | .ok () => sleep? (Transport.delay Register.settleMicros asked.2) := by
  rw [sleep?]
  split
  · next hr => simp only [hr]
  · next control hr =>
    split
    · next hm => simp only [hr, hm, ↓reduceIte]
    · next hm =>
      simp only [hr, hm, ↓reduceIte]
      split
      · next hf => cases hf
      · next frame hf =>
        obtain rfl : sleepRequest (onlyByte control) = frame := Option.some.inj hf
        split <;> next hw => simp only [hw]

theorem sleep?_eq (link : σ) : sleep? link = some (Link.sleep link) := by
  induction link using Link.sleep_induction with
  | unread t e hr => rw [sleep?_step, hr]
  | asleep t control hr hm => simp only [sleep?_step t, hr, hm, ↓reduceIte]
  | refused t control hr hm u e hw => simp only [sleep?_step t, hr, hm, hw, ↓reduceIte]
  | asked t control hr hm u hw ih => simp only [sleep?_step t, hr, hm, hw, ih, ↓reduceIte]

theorem changeMode?_eq (mode : Mode) :
    changeMode? (σ := σ) mode = carry (Link.changeMode mode) := by
  have hsleep : (sleep? : CheckedLink σ UInt8) = carry Link.sleep := funext sleep?_eq
  rw [changeMode?, Link.changeMode, hsleep, carry_bind]
  simp only [write?_eq]
  refine congrArg _ (funext fun control => ?_)
  split <;> rfl

theorem writeConfig?_eq (config : Config) :
    writeConfig? (σ := σ) config = carry (Link.writeConfig config) := by
  have htable (block : ConfigBlock) : writeTable? (σ := σ) 5 Register.ctrlGas1 block.toList =
      carry (Link.write (consecutive Register.ctrlGas1 block.toList)) :=
    writeTable?_eq (by simp) (by simp [Register.ctrlGas1])
  rw [writeConfig?, Link.writeConfig]
  simp only [changeMode?_eq, patch?_eq, check_some, pure_bind, htable, carry_bind]
  refine congrArg _ (funext fun mode => ?_)
  split <;> rfl

theorem programHeater?_eq (variant : UInt8) (target : HeaterStep → UInt8)
    (profile : HeaterProfile) : programHeater? (σ := σ) variant target profile =
      carry (Link.programHeater variant target profile) := by
  have hbytes (control : Vector UInt8 2) : control.toList = [control[0], control[1]] :=
    toList_eq_ofFn control
  rw [programHeater?, Link.programHeater]
  simp only [changeMode?_eq, writeProfile?_eq, hbytes, gasControl?_eq, check_some, pure_bind,
    write?_eq, carry_bind]

end AirMonitor.Checked
