import AirMonitor.CarbonDioxide.Meter
import AirMonitor.Proofs.Frame
import Mathlib

namespace AirMonitor.CarbonDioxide

/-- What comes over the line, byte by byte and without its pauses; `none` is an end or a failure
of the line. -/
def Arrival.shown : Arrival → List (Option UInt8)
  | .bytes (first :: more) => some first :: more.map some
  | .gap => []
  | .bytes [] | .endOfStream | .fault => [none]

def stream (inbox : List Arrival) : List (Option UInt8) := inbox.flatMap Arrival.shown

/-- The pauses before so many bytes are there, or before the line ends or fails. -/
def pauses : Nat → List Arrival → Nat
  | wanted + 1, .gap :: inbox => pauses (wanted + 1) inbox + 1
  | wanted + 1, .bytes (_ :: more) :: inbox => pauses (wanted - more.length) inbox
  | _, _ => 0

/-- A receiver that gets the bytes one by one. -/
def gather : Nat → List UInt8 → List (Option UInt8) → Except ReceiveError (List UInt8)
  | 0, got, _ => .ok got
  | _ + 1, _, [] => .error .timeout
  | _ + 1, _, none :: _ => .error .broken
  | wanted + 1, got, some byte :: rest => gather wanted (got ++ [byte]) rest

theorem pauses_zero (inbox : List Arrival) : pauses 0 inbox = 0 := by
  rw [pauses.eq_def]

theorem gather_append {wanted : Nat} {bytes : List UInt8} (h : bytes.length ≤ wanted)
    (got : List UInt8) (rest : List (Option UInt8)) :
    gather wanted got (bytes.map some ++ rest) =
      gather (wanted - bytes.length) (got ++ bytes) rest := by
  induction bytes generalizing wanted got with
  | nil => simp
  | cons byte bytes ih =>
    obtain ⟨wanted, rfl⟩ := Nat.exists_eq_add_one_of_ne_zero (Nat.ne_zero_of_lt h)
    rw [List.map_cons, List.cons_append, gather, ih (Nat.le_of_succ_le_succ h), List.append_assoc,
      List.length_cons, Nat.add_sub_add_right]
    rfl

theorem gather_broken {wanted : Nat} {bytes : List UInt8} (h : bytes.length < wanted)
    (got : List UInt8) (rest : List (Option UInt8)) :
    gather wanted got (bytes.map some ++ none :: rest) = .error .broken := by
  obtain ⟨more, hmore⟩ := Nat.exists_eq_add_of_lt h
  rw [gather_append (Nat.le_of_lt h), hmore, Nat.add_assoc, Nat.add_sub_cancel_left]
  rfl

theorem gather_silent {wanted : Nat} {bytes : List UInt8} (h : bytes.length < wanted)
    (got : List UInt8) : gather wanted got (bytes.map some) = .error .timeout := by
  obtain ⟨more, hmore⟩ := Nat.exists_eq_add_of_lt h
  rw [← List.append_nil (bytes.map some), gather_append (Nat.le_of_lt h), hmore, Nat.add_assoc,
    Nat.add_sub_cancel_left]
  rfl

theorem stream_cons {bytes : List UInt8} (h : bytes ≠ []) (inbox : List Arrival) :
    stream (.bytes bytes :: inbox) = bytes.map some ++ stream inbox := by
  obtain ⟨byte, bytes, rfl⟩ := List.exists_cons_of_ne_nil h
  rfl

theorem pauses_cons {bytes : List UInt8} (h : bytes ≠ []) (wanted : Nat) (inbox : List Arrival) :
    pauses wanted (.bytes bytes :: inbox) = pauses (wanted - bytes.length) inbox := by
  obtain ⟨byte, bytes, rfl⟩ := List.exists_cons_of_ne_nil h
  cases wanted with
  | zero => rw [pauses_zero, Nat.zero_sub, pauses_zero]
  | succ wanted => rw [pauses, List.length_cons, Nat.add_sub_add_right]

theorem pauses_stop {arrival : Arrival} (h : arrival.shown = [none]) (wanted : Nat)
    (inbox : List Arrival) : pauses wanted (arrival :: inbox) = 0 := by
  cases wanted with
  | zero => exact pauses_zero _
  | succ wanted =>
    cases arrival with
    | gap => cases h
    | endOfStream => rfl
    | fault => rfl
    | bytes bytes =>
      cases bytes with
      | nil => rfl
      | cons first more => cases h

/-- What holds of every reception, by what the receiver finds next on the line. -/
theorem receive_induction {P : Nat → Nat → Bool → List UInt8 → List Arrival → Reception → Prop}
    (done : ∀ patience timed got inbox, P 0 patience timed got inbox ⟨.ok got, inbox, timed⟩)
    (silent : ∀ wanted patience timed got,
      P (wanted + 1) patience timed got [] ⟨.error .timeout, [], true⟩)
    (late : ∀ wanted timed got inbox,
      P (wanted + 1) 0 timed got (.gap :: inbox) ⟨.error .timeout, inbox, true⟩)
    (paused : ∀ wanted patience timed got inbox reception,
      P (wanted + 1) patience true got inbox reception →
      P (wanted + 1) (patience + 1) timed got (.gap :: inbox) reception)
    (stopped : ∀ wanted patience timed got arrival inbox, arrival.shown = [none] →
      P (wanted + 1) patience timed got (arrival :: inbox) ⟨.error .broken, inbox, timed⟩)
    (cut : ∀ patience timed got taken left inbox, left ≠ [] →
      P taken.length patience timed got (.bytes (taken ++ left) :: inbox)
        ⟨.ok (got ++ taken), .bytes left :: inbox, timed⟩)
    (whole : ∀ wanted patience timed got chunk inbox reception, chunk ≠ [] →
      P wanted patience timed (got ++ chunk) inbox reception →
      P (chunk.length + wanted) patience timed got (.bytes chunk :: inbox) reception)
    (wanted patience : Nat) (timed : Bool) (got : List UInt8) (inbox : List Arrival) :
    P wanted patience timed got inbox (receive wanted patience timed got inbox) := by
  induction inbox generalizing wanted patience timed got with
  | nil =>
    cases wanted with
    | zero => exact done _ _ _ _
    | succ wanted => exact silent _ _ _ _
  | cons arrival inbox ih =>
    cases wanted with
    | zero => exact done _ _ _ _
    | succ wanted =>
      cases arrival with
      | gap =>
        cases patience with
        | zero => exact late _ _ _ _
        | succ patience => exact paused _ _ _ _ _ _ (ih _ _ _ _)
      | endOfStream => exact stopped _ _ _ _ _ _ rfl
      | fault => exact stopped _ _ _ _ _ _ rfl
      | bytes chunk =>
        cases chunk with
        | nil => exact stopped _ _ _ _ _ _ rfl
        | cons first more =>
          have hchunk : first :: more ≠ [] := List.cons_ne_nil _ _
          generalize first :: more = chunk at hchunk
          rw [receive, if_neg (Nat.succ_ne_zero wanted)]
          · split
            · next hcut =>
              have hlength : (chunk.take (wanted + 1)).length = wanted + 1 :=
                List.length_take_of_le (Nat.le_of_lt hcut)
              have hleft : chunk.drop (wanted + 1) ≠ [] := by simpa using hcut
              have h := cut patience timed got (chunk.take (wanted + 1)) _ inbox hleft
              rwa [hlength, List.take_append_drop] at h
            · next hwhole =>
              have h := whole (wanted + 1 - chunk.length) patience timed got chunk inbox _ hchunk
                (ih _ _ _ _)
              rwa [Nat.add_sub_cancel' (Nat.le_of_not_lt hwhole)] at h
          · exact hchunk

/-- However the bytes are cut into chunks, and wherever there are pauses that the timer survives,
a receiver gets what it would get byte by byte. -/
theorem receive_result (wanted patience : Nat) (timed : Bool) (got : List UInt8)
    (inbox : List Arrival) : (receive wanted patience timed got inbox).result =
      if patience < pauses wanted inbox then .error .timeout
      else gather wanted got (stream inbox) := by
  induction wanted, patience, timed, got, inbox using receive_induction with
  | done patience timed got inbox =>
    rw [pauses_zero]
    rfl
  | silent wanted patience timed got => rfl
  | late wanted timed got inbox => simp [pauses]
  | paused wanted patience timed got inbox reception ih =>
    rw [pauses, ih]
    simp only [Nat.add_lt_add_iff_right]
    rfl
  | stopped wanted patience timed got arrival inbox h =>
    rw [pauses_stop h, stream, List.flatMap_cons, h]
    rfl
  | cut patience timed got taken left inbox h =>
    have hchunk : taken ++ left ≠ [] := List.append_ne_nil_of_right_ne_nil _ h
    have hmore : taken.length ≤ (taken ++ left).length := by simp
    rw [pauses_cons hchunk, Nat.sub_eq_zero_of_le hmore, pauses_zero, if_neg (Nat.not_lt_zero _),
      stream_cons hchunk, List.map_append, List.append_assoc, gather_append (Nat.le_refl _),
      Nat.sub_self]
    rfl
  | whole wanted patience timed got chunk inbox reception h ih =>
    rw [pauses_cons h, Nat.add_sub_cancel_left, ih, stream_cons h,
      gather_append (Nat.le_add_right _ _), Nat.add_sub_cancel_left]

/-- A receiver that got its bytes has taken them and nothing else; later pauses count from there. -/
theorem receive_rest {wanted patience : Nat} {timed : Bool} {got bytes : List UInt8}
    {inbox : List Arrival} : (receive wanted patience timed got inbox).result = .ok bytes →
    stream (receive wanted patience timed got inbox).inbox = (stream inbox).drop wanted ∧
    ∀ count, pauses (wanted + count) inbox = pauses wanted inbox +
      pauses count (receive wanted patience timed got inbox).inbox := by
  induction wanted, patience, timed, got, inbox using receive_induction with
  | done patience timed got inbox =>
    intro _
    refine ⟨rfl, fun count => ?_⟩
    rw [pauses_zero, Nat.zero_add, Nat.zero_add]
  | silent wanted patience timed got => rintro ⟨⟩
  | late wanted timed got inbox => rintro ⟨⟩
  | paused wanted patience timed got inbox reception ih =>
    intro h
    obtain ⟨hstream, hpauses⟩ := ih h
    refine ⟨hstream, fun count => ?_⟩
    have hmore : wanted + 1 + count = wanted + count + 1 := Nat.succ_add wanted count
    have hpauses := hpauses count
    rw [hmore] at hpauses ⊢
    rw [pauses, pauses, hpauses, Nat.add_right_comm]
  | stopped wanted patience timed got arrival inbox h => rintro ⟨⟩
  | cut patience timed got taken left inbox h =>
    intro _
    have hchunk : taken ++ left ≠ [] := List.append_ne_nil_of_right_ne_nil _ h
    have hlength : (taken ++ left).length = taken.length + left.length := List.length_append
    refine ⟨?_, fun count => ?_⟩
    · rw [stream_cons h, stream_cons hchunk, List.map_append, List.append_assoc]
      exact (List.drop_left' (List.length_map _)).symm
    · rw [pauses_cons hchunk, pauses_cons hchunk, pauses_cons h, hlength,
        Nat.add_sub_add_left, Nat.sub_eq_zero_of_le (Nat.le_add_right _ _), pauses_zero,
        Nat.zero_add]
  | whole wanted patience timed got chunk inbox reception h ih =>
    intro hr
    obtain ⟨hstream, hpauses⟩ := ih hr
    refine ⟨?_, fun count => ?_⟩
    · rw [hstream, stream_cons h, ← List.drop_drop, List.drop_left' (List.length_map _)]
    · rw [pauses_cons h, pauses_cons h, Nat.add_assoc, Nat.add_sub_cancel_left,
        Nat.add_sub_cancel_left, hpauses]

namespace Frame

theorem ofList_toList (frame : Frame) : ofList frame.toList = frame := by
  apply Vector.ext
  intro i hi
  simp [ofList]

/-- A frame is valid if its bytes after the first one add up to a multiple of 256. -/
theorem isValid_iff (frame : Frame) :
    frame.isValid ↔ ((frame.toList.drop 1).map UInt8.toNat).sum % 256 = 0 := by
  obtain ⟨⟨bytes⟩, hsize⟩ := frame
  match bytes, hsize with
  | [b0, b1, b2, b3, b4, b5, b6, b7, b8], _ =>
    have hsum : isValid ⟨#[b0, b1, b2, b3, b4, b5, b6, b7, b8], rfl⟩ =
      (b8 == (0xFF - (b1 + b2 + b3 + b4 + b5 + b6 + b7)) + 1) := rfl
    rw [hsum, beq_iff_eq, ← UInt8.toNat_inj]
    simp only [UInt8.toNat_add, UInt8.toNat_sub, Vector.toList_mk, List.drop_succ_cons,
      List.drop_zero, List.map_cons, List.map_nil, List.sum_cons, List.sum_nil]
    have hones : (0xFF : UInt8).toNat = 255 := rfl
    have hone : (1 : UInt8).toNat = 1 := rfl
    have hlast := b8.toNat_lt
    omega

theorem concentration_eq (frame : Frame) : frame.concentration =
    UInt16.ofNat (256 * (frame.get 2).toNat + (frame.get 3).toNat) := by
  rw [← toNat_wordOf, UInt16.ofNat_toNat]
  rfl

end Frame

namespace Uart

/-- However few bytes a write takes, all of them are sent. -/
theorem sendAll_eq (uart : Uart) (bytes : List UInt8) :
    uart.sendAll bytes = { uart with sent := uart.sent ++ bytes } := by
  induction uart, bytes using sendAll.induct with
  | case1 uart =>
    rw [sendAll, List.append_nil]
  | case2 uart byte rest taken ih =>
    have hrest : taken ++ rest.drop taken.length = rest :=
      List.prefix_iff_eq_append.1 (List.take_prefix _ _)
    rw [sendAll, ih]
    simp only [List.append_assoc, List.cons_append]
    exact congrArg (fun sent => { uart with sent := uart.sent ++ byte :: sent }) hrest

end Uart

namespace Meter

def readings : Nat → StateM Meter (List (Except MeterError UInt16))
  | 0 => return []
  | count + 1 => do
    let result ← read
    let results ← readings count
    return result :: results

theorem readRequest_toList :
    Frame.readRequest.toList = [0xFF, 0x01, 0x86, 0, 0, 0, 0, 0, 0x79] := by
  decide

theorem accept_eq (answer : Frame) : accept answer =
    if ((answer.toList.drop 1).map UInt8.toNat).sum % 256 = 0 then
      .ok (UInt16.ofNat (256 * (answer.get 2).toNat + (answer.get 3).toNat))
    else .error .checksum := by
  rw [accept, answer.concentration_eq]
  by_cases hvalid : answer.isValid
  · rw [if_pos hvalid, if_pos (answer.isValid_iff.1 hvalid)]
  · rw [if_neg hvalid, if_neg (mt answer.isValid_iff.2 hvalid)]

variable {meter : Meter}

/-- However it ends, a request is sent as a whole or not at all. -/
theorem send_eq (frame : Frame) (meter : Meter) : send frame meter =
    (if meter.uart.failWrite ∨ meter.uart.failFlush then .error .write else .ok (),
      { meter with uart := { meter.uart with
        sent := if meter.uart.failWrite then meter.uart.sent
          else meter.uart.sent ++ frame.toList } }) := by
  obtain ⟨⟨inbox, patience, writeMax, failWrite, failFlush, sent, timers⟩, journal⟩ := meter
  rw [send, Uart.transmit, Uart.sendAll_eq]
  cases failWrite with
  | true => rfl
  | false => cases failFlush <;> rfl

theorem read_unsent (h : meter.uart.failWrite ∨ meter.uart.failFlush) :
    (read meter).1 = .error .write ∧ (read meter).2.uart.inbox = meter.uart.inbox := by
  rw [read, bind_run, send_eq, if_pos h]
  exact ⟨rfl, rfl⟩

theorem read_sent (meter : Meter) : (read meter).2.uart.sent =
    if meter.uart.failWrite then meter.uart.sent
    else meter.uart.sent ++ Frame.readRequest.toList := by
  rw [read, bind_run, send_eq]
  by_cases h : meter.uart.failWrite ∨ meter.uart.failFlush
  · rw [if_pos h]
    rfl
  · rw [if_neg h]
    rfl

/-- A meter whose requests go out. -/
structure Ready (meter : Meter) : Prop where
  writes : meter.uart.failWrite = false
  flushes : meter.uart.failFlush = false

/-- The answer to a request is received after the whole request is sent. -/
theorem Ready.read (h : meter.Ready) :
    let reception := CarbonDioxide.receive 9 meter.uart.patience false [] meter.uart.inbox
    (Meter.read meter).1 =
      ((reception.result.mapError MeterError.ofReceive).map Frame.ofList).bind accept ∧
    ∃ sent timers, (Meter.read meter).2.uart =
      { meter.uart with sent, inbox := reception.inbox, timers } := by
  have hsent : ¬ (meter.uart.failWrite ∨ meter.uart.failFlush) := by
    simp [h.writes, h.flushes]
  rw [Meter.read, bind_run, send_eq, if_neg hsent]
  exact ⟨rfl, _, _, rfl⟩

theorem Ready.read_ready (h : meter.Ready) : (Meter.read meter).2.Ready := by
  obtain ⟨-, sent, timers, huart⟩ := h.read
  constructor
  · rw [huart]
    exact h.writes
  · rw [huart]
    exact h.flushes

/-- An answer is taken as it is, and nothing after it is touched. -/
theorem Ready.read_answer (h : meter.Ready) {answer : Frame} {later : List (Option UInt8)}
    (hstream : stream meter.uart.inbox = answer.toList.map some ++ later)
    (hpauses : pauses 9 meter.uart.inbox ≤ meter.uart.patience) :
    (Meter.read meter).1 = accept answer ∧ stream (Meter.read meter).2.uart.inbox = later ∧
    ∀ count, pauses (9 + count) meter.uart.inbox = pauses 9 meter.uart.inbox +
      pauses count (Meter.read meter).2.uart.inbox := by
  have hlength : answer.toList.length = 9 := answer.length_toList
  have hresult : (CarbonDioxide.receive 9 meter.uart.patience false [] meter.uart.inbox).result =
      .ok answer.toList := by
    rw [receive_result, if_neg (Nat.not_lt.2 hpauses), hstream,
      gather_append (Nat.le_of_eq hlength), hlength]
    rfl
  obtain ⟨hrest, hmore⟩ := receive_rest hresult
  obtain ⟨hread, sent, timers, huart⟩ := h.read
  rw [hresult] at hread
  rw [huart]
  refine ⟨?_, ?_, hmore⟩
  · rw [hread]
    exact congrArg accept answer.ofList_toList
  · rw [hrest, hstream]
    exact List.drop_left' (by rw [List.length_map, hlength])

theorem Ready.read_failed (h : meter.Ready) {e : ReceiveError}
    (hresult : (CarbonDioxide.receive 9 meter.uart.patience false [] meter.uart.inbox).result =
      .error e) : (Meter.read meter).1 = .error (.ofReceive e) := by
  rw [h.read.1, hresult]
  rfl

/-- Answers that come back to back are read one after another. -/
theorem Ready.readings_answers (h : meter.Ready) {answers : List Frame}
    {later : List (Option UInt8)}
    (hstream : stream meter.uart.inbox =
      answers.flatMap (fun answer => answer.toList.map some) ++ later)
    (hpauses : ∀ k < answers.length, pauses (9 * (k + 1)) meter.uart.inbox ≤
      pauses (9 * k) meter.uart.inbox + meter.uart.patience) :
    (readings answers.length meter).1 = answers.map accept ∧
    stream (readings answers.length meter).2.uart.inbox = later ∧
    (readings answers.length meter).2.uart.sent = meter.uart.sent ++
      (List.replicate answers.length Frame.readRequest.toList).flatten := by
  induction answers generalizing meter with
  | nil => exact ⟨rfl, hstream, (List.append_nil _).symm⟩
  | cons answer answers ih =>
    rw [List.flatMap_cons, List.append_assoc] at hstream
    have hfirst : pauses 9 meter.uart.inbox ≤ meter.uart.patience := by
      simpa [pauses_zero] using hpauses 0 (Nat.zero_lt_succ _)
    obtain ⟨hread, hrest, hmore⟩ := h.read_answer hstream hfirst
    have hsent := read_sent meter
    rw [h.writes] at hsent
    have hpatience : (Meter.read meter).2.uart.patience = meter.uart.patience := by
      obtain ⟨-, sent, timers, huart⟩ := h.read
      rw [huart]
    have hlater : ∀ k < answers.length, pauses (9 * (k + 1)) (Meter.read meter).2.uart.inbox ≤
        pauses (9 * k) (Meter.read meter).2.uart.inbox +
          (Meter.read meter).2.uart.patience := by
      intro k hk
      have hnext := hpauses (k + 1) (Nat.succ_lt_succ hk)
      have hafter : 9 * (k + 1 + 1) = 9 + 9 * (k + 1) := by omega
      have hbefore : 9 * (k + 1) = 9 + 9 * k := by omega
      rw [hafter, hmore] at hnext
      rw [hbefore] at hnext ⊢
      rw [hmore] at hnext
      rw [hpatience]
      omega
    obtain ⟨hresults, hend, hrequests⟩ := ih h.read_ready hrest hlater
    rw [List.length_cons, readings, bind_run, bind_run]
    refine ⟨?_, hend, ?_⟩
    · rw [pure_run, hread, hresults]
      rfl
    · rw [pure_run, hrequests, hsent, if_neg Bool.false_ne_true, List.append_assoc]
      rfl

theorem concentration_uart (meter : Meter) :
    (concentration meter).2.uart = (read meter).2.uart := by
  rw [concentration, bind_run]
  cases (read meter).1 <;> rfl

theorem concentration_of_ok {ppm : UInt16} (h : (read meter).1 = .ok ppm) :
    (concentration meter).1.toInt = ppm.toNat := by
  have hppm := ppm.toNat_lt
  rw [concentration, bind_run, h]
  exact Int32.toInt_ofNat_of_lt (by omega)

theorem concentration_of_error {e : MeterError} (h : (read meter).1 = .error e) :
    (concentration meter).1.toInt = -1 := by
  rw [concentration, bind_run, h]
  rfl

/-- A reading depends on the nine bytes that come next and not on how they come, and leaves what
comes after them. -/
theorem reads_stream (meter : Meter) :
    let uart := meter.uart
    let ended := read meter
    let request := [0xFF, 0x01, 0x86, 0, 0, 0, 0, 0, 0x79]
    let verdict := fun answer : Frame =>
      if ((answer.toList.drop 1).map UInt8.toNat).sum % 256 = 0 then
        .ok (UInt16.ofNat (256 * (answer.get 2).toNat + (answer.get 3).toNat))
      else .error .checksum
    ended.2.uart.sent = (if uart.failWrite then uart.sent else uart.sent ++ request) ∧
    (uart.failWrite ∨ uart.failFlush →
      ended.1 = .error .write ∧ ended.2.uart.inbox = uart.inbox) ∧
    (uart.failWrite = false → uart.failFlush = false →
      (∀ (answer : Frame) later, stream uart.inbox = answer.toList.map some ++ later →
        pauses 9 uart.inbox ≤ uart.patience →
        ended.1 = verdict answer ∧ stream ended.2.uart.inbox = later) ∧
      (∀ (bytes : List UInt8) later, stream uart.inbox = bytes.map some ++ none :: later →
        bytes.length < 9 → pauses 9 uart.inbox ≤ uart.patience → ended.1 = .error .read) ∧
      (uart.patience < pauses 9 uart.inbox → ended.1 = .error .timeout) ∧
      (∀ bytes : List UInt8, stream uart.inbox = bytes.map some → bytes.length < 9 →
        ended.1 = .error .timeout) ∧
      ∀ (answers : List Frame) later,
        stream uart.inbox = answers.flatMap (fun answer => answer.toList.map some) ++ later →
        (∀ k < answers.length,
          pauses (9 * (k + 1)) uart.inbox ≤ pauses (9 * k) uart.inbox + uart.patience) →
        let last := readings answers.length meter
        last.1 = answers.map verdict ∧ stream last.2.uart.inbox = later ∧
        last.2.uart.sent = uart.sent ++ (List.replicate answers.length request).flatten) ∧
    (∀ ppm, ended.1 = .ok ppm → (concentration meter).1.toInt = ppm.toNat) ∧
    (∀ e, ended.1 = .error e → (concentration meter).1.toInt = -1) ∧
    (concentration meter).2.uart = ended.2.uart := by
  intro uart ended request verdict
  have hrequest : Frame.readRequest.toList = request := readRequest_toList
  have hverdict : verdict = accept := (funext accept_eq).symm
  refine ⟨?_, read_unsent, ?_, fun _ => concentration_of_ok, fun _ => concentration_of_error,
    concentration_uart meter⟩
  · rw [← hrequest]
    exact read_sent meter
  intro hwrites hflushes
  have hready : meter.Ready := ⟨hwrites, hflushes⟩
  rw [hverdict, ← hrequest]
  refine ⟨?_, ?_, ?_, ?_, fun answers later => hready.readings_answers⟩
  · intro answer later hstream hpauses
    obtain ⟨hread, hrest, -⟩ := hready.read_answer hstream hpauses
    exact ⟨hread, hrest⟩
  · intro bytes later hstream hlength hpauses
    apply hready.read_failed (e := .broken)
    rw [receive_result, if_neg (Nat.not_lt.2 hpauses), hstream, gather_broken hlength]
  · intro hpauses
    apply hready.read_failed (e := .timeout)
    rw [receive_result, if_pos hpauses]
  · intro bytes hstream hlength
    apply hready.read_failed (e := .timeout)
    rw [receive_result, hstream, gather_silent hlength, ite_self]

/-- A meter on a line that pauses inside both of its answers. -/
def halting : Meter where
  uart := {
    inbox := [.bytes [0xFF, 0x86, 0x02, 0x60], .gap, .bytes [0x47, 0, 0, 0, 0xD1, 0xFF, 0x86], .gap,
      .bytes [0x01, 0x90, 0x47, 0, 0, 0, 0xA2]]
    patience := 1
    writeMax := some 4 }

theorem reads_stream_halting :
    halting.uart.failWrite = false ∧ halting.uart.failFlush = false ∧
    (readings 2 halting).1 = [.ok 608, .ok 400] ∧
    stream (readings 2 halting).2.uart.inbox = [] := by
  let answers : List Frame := [#v[0xFF, 0x86, 0x02, 0x60, 0x47, 0, 0, 0, 0xD1],
    #v[0xFF, 0x86, 0x01, 0x90, 0x47, 0, 0, 0, 0xA2]]
  obtain ⟨-, -, hready, -⟩ := reads_stream halting
  obtain ⟨-, -, -, -, hanswers⟩ := hready rfl rfl
  obtain ⟨hresults, hend, -⟩ := hanswers answers [] rfl (by decide)
  exact ⟨rfl, rfl, hresults, hend⟩

end Meter

end AirMonitor.CarbonDioxide
