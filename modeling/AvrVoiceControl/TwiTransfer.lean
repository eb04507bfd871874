import AvrVoiceControl.TwiDriver

set_option autoImplicit false

namespace AvrVoiceControl.I2c

open BusTransfer FlatMemory

/-- What a program that waits in `while (I2C_BUSY == I2C_0_close());` sees. -/
inductive Happening
  | interrupt (status : Status)
  | poll (busErr : Bool)

structure Waiting where
  driver : Driver
  returned : Option Error

def waitStep : Machine.Step Waiting Happening Register
  | waiting, happening =>
    if waiting.returned.isSome then (waiting, [])
    else match happening with
      | .interrupt status =>
        if waiting.driver.interruptsEnabled && waiting.driver.pending then
          let (driver, registers) := waiting.driver.masterIsr status
          ({ waiting with driver := driver }, registers)
        else (waiting, [])
      | .poll busErr =>
        let (error, driver) := waiting.driver.close busErr
        (⟨driver, if error = .busy then none else some error⟩, [])

def chained (memory : Nat -> UInt8) : Callback -> List UInt8
  | .wr1RegCompleteHandler p => block memory p 1
  | .wr2RegCompleteHandler p => block memory p 2
  | _ => []

def destination : Callback -> Option (Nat × UInt16)
  | .rd1RegCompleteHandler p => some (p, 1)
  | .rd2RegCompleteHandler p => some (p, 2)
  | .rdBlkRegCompleteHandler data len => some (data, len)
  | _ => none

def stale (memory : Nat -> UInt8) (callback : Callback) : List UInt8 :=
  match destination callback with
  | some (buffer, length) => block memory buffer length.toNat
  | none => []

/-- The data complete callbacks of `i2c_simple_master.c`, which read into `buffer` if at all. -/
def Chains (buffer : Nat) : Callback -> Prop
  | .returnStop => True
  | .cbReturnStop => True
  | .wr1RegCompleteHandler _ => True
  | .wr2RegCompleteHandler _ => True
  | .rd1RegCompleteHandler p => p = buffer
  | .rd2RegCompleteHandler p => p = buffer
  | .rdBlkRegCompleteHandler data len => data = buffer ∧ len ≠ 0
  | _ => False

def shown (address : UInt8) : Signal UInt8 -> List Register
  | .call true => [.maddr (address <<< 1 ||| 1)]
  | .call false => [.maddr (address <<< 1)]
  | .byte data => [.mdata data]
  | .take data true => [.ackAct true, .fetched data, .ackAct true, .stop]
  | .take data false => [.ackAct false, .fetched data, .recvTrans]
  | .stop => [.stop]
  | .release => [.flush]

def heard : Happening -> List (Event UInt8)
  | .interrupt status =>
    if status.busErr || status.arbLost then [.lost] else [.answered status.rxAck status.data]
  | .poll busErr => if busErr then [.givenUp] else []

def onRefusal (insists : Bool) : Callback :=
  if insists then .cbRestartWrite else .returnStop

structure Engaged (address : UInt8) (insists : Bool) (driver : Driver) : Prop where
  busy : driver.busy = true
  pending : driver.pending = true
  enabled : driver.interruptsEnabled = true
  address : driver.address = address
  writeCollision : driver.writeCollision = .returnStop
  dataNACK : driver.dataNACK = .returnStop
  addressNACK : driver.addressNACK = onRefusal insists

variable (address : UInt8) (insists : Bool) (memory : Nat -> UInt8) (buffer : Nat)

/-- The driver is in a phase of a transfer that began with this memory and reads into `buffer`. -/
def Represents (waiting : Waiting) : Phase UInt8 -> Prop
  | .calling out rest =>
    waiting.returned = none ∧ Engaged address insists waiting.driver ∧
      waiting.driver.state = .tx ∧ waiting.driver.addressNACKCheck = true ∧
      waiting.driver.dataLength ≠ 0 ∧ waiting.driver.memory = memory ∧
      Chains buffer waiting.driver.dataComplete ∧
      out = block memory waiting.driver.dataPtr waiting.driver.dataLength.toNat ++
        chained memory waiting.driver.dataComplete ∧
      rest = stale memory waiting.driver.dataComplete
  | .sending out rest =>
    waiting.returned = none ∧ Engaged address insists waiting.driver ∧
      waiting.driver.state = (if waiting.driver.dataLength = 0 then .txEmpty else .tx) ∧
      waiting.driver.addressNACKCheck = false ∧ waiting.driver.memory = memory ∧
      Chains buffer waiting.driver.dataComplete ∧
      out = block memory waiting.driver.dataPtr waiting.driver.dataLength.toNat ++
        chained memory waiting.driver.dataComplete ∧
      rest = stale memory waiting.driver.dataComplete
  | .asking rest =>
    waiting.returned = none ∧ Engaged address insists waiting.driver ∧
      waiting.driver.state = .rx ∧ waiting.driver.addressNACKCheck = true ∧
      waiting.driver.dataLength ≠ 0 ∧ waiting.driver.memory = memory ∧
      waiting.driver.dataPtr = buffer ∧ waiting.driver.dataComplete = .returnStop ∧
      rest = block memory buffer waiting.driver.dataLength.toNat
  | .taking got left =>
    waiting.returned = none ∧ Engaged address insists waiting.driver ∧
      waiting.driver.state = .rx ∧ waiting.driver.addressNACKCheck = false ∧
      waiting.driver.dataLength ≠ 0 ∧ left = waiting.driver.dataLength.toNat ∧
      waiting.driver.memory = fill memory buffer got ∧
      waiting.driver.dataPtr = buffer + got.length ∧ waiting.driver.dataComplete = .returnStop
  | .done got =>
    waiting.driver.memory = fill memory buffer got ∧
      (waiting.returned = none -> waiting.driver.busy = false ∧ waiting.driver.pending = false)

variable {address insists memory buffer}

theorem isr_lost {driver : Driver} (engaged : Engaged address insists driver) {status : Status}
    (lost : status.busErr || status.arbLost) :
    (driver.masterIsr status).2 = [.flush] ∧
      (driver.masterIsr status).1.memory = driver.memory ∧
      (driver.masterIsr status).1.busy = false ∧ (driver.masterIsr status).1.pending = false := by
  cases fault : status.busErr with
  | true => simp [Driver.masterIsr, Driver.overridden, fault, Driver.dispatch, Driver.doBusError]
  | false =>
    have collision : status.arbLost = true := by simpa [fault] using lost
    simp [Driver.masterIsr, Driver.overridden, fault, collision, Driver.dispatch,
      Driver.doBusCollision, Driver.invoke, engaged.writeCollision, Driver.doReset]

theorem isr_stops {driver : Driver} (engaged : Engaged address insists driver) {status : Status}
    (heldBus : (status.busErr || status.arbLost) = false) (refused : status.rxAck = true)
    (checked : driver.addressNACKCheck = false) (sends : driver.state = .tx ∨ driver.state = .txEmpty) :
    (driver.masterIsr status).2 = [.stop] ∧
      (driver.masterIsr status).1.memory = driver.memory ∧
      (driver.masterIsr status).1.busy = false ∧ (driver.masterIsr status).1.pending = false := by
  obtain ⟨noFault, noCollision⟩ := Bool.or_eq_false_iff.mp heldBus
  rcases sends with state | state <;>
  simp [Driver.masterIsr, Driver.overridden, noFault, noCollision, checked, state, Driver.dispatch,
    Driver.doTx, Driver.doTxEmpty, refused, Driver.doDataNack, Driver.invoke, engaged.dataNACK,
    Driver.doSendStop, Driver.doIdle]

theorem poll_engaged {driver : Driver} (engaged : Engaged address insists driver) (busErr : Bool) :
    waitStep ⟨driver, none⟩ (.poll busErr) =
      if busErr then
        (⟨{ driver with
            busy := false, error := .fail, inUse := false, address := 0xff,
            interruptsEnabled := false }, some .fail⟩, [])
      else (⟨driver, none⟩, []) := by
  have busy : driver.busy = true := engaged.busy
  cases busErr <;> simp [waitStep, Driver.close, busy]

theorem interrupt_engaged {driver : Driver} (engaged : Engaged address insists driver)
    (status : Status) :
    waitStep ⟨driver, none⟩ (.interrupt status) =
      (⟨(driver.masterIsr status).1, none⟩, (driver.masterIsr status).2) := by
  have enabled : driver.interruptsEnabled = true := engaged.enabled
  have pending : driver.pending = true := engaged.pending
  simp [waitStep, enabled, pending]

theorem pred_toNat {length : UInt16} (some : length ≠ 0) :
    length.toNat = (length - 1).toNat + 1 := by
  have positive : length.toNat ≠ 0 := by
    intro zero
    exact some (UInt16.toNat.inj (by simpa using zero))
  have bounded := length.toNat_lt
  rw [UInt16.toNat_sub]
  simp only [UInt16.toNat_one]
  omega

theorem block_pred (memory : Nat -> UInt8) (at' : Nat) {length : UInt16} (some : length ≠ 0) :
    block memory at' length.toNat =
      memory at' :: block memory (at' + 1) (length - 1).toNat := by
  rw [pred_toNat some, block]

/-- One step of the waiting program agrees with what the transfer makes of what was heard. -/
def Simulated (address : UInt8) (insists : Bool) (memory : Nat -> UInt8) (buffer : Nat)
    (waiting : Waiting) (phase : Phase UInt8) (happening : Happening) : Prop :=
  Represents address insists memory buffer (waitStep waiting happening).1
      (Machine.run (Phase.step insists) phase (heard happening)).1 ∧
    (waitStep waiting happening).2 =
      (Machine.run (Phase.step insists) phase (heard happening)).2.flatMap (shown address)

theorem done_simulated {waiting : Waiting} {got : List UInt8}
    (represents : Represents address insists memory buffer waiting (.done got))
    (happening : Happening) :
    Simulated address insists memory buffer waiting (.done got) happening := by
  obtain ⟨stored, quiet⟩ := represents
  obtain ⟨driver, returned⟩ := waiting
  rw [Simulated, run_done]
  cases returned with
  | some error => exact ⟨⟨stored, nofun⟩, rfl⟩
  | none =>
    obtain ⟨busy, pending⟩ := quiet rfl
    cases happening with
    | interrupt status =>
      have idle : waitStep ⟨driver, none⟩ (.interrupt status) = (⟨driver, none⟩, []) := by
        simp [waitStep, show driver.pending = false from pending]
      rw [idle]
      exact ⟨⟨stored, quiet⟩, rfl⟩
    | poll busErr =>
      cases busErr with
      | true => exact ⟨⟨stored, fun _ => ⟨rfl, pending⟩⟩, rfl⟩
      | false =>
        refine ⟨⟨?_, fun _ => ?_⟩, rfl⟩
        · simpa [waitStep, Driver.close, show driver.busy = false from busy] using stored
        · simpa [waitStep, Driver.close, show driver.busy = false from busy] using pending

theorem Represents.engaged {waiting : Waiting} {phase : Phase UInt8}
    (represents : Represents address insists memory buffer waiting phase)
    (alive : ∀ got, phase ≠ .done got) :
    waiting.returned = none ∧ Engaged address insists waiting.driver ∧
      waiting.driver.memory = fill memory buffer phase.got := by
  cases phase with
  | done got => exact absurd rfl (alive got)
  | calling out rest => exact ⟨represents.1, represents.2.1, represents.2.2.2.2.2.1⟩
  | sending out rest => exact ⟨represents.1, represents.2.1, represents.2.2.2.2.1⟩
  | asking rest => exact ⟨represents.1, represents.2.1, represents.2.2.2.2.2.1⟩
  | taking got left => exact ⟨represents.1, represents.2.1, represents.2.2.2.2.2.2.1⟩

theorem poll_simulated {waiting : Waiting} {phase : Phase UInt8}
    (represents : Represents address insists memory buffer waiting phase) (busErr : Bool) :
    Simulated address insists memory buffer waiting phase (.poll busErr) := by
  by_cases finished : ∃ got, phase = .done got
  next =>
    obtain ⟨got, rfl⟩ := finished
    exact done_simulated represents _
  next =>
    obtain ⟨open', engaged, stored⟩ := represents.engaged (fun got same => finished ⟨got, same⟩)
    obtain ⟨driver, returned⟩ := waiting
    obtain rfl : returned = none := open'
    rw [Simulated, poll_engaged engaged]
    cases busErr with
    | false => exact ⟨represents, rfl⟩
    | true =>
      have ends : Machine.run (Phase.step insists) phase (heard (.poll true)) =
          (.done phase.got, []) := by
        cases phase <;> rfl
      rw [ends]
      exact ⟨⟨stored, nofun⟩, rfl⟩

theorem lost_simulated {waiting : Waiting} {phase : Phase UInt8}
    (represents : Represents address insists memory buffer waiting phase) {status : Status}
    (lost : status.busErr || status.arbLost) :
    Simulated address insists memory buffer waiting phase (.interrupt status) := by
  by_cases finished : ∃ got, phase = .done got
  next =>
    obtain ⟨got, rfl⟩ := finished
    exact done_simulated represents _
  next =>
    have alive := fun got same => finished ⟨got, same⟩
    obtain ⟨open', engaged, stored⟩ := represents.engaged alive
    obtain ⟨driver, returned⟩ := waiting
    obtain rfl : returned = none := open'
    obtain ⟨registers, kept, busy, pending⟩ := isr_lost engaged lost
    have ends : Machine.run (Phase.step insists) phase (heard (.interrupt status)) =
        (.done phase.got, [.release]) := by
      rw [heard, if_pos lost]
      cases phase with
      | done got => exact absurd rfl (alive got)
      | _ => rfl
    rw [Simulated, interrupt_engaged engaged, ends]
    exact ⟨⟨kept.trans stored, fun _ => ⟨busy, pending⟩⟩, registers⟩

theorem heard_answered {status : Status} (kept : (status.busErr || status.arbLost) = false) :
    heard (.interrupt status) = [.answered status.rxAck status.data] := by
  simp [heard, kept]

theorem overridden_kept {driver : Driver} {status : Status}
    (kept : (status.busErr || status.arbLost) = false)
    (heeded : (driver.addressNACKCheck && status.rxAck) = false) :
    driver.overridden status = driver.state := by
  obtain ⟨noFault, noCollision⟩ := Bool.or_eq_false_iff.mp kept
  simp [Driver.overridden, noFault, noCollision, heeded]

theorem isr_refused {driver : Driver} (engaged : Engaged address insists driver) {status : Status}
    (kept : (status.busErr || status.arbLost) = false) (refused : status.rxAck = true)
    (checked : driver.addressNACKCheck = true) :
    driver.masterIsr status =
      if insists then
        ({ driver with state := .tx, error := .fail }, [.maddr (address <<< 1)])
      else
        ({ driver with
            state := .idle, addressNACKCheck := false, busy := false, error := .noErr,
            pending := false }, [.stop]) := by
  obtain ⟨noFault, noCollision⟩ := Bool.or_eq_false_iff.mp kept
  have override : driver.overridden status = .addressNack := by
    simp [Driver.overridden, noFault, noCollision, checked, refused]
  rw [Driver.masterIsr, override]
  cases insists with
  | true =>
    simp [Driver.dispatch, Driver.doAddressNack, engaged.addressNACK, onRefusal, Driver.invoke,
      Driver.doSendAdrWrite, engaged.address, engaged.pending, checked]
  | false =>
    simp [Driver.dispatch, Driver.doAddressNack, engaged.addressNACK, onRefusal, Driver.invoke,
      Driver.doSendStop, Driver.doIdle]

def Driver.entering (result : Result) : Driver := { result.2.1 with state := result.1 }

def Continues (address : UInt8) (insists : Bool) (memory : Nat -> UInt8) (buffer : Nat)
    (result : Result) (next : Phase UInt8 × List (Signal UInt8)) : Prop :=
  Represents address insists memory buffer ⟨Driver.entering result, none⟩ next.1 ∧
    result.2.2 = next.2.flatMap (shown address)

theorem Continues.simulated {driver : Driver} (engaged : Engaged address insists driver)
    {status : Status} (kept : (status.busErr || status.arbLost) = false)
    (heeded : (driver.addressNACKCheck && status.rxAck) = false) {state : FsmState}
    (parked : driver.state = state) {phase : Phase UInt8}
    (continues : Continues address insists memory buffer
      (Driver.dispatch { driver with pending := false } status state)
      (Phase.step insists phase (.answered status.rxAck status.data))) :
    Simulated address insists memory buffer ⟨driver, none⟩ phase (.interrupt status) := by
  have dispatched : driver.overridden status = state := (overridden_kept kept heeded).trans parked
  rw [Simulated, interrupt_engaged engaged, heard_answered kept, Driver.masterIsr, dispatched,
    Machine.run_cons, Machine.run_nil, List.append_nil]
  exact continues

theorem tx_continues {driver : Driver}
    (engaged : Engaged address insists { driver with pending := true }) {status : Status}
    (accepted : status.rxAck = false) (some : driver.dataLength ≠ 0)
    (stored : driver.memory = memory) (chains : Chains buffer driver.dataComplete) :
    Continues address insists memory buffer (driver.doTx status)
      (Phase.sendByte (block memory driver.dataPtr driver.dataLength.toNat ++
        chained memory driver.dataComplete) (stale memory driver.dataComplete)) := by
  rw [block_pred memory _ some, List.cons_append, Phase.sendByte, Driver.doTx, if_neg (by simp [accepted])]
  exact ⟨⟨rfl, { engaged with pending := rfl }, rfl, rfl, stored, chains, rfl, rfl⟩,
    by simp [shown, stored]⟩

theorem restartRead_continues {driver : Driver}
    (engaged : Engaged address insists { driver with pending := true })
    (some : driver.dataLength ≠ 0) (stored : driver.memory = memory)
    (begins : driver.dataPtr = buffer) (last : driver.dataComplete = .returnStop) :
    Continues address insists memory buffer driver.doSendAdrRead
      (Phase.sendByte [] (block memory buffer driver.dataLength.toNat)) := by
  rw [block_pred memory _ some, Phase.sendByte, ← block_pred memory _ some]
  · exact ⟨⟨rfl, { engaged with pending := rfl }, rfl, rfl, some, stored, begins, last, rfl⟩,
      by simp [shown, Driver.doSendAdrRead, ← engaged.address]⟩
  · simp

theorem stop_continues {driver : Driver} {got : List UInt8}
    (stored : driver.memory = fill memory buffer got) :
    Continues address insists memory buffer driver.doSendStop (.done got, [.stop]) :=
  ⟨⟨stored, fun _ => ⟨rfl, rfl⟩⟩, rfl⟩

theorem calling_simulated {waiting : Waiting} {out rest : List UInt8}
    (represents : Represents address insists memory buffer waiting (.calling out rest))
    {status : Status} (kept : (status.busErr || status.arbLost) = false) :
    Simulated address insists memory buffer waiting (.calling out rest) (.interrupt status) := by
  obtain ⟨driver, returned⟩ := waiting
  obtain ⟨open', engaged, state, checked, some, stored, chains, rfl, rfl⟩ := represents
  obtain rfl : returned = none := open'
  cases refused : status.rxAck with
  | true =>
    rw [Simulated, interrupt_engaged engaged, heard_answered kept, refused,
      isr_refused engaged kept refused checked]
    cases insists with
    | true => exact ⟨⟨rfl, { engaged with }, rfl, checked, some, stored, chains, rfl, rfl⟩, rfl⟩
    | false => exact ⟨⟨stored, fun _ => ⟨rfl, rfl⟩⟩, rfl⟩
  | false =>
    apply Continues.simulated engaged kept (by simp [refused]) state
    rw [refused]
    exact @tx_continues address insists memory buffer { driver with pending := false }
      { engaged with pending := rfl } status refused some stored chains

def Driver.handedOver (driver : Driver) (next : Nat) (length : UInt16) : Driver :=
  { driver with
      bufferFree := false, dataPtr := next, dataLength := length, dataComplete := .returnStop }

theorem txEmpty_continues {driver : Driver}
    (engaged : Engaged address insists { driver with pending := true }) {status : Status}
    (accepted : status.rxAck = false) (stored : driver.memory = memory)
    (chains : Chains buffer driver.dataComplete) :
    Continues address insists memory buffer (driver.doTxEmpty status)
      (Phase.sendByte (chained memory driver.dataComplete)
        (stale memory driver.dataComplete)) := by
  rw [Driver.doTxEmpty, if_neg (by simp [accepted])]
  have one_ne : (1 : UInt16) ≠ 0 := by decide
  have two_ne : (2 : UInt16) ≠ 0 := by decide
  cases callback : driver.dataComplete with
  | returnStop => exact stop_continues stored
  | cbReturnStop => exact stop_continues stored
  | wr1RegCompleteHandler p =>
    exact @tx_continues address insists memory buffer (driver.handedOver p 1) { engaged with }
      status accepted one_ne stored trivial
  | wr2RegCompleteHandler p =>
    exact @tx_continues address insists memory buffer (driver.handedOver p 2) { engaged with }
      status accepted two_ne stored trivial
  | rd1RegCompleteHandler p =>
    obtain rfl : p = buffer := by simpa [callback, Chains] using chains
    exact @restartRead_continues address insists memory p (driver.handedOver p 1)
      { engaged with } one_ne stored rfl rfl
  | rd2RegCompleteHandler p =>
    obtain rfl : p = buffer := by simpa [callback, Chains] using chains
    exact @restartRead_continues address insists memory p (driver.handedOver p 2)
      { engaged with } two_ne stored rfl rfl
  | rdBlkRegCompleteHandler data len =>
    obtain ⟨rfl, some⟩ : data = buffer ∧ len ≠ 0 := by simpa [callback, Chains] using chains
    exact @restartRead_continues address insists memory data (driver.handedOver data len)
      { engaged with } some stored rfl rfl
  | _ => simp [callback, Chains] at chains

theorem sending_simulated {waiting : Waiting} {out rest : List UInt8}
    (represents : Represents address insists memory buffer waiting (.sending out rest))
    {status : Status} (kept : (status.busErr || status.arbLost) = false) :
    Simulated address insists memory buffer waiting (.sending out rest) (.interrupt status) := by
  obtain ⟨driver, returned⟩ := waiting
  obtain ⟨open', engaged, state, unchecked, stored, chains, rfl, rfl⟩ := represents
  obtain rfl : returned = none := open'
  cases refused : status.rxAck with
  | true =>
    have sends : driver.state = .tx ∨ driver.state = .txEmpty := by
      rw [show driver.state = _ from state]
      split <;> simp
    obtain ⟨registers, same, busy, pending⟩ := isr_stops engaged kept refused unchecked sends
    rw [Simulated, interrupt_engaged engaged, heard_answered kept, refused]
    exact ⟨⟨same.trans stored, fun _ => ⟨busy, pending⟩⟩, registers⟩
  | false =>
    by_cases empty : driver.dataLength = 0
    next =>
      apply Continues.simulated engaged kept (by simp [refused]) (state.trans (if_pos empty))
      have sent : block memory driver.dataPtr driver.dataLength.toNat = [] := by
        rw [empty]
        rfl
      rw [refused, sent, List.nil_append]
      exact @txEmpty_continues address insists memory buffer { driver with pending := false }
        { engaged with pending := rfl } status refused stored chains
    next =>
      apply Continues.simulated engaged kept (by simp [refused]) (state.trans (if_neg empty))
      rw [refused]
      exact @tx_continues address insists memory buffer { driver with pending := false }
        { engaged with pending := rfl } status refused empty stored chains

theorem rx_continues {driver : Driver}
    (engaged : Engaged address insists { driver with pending := true }) (status : Status)
    {got : List UInt8} (some : driver.dataLength ≠ 0)
    (stored : driver.memory = fill memory buffer got)
    (reached : driver.dataPtr = buffer + got.length) (last : driver.dataComplete = .returnStop) :
    Continues address insists memory buffer (driver.doRx status)
      (Phase.takeByte got driver.dataLength.toNat status.data) := by
  have length := pred_toNat some
  have next : Function.update driver.memory driver.dataPtr status.data =
      fill memory buffer (got ++ [status.data]) := by
    rw [fill_concat, stored, reached]
  by_cases one : driver.dataLength = 1
  next =>
    have left : driver.dataLength - 1 = 0 := by rw [one]; rfl
    have least : driver.dataLength.toNat ≤ 1 := by rw [one]; decide
    rw [Phase.takeByte, if_pos least, Driver.doRx]
    simp only [last, Driver.invoke, one]
    exact ⟨⟨next, fun _ => ⟨rfl, rfl⟩⟩, rfl⟩
  next =>
    have left : driver.dataLength - 1 ≠ 0 := by
      intro zero
      rw [zero] at length
      exact one (UInt16.toNat.inj length)
    have more : ¬driver.dataLength.toNat ≤ 1 := by
      have positive : (driver.dataLength - 1).toNat ≠ 0 := by
        intro zero
        exact left (UInt16.toNat.inj (by simpa using zero))
      omega
    rw [Phase.takeByte, if_neg more, Driver.doRx]
    simp only [left, if_false, one]
    refine ⟨⟨rfl, { engaged with pending := rfl }, rfl, rfl, left, ?_, next, ?_, last⟩, rfl⟩
    · change _ = (driver.dataLength - 1).toNat
      omega
    · change driver.dataPtr + 1 = _
      simp [reached, Nat.add_assoc]

theorem asking_simulated {waiting : Waiting} {rest : List UInt8}
    (represents : Represents address insists memory buffer waiting (.asking rest))
    {status : Status} (kept : (status.busErr || status.arbLost) = false) :
    Simulated address insists memory buffer waiting (.asking rest) (.interrupt status) := by
  obtain ⟨driver, returned⟩ := waiting
  obtain ⟨open', engaged, state, checked, some, stored, begins, last, rfl⟩ := represents
  obtain rfl : returned = none := open'
  cases refused : status.rxAck with
  | true =>
    rw [Simulated, interrupt_engaged engaged, heard_answered kept, refused,
      isr_refused engaged kept refused checked]
    cases insists with
    | true =>
      -- The buffer that was to be read into is now the one to send.
      refine ⟨⟨rfl, { engaged with }, rfl, checked, some, stored, ?_, ?_, ?_⟩, rfl⟩
      · simp [show driver.dataComplete = _ from last, Chains]
      · simp [show driver.dataComplete = _ from last, show driver.dataPtr = _ from begins, chained]
      · simp [show driver.dataComplete = _ from last, stale, destination]
    | false => exact ⟨⟨stored, fun _ => ⟨rfl, rfl⟩⟩, rfl⟩
  | false =>
    apply Continues.simulated engaged kept (by simp [refused]) state
    have length : driver.dataLength.toNat =
        (block memory buffer driver.dataLength.toNat).length := by simp
    have takes := @rx_continues address insists memory buffer { driver with pending := false }
      { engaged with pending := rfl } status [] some stored begins last
    rw [refused, Phase.step, if_neg (by simp), ← length]
    exact takes

theorem taking_simulated {waiting : Waiting} {got : List UInt8} {left : Nat}
    (represents : Represents address insists memory buffer waiting (.taking got left))
    {status : Status} (kept : (status.busErr || status.arbLost) = false) :
    Simulated address insists memory buffer waiting (.taking got left) (.interrupt status) := by
  obtain ⟨driver, returned⟩ := waiting
  obtain ⟨open', engaged, state, unchecked, some, rfl, stored, reached, last⟩ := represents
  obtain rfl : returned = none := open'
  apply Continues.simulated engaged kept _ state
  · exact @rx_continues address insists memory buffer { driver with pending := false }
      { engaged with pending := rfl } status got some stored reached last
  · simp [show driver.addressNACKCheck = false from unchecked]

theorem waitStep_simulates (waiting : Waiting) (phase : Phase UInt8) (happening : Happening)
    (represents : Represents address insists memory buffer waiting phase) :
    Simulated address insists memory buffer waiting phase happening := by
  cases happening with
  | poll busErr => exact poll_simulated represents busErr
  | interrupt status =>
    by_cases lost : status.busErr || status.arbLost
    next => exact lost_simulated represents lost
    next =>
      have kept : (status.busErr || status.arbLost) = false := by simpa using lost
      cases phase with
      | calling out rest => exact calling_simulated represents kept
      | sending out rest => exact sending_simulated represents kept
      | asking rest => exact asking_simulated represents kept
      | taking got left => exact taking_simulated represents kept
      | done got => exact done_simulated represents _

theorem wait_transfers {waiting : Waiting} {phase : Phase UInt8}
    (represents : Represents address insists memory buffer waiting phase)
    (happenings : List Happening) :
    Represents address insists memory buffer (Machine.run waitStep waiting happenings).1
        (Machine.run (Phase.step insists) phase (happenings.flatMap heard)).1 ∧
      (Machine.run waitStep waiting happenings).2 =
        (transcript insists phase (happenings.flatMap heard)).flatMap (shown address) :=
  Machine.run_simulates (fun waiting phase happening represents =>
    waitStep_simulates waiting phase happening represents) represents happenings

end AvrVoiceControl.I2c
