import AvrVoiceControl.AtcaCommand
import AvrVoiceControl.RegisterTransfers

set_option autoImplicit false

namespace AvrVoiceControl.Atca

open BusTransfer FlatMemory I2c

/-- What happens during one blocking call on the bus, from its synchronous start on. -/
abbrev Script := Status × List Happening

/-- The result of a call that may not return, the driver and what was put on the bus. -/
abbrev Call := Option AtcaStatus × Driver × List Register

def Call.andThen (call : Call) (next : AtcaStatus -> Driver -> Call) : Call :=
  match call with
  | (none, driver, registers) => (none, driver, registers)
  | (some status, driver, registers) =>
    let (result, last, later) := next status driver
    (result, last, registers ++ later)

def Call.ofWait (wait : I2c.Waiting × List Register) (status : Driver -> AtcaStatus) : Call :=
  (wait.1.returned.map fun _ => status wait.1.driver, wait.1.driver, wait.2)

abbrev secureElement : UInt8 := 0x58

def halI2cWriteNBytes (driver : Driver) (address : UInt8) (data : Nat) (len : UInt16)
    (script : Script) : I2c.Waiting × List Register :=
  blocking driver address false (fun opened =>
    (opened.setBuffer data len).setAddressNackCallback (some .cbRestartWrite)) script.1 script.2

def halI2cReadNBytes (driver : Driver) (address : UInt8) (data : Nat) (len : UInt16)
    (script : Script) : I2c.Waiting × List Register :=
  readNBytes driver address data len script.1 script.2

/-- `I2C_0_wake_up`, which sends its own parameter. -/
def wakeUp (driver : Driver) (adr : UInt8) (adrAt : Nat) (script : Script) :
    I2c.Waiting × List Register :=
  blocking (driver.withByte adrAt adr) adr false (fun opened =>
    (opened.setDataCompleteCallback (some .cbReturnStop)).setBuffer adrAt 1) script.1 script.2

/-- Where the local variables and the packet of 199 bytes lie. -/
structure Places where
  adr : Nat
  initData : Nat
  idleData : Nat
  packet : Nat
  adr_initData : adr < initData ∨ initData + 4 ≤ adr
  adr_packet : adr < packet ∨ packet + 199 ≤ adr
  initData_packet : initData + 4 ≤ packet ∨ packet + 199 ≤ initData
  idleData_packet : idleData < packet ∨ packet + 199 ≤ idleData

structure Scripts where
  wakeUp : Script
  verify : Script
  send : Script
  receive : Script
  idle : Script

def halI2cSend (driver : Driver) (txdata : Nat) (txlength : UInt16) (script : Script) : Call :=
  .ofWait (halI2cWriteNBytes (driver.withByte txdata 0x03) secureElement txdata (txlength + 1) script)
    fun _ => .success

def halI2cReceive (driver : Driver) (rxdata : Nat) (rxlength : UInt16) (script : Script) : Call :=
  .ofWait (halI2cReadNBytes driver secureElement rxdata rxlength script) fun _ => .success

def verifData : List UInt8 := [0x04, 0x11, 0x33, 0x43]

def halI2cWake (driver : Driver) (adrAt initAt : Nat) (first second : Script) : Call :=
  Call.andThen (.ofWait (wakeUp driver 0x0 adrAt first) fun _ => .success) fun _ waked =>
    .ofWait (halI2cReadNBytes waked secureElement initAt 4 second) fun verified =>
      if block verified.memory initAt 4 = verifData then .success else .commFail

def halI2cIdle (driver : Driver) (dataAt : Nat) (script : Script) : Call :=
  .ofWait (halI2cWriteNBytes (driver.withByte dataAt 0x02) secureElement dataAt 1 script)
    fun _ => .success

def withZeros (driver : Driver) (place length : Nat) : Driver :=
  { driver with memory := fill driver.memory place (List.replicate length 0) }

/-- The status of a response of `sizeof(packet->data)` bytes, a size that `hal_i2c_receive` never
changes. -/
def verdict (memory : Nat -> UInt8) (response : Nat) : AtcaStatus :=
  if atCheckCrc memory response ≠ .success then atCheckCrc memory response
  else isATCAError memory response

/-- The outer loop of `atca_execute_command`, which turns once. The second try of `atwake` is for a
status that `hal_i2c_wake` does not give. -/
def attempt (driver : Driver) (places : Places) (scripts : Scripts) : Call :=
  (halI2cWake driver places.adr places.initData scripts.wakeUp scripts.verify).andThen
    fun status waked =>
  if status ≠ .success then (some status, waked, [])
  else
    (halI2cSend waked places.packet (waked.memory (places.packet + 1)).toUInt16 scripts.send).andThen
      fun status sent =>
    if status ≠ .success then (some status, sent, [])
    else
      (halI2cReceive (withZeros sent (places.packet + 6) 192) (places.packet + 6) 192
        scripts.receive).andThen fun status received =>
      if status ≠ .success then (some status, received, [])
      else (some (verdict received.memory (places.packet + 6)), received, [])

def executeCommand (opcodes : List UInt8) (driver : Driver) (places : Places)
    (scripts : Scripts) : Call :=
  if driver.memory (places.packet + 2) ∉ opcodes then (some .badOpcode, driver, [])
  else
    (attempt driver places scripts).andThen fun status last =>
    (halI2cIdle last places.idleData scripts.idle).andThen fun _ idle =>
    (some status, idle, [])

section Calls

def Puts (address : UInt8) (insists : Bool) (message : List UInt8) (script : Script)
    (registers : List Register) : Prop :=
  registers = shows address script.1 script.2 (written insists message)

def Gets (address : UInt8) (length : Nat) (data : List UInt8) (script : Script)
    (registers : List Register) : Prop :=
  if script.1.busErr || script.1.arbLost then data = [] ∧ registers = [.flush, .flush]
  else
    data = fetched length (script.2.flatMap heard) ∧
      registers = .flush :: .maddr (address <<< 1 ||| 1) ::
        (tried length (script.2.flatMap heard)).flatMap (shown address)

variable {driver : Driver} {address : UInt8} {data : Nat} {len : UInt16} {script : Script}

theorem close_over {busErr : Bool} (finished : (driver.close busErr).1 ≠ .busy) :
    (driver.close busErr).2.inUse = false := by
  cases busErr with
  | true => rfl
  | false =>
    by_cases busy : driver.busy = true
    next => exact absurd (by simp [Driver.close, busy]) finished
    next => simp [Driver.close, busy]

theorem waitStep_free (waiting : I2c.Waiting) (happening : Happening)
    (start : waiting.returned.isSome = true -> waiting.driver.inUse = false)
    (finished : (waitStep waiting happening).1.returned.isSome = true) :
    (waitStep waiting happening).1.driver.inUse = false := by
  obtain ⟨driver, returned⟩ := waiting
  cases returned with
  | some error => exact start rfl
  | none =>
    cases happening with
    | interrupt status =>
      by_cases taken : (driver.interruptsEnabled && driver.pending) = true <;>
        simp [waitStep, taken] at finished
    | poll busErr =>
      apply close_over
      intro busy
      simp [waitStep, busy] at finished

theorem wait_free {waiting : I2c.Waiting} (happenings : List Happening)
    (start : waiting.returned.isSome = true -> waiting.driver.inUse = false)
    (finished : (Machine.run waitStep waiting happenings).1.returned.isSome = true) :
    (Machine.run waitStep waiting happenings).1.driver.inUse = false := by
  induction happenings generalizing waiting with
  | nil => exact start finished
  | cons happening rest ih => exact ih (waitStep_free waiting happening start) finished

theorem blocking_free {read : Bool} {prepare : Driver -> Driver} {status : Status}
    {happenings : List Happening}
    (finished : (blocking driver address read prepare status happenings).1.returned.isSome = true) :
    (blocking driver address read prepare status happenings).1.driver.inUse = false :=
  wait_free happenings (by simp) finished

theorem halI2cWriteNBytes_puts (free : driver.inUse = false) (some : len ≠ 0) :
    (halI2cWriteNBytes driver address data len script).1.driver.memory = driver.memory ∧
      Puts address true (block driver.memory data len.toNat) script
        (halI2cWriteNBytes driver address data len script).2 :=
  (writeNBytes_outcome free some).written

theorem wakeUp_puts (free : driver.inUse = false) (adr : UInt8) :
    (wakeUp driver adr data script).1.driver.memory =
        Function.update driver.memory data adr ∧
      Puts adr false [adr] script (wakeUp driver adr data script).2 := by
  have prepares : (((driver.withByte data adr).openBus adr).2.1.setDataCompleteCallback
      (some .cbReturnStop)).setBuffer data 1 =
      (driver.withByte data adr).prepared adr false .cbReturnStop data 1 := by
    simp [Driver.prepared, Driver.openBus, Driver.withByte, free,
      Driver.setDataCompleteCallback, Driver.setBuffer, onRefusal]
  have one_ne : (1 : UInt16) ≠ 0 := by decide
  have reached := @blocking_calls (driver.withByte data adr) adr script.1 script.2 (fun opened =>
    (opened.setDataCompleteCallback (some .cbReturnStop)).setBuffer data 1) false 0
    .cbReturnStop data 1 free prepares one_ne trivial
  have message : block (driver.withByte data adr).memory data (1 : UInt16).toNat ++
      chained (driver.withByte data adr).memory .cbReturnStop = [adr] := by
    simp [chained, block, Driver.withByte]
  rw [message] at reached
  exact reached.written

theorem begins_asking (free : driver.inUse = false) (some : len ≠ 0) :
    I2c.Represents address false driver.memory data
      ⟨{ driver.prepared address false .returnStop data len with
          busy := true, pending := true, addressNACKCheck := true,
          state := if true then .rx else .tx }, none⟩
      (.asking (block driver.memory data len.toNat)) := by
  have engaged := @engaged_of_prepared driver address false .returnStop data len free .rx
  rw [prepared_free free] at engaged ⊢
  exact ⟨rfl, engaged, rfl, rfl, some, rfl, rfl, rfl, rfl⟩

theorem halI2cReadNBytes_gets (free : driver.inUse = false) (some : len ≠ 0) :
    ∃ got, (halI2cReadNBytes driver address data len script).1.driver.memory =
        fill driver.memory data got ∧ got.length ≤ len.toNat ∧
      Gets address len.toNat got script (halI2cReadNBytes driver address data len script).2 := by
  have prepares : (driver.openBus address).2.1.setBuffer data len =
      driver.prepared address false .returnStop data len := by
    simp [Driver.prepared, Driver.openBus, free, Driver.setBuffer, onRefusal]
  have reached := @blocking_outcome driver address data false .returnStop data len
    (fun opened => opened.setBuffer data len) free true prepares _ script.1
    (begins_asking free some) script.2
  have covered : block driver.memory data len.toNat ≠ [] := by
    rw [block_pred _ _ some]
    simp
  by_cases lost : script.1.busErr || script.1.arbLost
  next =>
    rw [Outcome, if_pos lost] at reached
    exact ⟨[], reached.1.memory, Nat.zero_le _, by rw [Gets, if_pos lost]; exact ⟨rfl, reached.2⟩⟩
  next =>
    obtain ⟨transcribed, fetches⟩ := @run_asking _ false _ covered (script.2.flatMap heard)
    rw [asked_false, block_length] at transcribed
    rw [block_length] at fetches
    rw [Outcome, if_neg lost, transcribed] at reached
    have stored : _ = fill driver.memory data
        (received false (.asking (block driver.memory data len.toNat))
          (script.2.flatMap heard)) := reached.1.memory
    rw [fetches] at stored
    refine ⟨_, stored, fetched_length _ _, ?_⟩
    rw [Gets, if_neg lost]
    exact ⟨rfl, reached.2⟩

end Calls

section Returns

variable {driver last : Driver} {status : AtcaStatus} {registers : List Register}

theorem ofWait_returns {wait : I2c.Waiting × List Register} {answer : Driver -> AtcaStatus}
    (returns : Call.ofWait wait answer = (some status, last, registers)) :
    wait.1.returned.isSome = true ∧ answer wait.1.driver = status ∧ wait.1.driver = last ∧
      wait.2 = registers := by
  rw [Call.ofWait, Prod.mk.injEq, Prod.mk.injEq] at returns
  obtain ⟨result, rfl, rfl⟩ := returns
  cases finished : wait.1.returned with
  | none => simp [finished] at result
  | some error => exact ⟨rfl, by simpa [finished] using result, rfl, rfl⟩

theorem andThen_returns {call : Call} {next : AtcaStatus -> Driver -> Call}
    (returns : call.andThen next = (some status, last, registers)) :
    ∃ first middle front back, call = (some first, middle, front) ∧
      next first middle = (some status, last, back) ∧ registers = front ++ back := by
  obtain ⟨result, middle, front⟩ := call
  cases result with
  | none => simp [Call.andThen] at returns
  | some first =>
    rw [Call.andThen, Prod.mk.injEq, Prod.mk.injEq] at returns
    obtain ⟨same, rfl, rfl⟩ := returns
    exact ⟨first, middle, front, _, rfl, by rw [← same], rfl⟩

theorem halI2cWake_returns (free : driver.inUse = false) {adrAt initAt : Nat}
    (apart : adrAt < initAt ∨ initAt + 4 ≤ adrAt) {first second : Script}
    (returns : halI2cWake driver adrAt initAt first second = (some status, last, registers)) :
    last.inUse = false ∧ ∃ greeting wake verify, registers = wake ++ verify ∧
      Puts 0 false [0] first wake ∧ Gets secureElement 4 greeting second verify ∧
      greeting.length ≤ 4 ∧
      last.memory = fill (Function.update driver.memory adrAt 0) initAt greeting ∧
      status = if greeting ++ (block driver.memory initAt 4).drop greeting.length = verifData
        then .success else .commFail := by
  obtain ⟨_, _, wake, verify, woken, verified, rfl⟩ := andThen_returns returns
  obtain ⟨finished, -, rfl, rfl⟩ := ofWait_returns woken
  obtain ⟨stored, puts⟩ := @wakeUp_puts driver adrAt first free 0x0
  have left : (wakeUp driver 0x0 adrAt first).1.driver.inUse = false := blocking_free finished
  obtain ⟨done, verdict, rfl, rfl⟩ := ofWait_returns verified
  obtain ⟨greeting, read, fits, gets⟩ := @halI2cReadNBytes_gets _ secureElement initAt 4
    second left (by decide)
  change greeting.length ≤ 4 at fits
  refine ⟨blocking_free done, greeting, _, _, rfl, puts, gets, fits, by rw [read, stored], ?_⟩
  have kept : block (Function.update driver.memory adrAt 0) initAt 4 =
      block driver.memory initAt 4 :=
    block_congr fun place low high => Function.update_of_ne (by omega) _ _
  rw [← verdict, read, stored, block_fill_front _ _ _ fits, kept]

theorem halI2cSend_returns (free : driver.inUse = false) {txdata : Nat} {txlength : UInt16}
    (some : txlength + 1 ≠ 0) {script : Script}
    (returns : halI2cSend driver txdata txlength script = (Option.some status, last, registers)) :
    last.inUse = false ∧ status = .success ∧
      last.memory = Function.update driver.memory txdata 0x03 ∧
      Puts secureElement true (block (Function.update driver.memory txdata 0x03) txdata
        (txlength + 1).toNat) script registers := by
  obtain ⟨finished, rfl, rfl, rfl⟩ := ofWait_returns returns
  obtain ⟨stored, puts⟩ := @halI2cWriteNBytes_puts (driver.withByte txdata 0x03) secureElement
    txdata (txlength + 1) script free some
  exact ⟨blocking_free finished, rfl, stored, puts⟩

theorem halI2cReceive_returns (free : driver.inUse = false) {rxdata : Nat} {rxlength : UInt16}
    (some : rxlength ≠ 0) {script : Script}
    (returns : halI2cReceive driver rxdata rxlength script =
      (Option.some status, last, registers)) :
    last.inUse = false ∧ status = .success ∧ ∃ response, response.length ≤ rxlength.toNat ∧
      last.memory = fill driver.memory rxdata response ∧
      Gets secureElement rxlength.toNat response script registers := by
  obtain ⟨finished, rfl, rfl, rfl⟩ := ofWait_returns returns
  obtain ⟨response, stored, fits, gets⟩ := @halI2cReadNBytes_gets driver secureElement rxdata
    rxlength script free some
  exact ⟨blocking_free finished, rfl, response, fits, stored, gets⟩

theorem halI2cIdle_returns (free : driver.inUse = false) {dataAt : Nat} {script : Script}
    (returns : halI2cIdle driver dataAt script = (some status, last, registers)) :
    last.inUse = false ∧ last.memory = Function.update driver.memory dataAt 0x02 ∧
      Puts secureElement true [0x02] script registers := by
  obtain ⟨finished, rfl, rfl, rfl⟩ := ofWait_returns returns
  obtain ⟨stored, puts⟩ := @halI2cWriteNBytes_puts (driver.withByte dataAt 0x02) secureElement
    dataAt 1 script free (by decide)
  have message : block (driver.withByte dataAt 0x02).memory dataAt (1 : UInt16).toNat = [0x02] := by
    simp [block, Driver.withByte]
  rw [message] at puts
  exact ⟨blocking_free finished, stored, puts⟩

end Returns

def Exchanged (memory : Nat -> UInt8) (packet : Nat) (send receive : Script) (status : AtcaStatus)
    (received : Nat -> UInt8) (registers : List Register) : Prop :=
  ∃ response sent back, registers = sent ++ back ∧
    Puts secureElement true (0x03 :: block memory (packet + 1) (memory (packet + 1)).toNat) send
      sent ∧
    Gets secureElement 192 response receive back ∧
    block received (packet + 6) 192 = response ++ List.replicate (192 - response.length) 0 ∧
    status = verdict received (packet + 6)

/-- The traffic of an attempt that has come back: the chip is woken and its greeting is read, and
the packet is exchanged only if the greeting is then found in memory, over what lay there before. -/
def Attempted (memory : Nat -> UInt8) (places : Places) (scripts : Scripts) (status : AtcaStatus)
    (received : Nat -> UInt8) (registers : List Register) : Prop :=
  ∃ greeting wake verify exchange, registers = wake ++ (verify ++ exchange) ∧
    Puts 0 false [0] scripts.wakeUp wake ∧
    Gets secureElement 4 greeting scripts.verify verify ∧
    if greeting ++ (block memory places.initData 4).drop greeting.length = verifData then
      Exchanged memory places.packet scripts.send scripts.receive status received exchange
    else status = .commFail ∧ exchange = []

section Command

variable {driver last : Driver} {places : Places} {scripts : Scripts} {status : AtcaStatus}
  {registers : List Register}

theorem packet_kept {memory : Nat -> UInt8} {greeting : List UInt8} (fits : greeting.length ≤ 4)
    {place : Nat} (inside : places.packet ≤ place ∧ place < places.packet + 199) :
    fill (Function.update memory places.adr 0) places.initData greeting place = memory place := by
  have adr := places.adr_packet
  have initData := places.initData_packet
  rw [fill_outside _ _ _ (by omega), Function.update_of_ne (by omega)]

theorem size_succ (size : UInt8) :
    size.toUInt16 + 1 ≠ 0 ∧ (size.toUInt16 + 1).toNat = size.toNat + 1 := by
  have bounded := size.toNat_lt
  have value : (size.toUInt16 + 1).toNat = size.toNat + 1 := by
    rw [UInt16.toNat_add, UInt8.toNat_toUInt16]
    exact Nat.mod_eq_of_lt (by change size.toNat + 1 < 65536; omega)
  refine ⟨?_, value⟩
  intro zero
  rw [zero] at value
  cases value

/-- What is sent behind the word address is the packet from its size byte on. -/
theorem packet_sent {memory woken : Nat -> UInt8}
    (kept : ∀ place, places.packet ≤ place ∧ place < places.packet + 199 ->
      woken place = memory place)
    (whole : (memory (places.packet + 1)).toNat ≤ 198) :
    block (Function.update woken places.packet 0x03) places.packet
        ((memory (places.packet + 1)).toNat + 1) =
      0x03 :: block memory (places.packet + 1) (memory (places.packet + 1)).toNat := by
  rw [block, Function.update_self]
  congr 1
  apply block_congr
  intro place low high
  rw [Function.update_of_ne (by omega), kept place (by omega)]

theorem withZeros_block (driver : Driver) (place count : Nat) :
    block (withZeros driver place count).memory place count = List.replicate count 0 := by
  have filled := block_fill driver.memory place (List.replicate count 0)
  rwa [List.length_replicate] at filled

theorem attempt_returns (free : driver.inUse = false)
    (whole : (driver.memory (places.packet + 1)).toNat ≤ 198)
    (returns : attempt driver places scripts = (some status, last, registers)) :
    last.inUse = false ∧ Attempted driver.memory places scripts status last.memory registers := by
  obtain ⟨woken, waked, front, later, wakes, after, rfl⟩ := andThen_returns returns
  obtain ⟨left, greeting, wake, verify, rfl, puts, gets, fits, stored, found⟩ :=
    halI2cWake_returns free places.adr_initData wakes
  by_cases greets : greeting ++ (block driver.memory places.initData 4).drop greeting.length =
      verifData
  case neg =>
    rw [if_neg greets] at found
    rw [found, if_pos (by decide), Prod.mk.injEq, Prod.mk.injEq] at after
    obtain ⟨same, rfl, rfl⟩ := after
    cases same
    refine ⟨left, greeting, wake, verify, [], by simp, puts, gets, ?_⟩
    rw [if_neg greets]
    exact ⟨rfl, rfl⟩
  have kept (place : Nat) (inside : places.packet ≤ place ∧ place < places.packet + 199) :
      waked.memory place = driver.memory place := by
    rw [stored]
    exact packet_kept fits inside
  rw [if_pos greets] at found
  rw [found, if_neg (by simp)] at after
  obtain ⟨_, sent, send, _, sends, after, rfl⟩ := andThen_returns after
  obtain ⟨some, size⟩ := size_succ (waked.memory (places.packet + 1))
  obtain ⟨free, rfl, written, putsPacket⟩ := halI2cSend_returns left some sends
  rw [if_neg (by simp)] at after
  obtain ⟨_, received, rest, _, receives, after, rfl⟩ := andThen_returns after
  obtain ⟨free, rfl, response, short, read, getsResponse⟩ :=
    @halI2cReceive_returns (withZeros sent (places.packet + 6) 192) _ _ _ free _ 192 (by decide) _
      receives
  rw [if_neg (by simp), Prod.mk.injEq, Prod.mk.injEq] at after
  obtain ⟨same, rfl, rfl⟩ := after
  cases same
  rw [size, kept (places.packet + 1) (by omega), packet_sent kept whole] at putsPacket
  change response.length ≤ 192 at short
  refine ⟨free, greeting, wake, verify, send ++ rest, by simp, puts, gets, ?_⟩
  rw [if_pos greets]
  refine ⟨response, send, rest, rfl, putsPacket, getsResponse, ?_, rfl⟩
  rw [read, block_fill_front _ _ _ short, withZeros_block, List.drop_replicate]

theorem Attempted.intact {memory received : Nat -> UInt8}
    (attempted : Attempted memory places scripts .success received registers) :
    atCheckCrc received (places.packet + 6) = .success := by
  obtain ⟨_, _, _, _, _, _, _, rest⟩ := attempted
  split at rest
  next =>
    obtain ⟨_, _, _, _, _, _, _, success⟩ := rest
    rw [verdict] at success
    by_contra failed
    rw [if_pos failed] at success
    exact failed success.symm
  next => exact absurd rest.1 (by decide)

theorem executeCommand_traffic {opcodes : List UInt8} (free : driver.inUse = false)
    (whole : (driver.memory (places.packet + 1)).toNat ≤ 198)
    (returns : executeCommand opcodes driver places scripts = (some status, last, registers)) :
    if driver.memory (places.packet + 2) ∈ opcodes then
      last.inUse = false ∧ ∃ received exchange idle, registers = exchange ++ idle ∧
        Attempted driver.memory places scripts status received exchange ∧
        Puts secureElement true [0x02] scripts.idle idle ∧
        last.memory = Function.update received places.idleData 0x02 ∧
        (status = .success -> 2 ≤ (received (places.packet + 6)).toNat ->
          IsFrame (block received (places.packet + 6) (received (places.packet + 6)).toNat))
    else status = .badOpcode ∧ last = driver ∧ registers = [] := by
  rw [executeCommand] at returns
  split at returns
  next unsupported =>
    rw [if_neg unsupported]
    cases returns
    exact ⟨rfl, rfl, rfl⟩
  next supported =>
    rw [if_pos (by simpa using supported)]
    obtain ⟨_, middle, exchange, _, attempts, after, rfl⟩ := andThen_returns returns
    obtain ⟨_, idle, rest, _, idles, done, rfl⟩ := andThen_returns after
    rw [Prod.mk.injEq, Prod.mk.injEq] at done
    obtain ⟨same, rfl, rfl⟩ := done
    cases same
    obtain ⟨left, attempted⟩ := attempt_returns free whole attempts
    obtain ⟨free, stored, puts⟩ := halI2cIdle_returns left idles
    refine ⟨free, middle.memory, exchange, rest, by simp, attempted, puts, stored, ?_⟩
    rintro rfl long
    exact (atCheckCrc_success_iff long).mp attempted.intact

def packetMemory : Nat -> UInt8 := fill (fun _ => 0) 10 [0, 7, 0x47, 0, 0, 0, 0, 0]

def lowPlaces : Places := ⟨0, 1, 5, 10, by decide, by decide, by decide, by decide⟩

def politeChip : Scripts :=
  let written (length : Nat) := (calm, List.replicate (length + 1) (accepted 0) ++ [.poll false])
  let served (data : List UInt8) := (calm, data.map accepted ++ [.poll false])
  ⟨written 1, served verifData, written 8, served ([4, 0, 3, 0x40] ++ List.replicate 188 0),
    written 1⟩

theorem executeCommand_traffic_polite :
    ∃ last registers, executeCommand [0x47] (.init packetMemory) lowPlaces politeChip =
        (some .success, last, registers) ∧
      if packetMemory 12 ∈ [0x47] then
        last.inUse = false ∧ ∃ received exchange idle, registers = exchange ++ idle ∧
          Attempted packetMemory lowPlaces politeChip .success received exchange ∧
          Puts secureElement true [0x02] politeChip.idle idle ∧
          last.memory = Function.update received 5 0x02 ∧
          (AtcaStatus.success = .success -> 2 ≤ (received 16).toNat ->
            IsFrame (block received 16 (received 16).toNat))
      else AtcaStatus.success = .badOpcode ∧ last = .init packetMemory ∧ registers = [] := by
  have returns : (executeCommand [0x47] (.init packetMemory) lowPlaces politeChip).1 =
      some .success := by
    decide +kernel
  generalize ran : executeCommand [0x47] (.init packetMemory) lowPlaces politeChip = call at returns
  obtain ⟨result, last, registers⟩ := call
  obtain rfl : result = some .success := returns
  exact ⟨last, registers, rfl, @executeCommand_traffic (.init packetMemory) last lowPlaces
    politeChip .success registers [0x47] rfl (by decide) ran⟩

end Command

end AvrVoiceControl.Atca
