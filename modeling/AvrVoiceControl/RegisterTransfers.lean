import AvrVoiceControl.RegisterAccess
import Mathlib.Tactic.NormNum

set_option autoImplicit false

namespace AvrVoiceControl.I2c

open BusTransfer FlatMemory

variable {driver : Driver} {address reg data : UInt8} {regAt dataAt : Nat} {status : Status}
  {happenings : List Happening}

/-- What a call with this start and these happenings puts on the bus. -/
def shows (address : UInt8) (status : Status) (happenings : List Happening)
    (trace : List (Event UInt8) -> List (Signal UInt8)) : List Register :=
  if status.busErr || status.arbLost then [.flush, .flush]
  else .flush :: .maddr (address <<< 1) ::
    (trace (happenings.flatMap heard)).flatMap (shown address)

/-- The call has sent its message as far as it was accepted. -/
def Written (address : UInt8) (insists : Bool) (message : List UInt8) (memory : Nat -> UInt8)
    (status : Status) (happenings : List Happening) (outcome : Waiting × List Register) : Prop :=
  outcome.1.driver.memory = memory ∧
    outcome.2 = shows address status happenings (written insists message)

/-- The call has read into memory what came, over the bytes that lie there. -/
def ReadInto (address reg : UInt8) (memory : Nat -> UInt8) (buffer length : Nat)
    (status : Status) (happenings : List Happening) (outcome : Waiting × List Register) : Prop :=
  let stale := block memory buffer length
  outcome.1.driver.memory =
      (if status.busErr || status.arbLost then memory
        else fill memory buffer (delivered true [reg] stale (happenings.flatMap heard))) ∧
    outcome.2 = shows address status happenings (exchanged true [reg] stale)

theorem Represents.memory {insists : Bool} {memory : Nat -> UInt8} {buffer : Nat}
    {waiting : Waiting} {phase : Phase UInt8}
    (represents : Represents address insists memory buffer waiting phase) :
    waiting.driver.memory = fill memory buffer phase.got := by
  by_cases finished : ∃ got, phase = .done got
  next =>
    obtain ⟨got, rfl⟩ := finished
    exact represents.1
  next => exact (represents.engaged fun got same => finished ⟨got, same⟩).2.2

theorem Outcome.written {insists : Bool} {memory : Nat -> UInt8} {buffer : Nat}
    {out : List UInt8} {outcome : Waiting × List Register}
    (reached : Outcome address insists memory buffer (.calling out []) false status happenings
      outcome) : Written address insists out memory status happenings outcome := by
  by_cases lost : status.busErr || status.arbLost
  next =>
    rw [Outcome, if_pos lost] at reached
    exact ⟨reached.1.memory, by rw [shows, if_pos lost, reached.2]⟩
  next =>
    rw [Outcome, if_neg lost, transcript_writing] at reached
    have stored : outcome.1.driver.memory =
        fill memory buffer (received insists (.calling out []) (happenings.flatMap heard)) :=
      reached.1.memory
    rw [received_writing] at stored
    exact ⟨stored, by rw [shows, if_neg lost, reached.2]; rfl⟩

theorem Outcome.readInto {reg : UInt8} {memory : Nat -> UInt8} {buffer length : Nat}
    (some : length ≠ 0) {outcome : Waiting × List Register}
    (reached : Outcome address true memory buffer (.calling [reg] (block memory buffer length))
      false status happenings outcome) :
    ReadInto address reg memory buffer length status happenings outcome := by
  have stale : block memory buffer length ≠ [] := fun none =>
    some (by rw [← block_length memory buffer length, none, List.length_nil])
  by_cases lost : status.busErr || status.arbLost
  next =>
    rw [Outcome, if_pos lost] at reached
    exact ⟨by rw [if_pos lost]; exact reached.1.memory, by rw [shows, if_pos lost, reached.2]⟩
  next =>
    rw [Outcome, if_neg lost, transcript_exchanging stale] at reached
    have stored : outcome.1.driver.memory = fill memory buffer
        (received true (.calling [reg] (block memory buffer length)) (happenings.flatMap heard)) :=
      reached.1.memory
    rw [received_exchanging stale] at stored
    exact ⟨by rw [if_neg lost, stored], by rw [shows, if_neg lost, reached.2]; rfl⟩

theorem begins_calling {insists : Bool} {buffer : Nat} {dataComplete : Callback} {place : Nat}
    {length : UInt16} (free : driver.inUse = false) (some : length ≠ 0)
    (chains : Chains buffer dataComplete) :
    Represents address insists driver.memory buffer
      ⟨{ driver.prepared address insists dataComplete place length with
          busy := true, pending := true, addressNACKCheck := true,
          state := if false then .rx else .tx }, none⟩
      (.calling (block driver.memory place length.toNat ++ chained driver.memory dataComplete)
        (stale driver.memory dataComplete)) := by
  have engaged := @engaged_of_prepared driver address insists dataComplete place length free .tx
  rw [prepared_free free] at engaged ⊢
  exact ⟨rfl, engaged, rfl, rfl, some, rfl, chains, rfl, rfl⟩

theorem blocking_calls {prepare : Driver -> Driver} {insists : Bool} {buffer : Nat}
    {dataComplete : Callback} {place : Nat} {length : UInt16} (free : driver.inUse = false)
    (prepares : prepare (driver.openBus address).2.1 =
      driver.prepared address insists dataComplete place length)
    (some : length ≠ 0) (chains : Chains buffer dataComplete) :
    Outcome address insists driver.memory buffer
      (.calling (block driver.memory place length.toNat ++ chained driver.memory dataComplete)
        (stale driver.memory dataComplete)) false status happenings
      (blocking driver address false prepare status happenings) :=
  blocking_outcome free prepares (begins_calling free some chains) happenings

theorem setup_prepared (free : driver.inUse = false) (dataComplete : Callback) (place : Nat)
    (length : UInt16) :
    (((driver.openBus address).2.1.setDataCompleteCallback (some dataComplete)).setBuffer
      place length).setAddressNackCallback (some .cbRestartWrite) =
      driver.prepared address true dataComplete place length := by
  simp [Driver.prepared, Driver.openBus, free, Driver.setDataCompleteCallback, Driver.setBuffer,
    Driver.setAddressNackCallback, onRefusal]

theorem register_outcome {buffer : Nat} {dataComplete : Callback} {said rest : List UInt8}
    (free : driver.inUse = false) (holds : driver.memory regAt = reg)
    (chains : Chains buffer dataComplete) (message : chained driver.memory dataComplete = said)
    (covers : stale driver.memory dataComplete = rest) :
    Outcome address true driver.memory buffer (.calling (reg :: said) rest)
      false status happenings
      (blocking driver address false (fun opened =>
        ((opened.setDataCompleteCallback (some dataComplete)).setBuffer
          regAt 1).setAddressNackCallback (some .cbRestartWrite)) status happenings) := by
  have one_ne : (1 : UInt16) ≠ 0 := by decide
  have reached := @blocking_calls driver address status happenings (fun opened =>
        ((opened.setDataCompleteCallback (some dataComplete)).setBuffer
          regAt 1).setAddressNackCallback (some .cbRestartWrite)) true buffer dataComplete regAt
    1 free (setup_prepared free dataComplete regAt 1) one_ne chains
  simpa [block, holds, message, covers] using reached

theorem write1ByteRegister_outcome (free : driver.inUse = false) (apart : regAt ≠ dataAt) :
    Outcome address true ((driver.withByte regAt reg).withByte dataAt data).memory 0
      (.calling [reg, data] []) false status happenings
      (write1ByteRegister driver address reg data regAt dataAt status happenings) :=
  @register_outcome ((driver.withByte regAt reg).withByte dataAt data) address reg regAt status
    happenings 0 (.wr1RegCompleteHandler dataAt) [data] [] free
    (by simp [Driver.withByte, apart]) trivial (by simp [chained, block, Driver.withByte]) rfl

theorem write2ByteRegister_outcome (free : driver.inUse = false) (word : UInt16)
    (apart : regAt ≠ dataAt ∧ regAt ≠ dataAt + 1) :
    Outcome address true ((driver.withByte regAt reg).withWord dataAt word).memory 0
      (.calling [reg, word.toUInt8, (word >>> 8).toUInt8] []) false status happenings
      (write2ByteRegister driver address reg word regAt dataAt status happenings) :=
  @register_outcome ((driver.withByte regAt reg).withWord dataAt word) address reg regAt status
    happenings 0 (.wr2RegCompleteHandler dataAt) [word.toUInt8, (word >>> 8).toUInt8] [] free
    (by simp [Driver.withByte, Driver.withWord, apart]) trivial
    (by simp [chained, block, Driver.withByte, Driver.withWord]) rfl

theorem writeNBytes_outcome (free : driver.inUse = false) {len : UInt16} (some : len ≠ 0) :
    Outcome address true driver.memory 0
      (.calling (block driver.memory dataAt len.toNat) []) false status happenings
      (writeNBytes driver address dataAt len status happenings) := by
  have prepares :
      ((driver.openBus address).2.1.setBuffer dataAt len).setAddressNackCallback
        (Option.some .cbRestartWrite) = driver.prepared address true .returnStop dataAt len := by
    simp [Driver.prepared, Driver.openBus, free, Driver.setBuffer, Driver.setAddressNackCallback,
      onRefusal]
  have reached := @blocking_calls driver address status happenings (fun opened =>
    (opened.setBuffer dataAt len).setAddressNackCallback (Option.some .cbRestartWrite)) true 0
    .returnStop dataAt len free prepares some trivial
  rw [writeNBytes]
  simpa [chained, stale, destination] using reached

theorem writes_prefix (free : driver.inUse = false) (word : UInt16) {len : UInt16}
    (apart : regAt ≠ dataAt ∧ regAt ≠ dataAt + 1) (some : len ≠ 0) :
    Written address true [reg, data] ((driver.withByte regAt reg).withByte dataAt data).memory
        status happenings
        (write1ByteRegister driver address reg data regAt dataAt status happenings) ∧
      Written address true [reg, word.toUInt8, (word >>> 8).toUInt8]
        ((driver.withByte regAt reg).withWord dataAt word).memory status happenings
        (write2ByteRegister driver address reg word regAt dataAt status happenings) ∧
      Written address true (block driver.memory dataAt len.toNat) driver.memory status happenings
        (writeNBytes driver address dataAt len status happenings) :=
  ⟨(write1ByteRegister_outcome free apart.1).written,
    (write2ByteRegister_outcome free word apart).written, (writeNBytes_outcome free some).written⟩

def accepted (data : UInt8) : Happening := .interrupt ⟨false, false, false, data⟩
def refused : Happening := .interrupt ⟨true, false, false, 0⟩
def calm : Status := ⟨false, false, false, 0⟩

def sampleAnswers : List Happening := [refused, .poll false, accepted 0, accepted 0]

theorem writes_prefix_init :
    Written 0x18 true [5, 7] (((Driver.init fun _ => 0).withByte 100 5).withByte 101 7).memory
        calm sampleAnswers
        (write1ByteRegister (.init fun _ => 0) 0x18 5 7 100 101 calm sampleAnswers) ∧
      Written 0x18 true [5, (0x0203 : UInt16).toUInt8, ((0x0203 : UInt16) >>> 8).toUInt8]
        (((Driver.init fun _ => 0).withByte 100 5).withWord 101 0x0203).memory calm sampleAnswers
        (write2ByteRegister (.init fun _ => 0) 0x18 5 0x0203 100 101 calm sampleAnswers) ∧
      Written 0x18 true (block (Driver.init fun _ => 0).memory 101 (3 : UInt16).toNat)
        (Driver.init fun _ => 0).memory calm sampleAnswers
        (writeNBytes (.init fun _ => 0) 0x18 101 3 calm sampleAnswers) :=
  writes_prefix rfl 0x0203 (by decide) (by decide)

theorem readDataBlock_outcome (free : driver.inUse = false) {len : UInt16} (some : len ≠ 0) :
    Outcome address true (driver.withByte regAt reg).memory dataAt
      (.calling [reg] (block (driver.withByte regAt reg).memory dataAt len.toNat)) false status
      happenings (readDataBlock driver address reg dataAt len regAt status happenings) :=
  @register_outcome (driver.withByte regAt reg) address reg regAt status happenings dataAt
    (.rdBlkRegCompleteHandler dataAt len) [] _ free (by simp [Driver.withByte]) ⟨rfl, some⟩ rfl rfl

theorem read2Wait_outcome (free : driver.inUse = false) :
    Outcome address true (driver.withByte regAt reg).memory dataAt
      (.calling [reg] (block (driver.withByte regAt reg).memory dataAt 2)) false status
      happenings (read2Wait driver address reg regAt dataAt status happenings) :=
  @register_outcome (driver.withByte regAt reg) address reg regAt status happenings dataAt
    (.rd2RegCompleteHandler dataAt) [] _ free (by simp [Driver.withByte]) rfl rfl rfl

theorem read1Attempt_outcome (free : driver.inUse = false) :
    Outcome address true driver.memory dataAt
      (.calling [driver.memory regAt] (block driver.memory dataAt 1)) false status
      happenings (read1Attempt driver address regAt dataAt status happenings) :=
  @register_outcome driver address _ regAt status happenings dataAt
    (.rd1RegCompleteHandler dataAt) [] _ free rfl rfl rfl rfl

theorem reads_or_goes_astray (free : driver.inUse = false) {len : UInt16} (some : len ≠ 0) :
    ReadInto address reg (driver.withByte regAt reg).memory dataAt len.toNat status happenings
        (readDataBlock driver address reg dataAt len regAt status happenings) ∧
      ReadInto address reg (driver.withByte regAt reg).memory dataAt 2 status happenings
        (read2Wait driver address reg regAt dataAt status happenings) ∧
      ReadInto address (driver.memory regAt) driver.memory dataAt 1 status happenings
        (read1Attempt driver address regAt dataAt status happenings) := by
  have length : len.toNat ≠ 0 := by
    rw [pred_toNat some]
    simp
  exact ⟨(readDataBlock_outcome free some).readInto length,
    (read2Wait_outcome free).readInto (by simp), (read1Attempt_outcome free).readInto (by simp)⟩

theorem reads_or_goes_astray_init :
    ReadInto 0x18 5 ((Driver.init fun _ => 9).withByte 100 5).memory 101 (3 : UInt16).toNat calm
        sampleAnswers (readDataBlock (.init fun _ => 9) 0x18 5 101 3 100 calm sampleAnswers) ∧
      ReadInto 0x18 5 ((Driver.init fun _ => 9).withByte 100 5).memory 101 2 calm sampleAnswers
        (read2Wait (.init fun _ => 9) 0x18 5 100 101 calm sampleAnswers) ∧
      ReadInto 0x18 ((Driver.init fun _ => 9).memory 100) (Driver.init fun _ => 9).memory 101 1
        calm sampleAnswers (read1Attempt (.init fun _ => 9) 0x18 100 101 calm sampleAnswers) :=
  reads_or_goes_astray rfl (by decide)

-- A slave that is busy when the program calls it for reading is sent the nines that lie there.
example :
    (readDataBlock (.init fun _ => 9) 0x18 5 101 3 100 calm
      [accepted 0, accepted 0, refused, accepted 0, accepted 0]).2 =
      [.flush, .maddr 0x30, .mdata 5, .maddr 0x31, .maddr 0x30, .mdata 9, .mdata 9] := by
  decide

/-- The slave refuses its address for a while, then accepts it and each byte after it, and puts
these bytes on the bus. -/
def Serves (refusals acks answers : List UInt8) (happenings : List Happening) : Prop :=
  happenings.flatMap heard = (refusals.map (.answered true) ++ acks.map (.answered false)) ++
    answers.map (.answered false)

variable {refusals acks : List UInt8}

theorem served_read {reg : UInt8} {stale answers : List UInt8} (some : stale ≠ [])
    (two : acks.length = 2) (enough : answers.length = stale.length) {happenings : List Happening}
    (serves : Serves refusals acks answers happenings) :
    Machine.run (Phase.step true) (.calling [reg] stale) (happenings.flatMap heard) =
      (.done answers, List.replicate refusals.length (.call false) ++
        .byte reg :: .call true :: takes answers.length answers) := by
  obtain ⟨first, rest, rfl⟩ := List.exists_cons_of_ne_nil some
  have sent := @run_written _ [reg] (first :: rest) refusals acks two
  have asked : concluded (first :: rest) = (.asking (first :: rest), [.call true]) := rfl
  rw [serves, Machine.run_append, sent, asked, run_asked some _ enough, enough]
  simp

theorem good_of_serves {answers : List UInt8} {happenings : List Happening}
    (serves : Serves refusals acks answers happenings) :
    ∀ happening ∈ happenings, happening.busErr = false := by
  intro happening member
  by_contra fault
  have bad : happening.busErr = true := by simpa using fault
  have heardOne : ∃ event ∈ heard happening, event = .lost ∨ event = .givenUp := by
    cases happening with
    | interrupt status =>
      exact ⟨.lost, by simp [heard, show status.busErr = true from bad], .inl rfl⟩
    | poll busErr => exact ⟨.givenUp, by simp [heard, show busErr = true from bad], .inr rfl⟩
  obtain ⟨event, inside, kind⟩ := heardOne
  have among : event ∈ happenings.flatMap heard := List.mem_flatMap.mpr ⟨happening, member, inside⟩
  rw [serves] at among
  rcases kind with rfl | rfl <;> simp at among

theorem starts_faultless {insists : Bool} {dataComplete : Callback} {place : Nat} {length : UInt16}
    (free : driver.inUse = false) (good : status.busErr = false) (read : Bool) :
    Faultless ⟨((driver.prepared address insists dataComplete place length).masterOperation
      status read).2.1, none⟩ := by
  rw [prepared_free free]
  cases read with
  | true =>
    have settled := @isr_settles { driver.prepared address insists dataComplete place length with
      busy := true, state := .sendAdrRead } rfl (by simp) status good
    rw [prepared_free free] at settled
    exact ⟨.inl rfl, settled.state, fun _ => settled.calm⟩
  | false =>
    have settled := @isr_settles { driver.prepared address insists dataComplete place length with
      busy := true, state := .sendAdrWrite } rfl (by simp) status good
    rw [prepared_free free] at settled
    exact ⟨.inl rfl, settled.state, fun _ => settled.calm⟩

theorem blocking_faultless {prepare : Driver -> Driver} {insists : Bool} {dataComplete : Callback}
    {place : Nat} {length : UInt16} (free : driver.inUse = false) {read : Bool}
    (prepares : prepare (driver.openBus address).2.1 =
      driver.prepared address insists dataComplete place length)
    (good : status.busErr = false)
    (calm : ∀ happening ∈ happenings, happening.busErr = false) :
    Faultless (blocking driver address read prepare status happenings).1 := by
  simp only [blocking, sitUntilOpen_free free, prepares]
  exact wait_faultless (starts_faultless free good read) calm

theorem poll_returns {insists : Bool} {memory : Nat -> UInt8} {buffer : Nat} {waiting : Waiting}
    {got : List UInt8}
    (represents : Represents address insists memory buffer waiting (.done got))
    (faultless : Faultless waiting) :
    (waitStep waiting (.poll false)).1.returned = some .noErr ∧
      (waitStep waiting (.poll false)).1.driver.memory = fill memory buffer got := by
  obtain ⟨driver, returned⟩ := waiting
  obtain ⟨stored, quiet⟩ := represents
  rcases faultless.returned with rfl | rfl
  next =>
    have idle : driver.busy = false := (quiet rfl).1
    have error : driver.error = .noErr := by
      rcases faultless.calm rfl with busy | ⟨_, _, error⟩
      · exact absurd busy (by simp [idle])
      · exact error
    simpa [waitStep, Driver.close, idle, error] using stored
  next => exact ⟨rfl, stored⟩

/-- The call has returned without an error, with all of its transfer on the bus and in memory. -/
def Completed (address : UInt8) (read : Bool) (memory : Nat -> UInt8) (buffer : Nat)
    (got : List UInt8) (trace : List (Signal UInt8)) (outcome : Waiting × List Register) : Prop :=
  outcome.1.returned = some .noErr ∧ outcome.1.driver.memory = fill memory buffer got ∧
    outcome.2 = .flush :: (shown address (.call read) ++ trace.flatMap (shown address))

theorem blocking_completes {prepare : Driver -> Driver} {insists : Bool} {dataComplete : Callback}
    {place : Nat} {length : UInt16} {buffer : Nat} (free : driver.inUse = false) {read : Bool}
    (prepares : prepare (driver.openBus address).2.1 =
      driver.prepared address insists dataComplete place length)
    (kept : (status.busErr || status.arbLost) = false)
    (calm : ∀ happening ∈ happenings, happening.busErr = false) {phase : Phase UInt8}
    (reached : Outcome address insists driver.memory buffer phase read status happenings
      (blocking driver address read prepare status happenings)) {got : List UInt8}
    {trace : List (Signal UInt8)}
    (transfers : Machine.run (Phase.step insists) phase (happenings.flatMap heard) =
      (.done got, trace)) :
    Completed address read driver.memory buffer got trace
      (blocking driver address read prepare status (happenings ++ [.poll false])) := by
  have good : status.busErr = false := (Bool.or_eq_false_iff.mp kept).1
  have faultless := @blocking_faultless driver address status happenings prepare insists
    dataComplete place length free read prepares good calm
  rw [Outcome, if_neg (by simp [kept]), transcript, transfers] at reached
  obtain ⟨ended, registers⟩ := reached
  obtain ⟨returns, stored⟩ := poll_returns ended faultless
  have silent (waiting : Waiting) : (waitStep waiting (.poll false)).2 = [] := by
    rw [waitStep]
    split <;> rfl
  simp only [blocking, Machine.run_append, Machine.run_cons, Machine.run_nil, silent,
    List.append_nil] at registers returns stored ⊢
  exact ⟨returns, stored, registers⟩

theorem register_completes {buffer : Nat} {dataComplete : Callback} {said rest : List UInt8}
    (free : driver.inUse = false) (holds : driver.memory regAt = reg)
    (chains : Chains buffer dataComplete) (message : chained driver.memory dataComplete = said)
    (covers : stale driver.memory dataComplete = rest)
    (kept : (status.busErr || status.arbLost) = false)
    (calm : ∀ happening ∈ happenings, happening.busErr = false) {got : List UInt8}
    {trace : List (Signal UInt8)}
    (transfers : Machine.run (Phase.step true) (.calling (reg :: said) rest)
      (happenings.flatMap heard) = (.done got, trace)) :
    Completed address false driver.memory buffer got trace
      (blocking driver address false (fun opened =>
        ((opened.setDataCompleteCallback (some dataComplete)).setBuffer
          regAt 1).setAddressNackCallback (some .cbRestartWrite)) status
        (happenings ++ [.poll false])) :=
  blocking_completes free (setup_prepared free dataComplete regAt 1) kept calm
    (register_outcome free holds chains message covers) transfers

theorem readDataBlock_served (free : driver.inUse = false)
    (kept : (status.busErr || status.arbLost) = false) {len : UInt16} (some : len ≠ 0)
    {answers : List UInt8} (two : acks.length = 2) (enough : answers.length = len.toNat)
    (serves : Serves refusals acks answers happenings) :
    Completed address false (driver.withByte regAt reg).memory dataAt answers
      (List.replicate refusals.length (.call false) ++
        .byte reg :: .call true :: takes answers.length answers)
      (readDataBlock driver address reg dataAt len regAt status (happenings ++ [.poll false])) := by
  have covered : block (driver.withByte regAt reg).memory dataAt len.toNat ≠ [] := by
    rw [block_pred _ _ some]
    simp
  have transfers := @served_read refusals acks reg _ answers covered two (by simpa using enough)
    happenings serves
  exact @register_completes (driver.withByte regAt reg) address reg regAt status
    happenings dataAt (.rdBlkRegCompleteHandler dataAt len) [] _ free (by simp [Driver.withByte])
    ⟨rfl, some⟩ rfl rfl kept (good_of_serves serves) _ _ transfers

theorem readDataBlock_served_init :
    Completed 0x18 false ((Driver.init fun _ => 9).withByte 100 5).memory 101 [1, 2, 3]
      (List.replicate 1 (.call false) ++ .byte 5 :: .call true :: takes 3 [1, 2, 3])
      (readDataBlock (.init fun _ => 9) 0x18 5 101 3 100 calm
        (sampleAnswers ++ [accepted 1, .poll false, accepted 2, accepted 3] ++ [.poll false])) :=
  @readDataBlock_served _ _ _ _ _ _ _ [0] [0, 0] rfl rfl 3 (by decide) [1, 2, 3] rfl rfl rfl

theorem swapped_word (first second : UInt8) :
    (first.toUInt16 ||| second.toUInt16 <<< 8) <<< 8 |||
      (first.toUInt16 ||| second.toUInt16 <<< 8) >>> 8 =
        first.toUInt16 <<< 8 ||| second.toUInt16 := by
  apply UInt16.eq_of_toBitVec_eq
  apply BitVec.eq_of_getLsbD_eq
  intro i bound
  simp only [UInt16.toBitVec_or, UInt16.toBitVec_shiftLeft, UInt16.toBitVec_shiftRight,
    UInt8.toBitVec_toUInt16]
  by_cases low : i < 8
  next =>
    simp [low]
    grind
  next =>
    have none := first.toBitVec.getLsbD_of_ge i (by omega)
    have nothing := second.toBitVec.getLsbD_of_ge i (by omega)
    have beyond := second.toBitVec.getLsbD_of_ge (8 + i) (by omega)
    simp [low]
    grind

theorem read2ByteRegister_value (driver : Driver) (address reg : UInt8) (regAt resultAt : Nat)
    (status : Status) (happenings : List Happening) :
    (read2ByteRegister driver address reg regAt resultAt status happenings).1 =
      (read2Wait driver address reg regAt resultAt status happenings).1.returned.map fun _ =>
        wordAt (read2Wait driver address reg regAt resultAt status
            happenings).1.driver.memory resultAt <<< 8 |||
          wordAt (read2Wait driver address reg regAt resultAt status
            happenings).1.driver.memory resultAt >>> 8 := rfl

theorem read2ByteRegister_served (free : driver.inUse = false)
    (kept : (status.busErr || status.arbLost) = false) {first second : UInt8}
    (two : acks.length = 2) (serves : Serves refusals acks [first, second] happenings) :
    (read2ByteRegister driver address reg regAt dataAt status (happenings ++ [.poll false])).1 =
      some (first.toUInt16 <<< 8 ||| second.toUInt16) := by
  have transfers := @served_read refusals acks reg
    (block (driver.withByte regAt reg).memory dataAt 2) [first, second]
    (by simp [block]) two (by simp) happenings serves
  obtain ⟨returns, stored, _⟩ := @register_completes (driver.withByte regAt reg) address reg regAt
    status happenings dataAt (.rd2RegCompleteHandler dataAt) [] _ free (by simp [Driver.withByte])
    rfl rfl rfl kept (good_of_serves serves) _ _ transfers
  have word : wordAt (fill (driver.withByte regAt reg).memory dataAt [first, second]) dataAt =
      first.toUInt16 ||| second.toUInt16 <<< 8 := by
    simp [wordAt, fill]
  rw [read2ByteRegister_value, read2Wait, returns, Option.map_some, stored, word, swapped_word]

def temperatureOf (register : UInt16) : Int16 :=
  (((register.toUInt32.toInt32 <<< 19) >>> 19) * 100 / 16).toInt16

def getTempValue (driver : Driver) (regAt resultAt : Nat) (status : Status)
    (happenings : List Happening) : Option Int16 :=
  (read2ByteRegister driver 0x18 0x05 regAt resultAt status happenings).1.map temperatureOf

def signed13 (register : UInt16) : Int :=
  if register.toNat % 8192 < 4096 then register.toNat % 8192
  else (register.toNat % 8192 : Nat) - 8192

theorem signed13_range (register : UInt16) :
    -4096 ≤ signed13 register ∧ signed13 register < 4096 := by
  rw [signed13]
  split <;> omega

theorem signExtended (register : UInt16) :
    ((register.toUInt32.toInt32 <<< 19) >>> 19 : Int32).toInt = signed13 register := by
  have shifted : ((register.toUInt32.toInt32 <<< 19) >>> 19 : Int32).toBitVec =
      ((register.toBitVec.setWidth 32) <<< 19).sshiftRight 19 := rfl
  have bounded := register.toNat_lt
  rw [← Int32.toInt_toBitVec, shifted, BitVec.toInt_sshiftRight, Int.shiftRight_eq_div_pow,
    BitVec.toInt_shiftLeft, BitVec.toNat_setWidth, UInt16.toNat_toBitVec,
    Nat.mod_eq_of_lt (by omega), Nat.shiftLeft_eq, Int.bmod_def, signed13]
  norm_num
  split <;> split <;> omega

/-- From the multiplication on no step overflows. The shift to the left leaves the 32 bits as soon as
bit 12 of the register is set, and the one to the right brings the sign back. -/
theorem temperatureOf_toInt (register : UInt16) :
    (temperatureOf register).toInt = (signed13 register * 100).tdiv 16 := by
  obtain ⟨lower, upper⟩ := signed13_range register
  have hundred : (100 : Int32).toInt = 100 := by decide
  have sixteen : (16 : Int32).toInt = 16 := by decide
  rw [temperatureOf, Int32.toInt_toInt16, Int32.toInt_div, Int32.toInt_mul, signExtended, hundred,
    sixteen, @Int.bmod_eq_of_le (signed13 register * 100) _ (by norm_num; omega)
      (by norm_num; omega)]
  have range : -25600 ≤ (signed13 register * 100).tdiv 16 ∧
      (signed13 register * 100).tdiv 16 ≤ 25600 := by
    have positive : Int.sign 16 = 1 := rfl
    rw [Int.tdiv_eq_ediv]
    split
    · omega
    · rw [positive]
      omega
  have inner : ((signed13 register * 100).tdiv 16).bmod (2 ^ 32) =
      (signed13 register * 100).tdiv 16 :=
    Int.bmod_eq_of_le (by norm_num; omega) (by norm_num; omega)
  rw [inner, Int.bmod_eq_of_le (by norm_num; omega) (by norm_num; omega)]

theorem getTempValue_served (free : driver.inUse = false)
    (kept : (status.busErr || status.arbLost) = false) {first second : UInt8}
    (two : acks.length = 2) (serves : Serves refusals acks [first, second] happenings) :
    ∃ value, getTempValue driver regAt dataAt status (happenings ++ [.poll false]) = some value ∧
      value.toInt = (signed13 (first.toUInt16 <<< 8 ||| second.toUInt16) * 100).tdiv 16 := by
  refine ⟨_, ?_, temperatureOf_toInt _⟩
  rw [getTempValue, read2ByteRegister_served free kept two serves, Option.map_some]

theorem getTempValue_served_below_zero :
    ∃ value, getTempValue (.init fun _ => 9) 100 101 calm
        (sampleAnswers ++ [accepted 0x1f, accepted 0x6a] ++ [.poll false]) = some value ∧
      value.toInt = (signed13 ((0x1f : UInt8).toUInt16 <<< 8 ||| (0x6a : UInt8).toUInt16) *
        100).tdiv 16 :=
  @getTempValue_served _ _ _ _ _ [0] [0, 0] rfl rfl _ _ rfl rfl

theorem read1Attempt_faultless (free : driver.inUse = false) (good : status.busErr = false)
    (calm : ∀ happening ∈ happenings, happening.busErr = false) :
    Faultless (read1Attempt driver address regAt dataAt status happenings).1 :=
  blocking_faultless free (setup_prepared free (.rd1RegCompleteHandler dataAt) regAt 1) good calm

/-- The second pass of `i2c_read1ByteRegister` is for bus errors only. Without one, the function
returns the byte it has received or else 42, and a slave that refuses the read address is called for
writing that 42. -/
theorem read1ByteRegister_once (free : driver.inUse = false) (apart : regAt ≠ dataAt)
    {first second : Status × List Happening} (good : first.1.busErr = false)
    (calm : ∀ happening ∈ first.2, happening.busErr = false) :
    let outcome := read1ByteRegister driver address reg regAt dataAt first second
    let received :=
      if first.1.arbLost then [] else delivered true [reg] [42] (first.2.flatMap heard)
    (outcome.1 = none ∨ outcome.1 = some (received.headD 42)) ∧
      outcome.2.2 = shows address first.1 first.2 (exchanged true [reg] [42]) ∧
      ∀ (refusals acks : List UInt8) (data : UInt8) (again : List (Event UInt8)),
        first.1.arbLost = false -> acks.length = 2 ->
        first.2.flatMap heard = (refusals.map (.answered true) ++ acks.map (.answered false)) ++
          .answered true data :: again ->
        outcome.2.2 = .flush :: .maddr (address <<< 1) :: List.flatMap (shown address)
          (List.replicate refusals.length (.call false) ++
            .byte reg :: .call true :: .call false :: written true [42] again) := by
  intro outcome received
  obtain ⟨status, happenings⟩ := first
  have good : status.busErr = false := good
  have faultless := @read1Attempt_faultless ((driver.withByte regAt reg).withByte dataAt 42) address
    regAt dataAt status happenings free good calm
  have held : ((driver.withByte regAt reg).withByte dataAt 42).memory regAt = reg := by
    simp [Driver.withByte, apart]
  have preset : block ((driver.withByte regAt reg).withByte dataAt 42).memory dataAt 1 = [42] := by
    simp [Driver.withByte, block]
  obtain ⟨stored, transferred⟩ :=
    (@read1Attempt_outcome ((driver.withByte regAt reg).withByte dataAt 42) address regAt dataAt
      status happenings free).readInto (by simp)
  rw [held, preset] at stored transferred
  have returns : (read1Attempt ((driver.withByte regAt reg).withByte dataAt 42) address regAt dataAt
        status happenings).1.driver.memory dataAt = received.headD 42 := by
    have kept : ((driver.withByte regAt reg).withByte dataAt 42).memory dataAt = 42 := by
      simp [Driver.withByte]
    simp only [received, stored, good, Bool.false_or]
    split
    · exact kept
    · rw [fill_head, kept]
  have registers : outcome.2.2 = shows address status happenings (exchanged true [reg] [42]) := by
    rcases faultless.returned with still | ended
    · simpa only [outcome, read1ByteRegister, read1Passes, still] using transferred
    · simpa only [outcome, read1ByteRegister, read1Passes, ended] using transferred
  refine ⟨?_, registers, ?_⟩
  · rcases faultless.returned with still | ended
    · exact .inl (by simp [outcome, read1ByteRegister, read1Passes, still])
    · exact .inr (by simp only [outcome, read1ByteRegister, read1Passes, ended, returns])
  · intro refusals acks data again kept two heard'
    have kept : status.arbLost = false := kept
    have heard' : happenings.flatMap heard = _ := heard'
    have astray := @exchanged_refused _ [reg] [42] (by simp) refusals acks two data again
    rw [registers, shows, good, kept, if_neg (by simp), heard', astray]
    rfl

theorem read1ByteRegister_once_init :
    let happenings := sampleAnswers ++ [refused, accepted 0, accepted 0, .poll false]
    let outcome := read1ByteRegister (.init fun _ => 0) 0x18 5 100 101 (calm, happenings) (calm, [])
    let received :=
      if calm.arbLost then [] else delivered true [5] [42] (happenings.flatMap heard)
    (outcome.1 = none ∨ outcome.1 = some (received.headD 42)) ∧
      outcome.2.2 = shows 0x18 calm happenings (exchanged true [5] [42]) ∧
      ∀ (refusals acks : List UInt8) (data : UInt8) (again : List (Event UInt8)),
        calm.arbLost = false -> acks.length = 2 ->
        happenings.flatMap heard = (refusals.map (.answered true) ++ acks.map (.answered false)) ++
          .answered true data :: again ->
        outcome.2.2 = .flush :: .maddr ((0x18 : UInt8) <<< 1) :: List.flatMap (shown 0x18)
          (List.replicate refusals.length (.call false) ++
            .byte 5 :: .call true :: .call false :: written true [42] again) :=
  @read1ByteRegister_once (.init fun _ => 0) 0x18 5 100 101 rfl (by decide)
    (calm, sampleAnswers ++ [refused, accepted 0, accepted 0, .poll false]) (calm, []) rfl
    (by decide)

end AvrVoiceControl.I2c
