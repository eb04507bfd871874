import AvrVoiceControl.AtcaSha

set_option autoImplicit false

namespace AvrVoiceControl.Atca

open Blocks FlatMemory

section Update

variable (chip : Chip)

def sendBlocks : List ShaCommand -> List (List UInt8) -> AtcaStatus × List ShaCommand
  | log, [] => (.success, log)
  | log, message :: blocks =>
    match shaUpdate chip log message with
    | (.success, log) => sendBlocks log blocks
    | failed => failed

theorem sendBlocks_append (log : List ShaCommand) (front back : List (List UInt8)) :
    sendBlocks chip log (front ++ back) =
      match sendBlocks chip log front with
      | (.success, log) => sendBlocks chip log back
      | failed => failed := by
  induction front generalizing log with
  | nil => rfl
  | cons message front ih =>
    rw [List.cons_append, sendBlocks, sendBlocks]
    obtain ⟨status, next⟩ := shaUpdate chip log message
    cases status <;> simp [ih]

theorem additionalBlocks_cut (count : Nat) (log : List ShaCommand) (data : List UInt8) :
    additionalBlocks chip count log data = sendBlocks chip log (cut 64 count data) := by
  induction count generalizing log data with
  | zero => rfl
  | succ count ih =>
    rw [additionalBlocks, cut, sendBlocks]
    obtain ⟨status, next⟩ := shaUpdate chip log (data.take 64)
    cases status <;> simp [ih]

/-- The bytes that wait for a block to fill up. -/
structure Pending (pending : List UInt8) (ctx : Sha256Ctx) : Prop where
  short : pending.length < 64
  size : ctx.blockSize = pending.length
  stored : block ctx.block 0 pending.length = pending

variable {chip} {log next : List ShaCommand} {pending : List UInt8} {ctx : Sha256Ctx}
  {status : AtcaStatus}

theorem update_waits (holds : Pending pending ctx) {data : List UInt8}
    (short : pending.length + data.length < 64) :
    ∃ later, hwSha256Update chip log ctx data = (.success, later, log) ∧
      Pending (pending ++ data) later ∧ later.totalMsgSize = ctx.totalMsgSize := by
  have whole : data.take (if 64 - pending.length < data.length then 64 - pending.length
      else data.length) = data := by
    rw [if_neg (by omega), List.take_length]
  have fits : (pending ++ data).length = pending.length + data.length := List.length_append
  refine ⟨{ ctx with
    block := fill ctx.block pending.length data
    blockSize := pending.length + data.length }, ?_, ⟨by omega, fits.symm, ?_⟩, rfl⟩
  · simp only [hwSha256Update, holds.size, whole, if_pos short]
  · rw [fits, block_add, block_fill_outside _ _ _ (.inl (by omega)), holds.stored, Nat.zero_add,
      block_fill]

theorem update_sends (holds : Pending pending ctx) (data : List UInt8) :
    ∃ later, hwSha256Update chip log ctx data =
        ((sendBlocks chip log (wholes 64 (pending ++ data))).1, later,
          (sendBlocks chip log (wholes 64 (pending ++ data))).2) ∧
      ((sendBlocks chip log (wholes 64 (pending ++ data))).1 = .success ->
        Pending (rest 64 (pending ++ data)) later ∧
        later.totalMsgSize =
          ctx.totalMsgSize + UInt32.ofNat ((wholes 64 (pending ++ data)).length * 64)) := by
  have waiting := holds.short
  by_cases short : pending.length + data.length < 64
  next =>
    obtain ⟨later, waits, pends, total⟩ := @update_waits chip log pending ctx holds data short
    have fits : (pending ++ data).length < 64 := by simpa using short
    rw [wholes_short 64 fits, rest_short 64 fits]
    exact ⟨later, waits, fun _ => ⟨pends, by simp [total]⟩⟩
  next =>
    have copy : (if 64 - pending.length < data.length then 64 - pending.length
        else data.length) = 64 - pending.length := by
      split <;> omega
    obtain ⟨front, back, length, rfl⟩ : ∃ front back : List UInt8,
        front.length = 64 - pending.length ∧ data = front ++ back :=
      ⟨data.take (64 - pending.length), data.drop (64 - pending.length),
        by rw [List.length_take]; omega, (List.take_append_drop _ _).symm⟩
    have one : (pending ++ front).length = 64 := by
      rw [List.length_append]
      omega
    obtain ⟨blocks, left⟩ := wholes_block 64 (by decide) one back
    have filled : block (fill ctx.block pending.length front) 0 64 = pending ++ front := by
      rw [← one, List.length_append, block_add, block_fill_outside _ _ _ (.inl (by omega)),
        holds.stored, Nat.zero_add, block_fill]
    have dataSize : (front ++ back).length - (64 - pending.length) = back.length := by
      rw [List.length_append, length]
      omega
    have saved : ((front ++ back).drop (64 - pending.length + back.length / 64 * 64)).take
        (back.length % 64) = rest 64 back := by
      rw [← length, ← List.drop_drop, List.drop_left, Nat.mul_comm, ← rest_length]
      exact List.take_length
    rw [← List.append_assoc, blocks, left, sendBlocks]
    simp only [hwSha256Update, holds.size, copy, List.take_left' length, if_neg short, filled,
      dataSize, List.drop_left' length, saved]
    obtain ⟨status, next⟩ := shaUpdate chip log (pending ++ front)
    cases status
    case success =>
      have additional := additionalBlocks_cut chip (back.length / 64) next back
      change _ = sendBlocks chip next (wholes 64 back) at additional
      simp only [additional]
      obtain ⟨status, last⟩ := sendBlocks chip next (wholes 64 back)
      cases status
      case success =>
        refine ⟨_, rfl, fun _ => ⟨⟨?_, ?_, ?_⟩, ?_⟩⟩
        · rw [rest_length]
          exact Nat.mod_lt _ (by decide)
        · rw [rest_length]
        · exact block_fill _ _ _
        · rw [List.length_cons, wholes_length]
      all_goals exact ⟨_, rfl, nofun⟩
    all_goals exact ⟨_, rfl, nofun⟩

theorem updates_send (holds : Pending pending ctx) (pieces : List (List UInt8)) :
    ∃ later, hwSha256Updates chip log ctx pieces =
        ((sendBlocks chip log (wholes 64 (pending ++ pieces.flatten))).1, later,
          (sendBlocks chip log (wholes 64 (pending ++ pieces.flatten))).2) ∧
      ((sendBlocks chip log (wholes 64 (pending ++ pieces.flatten))).1 = .success ->
        Pending (rest 64 (pending ++ pieces.flatten)) later ∧
        later.totalMsgSize = ctx.totalMsgSize +
          UInt32.ofNat ((wholes 64 (pending ++ pieces.flatten)).length * 64)) := by
  induction pieces generalizing log pending ctx with
  | nil =>
    rw [List.flatten_nil, List.append_nil, wholes_short 64 holds.short, rest_short 64 holds.short]
    exact ⟨ctx, rfl, fun _ => ⟨holds, by simp⟩⟩
  | cons data pieces ih =>
    obtain ⟨first, updates, sound⟩ := @update_sends chip log pending ctx holds data
    rw [List.flatten_cons, ← List.append_assoc,
      wholes_append 64 (pending ++ data) pieces.flatten (by decide),
      rest_append 64 (pending ++ data) pieces.flatten (by decide), sendBlocks_append,
      hwSha256Updates, updates]
    generalize sendBlocks chip log (wholes 64 (pending ++ data)) = sent at sound
    obtain ⟨status, next⟩ := sent
    cases status
    case success =>
      obtain ⟨pends, total⟩ := sound rfl
      obtain ⟨later, rests, kept⟩ := @ih next _ first pends
      refine ⟨later, rests, fun success => ⟨(kept success).1, ?_⟩⟩
      rw [(kept success).2, total, List.length_append, Nat.add_mul, UInt32.ofNat_add,
        UInt32.add_assoc]
    all_goals exact ⟨_, rfl, nofun⟩

end Update

section Finish

variable {chip : Chip} {log : List ShaCommand} {pending : List UInt8} {ctx other : Sha256Ctx}

/-- What the ATSHA204A is not left to add by itself. -/
def paddingTail (pending : Nat) (msgSizeBits : UInt32) : List UInt8 :=
  0x80 :: (List.replicate ((64 - (pending + 9) % 64) % 64 + 4) 0 ++ bigEndianBytes msgSizeBits)

theorem paddingTail_length (pending : Nat) (msgSizeBits : UInt32) :
    (paddingTail pending msgSizeBits).length = 1 + ((64 - (pending + 9) % 64) % 64 + 4) + 4 := by
  rw [paddingTail, List.length_cons, List.length_append, List.length_replicate, bigEndianBytes]
  simp only [List.length_cons, List.length_nil]
  omega

def lastBlocks (pending : List UInt8) (totalMsgSize : UInt32) : List UInt8 :=
  pending ++ paddingTail pending.length ((totalMsgSize + UInt32.ofNat pending.length) * 8)

theorem lastBlocks_length {pending : List UInt8} (short : pending.length < 64)
    (totalMsgSize : UInt32) :
    (lastBlocks pending totalMsgSize).length = 64 ∨
      (lastBlocks pending totalMsgSize).length = 128 := by
  rw [lastBlocks, List.length_append, paddingTail_length]
  omega

theorem finish_padded (holds : Pending pending ctx) (digest : List UInt8) :
    hwSha256Finish chip log .atsha204a ctx digest =
      match shaBaseOut chip log shaModeUpdate 64
          ((lastBlocks pending ctx.totalMsgSize).take 64) digest with
      | (.success, digest, log) =>
        if 64 < (lastBlocks pending ctx.totalMsgSize).length then
          shaBaseOut chip log shaModeUpdate 64
            ((lastBlocks pending ctx.totalMsgSize).drop 64) digest
        else (.success, digest, log)
      | failed => failed := by
  have size : ctx.blockSize + 1 + ((64 - (ctx.blockSize + 9) % 64) % 64 + 4) + 4 =
      (lastBlocks pending ctx.totalMsgSize).length := by
    rw [lastBlocks, List.length_append, paddingTail_length, holds.size]
    omega
  have lengths := lastBlocks_length holds.short ctx.totalMsgSize
  have whole : block (fill ctx.block pending.length (paddingTail pending.length
      ((ctx.totalMsgSize + UInt32.ofNat pending.length) * 8))) 0
      (lastBlocks pending ctx.totalMsgSize).length = lastBlocks pending ctx.totalMsgSize := by
    rw [lastBlocks, List.length_append, block_add, block_fill_outside _ _ _ (.inl (by omega)),
      holds.stored, Nat.zero_add, block_fill]
  have tail : fill ctx.block ctx.blockSize (0x80 ::
      (List.replicate ((64 - (ctx.blockSize + 9) % 64) % 64 + 4) 0 ++
        bigEndianBytes ((ctx.totalMsgSize + UInt32.ofNat ctx.blockSize) * 8))) =
      fill ctx.block pending.length (paddingTail pending.length
        ((ctx.totalMsgSize + UInt32.ofNat pending.length) * 8)) := by
    rw [holds.size, paddingTail]
  generalize fill ctx.block pending.length (paddingTail pending.length
    ((ctx.totalMsgSize + UInt32.ofNat pending.length) * 8)) = memory at whole tail
  have first : block memory 0 64 = (lastBlocks pending ctx.totalMsgSize).take 64 := by
    rw [← whole, block_take _ _ (by omega)]
  rw [hwSha256Finish, if_pos rfl]
  simp only [tail, size, first]
  generalize shaBaseOut chip log shaModeUpdate 64
    ((lastBlocks pending ctx.totalMsgSize).take 64) digest = answer
  obtain ⟨status, digest, next⟩ := answer
  cases status
  case success =>
    by_cases long : 64 < (lastBlocks pending ctx.totalMsgSize).length
    next =>
      have second : block memory 64 64 = (lastBlocks pending ctx.totalMsgSize).drop 64 := by
        have two : (lastBlocks pending ctx.totalMsgSize).length = 64 + 64 := by omega
        rw [two, block_add] at whole
        rw [← whole, List.drop_left' (block_length _ _ _), Nat.zero_add]
      simp only [if_pos long, second]
    next =>
      simp only [if_neg long]
  all_goals rfl

theorem finish_congr (holds : Pending pending ctx) (alike : Pending pending other)
    (total : ctx.totalMsgSize = other.totalMsgSize) (devtype : DeviceType) (digest : List UInt8) :
    hwSha256Finish chip log devtype ctx digest = hwSha256Finish chip log devtype other digest := by
  by_cases old : devtype = .atsha204a
  next =>
    rw [old, finish_padded holds, finish_padded alike, total]
  next =>
    rw [hwSha256Finish, hwSha256Finish, if_neg old, if_neg old, holds.size, alike.size,
      holds.stored, alike.stored]

theorem hmacFinish_congr (holds : Pending pending ctx) (alike : Pending pending other)
    (devtype : DeviceType) (target : UInt8) (digest : List UInt8) :
    shaHmacFinish chip log devtype target ctx digest =
      shaHmacFinish chip log devtype target other digest := by
  rw [shaHmacFinish, shaHmacFinish, holds.size, alike.size, holds.stored, alike.stored]

theorem shaPieces_sends (mode : UInt8) (length : UInt16)
    (finish : List ShaCommand -> Sha256Ctx -> List UInt8 -> Sent (List UInt8))
    (digest : List UInt8) (pieces : List (List UInt8)) :
    ∃ ctx, ((sendBlocks chip (log ++ [⟨mode, length, []⟩]) (wholes 64 pieces.flatten)).1 = .success ->
        Pending (rest 64 pieces.flatten) ctx ∧
        ctx.totalMsgSize = UInt32.ofNat ((wholes 64 pieces.flatten).length * 64)) ∧
      shaPieces chip log mode length finish digest pieces =
        match (chip (log ++ [⟨mode, length, []⟩])).1 with
        | .success =>
          match sendBlocks chip (log ++ [⟨mode, length, []⟩]) (wholes 64 pieces.flatten) with
          | (.success, log) => finish log ctx digest
          | (status, log) => (status, digest, log)
        | status => (status, digest, log ++ [⟨mode, length, []⟩]) := by
  have begun : Pending [] ⟨0, 0, fun _ => 0⟩ := ⟨by simp, rfl, rfl⟩
  obtain ⟨later, updates, sound⟩ := @updates_send chip (log ++ [⟨mode, length, []⟩]) [] _ begun pieces
  rw [List.nil_append] at updates sound
  refine ⟨later, fun success => ⟨(sound success).1, by rw [(sound success).2, UInt32.zero_add]⟩, ?_⟩
  rw [shaPieces, shaBase]
  cases (chip (log ++ [⟨mode, length, []⟩])).1
  case success =>
    simp only [updates]
    generalize sendBlocks chip (log ++ [⟨mode, length, []⟩]) (wholes 64 pieces.flatten) = sent
    obtain ⟨status, next⟩ := sent
    cases status <;> rfl
  all_goals rfl

theorem pieces_as_whole (chip : Chip) (log : List ShaCommand) (devtype : DeviceType)
    (keySlot : UInt16) (target : UInt8) (digest : List UInt8) (pieces : List (List UInt8)) :
    hwSha256Pieces chip log devtype digest pieces =
        hwSha256 chip log devtype pieces.flatten digest ∧
      shaHmacPieces chip log devtype keySlot target digest pieces =
        shaHmac chip log devtype keySlot target pieces.flatten digest := by
  have same (mode : UInt8) (length : UInt16)
      (finish : List ShaCommand -> Sha256Ctx -> List UInt8 -> Sent (List UInt8))
      (respects : ∀ log pending ctx other, Pending pending ctx -> Pending pending other ->
        ctx.totalMsgSize = other.totalMsgSize -> finish log ctx digest = finish log other digest) :
      shaPieces chip log mode length finish digest pieces =
        shaPieces chip log mode length finish digest [pieces.flatten] := by
    obtain ⟨ctx, sound, sends⟩ := @shaPieces_sends chip log mode length finish digest pieces
    obtain ⟨other, soundWhole, sendsWhole⟩ :=
      @shaPieces_sends chip log mode length finish digest [pieces.flatten]
    rw [List.flatten_singleton] at soundWhole sendsWhole
    rw [sends, sendsWhole]
    cases (chip (log ++ [⟨mode, length, []⟩])).1
    case success =>
      generalize sendBlocks chip (log ++ [⟨mode, length, []⟩]) (wholes 64 pieces.flatten) = sent
        at sound soundWhole
      obtain ⟨status, next⟩ := sent
      cases status
      case success =>
        exact respects next _ ctx other (sound rfl).1 (soundWhole rfl).1
          ((sound rfl).2.trans (soundWhole rfl).2.symm)
      all_goals rfl
    all_goals rfl
  constructor
  · apply same
    intro log pending ctx other holds alike total
    exact finish_congr holds alike total devtype digest
  · apply same
    intro log pending ctx other holds alike _
    exact hmacFinish_congr holds alike devtype target digest

def paddedMessage (data : List UInt8) : List UInt8 :=
  data ++ 0x80 :: List.replicate ((64 - (data.length + 9) % 64) % 64) 0 ++
    (List.range 8).map fun i => UInt8.ofNat (8 * data.length / 256 ^ (7 - i))

def updateCommand (message : List UInt8) : ShaCommand := ⟨shaModeUpdate, 64, message⟩

/-- The commands of a digest. The ATSHA204A only hashes whole blocks, so that it is sent the padding
too. -/
def shaPlan (devtype : DeviceType) (data : List UInt8) : List ShaCommand :=
  ⟨shaModeStart, 0, []⟩ ::
    if devtype = .atsha204a then (wholes 64 (paddedMessage data)).map updateCommand
    else (wholes 64 data).map updateCommand ++
      [⟨shaModeEnd, UInt16.ofNat (data.length % 64), rest 64 data⟩]

def fitting (room : Nat) (answer : AtcaStatus × List UInt8) : AtcaStatus :=
  if answer.1 = .success ∧ 2 ≤ answer.2.length ∧ room < answer.2.length then .smallBuffer
  else answer.1

/-- The chip gets one command after the other until one fails. Only behind the first `silent` of them
is there `room` for the response. -/
def carryOut (chip : Chip) (room : Nat) :
    Nat -> List ShaCommand -> List ShaCommand -> AtcaStatus × List ShaCommand
  | _, log, [] => (.success, log)
  | silent, log, command :: plan =>
    let answer := chip (log ++ [command])
    match if silent = 0 then fitting room answer else answer.1 with
    | .success => carryOut chip room (silent - 1) (log ++ [command]) plan
    | failed => (failed, log ++ [command])

section Plan

variable {room silent : Nat}

theorem carryOut_append (front back : List ShaCommand) :
    carryOut chip room silent log (front ++ back) =
      match carryOut chip room silent log front with
      | (.success, next) => carryOut chip room (silent - front.length) next back
      | failed => failed := by
  induction front generalizing silent log with
  | nil => rfl
  | cons command front ih =>
    rw [List.cons_append, carryOut, carryOut]
    cases if silent = 0 then fitting room (chip (log ++ [command]))
      else (chip (log ++ [command])).1
    case success =>
      have fewer : silent - 1 - front.length = silent - (front.length + 1) := by omega
      simp only [ih, List.length_cons, fewer]
    all_goals rfl

theorem carryOut_silent (some : silent ≠ 0) (command : ShaCommand) :
    carryOut chip room silent log [command] =
      ((chip (log ++ [command])).1, log ++ [command]) := by
  rw [carryOut]
  rw [if_neg some]
  cases (chip (log ++ [command])).1 <;> rfl

theorem sendBlocks_carryOut (blocks : List (List UInt8)) (more : Nat) :
    sendBlocks chip log blocks =
      carryOut chip room (blocks.length + more) log (blocks.map updateCommand) := by
  induction blocks generalizing log with
  | nil => rfl
  | cons message blocks ih =>
    have fewer : (message :: blocks).length + more - 1 = blocks.length + more := by
      rw [List.length_cons]
      omega
    have some : (message :: blocks).length + more ≠ 0 := by simp
    rw [List.map_cons, sendBlocks, carryOut, shaUpdate, shaBase]
    rw [if_neg some, fewer]
    change (match ((chip (log ++ [updateCommand message])).1, log ++ [updateCommand message]) with
      | (.success, log) => sendBlocks chip log blocks
      | failed => failed) = _
    cases (chip (log ++ [updateCommand message])).1
    case success => exact ih
    all_goals rfl

theorem shaBaseOut_carryOut (mode : UInt8) (length : UInt16) (message out : List UInt8) :
    ((shaBaseOut chip log mode length message out).1,
        (shaBaseOut chip log mode length message out).2.2) =
      carryOut chip out.length 0 log [⟨mode, length, message⟩] ∧
    (shaBaseOut chip log mode length message out).2.1.length = out.length := by
  rw [shaBaseOut, carryOut]
  rw [if_pos rfl, fitting]
  generalize chip (log ++ [⟨mode, length, message⟩]) = answer
  obtain ⟨status, data⟩ := answer
  cases status
  case success =>
    by_cases short : data.length < 2
    next =>
      have few : ¬ 2 ≤ data.length := by omega
      simp [short, few, carryOut]
    next =>
      by_cases small : out.length < data.length
      next =>
        have many : 2 ≤ data.length := by omega
        simp [short, small, many]
      next =>
        simp only [short, small, if_false, and_false]
        exact ⟨rfl, by rw [List.length_append, List.length_drop]; omega⟩
  all_goals exact ⟨by simp, rfl⟩

end Plan

theorem bigEndian_long {n : Nat} (small : n < 2 ^ 32) :
    ((List.range 8).map fun i => UInt8.ofNat (n / 256 ^ (7 - i))) =
      List.replicate 4 0 ++ bigEndianBytes (UInt32.ofNat n) := by
  have value : (UInt32.ofNat n).toNat = n := UInt32.toNat_ofNat_of_lt' small
  have byte (shift : UInt32) (power : Nat) (same : 2 ^ (shift.toNat % 32) = power) :
      (UInt32.ofNat n >>> shift).toUInt8 = UInt8.ofNat (n / power) := by
    apply UInt8.toNat_inj.mp
    rw [UInt32.toNat_toUInt8, UInt32.toNat_shiftRight, value, UInt8.toNat_ofNat',
      Nat.shiftRight_eq_div_pow, same]
  have zero (power : Nat) (large : 2 ^ 32 ≤ power) : UInt8.ofNat (n / power) = 0 := by
    rw [Nat.div_eq_of_lt (by omega)]
    rfl
  rw [bigEndianBytes, byte 24 (256 ^ 3) rfl, byte 16 (256 ^ 2) rfl, byte 8 (256 ^ 1) rfl,
    byte 0 (256 ^ 0) rfl]
  change [_, _, _, _, _, _, _, _] = [0, 0, 0, 0, _, _, _, _]
  beta_reduce
  rw [zero (256 ^ (7 - 0)) (by decide), zero (256 ^ (7 - 1)) (by decide),
    zero (256 ^ (7 - 2)) (by decide), zero (256 ^ (7 - 3)) (by decide)]

theorem padded_wholes {data : List UInt8} (small : 8 * data.length < 2 ^ 32) :
    wholes 64 (paddedMessage data) = wholes 64 data ++
      wholes 64 (lastBlocks (rest 64 data) (UInt32.ofNat ((wholes 64 data).length * 64))) := by
  have split : 64 * (data.length / 64) + data.length % 64 = data.length := Nat.div_add_mod _ _
  have bits : (UInt32.ofNat ((wholes 64 data).length * 64) +
      UInt32.ofNat (data.length % 64)) * 8 = UInt32.ofNat (8 * data.length) := by
    rw [← UInt32.ofNat_add, wholes_length, Nat.mul_comm (data.length / 64), split,
      Nat.mul_comm 8, UInt32.ofNat_mul]
    rfl
  have pad : (64 - (data.length % 64 + 9) % 64) % 64 = (64 - (data.length + 9) % 64) % 64 := by
    omega
  have tail : lastBlocks (rest 64 data) (UInt32.ofNat ((wholes 64 data).length * 64)) =
      rest 64 data ++ (0x80 :: List.replicate ((64 - (data.length + 9) % 64) % 64) 0 ++
        (List.range 8).map fun i => UInt8.ofNat (8 * data.length / 256 ^ (7 - i))) := by
    rw [lastBlocks, rest_length, bits, paddingTail, pad, bigEndian_long small,
      List.replicate_add]
    simp
  rw [paddedMessage, List.append_assoc, wholes_append 64 _ _ (by decide), tail]

theorem wholes_none : wholes 64 ([] : List UInt8) = [] := wholes_short 64 (by decide)

theorem finish_carryOut (holds : Pending pending ctx) (devtype : DeviceType)
    (digest : List UInt8) :
    ((hwSha256Finish chip log devtype ctx digest).1,
        (hwSha256Finish chip log devtype ctx digest).2.2) =
      carryOut chip digest.length 0 log
        (if devtype = .atsha204a then
          (wholes 64 (lastBlocks pending ctx.totalMsgSize)).map updateCommand
        else [⟨shaModeEnd, UInt16.ofNat pending.length, pending⟩]) := by
  by_cases old : devtype = .atsha204a
  next =>
    have lengths := lastBlocks_length holds.short ctx.totalMsgSize
    have front : ((lastBlocks pending ctx.totalMsgSize).take 64).length = 64 := by
      rw [List.length_take]
      omega
    have blocks := (wholes_block 64 (by decide) front
      ((lastBlocks pending ctx.totalMsgSize).drop 64)).1
    rw [List.take_append_drop] at blocks
    obtain ⟨one, kept⟩ := @shaBaseOut_carryOut chip log shaModeUpdate 64
      ((lastBlocks pending ctx.totalMsgSize).take 64) digest
    change _ = carryOut chip digest.length 0 log
      [updateCommand ((lastBlocks pending ctx.totalMsgSize).take 64)] at one
    rw [if_pos old, old, finish_padded holds, blocks, List.map_cons, ← List.singleton_append,
      carryOut_append, ← one]
    generalize shaBaseOut chip log shaModeUpdate 64
      ((lastBlocks pending ctx.totalMsgSize).take 64) digest = first at kept
    obtain ⟨status, stored, next⟩ := first
    cases status
    case success =>
      by_cases long : 64 < (lastBlocks pending ctx.totalMsgSize).length
      next =>
        have back : ((lastBlocks pending ctx.totalMsgSize).drop 64).length = 64 := by
          rw [List.length_drop]
          omega
        have last := (wholes_block 64 (by decide) back []).1
        rw [List.append_nil, wholes_none] at last
        have same : stored.length = digest.length := kept
        rw [last, ← same]
        simp only [if_pos long]
        exact (shaBaseOut_carryOut _ _ _ _).1
      next =>
        have back : (lastBlocks pending ctx.totalMsgSize).drop 64 = [] :=
          List.drop_of_length_le (by omega)
        rw [back, wholes_none]
        simp only [if_neg long]
        rfl
    all_goals rfl
  next =>
    rw [if_neg old, hwSha256Finish, if_neg old, holds.size, holds.stored]
    exact (shaBaseOut_carryOut _ _ _ _).1

theorem hwSha256Pieces_plan (chip : Chip) (log : List ShaCommand) (devtype : DeviceType)
    (digest : List UInt8) {pieces : List (List UInt8)}
    (small : devtype = .atsha204a -> 8 * pieces.flatten.length < 2 ^ 32) :
    ((hwSha256Pieces chip log devtype digest pieces).1,
        (hwSha256Pieces chip log devtype digest pieces).2.2) =
      carryOut chip digest.length (1 + pieces.flatten.length / 64) log
        (shaPlan devtype pieces.flatten) := by
  have plan : shaPlan devtype pieces.flatten = [⟨shaModeStart, 0, []⟩] ++
      ((wholes 64 pieces.flatten).map updateCommand ++
        if devtype = .atsha204a then
          (wholes 64 (lastBlocks (rest 64 pieces.flatten)
            (UInt32.ofNat ((wholes 64 pieces.flatten).length * 64)))).map updateCommand
        else [⟨shaModeEnd, UInt16.ofNat (rest 64 pieces.flatten).length,
          rest 64 pieces.flatten⟩]) := by
    rw [shaPlan, List.singleton_append, rest_length]
    split
    next old => rw [padded_wholes (small old), List.map_append]
    next => rfl
  have count := wholes_length 64 pieces.flatten
  have silent : 1 + pieces.flatten.length / 64 - 1 = (wholes 64 pieces.flatten).length + 0 := by
    omega
  have noneLeft : (wholes 64 pieces.flatten).length + 0 -
      ((wholes 64 pieces.flatten).map updateCommand).length = 0 := by
    rw [List.length_map]
    omega
  obtain ⟨ctx, sound, sends⟩ := @shaPieces_sends chip log shaModeStart 0
    (fun log => hwSha256Finish chip log devtype) digest pieces
  rw [plan, hwSha256Pieces, sends, carryOut_append, carryOut_silent (by omega)]
  cases (chip (log ++ [⟨shaModeStart, 0, []⟩])).1
  case success =>
    dsimp only
    rw [List.length_singleton, silent, carryOut_append, ← sendBlocks_carryOut, noneLeft]
    generalize sendBlocks chip (log ++ [⟨shaModeStart, 0, []⟩]) (wholes 64 pieces.flatten) = sent
      at sound
    obtain ⟨status, next⟩ := sent
    cases status
    case success =>
      obtain ⟨holds, total⟩ := sound rfl
      have finish := @finish_carryOut chip next _ ctx holds devtype digest
      rw [total] at finish
      exact finish
    all_goals rfl
  all_goals rfl

theorem hwSha256Pieces_plan_abc :
    shaPlan .atsha204a [0x61, 0x62, 0x63] = [⟨shaModeStart, 0, []⟩,
        updateCommand ([0x61, 0x62, 0x63, 0x80] ++ List.replicate 59 0 ++ [24])] ∧
      ((hwSha256Pieces (fun _ => (.success, [])) [] .atsha204a [] [[0x61], [0x62, 0x63]]).1,
          (hwSha256Pieces (fun _ => (.success, [])) [] .atsha204a [] [[0x61], [0x62, 0x63]]).2.2) =
        carryOut (fun _ => (.success, [])) 0 (1 + 3 / 64) [] (shaPlan .atsha204a [0x61, 0x62, 0x63]) :=
  ⟨by decide, @hwSha256Pieces_plan (fun _ => (.success, [])) [] .atsha204a []
    [[0x61], [0x62, 0x63]] (fun _ => by decide)⟩

end Finish

end AvrVoiceControl.Atca
