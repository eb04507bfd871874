import AvrVoiceControl.AtcaHelpers
import AvrVoiceControl.Library.Blocks

set_option autoImplicit false

namespace AvrVoiceControl.Atca

open FlatMemory

abbrev sha256BlockSize : Nat := 64

structure ShaCommand where
  mode : UInt8
  length : UInt16
  message : List UInt8
  deriving DecidableEq

/-- What a chip answers to the last of the commands that it has got: the status that
`atca_execute_command` makes of it, and the data of the response. -/
abbrev Chip := List ShaCommand -> AtcaStatus × List UInt8

abbrev shaModeStart : UInt8 := 0x00
abbrev shaModeUpdate : UInt8 := 0x01
abbrev shaModeEnd : UInt8 := 0x02
abbrev shaModeHmacStart : UInt8 := 0x04
abbrev shaModeHmacEnd : UInt8 := 0x05
abbrev shaMode608HmacEnd : UInt8 := 0x02
abbrev shaModeTargetTempKey : UInt8 := 0x00

structure Sha256Ctx where
  totalMsgSize : UInt32
  blockSize : Nat
  block : Nat -> UInt8

inductive DeviceType
  | atsha204a
  | atecc108a
  | atecc508a
  | atecc608a
  deriving DecidableEq

/-- What a call does to the commands that the chip has got. -/
abbrev Sent (Result : Type) := AtcaStatus × Result × List ShaCommand

section Sha

variable (chip : Chip) (log : List ShaCommand)

def shaBase (mode : UInt8) (length : UInt16) (message : List UInt8) :
    AtcaStatus × List ShaCommand :=
  let log := log ++ [⟨mode, length, message⟩]
  ((chip log).1, log)

/-- `atcab_sha_base` with an array for the response; a response without data leaves it alone. -/
def shaBaseOut (mode : UInt8) (length : UInt16) (message out : List UInt8) :
    Sent (List UInt8) :=
  let log := log ++ [⟨mode, length, message⟩]
  match chip log with
  | (.success, data) =>
    if data.length < 2 then (.success, out, log)
    else if out.length < data.length then (.smallBuffer, out, log)
    else (.success, data ++ out.drop data.length, log)
  | (status, _) => (status, out, log)

def shaUpdate (message : List UInt8) : AtcaStatus × List ShaCommand :=
  shaBase chip log shaModeUpdate 64 message

def additionalBlocks : Nat -> List ShaCommand -> List UInt8 -> AtcaStatus × List ShaCommand
  | 0, log, _ => (.success, log)
  | blockCount + 1, log, data =>
    match shaUpdate chip log (data.take sha256BlockSize) with
    | (.success, log) => additionalBlocks blockCount log (data.drop sha256BlockSize)
    | failed => failed

/-- `atcab_hw_sha2_256_update`, and word for word `atcab_sha_hmac_update`. -/
def hwSha256Update (ctx : Sha256Ctx) (data : List UInt8) : Sent Sha256Ctx :=
  let remSize := sha256BlockSize - ctx.blockSize
  let copySize := if remSize < data.length then remSize else data.length
  let block := fill ctx.block ctx.blockSize (data.take copySize)
  if ctx.blockSize + data.length < sha256BlockSize then
    (.success, { ctx with block := block, blockSize := ctx.blockSize + data.length }, log)
  else
    match shaUpdate chip log (FlatMemory.block block 0 sha256BlockSize) with
    | (.success, log) =>
      let dataSize := data.length - copySize
      let blockCount := dataSize / sha256BlockSize
      match additionalBlocks chip blockCount log (data.drop copySize) with
      | (.success, log) =>
        let blockSize := dataSize % sha256BlockSize
        (.success,
          { totalMsgSize :=
              ctx.totalMsgSize + UInt32.ofNat ((blockCount + 1) * sha256BlockSize)
            blockSize := blockSize
            block := fill block 0
              ((data.drop (copySize + blockCount * sha256BlockSize)).take blockSize) },
          log)
      | (status, log) => (status, { ctx with block := block }, log)
    | (status, log) => (status, { ctx with block := block }, log)

def bigEndianBytes (n : UInt32) : List UInt8 :=
  [(n >>> 24).toUInt8, (n >>> 16).toUInt8, (n >>> 8).toUInt8, (n >>> 0).toUInt8]

def hwSha256Finish (devtype : DeviceType) (ctx : Sha256Ctx) (digest : List UInt8) :
    Sent (List UInt8) :=
  if devtype = .atsha204a then
    let totalMsgSize := ctx.totalMsgSize + UInt32.ofNat ctx.blockSize
    let msgSizeBits := totalMsgSize * 8
    let padZeroCount := (sha256BlockSize - (ctx.blockSize + 9) % sha256BlockSize) % sha256BlockSize
    let block := fill ctx.block ctx.blockSize
      (0x80 :: (List.replicate (padZeroCount + 4) 0 ++ bigEndianBytes msgSizeBits))
    let blockSize := ctx.blockSize + 1 + (padZeroCount + 4) + 4
    match shaBaseOut chip log shaModeUpdate 64 (FlatMemory.block block 0 sha256BlockSize) digest with
    | (.success, digest, log) =>
      if sha256BlockSize < blockSize then
        shaBaseOut chip log shaModeUpdate 64
          (FlatMemory.block block sha256BlockSize sha256BlockSize) digest
      else (.success, digest, log)
    | failed => failed
  else
    shaBaseOut chip log shaModeEnd (UInt16.ofNat ctx.blockSize)
      (FlatMemory.block ctx.block 0 ctx.blockSize) digest

def hwSha256Updates : List ShaCommand -> Sha256Ctx -> List (List UInt8) -> Sent Sha256Ctx
  | log, ctx, [] => (.success, ctx, log)
  | log, ctx, data :: pieces =>
    match hwSha256Update chip log ctx data with
    | (.success, ctx, log) => hwSha256Updates log ctx pieces
    | failed => failed

def shaHmacFinish (devtype : DeviceType) (target : UInt8) (ctx : Sha256Ctx)
    (digest : List UInt8) : Sent (List UInt8) :=
  let mode := if devtype = .atecc608a then shaMode608HmacEnd else shaModeHmacEnd
  if devtype ≠ .atecc608a ∧ target ≠ shaModeTargetTempKey then (.badParam, digest, log)
  else
    shaBaseOut chip log (mode ||| target) (UInt16.ofNat ctx.blockSize)
      (FlatMemory.block ctx.block 0 ctx.blockSize) digest

def shaPieces (mode : UInt8) (length : UInt16)
    (finish : List ShaCommand -> Sha256Ctx -> List UInt8 -> Sent (List UInt8))
    (digest : List UInt8) (pieces : List (List UInt8)) : Sent (List UInt8) :=
  match shaBase chip log mode length [] with
  | (.success, log) =>
    match hwSha256Updates chip log ⟨0, 0, fun _ => 0⟩ pieces with
    | (.success, ctx, log) => finish log ctx digest
    | (status, _, log) => (status, digest, log)
  | (status, log) => (status, digest, log)

def hwSha256Pieces (devtype : DeviceType) : List UInt8 -> List (List UInt8) -> Sent (List UInt8) :=
  shaPieces chip log shaModeStart 0 fun log => hwSha256Finish chip log devtype

def shaHmacPieces (devtype : DeviceType) (keySlot : UInt16) (target : UInt8) :
    List UInt8 -> List (List UInt8) -> Sent (List UInt8) :=
  shaPieces chip log shaModeHmacStart keySlot fun log => shaHmacFinish chip log devtype target

def hwSha256 (devtype : DeviceType) (data digest : List UInt8) : Sent (List UInt8) :=
  hwSha256Pieces chip log devtype digest [data]

def shaHmac (devtype : DeviceType) (keySlot : UInt16) (target : UInt8) (data digest : List UInt8) :
    Sent (List UInt8) :=
  shaHmacPieces chip log devtype keySlot target digest [data]

end Sha

end AvrVoiceControl.Atca
