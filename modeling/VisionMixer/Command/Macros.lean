/-
Reports on the macro pool: its slots and what is playing.

The body of a slot is no table: after eight fixed bytes come two texts whose sizes the fixed bytes state, and zeros up
to a multiple of four.
-/
import VisionMixer.Field.Table

namespace VisionMixer

/-- one slot of the macro pool -/
structure MacroSlot where
  isUsed : Bool
  hasUnsupportedOps : Bool
  name : String
  description : String
  deriving DecidableEq, Inhabited

/-- a slot by its index -/
structure MacroProperties where
  index : UInt16
  slot : MacroSlot
  deriving DecidableEq

namespace MacroProperties

/-- bytes before the texts -/
def fixedSize : Nat := 8

/-- the slot of a body -/
def decode (body : Bytes) : Except Error MacroProperties :=
  if body.length < fixedSize then .error (.framing (.shortFixedPart body.length))
  else
    let nameSize := (Bytes.toWord16 (body.drop 4)).toNat
    let descriptionSize := (Bytes.toWord16 (body.drop 6)).toNat
    let texts := body.drop fixedSize
    if texts.length < nameSize + descriptionSize then
      .error (.framing (.overrunningTexts (nameSize + descriptionSize) body.length))
    else .ok {
      index := Bytes.toWord16 body
      slot := {
        isUsed := body[2]?.getD 0 ≠ 0
        hasUnsupportedOps := body[3]?.getD 0 ≠ 0
        name := Utf8.decode (texts.take nameSize)
        description := Utf8.decode ((texts.drop nameSize).take descriptionSize) } }

/-- a text whose size fits a word -/
def encodeText (field : String) (s : String) : Except Error Bytes :=
  let b := Utf8.encode s
  if 65535 < b.length then .error (.encoding (.longMacroText field b.length)) else .ok b

/-- the body of a slot -/
def encode (c : MacroProperties) : Except Error Bytes := do
  let name ← encodeText "name" c.slot.name
  let description ← encodeText "description" c.slot.description
  let unpadded := Bytes.word16 c.index ++ [if c.slot.isUsed then 1 else 0, if c.slot.hasUnsupportedOps then 1 else 0]
    ++ Bytes.ofNat 2 name.length ++ Bytes.ofNat 2 description.length ++ name ++ description
  return unpadded ++ Bytes.zeros ((unpadded.length + 3) / 4 * 4 - unpadded.length)

end MacroProperties

/-- what the macro player does; the index is 65535 when it is idle -/
structure MacroRunStatus where
  isRunning : Bool
  isWaiting : Bool
  loopEnabled : Bool
  index : UInt16
  deriving DecidableEq

namespace MacroRunStatus

/-- bit 0 for running, bit 1 for waiting -/
def status (c : MacroRunStatus) : UInt8 := (if c.isRunning then 1 else 0) ||| (if c.isWaiting then 2 else 0)

def toValues (c : MacroRunStatus) : FieldValues :=
  [("status", .byte c.status), ("loop", .bool c.loopEnabled), ("index", .word c.index)]

def ofValues (f : FieldValues) : Except Error MacroRunStatus := do
  let status ← f.getU8 "status"
  return {
    isRunning := status &&& 1 ≠ 0
    isWaiting := status &&& 2 ≠ 0
    loopEnabled := ← f.getBool "loop"
    index := ← f.getU16 "index" }

def editions : Editions := .only ⟨4, [.flags8 "status" 0, .bool "loop" 1, .u16 "index" 2]⟩

end MacroRunStatus

end VisionMixer
