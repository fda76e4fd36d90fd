/-
Commands in payloads, at the version a session has reached.

A codec starts at the oldest supported version and moves to the one the device announces. A whole payload is decoded at
once: records after an announcement are read at the announced version, but the codec itself moves only if every record
could be read.
-/
import VisionMixer.Command.Basic

namespace VisionMixer

/-- how the commands of a session are coded -/
structure Codec where
  version : Version := .v7_2
  arithmetic : Arithmetic := .binary64
  deriving DecidableEq

namespace Codec

/-- the codec after a command has been read -/
def after (k : Codec) : Command → Codec
  | .version v => { k with version := v }
  | _ => k

/-- the commands of the records of a payload, and the codec after them -/
def decodePayload (k : Codec) : List Record → Except Error (List Command × Codec)
  | [] => .ok ([], k)
  | r :: rest => do
    let c ← Command.decode k.arithmetic k.version r
    let (commands, k) ← (k.after c).decodePayload rest
    return (c :: commands, k)

/-- the commands read so far and the codec after them, with one more record -/
def readRecord (s : Codec × Array Command) (r : Record) : Except Error (Codec × Array Command) := do
  let c ← Command.decode s.1.arithmetic s.1.version r
  return (s.1.after c, s.2.push c)

/-- the commands of the records of a payload, read in place: a copy of the codec follows the announcements, and the codec
is set to it at the end -/
def readRecords (records : List Record) : ExceptT Error (StateM Codec) (List Command) := do
  let read : Except Error (Codec × Array Command) := records.foldlM readRecord (← get, #[])
  let (k, commands) ← read
  set k
  return commands.toList

/-- what comes of reading the records of a payload in place, and the codec then -/
def read (k : Codec) (records : List Record) : Except Error (List Command) × Codec := ((readRecords records).run k).run

/-- the payload of commands -/
def encodePayload (k : Codec) (commands : List Command) : Except Error Bytes := do
  return (← commands.mapM fun c => do (← c.encode k.arithmetic k.version).encode).flatten

/-- what a run of bytes starts with -/
inductive Front where
  /-- a command, the bytes after it and the codec after it -/
  | command (c : Command) (rest : Bytes) (k : Codec)
  /-- too few bytes for a record -/
  | wait
  /-- a record that cannot be read, and the bytes left -/
  | failed (error : Error) (rest : Bytes)

/-- the front of a run; a malformed record stays in the run, one with an unreadable body is taken from it -/
def next (k : Codec) (b : Bytes) : Front :=
  match Record.next b with
  | .wait => .wait
  | .malformed fault => .failed (.framing fault) b
  | .record r rest =>
    match Command.decode k.arithmetic k.version r with
    | .ok c => .command c rest (k.after c)
    | .error e => .failed e rest

end Codec

end VisionMixer
