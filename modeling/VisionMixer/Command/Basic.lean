/-
Commands: everything a record can say, and how it is read and written at a protocol version.

`Command` is a closed sum of the known commands and of records with any other tag, which are kept as they are. The
`catalogue` has one entry for each known tag: the editions of its body and how a body is read. Reading looks the tag up
and resolves the table for the version once; a fault in a known body is reported under its tag. Writing goes through the
named values of the command. The arithmetic of scaled fields is a parameter of both.
-/
import VisionMixer.Command.Bus
import VisionMixer.Command.Description
import VisionMixer.Command.Facility
import VisionMixer.Command.Keying
import VisionMixer.Command.Macros
import VisionMixer.Command.Request
import VisionMixer.Record

namespace VisionMixer

/-- what a record says -/
inductive Command where
  -- the device describes itself
  | version (v : Version)
  | product (c : Product)
  | topology (c : Topology)
  | mixEffectConfig (c : MixEffectConfig)
  | mediaPool (c : MediaPool)
  | multiviewerConfig (c : MultiviewerConfig)
  | superSourceConfig (boxes : UInt8)
  | audioMixerConfig (c : AudioMixerConfig)
  | macroPool (slots : UInt8)
  | initComplete
  | warning (text : String)
  | inputProperties (c : InputProperties)
  | videoMode (m : VideoMode)
  -- the device reports its state
  | programInput (c : BusSource)
  | previewInput (c : PreviewSource)
  | transitionProperties (c : TransitionProperties)
  | transitionPosition (c : TransitionPosition)
  | transitionMix (c : BlockRate)
  | transitionDip (c : TransitionDip)
  | transitionWipe (c : TransitionWipe)
  | fadeToBlackRate (c : BlockRate)
  | fadeToBlackState (c : FadeToBlackState)
  | keyerOnAir (c : KeyerOnAir)
  | keyerBase (c : KeyerBase)
  | keyerLuma (c : KeyerLuma)
  | keyerChroma (c : KeyerChroma)
  | dskSources (c : DskSources)
  | dskProperties (c : DskProperties)
  | dskState (c : DskState)
  | audioMixerInput (c : AudioMixerInput)
  | audioMaster (c : AudioMaster)
  | mediaPlayerSource (c : MediaPlayerSource)
  | superSourceArt (c : SuperSourceArt)
  | superSourceBox (c : SuperSourceBox)
  | multiviewerProperties (c : MultiviewerProperties)
  | multiviewerWindow (c : MultiviewerWindow)
  | macroProperties (c : MacroProperties)
  | macroRunStatus (c : MacroRunStatus)
  | tallyByIndex (c : TallyByIndex)
  | tallyBySource (c : TallyBySource)
  -- the device is asked for something
  | setProgramInput (c : BusSource)
  | setPreviewInput (c : BusSource)
  | cut (mixEffect : UInt8)
  | auto (mixEffect : UInt8)
  | setKeyerOnAir (c : KeyerOnAir)
  | setDskOnAir (c : SetDskOnAir)
  | setDskFill (c : SetDskFill)
  | setVideoMode (m : VideoMode)
  | setAudioMixerInput (c : SetAudioMixerInput)
  | setMultiviewerProperties (c : SetMultiviewerProperties)
  | macroAction (c : MacroAction)
  /-- a record with any other tag -/
  | unrecognized (r : Record)
  deriving DecidableEq, BEq

namespace Command

/-- the tag of the record -/
def tag : Command → Tag
  | .version _ => .ofChars '_' 'v' 'e' 'r'
  | .product _ => .ofChars '_' 'p' 'i' 'n'
  | .topology _ => .ofChars '_' 't' 'o' 'p'
  | .mixEffectConfig _ => .ofChars '_' 'M' 'e' 'C'
  | .mediaPool _ => .ofChars '_' 'm' 'p' 'l'
  | .multiviewerConfig _ => .ofChars '_' 'M' 'v' 'C'
  | .superSourceConfig _ => .ofChars '_' 'S' 'S' 'C'
  | .audioMixerConfig _ => .ofChars '_' 'A' 'M' 'C'
  | .macroPool _ => .ofChars '_' 'M' 'A' 'C'
  | .initComplete => .ofChars 'I' 'n' 'C' 'm'
  | .warning _ => .ofChars 'W' 'a' 'r' 'n'
  | .inputProperties _ => .ofChars 'I' 'n' 'P' 'r'
  | .videoMode _ => .ofChars 'V' 'i' 'd' 'M'
  | .programInput _ => .ofChars 'P' 'r' 'g' 'I'
  | .previewInput _ => .ofChars 'P' 'r' 'v' 'I'
  | .transitionProperties _ => .ofChars 'T' 'r' 'S' 'S'
  | .transitionPosition _ => .ofChars 'T' 'r' 'P' 's'
  | .transitionMix _ => .ofChars 'T' 'M' 'x' 'P'
  | .transitionDip _ => .ofChars 'T' 'D' 'p' 'P'
  | .transitionWipe _ => .ofChars 'T' 'W' 'p' 'P'
  | .fadeToBlackRate _ => .ofChars 'F' 't' 'b' 'P'
  | .fadeToBlackState _ => .ofChars 'F' 't' 'b' 'S'
  | .keyerOnAir _ => .ofChars 'K' 'e' 'O' 'n'
  | .keyerBase _ => .ofChars 'K' 'e' 'B' 'P'
  | .keyerLuma _ => .ofChars 'K' 'e' 'L' 'm'
  | .keyerChroma _ => .ofChars 'K' 'e' 'C' 'k'
  | .dskSources _ => .ofChars 'D' 's' 'k' 'B'
  | .dskProperties _ => .ofChars 'D' 's' 'k' 'P'
  | .dskState _ => .ofChars 'D' 's' 'k' 'S'
  | .audioMixerInput _ => .ofChars 'A' 'M' 'I' 'P'
  | .audioMaster _ => .ofChars 'A' 'M' 'M' 'O'
  | .mediaPlayerSource _ => .ofChars 'M' 'P' 'C' 'E'
  | .superSourceArt _ => .ofChars 'S' 'S' 'r' 'c'
  | .superSourceBox _ => .ofChars 'S' 'S' 'B' 'P'
  | .multiviewerProperties _ => .ofChars 'M' 'v' 'P' 'r'
  | .multiviewerWindow _ => .ofChars 'M' 'v' 'I' 'n'
  | .macroProperties _ => .ofChars 'M' 'P' 'r' 'p'
  | .macroRunStatus _ => .ofChars 'M' 'R' 'P' 'r'
  | .tallyByIndex _ => .ofChars 'T' 'l' 'I' 'n'
  | .tallyBySource _ => .ofChars 'T' 'l' 'S' 'r'
  | .setProgramInput _ => .ofChars 'C' 'P' 'g' 'I'
  | .setPreviewInput _ => .ofChars 'C' 'P' 'v' 'I'
  | .cut _ => .ofChars 'D' 'C' 'u' 't'
  | .auto _ => .ofChars 'D' 'A' 'u' 't'
  | .setKeyerOnAir _ => .ofChars 'C' 'K' 'O' 'n'
  | .setDskOnAir _ => .ofChars 'C' 'D' 's' 'L'
  | .setDskFill _ => .ofChars 'C' 'D' 's' 'F'
  | .setVideoMode _ => .ofChars 'C' 'V' 'd' 'M'
  | .setAudioMixerInput _ => .ofChars 'C' 'A' 'M' 'I'
  | .setMultiviewerProperties _ => .ofChars 'C' 'M' 'v' 'P'
  | .macroAction _ => .ofChars 'M' 'A' 'c' 't'
  | .unrecognized r => r.tag

/-- the named values of a command whose body is a table -/
def toValues : Command → FieldValues
  | .version c => c.toValues
  | .product c => c.toValues
  | .topology c => c.toValues
  | .mixEffectConfig c => c.toValues
  | .mediaPool c => c.toValues
  | .multiviewerConfig c => c.toValues
  | .superSourceConfig boxes => [("boxes", .byte boxes)]
  | .audioMixerConfig c => c.toValues
  | .macroPool slots => [("macros", .byte slots)]
  | .initComplete => []
  | .warning text => [("text", .text text)]
  | .inputProperties c => c.toValues
  | .videoMode m => m.toValues
  | .programInput c => c.toValues
  | .previewInput c => c.toValues
  | .transitionProperties c => c.toValues
  | .transitionPosition c => c.toValues
  | .transitionMix c => c.toValues
  | .transitionDip c => c.toValues
  | .transitionWipe c => c.toValues
  | .fadeToBlackRate c => c.toValues
  | .fadeToBlackState c => c.toValues
  | .keyerOnAir c => c.toValues
  | .keyerBase c => c.toValues
  | .keyerLuma c => c.toValues
  | .keyerChroma c => c.toValues
  | .dskSources c => c.toValues
  | .dskProperties c => c.toValues
  | .dskState c => c.toValues
  | .audioMixerInput c => c.toValues
  | .audioMaster c => c.toValues
  | .mediaPlayerSource c => c.toValues
  | .superSourceArt c => c.toValues
  | .superSourceBox c => c.toValues
  | .multiviewerProperties c => c.toValues
  | .multiviewerWindow c => c.toValues
  | .macroProperties _ => []
  | .macroRunStatus c => c.toValues
  | .tallyByIndex c => c.toValues
  | .tallyBySource c => c.toValues
  | .setProgramInput c => c.toValues
  | .setPreviewInput c => c.toValues
  | .cut mixEffect => BlockOnly.toValues mixEffect
  | .auto mixEffect => BlockOnly.toValues mixEffect
  | .setKeyerOnAir c => c.toValues
  | .setDskOnAir c => c.toValues
  | .setDskFill c => c.toValues
  | .setVideoMode m => m.toValues
  | .setAudioMixerInput c => c.toValues
  | .setMultiviewerProperties c => c.toValues
  | .macroAction c => c.toValues
  | .unrecognized _ => []

/-- how the body of one tag is laid out and read -/
structure Entry where
  tag : Tag
  editions : Editions := []
  /-- a command from its named values -/
  ofValues : FieldValues → Except Error Command := fun _ => .error (.framing (.notTabular tag.text))
  /-- a command from its body -/
  decode : Arithmetic → Version → Bytes → Except Error Command := fun a v body => do
    ofValues (← (← editions.resolve v).decode a body)

/-- the entry of a tag whose body is a table -/
def Entry.tabular {α : Type} (tag : Tag) (editions : Editions) (command : α → Command)
    (ofValues : FieldValues → Except Error α) : Entry :=
  { tag, editions, ofValues := fun f => command <$> ofValues f }

/-- the entry of a macro slot, whose body is no table -/
def macroEntry : Entry :=
  { tag := .ofChars 'M' 'P' 'r' 'p', decode := fun _ _ body => .macroProperties <$> MacroProperties.decode body }

/-- an entry for each known tag -/
def catalogue : List Entry := [
  .tabular (.ofChars '_' 'v' 'e' 'r') Version.editions .version Version.ofValues,
  .tabular (.ofChars '_' 'p' 'i' 'n') Product.editions .product Product.ofValues,
  .tabular (.ofChars '_' 't' 'o' 'p') Topology.editions .topology Topology.ofValues,
  .tabular (.ofChars '_' 'M' 'e' 'C') MixEffectConfig.editions .mixEffectConfig MixEffectConfig.ofValues,
  .tabular (.ofChars '_' 'm' 'p' 'l') MediaPool.editions .mediaPool MediaPool.ofValues,
  .tabular (.ofChars '_' 'M' 'v' 'C') MultiviewerConfig.editions .multiviewerConfig MultiviewerConfig.ofValues,
  .tabular (.ofChars '_' 'S' 'S' 'C') (.only ⟨4, [.u8 "boxes" 0]⟩) .superSourceConfig (·.getU8 "boxes"),
  .tabular (.ofChars '_' 'A' 'M' 'C') AudioMixerConfig.editions .audioMixerConfig AudioMixerConfig.ofValues,
  .tabular (.ofChars '_' 'M' 'A' 'C') (.only ⟨4, [.u8 "macros" 0]⟩) .macroPool (·.getU8 "macros"),
  .tabular (.ofChars 'I' 'n' 'C' 'm') (.only ⟨4, []⟩) (fun _ => .initComplete) (fun _ => .ok ()),
  .tabular (.ofChars 'W' 'a' 'r' 'n') (.only ⟨44, [.ascii "text" 0 44]⟩) .warning (·.getText "text"),
  .tabular (.ofChars 'I' 'n' 'P' 'r') InputProperties.editions .inputProperties InputProperties.ofValues,
  .tabular (.ofChars 'V' 'i' 'd' 'M') VideoMode.editions .videoMode VideoMode.ofValues,
  .tabular (.ofChars 'P' 'r' 'g' 'I') BusSource.editions .programInput BusSource.ofValues,
  .tabular (.ofChars 'P' 'r' 'v' 'I') PreviewSource.editions .previewInput PreviewSource.ofValues,
  .tabular (.ofChars 'T' 'r' 'S' 'S') TransitionProperties.editions .transitionProperties TransitionProperties.ofValues,
  .tabular (.ofChars 'T' 'r' 'P' 's') TransitionPosition.editions .transitionPosition TransitionPosition.ofValues,
  .tabular (.ofChars 'T' 'M' 'x' 'P') BlockRate.editions .transitionMix BlockRate.ofValues,
  .tabular (.ofChars 'T' 'D' 'p' 'P') TransitionDip.editions .transitionDip TransitionDip.ofValues,
  .tabular (.ofChars 'T' 'W' 'p' 'P') TransitionWipe.editions .transitionWipe TransitionWipe.ofValues,
  .tabular (.ofChars 'F' 't' 'b' 'P') BlockRate.editions .fadeToBlackRate BlockRate.ofValues,
  .tabular (.ofChars 'F' 't' 'b' 'S') FadeToBlackState.editions .fadeToBlackState FadeToBlackState.ofValues,
  .tabular (.ofChars 'K' 'e' 'O' 'n') KeyerOnAir.editions .keyerOnAir KeyerOnAir.ofValues,
  .tabular (.ofChars 'K' 'e' 'B' 'P') KeyerBase.editions .keyerBase KeyerBase.ofValues,
  .tabular (.ofChars 'K' 'e' 'L' 'm') KeyerLuma.editions .keyerLuma KeyerLuma.ofValues,
  .tabular (.ofChars 'K' 'e' 'C' 'k') KeyerChroma.editions .keyerChroma KeyerChroma.ofValues,
  .tabular (.ofChars 'D' 's' 'k' 'B') DskSources.editions .dskSources DskSources.ofValues,
  .tabular (.ofChars 'D' 's' 'k' 'P') DskProperties.editions .dskProperties DskProperties.ofValues,
  .tabular (.ofChars 'D' 's' 'k' 'S') DskState.editions .dskState DskState.ofValues,
  .tabular (.ofChars 'A' 'M' 'I' 'P') AudioMixerInput.editions .audioMixerInput AudioMixerInput.ofValues,
  .tabular (.ofChars 'A' 'M' 'M' 'O') AudioMaster.editions .audioMaster AudioMaster.ofValues,
  .tabular (.ofChars 'M' 'P' 'C' 'E') MediaPlayerSource.editions .mediaPlayerSource MediaPlayerSource.ofValues,
  .tabular (.ofChars 'S' 'S' 'r' 'c') SuperSourceArt.editions .superSourceArt SuperSourceArt.ofValues,
  .tabular (.ofChars 'S' 'S' 'B' 'P') SuperSourceBox.editions .superSourceBox SuperSourceBox.ofValues,
  .tabular (.ofChars 'M' 'v' 'P' 'r') MultiviewerProperties.editions .multiviewerProperties MultiviewerProperties.ofValues,
  .tabular (.ofChars 'M' 'v' 'I' 'n') MultiviewerWindow.editions .multiviewerWindow MultiviewerWindow.ofValues,
  macroEntry,
  .tabular (.ofChars 'M' 'R' 'P' 'r') MacroRunStatus.editions .macroRunStatus MacroRunStatus.ofValues,
  .tabular (.ofChars 'T' 'l' 'I' 'n') TallyByIndex.editions .tallyByIndex TallyByIndex.ofValues,
  .tabular (.ofChars 'T' 'l' 'S' 'r') TallyBySource.editions .tallyBySource TallyBySource.ofValues,
  .tabular (.ofChars 'C' 'P' 'g' 'I') BusSource.editions .setProgramInput BusSource.ofValues,
  .tabular (.ofChars 'C' 'P' 'v' 'I') BusSource.editions .setPreviewInput BusSource.ofValues,
  .tabular (.ofChars 'D' 'C' 'u' 't') BlockOnly.editions .cut BlockOnly.ofValues,
  .tabular (.ofChars 'D' 'A' 'u' 't') BlockOnly.editions .auto BlockOnly.ofValues,
  .tabular (.ofChars 'C' 'K' 'O' 'n') KeyerOnAir.editions .setKeyerOnAir KeyerOnAir.ofValues,
  .tabular (.ofChars 'C' 'D' 's' 'L') SetDskOnAir.editions .setDskOnAir SetDskOnAir.ofValues,
  .tabular (.ofChars 'C' 'D' 's' 'F') SetDskFill.editions .setDskFill SetDskFill.ofValues,
  .tabular (.ofChars 'C' 'V' 'd' 'M') VideoMode.editions .setVideoMode VideoMode.ofValues,
  .tabular (.ofChars 'C' 'A' 'M' 'I') SetAudioMixerInput.editions .setAudioMixerInput SetAudioMixerInput.ofValues,
  .tabular (.ofChars 'C' 'M' 'v' 'P') SetMultiviewerProperties.editions .setMultiviewerProperties
    SetMultiviewerProperties.ofValues,
  .tabular (.ofChars 'M' 'A' 'c' 't') MacroAction.editions .macroAction MacroAction.ofValues]

/-- the entry of a tag -/
def entryOf? (tag : Tag) : Option Entry := catalogue.find? (·.tag = tag)

/-- an error from the body of a command, under its tag if the body could not be read -/
def underTag (tag : Tag) : Error → Error
  | .framing fault => .framing (.inCommand tag.text fault)
  | error => error

/-- the command of a record; an unknown tag never fails -/
def decode (a : Arithmetic) (v : Version) (r : Record) : Except Error Command :=
  match entryOf? r.tag with
  | none => .ok (.unrecognized r)
  | some e => (e.decode a v r.body).mapError (underTag r.tag)

/-- the values of a body on a super source, which older versions cannot number -/
def superSourceValues (tag : Tag) (superSource : UInt8) (v : Version) (values : FieldValues) : Except Error FieldValues :=
  if .v8_0 ≤ v then .ok values
  else if superSource ≠ 0 then .error (.encoding (.superSourceNotAddressable tag.text superSource v))
  else .ok (values.without "super_source")

/-- the values a command carries at a version -/
def valuesAt (v : Version) (c : Command) : Except Error FieldValues :=
  match c with
  | .superSourceArt s => superSourceValues c.tag s.superSource v c.toValues
  | .superSourceBox s => superSourceValues c.tag s.superSource v c.toValues
  | _ => .ok c.toValues

/-- the body of a command -/
def encodeBody (a : Arithmetic) (v : Version) (c : Command) : Except Error Bytes :=
  match c with
  | .unrecognized r => .ok r.body
  | .macroProperties m => m.encode
  | _ => do
    let values ← c.valuesAt v
    let editions := (entryOf? c.tag).elim [] Entry.editions
    (← Editions.resolve editions v).encode a values

/-- the record of a command -/
def encode (a : Arithmetic) (v : Version) (c : Command) : Except Error Record := do
  return ⟨c.tag, ← c.encodeBody a v⟩

/-- the record that ends the handshake -/
def isInitComplete (c : Command) : Bool := c matches .initComplete

end Command

end VisionMixer
