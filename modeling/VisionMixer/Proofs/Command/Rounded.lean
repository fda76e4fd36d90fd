/-
The numbers of a command.

`mapNumbers` applies a function to every scaled number of a command, each with the encoding its field has; it is written
out for each kind of body and changes nothing else. `rounded` moves every such number to the nearest one its field can
hold. `numbers` lists them as the field tables do, so that `IsSettled`, every number is one that its field holds exactly,
does not repeat what the tables say.
-/
import VisionMixer.Proofs.Command.Values
import VisionMixer.Proofs.Field.Scaled

namespace VisionMixer

/-! ### A function on the numbers of a body -/

section Bodies

variable (f : Wire → Number → Number)

def TransitionPosition.mapNumbers (c : TransitionPosition) : TransitionPosition :=
  { c with progress := { c.progress with position := f .unitInterval c.progress.position } }

def TransitionWipe.mapNumbers (c : TransitionWipe) : TransitionWipe :=
  { c with
    settings := { c.settings with
      borderWidth := f .percentHundredths c.settings.borderWidth
      symmetry := f .percentHundredths c.settings.symmetry
      borderSoftness := f .percentHundredths c.settings.borderSoftness
      xPosition := f .unitInterval c.settings.xPosition
      yPosition := f .unitInterval c.settings.yPosition } }

def MaskRect.mapNumbers (m : MaskRect) : MaskRect where
  top := f .maskVertical m.top
  bottom := f .maskVertical m.bottom
  left := f .maskHorizontal m.left
  right := f .maskHorizontal m.right

def LumaSettings.mapNumbers (l : LumaSettings) : LumaSettings :=
  { l with clip := f .percentTenths l.clip, gain := f .percentTenths l.gain }

def KeyerBase.mapNumbers (c : KeyerBase) : KeyerBase := { c with mask := c.mask.mapNumbers f }

def KeyerLuma.mapNumbers (c : KeyerLuma) : KeyerLuma := { c with settings := c.settings.mapNumbers f }

def KeyerChroma.mapNumbers (c : KeyerChroma) : KeyerChroma :=
  { c with
    settings := { c.settings with
      hue := f .hue c.settings.hue
      gain := f .percentTenths c.settings.gain
      ySuppress := f .percentTenths c.settings.ySuppress
      lift := f .percentTenths c.settings.lift } }

def DskProperties.mapNumbers (c : DskProperties) : DskProperties :=
  { c with luma := c.luma.mapNumbers f, mask := c.mask.mapNumbers f }

def SuperSourceArt.mapNumbers (c : SuperSourceArt) : SuperSourceArt :=
  { c with
    luma := c.luma.mapNumbers f
    border := { c.border with
      hue := f .hue c.border.hue
      saturation := f .percentTenths c.border.saturation
      luma := f .percentTenths c.border.luma } }

def SuperSourceBox.mapNumbers (c : SuperSourceBox) : SuperSourceBox :=
  { c with
    settings := { c.settings with
      x := f (.scaled .i16 100 (-48) 48) c.settings.x
      y := f (.scaled .i16 100 (-27) 27) c.settings.y
      size := f (.scaled .u16 1000 (.rational (7 / 100)) 1) c.settings.size
      crop := {
        top := f (.scaled .u16 1000 0 18) c.settings.crop.top
        bottom := f (.scaled .u16 1000 0 18) c.settings.crop.bottom
        left := f (.scaled .u16 1000 0 32) c.settings.crop.left
        right := f (.scaled .u16 1000 0 32) c.settings.crop.right } } }

def AudioMixerInput.mapNumbers (c : AudioMixerInput) : AudioMixerInput :=
  { c with strip := { c.strip with gain := f .gain c.strip.gain, balance := f .balance c.strip.balance } }

def AudioMaster.mapNumbers (c : AudioMaster) : AudioMaster :=
  { c with gain := f .gain c.gain, balance := f .balance c.balance }

def SetAudioMixerInput.mapNumbers (c : SetAudioMixerInput) : SetAudioMixerInput :=
  { c with gain := c.gain.map (f .gain), balance := c.balance.map (f .balance) }

/-- a command with a function applied to its numbers -/
def Command.mapNumbers : Command → Command
  | .transitionPosition c => .transitionPosition (c.mapNumbers f)
  | .transitionWipe c => .transitionWipe (c.mapNumbers f)
  | .keyerBase c => .keyerBase (c.mapNumbers f)
  | .keyerLuma c => .keyerLuma (c.mapNumbers f)
  | .keyerChroma c => .keyerChroma (c.mapNumbers f)
  | .dskProperties c => .dskProperties (c.mapNumbers f)
  | .superSourceArt c => .superSourceArt (c.mapNumbers f)
  | .superSourceBox c => .superSourceBox (c.mapNumbers f)
  | .audioMixerInput c => .audioMixerInput (c.mapNumbers f)
  | .audioMaster c => .audioMaster (c.mapNumbers f)
  | .setAudioMixerInput c => .setAudioMixerInput (c.mapNumbers f)
  | c => c

end Bodies

namespace Command

/-- the command with every number at the nearest one that its field can hold -/
def rounded (c : Command) : Command := c.mapNumbers Wire.nearest

/-- the numbers of a command in the scaled fields of its tables, each with its encoding -/
def numbers (c : Command) : List (Wire × Number) :=
  (entryOf? c.tag).elim [] fun e => e.editions.flatMap fun edition => edition.layout.numbers c.toValues

/-- every number of a command is one that its field holds exactly -/
def IsSettled (c : Command) : Prop := ∀ p ∈ c.numbers, p.1.IsMultiple p.2

end Command

/-! ### The numbers of each kind of command -/

namespace Command

theorem numbers_transitionPosition (c : TransitionPosition) :
    (transitionPosition c).numbers = [(.unitInterval, c.progress.position)] := rfl

theorem numbers_transitionWipe (c : TransitionWipe) :
    (transitionWipe c).numbers =
      [(.percentHundredths, c.settings.borderWidth), (.percentHundredths, c.settings.symmetry),
        (.percentHundredths, c.settings.borderSoftness), (.unitInterval, c.settings.xPosition),
        (.unitInterval, c.settings.yPosition)] := rfl

theorem numbers_keyerBase (c : KeyerBase) :
    (keyerBase c).numbers =
      [(.maskVertical, c.mask.top), (.maskVertical, c.mask.bottom), (.maskHorizontal, c.mask.left),
        (.maskHorizontal, c.mask.right)] := rfl

theorem numbers_keyerLuma (c : KeyerLuma) :
    (keyerLuma c).numbers = [(.percentTenths, c.settings.clip), (.percentTenths, c.settings.gain)] := rfl

theorem numbers_keyerChroma (c : KeyerChroma) :
    (keyerChroma c).numbers =
      [(.hue, c.settings.hue), (.percentTenths, c.settings.gain), (.percentTenths, c.settings.ySuppress),
        (.percentTenths, c.settings.lift)] := rfl

theorem numbers_dskProperties (c : DskProperties) :
    (dskProperties c).numbers =
      [(.percentTenths, c.luma.clip), (.percentTenths, c.luma.gain), (.maskVertical, c.mask.top),
        (.maskVertical, c.mask.bottom), (.maskHorizontal, c.mask.left), (.maskHorizontal, c.mask.right)] := rfl

/-- both editions of a super source have the same numbers -/
theorem numbers_superSourceArt (c : SuperSourceArt) :
    (superSourceArt c).numbers =
      [(.percentTenths, c.luma.clip), (.percentTenths, c.luma.gain), (.hue, c.border.hue),
        (.percentTenths, c.border.saturation), (.percentTenths, c.border.luma), (.percentTenths, c.luma.clip),
        (.percentTenths, c.luma.gain), (.hue, c.border.hue), (.percentTenths, c.border.saturation),
        (.percentTenths, c.border.luma)] := rfl

theorem numbers_superSourceBox (c : SuperSourceBox) :
    (superSourceBox c).numbers =
      [(.scaled .i16 100 (-48) 48, c.settings.x), (.scaled .i16 100 (-27) 27, c.settings.y),
        (.scaled .u16 1000 (.rational (7 / 100)) 1, c.settings.size), (.scaled .u16 1000 0 18, c.settings.crop.top),
        (.scaled .u16 1000 0 18, c.settings.crop.bottom), (.scaled .u16 1000 0 32, c.settings.crop.left),
        (.scaled .u16 1000 0 32, c.settings.crop.right), (.scaled .i16 100 (-48) 48, c.settings.x),
        (.scaled .i16 100 (-27) 27, c.settings.y), (.scaled .u16 1000 (.rational (7 / 100)) 1, c.settings.size),
        (.scaled .u16 1000 0 18, c.settings.crop.top), (.scaled .u16 1000 0 18, c.settings.crop.bottom),
        (.scaled .u16 1000 0 32, c.settings.crop.left), (.scaled .u16 1000 0 32, c.settings.crop.right)] := rfl

theorem numbers_audioMixerInput (c : AudioMixerInput) :
    (audioMixerInput c).numbers = [(.gain, c.strip.gain), (.balance, c.strip.balance)] := rfl

theorem numbers_audioMaster (c : AudioMaster) :
    (audioMaster c).numbers = [(.gain, c.gain), (.balance, c.balance)] := rfl

/-- a setting that is not asked for is written as zero -/
theorem numbers_setAudioMixerInput (c : SetAudioMixerInput) :
    (setAudioMixerInput c).numbers = [(.gain, c.gain.getD 0), (.balance, c.balance.getD 0)] := rfl

/-! ### Settled commands -/

end Command

variable {f : Wire → Number → Number}

theorem MaskRect.mapNumbers_beq {m : MaskRect} (htop : (f .maskVertical m.top == m.top) = true)
    (hbottom : (f .maskVertical m.bottom == m.bottom) = true) (hleft : (f .maskHorizontal m.left == m.left) = true)
    (hright : (f .maskHorizontal m.right == m.right) = true) : (m.mapNumbers f == m) = true := by
  change (_ && (_ && (_ && _))) = true
  simp only [Bool.and_eq_true]
  exact ⟨htop, hbottom, hleft, hright⟩

theorem LumaSettings.mapNumbers_beq {l : LumaSettings} (hclip : (f .percentTenths l.clip == l.clip) = true)
    (hgain : (f .percentTenths l.gain == l.gain) = true) : (l.mapNumbers f == l) = true := by
  change (_ && (_ && (_ && _))) = true
  simp only [Bool.and_eq_true]
  exact ⟨beq_self_eq_true _, hclip, hgain, beq_self_eq_true _⟩

theorem Option.map_beq {α : Type} [BEq α] {g : α → α} {d : α} {x : Option α} (h : (g (x.getD d) == x.getD d) = true) :
    (x.map g == x) = true := by
  cases x with
  | none => rfl
  | some y => exact h

/-- a function that leaves every number as it compares leaves the command as it compares -/
theorem Command.mapNumbers_beq {c : Command} (h : ∀ p ∈ c.numbers, (f p.1 p.2 == p.2) = true) :
    (c.mapNumbers f == c) = true := by
  cases c with
  | transitionPosition c =>
    rw [numbers_transitionPosition] at h
    simp only [List.forall_mem_cons] at h
    obtain ⟨hposition, -⟩ := h
    change (_ && (_ && (_ && _))) = true
    simp [hposition]
  | transitionWipe c =>
    rw [numbers_transitionWipe] at h
    simp only [List.forall_mem_cons] at h
    obtain ⟨hwidth, hsymmetry, hsoftness, hx, hy, -⟩ := h
    change (_ && (_ && (_ && (_ && (_ && (_ && (_ && (_ && (_ && (_ && _)))))))))) = true
    simp [hwidth, hsymmetry, hsoftness, hx, hy]
  | keyerBase c =>
    rw [numbers_keyerBase] at h
    simp only [List.forall_mem_cons] at h
    obtain ⟨htop, hbottom, hleft, hright, -⟩ := h
    have hmask : (c.mask.mapNumbers f == c.mask) = true := MaskRect.mapNumbers_beq htop hbottom hleft hright
    change (_ && (_ && (_ && (_ && (_ && (_ && (_ && (_ && _)))))))) = true
    simp [hmask]
  | keyerLuma c =>
    rw [numbers_keyerLuma] at h
    simp only [List.forall_mem_cons] at h
    obtain ⟨hclip, hgain, -⟩ := h
    have hluma : (c.settings.mapNumbers f == c.settings) = true := LumaSettings.mapNumbers_beq hclip hgain
    change (_ && (_ && _)) = true
    simp [hluma]
  | keyerChroma c =>
    rw [numbers_keyerChroma] at h
    simp only [List.forall_mem_cons] at h
    obtain ⟨hhue, hgain, hsuppress, hlift, -⟩ := h
    change (_ && (_ && (_ && (_ && (_ && (_ && _)))))) = true
    simp [hhue, hgain, hsuppress, hlift]
  | dskProperties c =>
    rw [numbers_dskProperties] at h
    simp only [List.forall_mem_cons] at h
    obtain ⟨hclip, hgain, htop, hbottom, hleft, hright, -⟩ := h
    have hluma : (c.luma.mapNumbers f == c.luma) = true := LumaSettings.mapNumbers_beq hclip hgain
    have hmask : (c.mask.mapNumbers f == c.mask) = true := MaskRect.mapNumbers_beq htop hbottom hleft hright
    change (_ && (_ && (_ && (_ && (_ && _))))) = true
    simp [hluma, hmask]
  | superSourceArt c =>
    rw [numbers_superSourceArt] at h
    simp only [List.forall_mem_cons] at h
    obtain ⟨hclip, hgain, hhue, hsaturation, hborder, -⟩ := h
    have hluma : (c.luma.mapNumbers f == c.luma) = true := LumaSettings.mapNumbers_beq hclip hgain
    change (_ && (_ && (_ && (_ && (_ && (_ && (_ && (_ && _)))))))) = true
    simp [hluma, hhue, hsaturation, hborder]
  | superSourceBox c =>
    rw [numbers_superSourceBox] at h
    simp only [List.forall_mem_cons] at h
    obtain ⟨hx, hy, hsize, htop, hbottom, hleft, hright, -⟩ := h
    change (_ && (_ && (_ && (_ && (_ && (_ && (_ && (_ && (_ && (_ && (_ && _))))))))))) = true
    simp [hx, hy, hsize, htop, hbottom, hleft, hright]
  | audioMixerInput c =>
    rw [numbers_audioMixerInput] at h
    simp only [List.forall_mem_cons] at h
    obtain ⟨hgain, hbalance, -⟩ := h
    change (_ && (_ && (_ && (_ && (_ && (_ && _)))))) = true
    simp [hgain, hbalance]
  | audioMaster c =>
    rw [numbers_audioMaster] at h
    simp only [List.forall_mem_cons] at h
    obtain ⟨hgain, hbalance, -⟩ := h
    change (_ && (_ && _)) = true
    simp [hgain, hbalance]
  | setAudioMixerInput c =>
    rw [numbers_setAudioMixerInput] at h
    simp only [List.forall_mem_cons] at h
    obtain ⟨hgain, hbalance, -⟩ := h
    change (_ && (_ && (_ && _))) = true
    simp [Option.map_beq hgain, Option.map_beq hbalance]
  | initComplete => rfl
  | _ => exact decide_eq_true rfl

/-- **Settled commands stay.** A command whose numbers are multiples of their units is the rounded command. -/
theorem Command.rounded_beq {c : Command} (h : c.IsSettled) : (c.rounded == c) = true :=
  mapNumbers_beq fun p hp => Wire.nearest_beq (h p hp)

end VisionMixer
