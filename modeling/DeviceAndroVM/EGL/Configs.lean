import DeviceAndroVM.EGL.Types
import DeviceAndroVM.Library.Buffer
import DeviceAndroVM.Library.Lookup

/-!
# The configs of the display

The part of `eglDisplay` that holds the configs: `initialize` fills them in from the host, and
`getAttribValue` and `setAttribValue` address them by the number of the config and the index of
the attribute.

* `ConfigDisplay` — the fields; `m_configs` is the block that it points to.
* `configIndex`, `getAttribValue`, `setAttribValue` — the table; there is no result outside of it.
* `nativePixelFormat`, `glPixelFormat` — the two decisions over the sizes of the channels.
* `initialize` — with what the host answers.
-/

namespace DeviceAndroVM
namespace EGL

open Library

abbrev EGL_ALPHA_SIZE : EGLint := 0x3021#32
abbrev EGL_BLUE_SIZE : EGLint := 0x3022#32
abbrev EGL_GREEN_SIZE : EGLint := 0x3023#32
abbrev EGL_RED_SIZE : EGLint := 0x3024#32
abbrev EGL_NATIVE_VISUAL_ID : EGLint := 0x302E#32

abbrev ATTRIBUTE_NONE : EGLint := -1#32

abbrev PIXEL_FORMAT_RGBA_8888 : EGLint := 1#32
abbrev PIXEL_FORMAT_RGBX_8888 : EGLint := 2#32
abbrev PIXEL_FORMAT_RGB_565 : EGLint := 4#32
abbrev PIXEL_FORMAT_RGBA_5551 : EGLint := 6#32
abbrev PIXEL_FORMAT_RGBA_4444 : EGLint := 7#32

abbrev GL_RGB : EGLint := 0x1907#32
abbrev GL_RGBA : EGLint := 0x1908#32
abbrev GL_RGBA4_OES : EGLint := 0x8056#32
abbrev GL_RGB5_A1_OES : EGLint := 0x8057#32
abbrev GL_RGB565_OES : EGLint := 0x8D62#32

/-- The fields of `eglDisplay` for the configs. -/
structure ConfigDisplay where
  initialized : Bool
  numConfigs : EGLint
  numConfigAttribs : EGLint
  attribs : AList fun _ : EGLint => EGLint
  configs : List EGLint

namespace ConfigDisplay

/-- The constructor. -/
def new : ConfigDisplay := ⟨false, 0, 0, ∅, []⟩

variable (d : ConfigDisplay)

/-! ## The table -/

/-- `m_attribs.valueFor`. -/
def valueFor (attrib : EGLint) : EGLint := (d.attribs.lookup attrib).getD ATTRIBUTE_NONE

/-- `(int)config*m_numConfigAttribs + attribIdx`, counted from `m_configs`. -/
def configIndex (config attribIdx : EGLint) : Int :=
  (config * d.numConfigAttribs).toInt + attribIdx.toInt

/-- The address is in the block of `m_configs`. -/
def InTable (config attribIdx : EGLint) : Prop :=
  0 ≤ d.configIndex config attribIdx ∧ d.configIndex config attribIdx < d.configs.length

instance (config attribIdx : EGLint) : Decidable (d.InTable config attribIdx) :=
  inferInstanceAs (Decidable (_ ∧ _))

/-- `getAttribValue`: the value, or `EGL_FALSE`. -/
def getAttribValue (config attribIdx : EGLint) : Option (Option EGLint) :=
  if attribIdx = ATTRIBUTE_NONE then some none
  else if d.InTable config attribIdx then
    some d.configs[(d.configIndex config attribIdx).toNat]?
  else none

/-- `setAttribValue`, with whether it sets one. -/
def setAttribValue (config attribIdx value : EGLint) : Option (Bool × ConfigDisplay) :=
  if attribIdx = ATTRIBUTE_NONE then some (false, d)
  else if d.InTable config attribIdx then
    some (true, { d with
      configs := d.configs.set (d.configIndex config attribIdx).toNat value })
  else none

def getConfigAttrib (config attrib : EGLint) : Option (Option EGLint) :=
  d.getAttribValue config (d.valueFor attrib)

def setConfigAttrib (config attrib value : EGLint) : Option (Bool × ConfigDisplay) :=
  d.setAttribValue config (d.valueFor attrib) value

/-- `VALIDATE_CONFIG` lets the handle pass. -/
def validateConfig (config : EGLint) : Bool :=
  !(decide (config.toInt < 0) || decide (d.numConfigs.toInt < config.toInt))

/-! ## Pixel formats -/

/-- The variables `redSize` and so on. -/
structure ChannelSizes where
  redSize : EGLint
  greenSize : EGLint
  blueSize : EGLint
  alphaSize : EGLint
  deriving DecidableEq

/-- What both `getConfig…PixelFormat` read, up to the first attribute that is missing. -/
def channelSizes (config : EGLint) : Option (Option ChannelSizes) :=
  (d.getConfigAttrib config EGL_RED_SIZE).bind fun red => red.elim (some none) fun redSize =>
  (d.getConfigAttrib config EGL_BLUE_SIZE).bind fun blue => blue.elim (some none) fun blueSize =>
  (d.getConfigAttrib config EGL_GREEN_SIZE).bind fun green =>
    green.elim (some none) fun greenSize =>
  (d.getConfigAttrib config EGL_ALPHA_SIZE).map fun alpha =>
    alpha.map fun alphaSize => ⟨redSize, greenSize, blueSize, alphaSize⟩

end ConfigDisplay

/-- The decisions of `getConfigNativePixelFormat`. -/
def nativePixelFormat (s : ConfigDisplay.ChannelSizes) : Option EGLint :=
  if s.redSize = 8 ∧ s.greenSize = 8 ∧ s.blueSize = 8 ∧ s.alphaSize = 8 then
    some PIXEL_FORMAT_RGBA_8888
  else if s.redSize = 8 ∧ s.greenSize = 8 ∧ s.blueSize = 8 ∧ s.alphaSize = 0 then
    some PIXEL_FORMAT_RGBX_8888
  else if s.redSize = 5 ∧ s.greenSize = 6 ∧ s.blueSize = 5 ∧ s.alphaSize = 0 then
    some PIXEL_FORMAT_RGB_565
  else if s.redSize = 5 ∧ s.greenSize = 5 ∧ s.blueSize = 5 ∧ s.alphaSize = 1 then
    some PIXEL_FORMAT_RGBA_5551
  else if s.redSize = 4 ∧ s.greenSize = 4 ∧ s.blueSize = 4 ∧ s.alphaSize = 4 then
    some PIXEL_FORMAT_RGBA_4444
  else none

/-- The decisions of `getConfigGLPixelFormat`; the first one asks for the blue size twice. -/
def glPixelFormat (s : ConfigDisplay.ChannelSizes) : Option EGLint :=
  if s.redSize = 8 ∧ s.blueSize = 8 ∧ s.blueSize = 8 ∧ s.alphaSize = 8 then some GL_RGBA
  else if s.redSize = 8 ∧ s.greenSize = 8 ∧ s.blueSize = 8 ∧ s.alphaSize = 0 then some GL_RGB
  else if s.redSize = 5 ∧ s.greenSize = 6 ∧ s.blueSize = 5 ∧ s.alphaSize = 0 then
    some GL_RGB565_OES
  else if s.redSize = 5 ∧ s.greenSize = 5 ∧ s.blueSize = 5 ∧ s.alphaSize = 1 then
    some GL_RGB5_A1_OES
  else if s.redSize = 4 ∧ s.greenSize = 4 ∧ s.blueSize = 4 ∧ s.alphaSize = 4 then
    some GL_RGBA4_OES
  else none

namespace ConfigDisplay

variable (d : ConfigDisplay)

def getConfigNativePixelFormat (config : EGLint) : Option (Option EGLint) :=
  (d.channelSizes config).map (·.bind nativePixelFormat)

def getConfigGLPixelFormat (config : EGLint) : Option (Option EGLint) :=
  (d.channelSizes config).map (·.bind glPixelFormat)

/-! ## Initialization -/

/-- `processConfigs` for config `i`. -/
def processConfig (d : ConfigDisplay) (i : Nat) : Option ConfigDisplay :=
  let config := BitVec.ofNat 32 i
  (d.getConfigNativePixelFormat config).bind fun format =>
    format.elim (some d) fun format =>
      (d.setConfigAttrib config EGL_NATIVE_VISUAL_ID format).map Prod.snd

def processConfigs : Option ConfigDisplay :=
  (List.range d.numConfigs.toInt.toNat).foldlM processConfig d

end ConfigDisplay

/-- The answers during one `initialize`: whether the first client library is loaded and the host
connected, what `rcGetEGLVersion` and `rcGetNumConfigs` return, what `new` leaves in its block, and
`rcGetConfigs` for the size of its buffer, with the words that it reads back. -/
structure ConfigReply where
  gles : Bool
  connected : Bool
  status : EGLint
  numConfigs : EGLint
  numConfigAttribs : EGLint
  memory : Nat → EGLint
  rcGetConfigs : EGLint → EGLint × (Nat → EGLint)

namespace ConfigDisplay

variable (d : ConfigDisplay)

/-- `nInts`. -/
def nInts : EGLint := d.numConfigAttribs * (d.numConfigs + 1)

/-- `m_attribs` and `m_configs` are filled from the buffer; there is no result where that is read
behind its end, or the block written. -/
def fillConfigs (tmp_buf : List EGLint) : Option ConfigDisplay :=
  (load tmp_buf 0 d.numConfigAttribs.toNat).bind fun names =>
    let attribs := names.zipIdx.foldl
      (fun attribs entry => attribs.insert entry.1 (BitVec.ofNat 32 entry.2)) d.attribs
    let bytes := d.numConfigs * d.numConfigAttribs * 4#32
    (load tmp_buf d.numConfigAttribs.toNat (bytes.toNat / 4)).bind fun values =>
      (store d.configs 0 values).map fun configs => { d with initialized := true, attribs, configs }

/-- `eglDisplay::initialize`. -/
def initializeDisplay (reply : ConfigReply) : Option (Bool × ConfigDisplay) :=
  if d.initialized then d.processConfigs.map (true, ·)
  else if !reply.gles then some (false, d)
  else if !reply.connected then some (false, d)
  else if reply.status ≠ EGL_TRUE then some (false, d)
  else
    let d := { d with
      numConfigs := reply.numConfigs
      numConfigAttribs := reply.numConfigAttribs }
    if d.numConfigs.toInt ≤ 0 ∨ d.numConfigAttribs.toInt ≤ 0 then some (false, d)
    else
      let d := { d with
        configs := (List.range (d.nInts - d.numConfigAttribs).toNat).map reply.memory }
      let (n, tmp_buf) := reply.rcGetConfigs (d.nInts * 4#32)
      if n ≠ d.numConfigs then some (false, d)
      else
        (d.fillConfigs ((List.range d.nInts.toNat).map tmp_buf)).bind fun d =>
          d.processConfigs.map (true, ·)

/-- A sequence of calls of `initialize`. -/
def initializeAll (d : ConfigDisplay) (replies : List ConfigReply) : Option ConfigDisplay :=
  replies.foldlM (fun d reply => (d.initializeDisplay reply).map Prod.snd) d

end ConfigDisplay
end EGL
end DeviceAndroVM
