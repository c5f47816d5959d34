import DeviceAndroVM.OpenGL.Types

/-!
# `ProgramData`

The uniform table and the attached shaders of one program, `GLSharedGroup.cpp`
lines 48–223.  Locations are 32-bit signed words whose differences wrap, as on
the target.

* `getIndexForLocation`, `locationWARHostToApp`, `locationWARAppToHost` — the
  uniform location workaround.
* `getNextSamplerUniform`, `setSamplerUniform` — the texture units of the sampler
  uniforms.
* `attachShader`, `detachShader` — the list of attached shaders, in which a name
  occurs at most once.
-/

namespace DeviceAndroVM
namespace OpenglCodecCommon

open OpenGL

/-- `struct _IndexInfo`: one active uniform. -/
structure IndexInfo where
  base : GLint
  size : GLint
  type : GLenum
  appBase : GLint
  hostLocsPerElement : GLint
  flags : GLuint
  samplerValue : GLint
  deriving DecidableEq

/-- `ProgramData::INDEX_FLAG_SAMPLER_EXTERNAL`. -/
abbrev INDEX_FLAG_SAMPLER_EXTERNAL : GLuint := 0x00000001#32

/-- `class ProgramData`: `indexes` is `m_Indexes` with its length `m_numIndexes`. -/
structure ProgramData where
  indexes : List IndexInfo
  initialized : Bool
  locShiftWAR : Bool
  shaders : List GLuint
  deriving DecidableEq

namespace IndexInfo

/-- `elemIndex = appLoc - appBase` together with its range check. -/
def covers (info : IndexInfo) (appLoc : GLint) : Bool :=
  0 ≤ (appLoc - info.appBase).toInt ∧ (appLoc - info.appBase).toInt < info.size.toInt

/-- The target that `getNextSamplerUniform` and `setSamplerUniform` report. -/
def samplerTarget (info : IndexInfo) : GLenum :=
  if info.flags &&& INDEX_FLAG_SAMPLER_EXTERNAL ≠ 0#32 then GL_TEXTURE_EXTERNAL_OES
  else GL_TEXTURE_2D

theorem samplerTarget_eq (info : IndexInfo) :
    info.samplerTarget = GL_TEXTURE_EXTERNAL_OES ∨ info.samplerTarget = GL_TEXTURE_2D := by
  unfold samplerTarget
  split
  · exact Or.inl rfl
  · exact Or.inr rfl

end IndexInfo

namespace ProgramData

/-- `ProgramData::ProgramData`. -/
def init : ProgramData where
  indexes := []
  initialized := false
  locShiftWAR := false
  shaders := []

/-- `m_numIndexes`. -/
def numIndexes (data : ProgramData) : Nat := data.indexes.length

/-- `ProgramData::initProgramData`: the entries of the new array hold whatever
the allocated memory held, here `memory`. -/
def initProgramData (data : ProgramData) (numIndexes : GLuint) (memory : Nat → IndexInfo) :
    ProgramData :=
  { data with
    initialized := true
    indexes := (List.range numIndexes.toNat).map memory
    locShiftWAR := false }

/-- The `appBase` of entry `index`, from the entry before it. -/
def nextAppBase (data : ProgramData) : Nat → GLint
  | 0 => 0#32
  | k + 1 =>
      match data.indexes[k]? with
      | some previous => previous.appBase + previous.size
      | none => 0#32

/-- `ProgramData::setIndexInfo`. -/
def setIndexInfo (data : ProgramData) (index : GLuint) (base size : GLint) (type : GLenum) :
    ProgramData :=
  { data with
    indexes := data.indexes.set index.toNat
      { base := base
        size := size
        type := type
        appBase := data.nextAppBase index.toNat
        hostLocsPerElement := 1#32
        flags := 0#32
        samplerValue := 0#32 } }

/-- `ProgramData::setIndexFlags`. -/
def setIndexFlags (data : ProgramData) (index flags : GLuint) : ProgramData :=
  { data with
    indexes := data.indexes.modify index.toNat fun info =>
      { info with flags := info.flags ||| flags } }

/-- One turn of the loop of `getIndexForLocation`: the best index so far and its
distance `minDist`, negative when there is none. -/
def nearer (location : GLint) (best : Nat × GLint) (entry : IndexInfo × Nat) : Nat × GLint :=
  let dist : GLint := location - entry.1.base
  if 0 ≤ dist.toInt ∧ (best.2.toInt < 0 ∨ dist.toInt < best.2.toInt) then (entry.2, dist)
  else best

/-- `ProgramData::getIndexForLocation`. -/
def getIndexForLocation (data : ProgramData) (location : GLint) : Nat :=
  (data.indexes.zipIdx.foldl (nearer location) (data.numIndexes, -1#32)).1

/-- `ProgramData::getTypeForLocation`. -/
def getTypeForLocation (data : ProgramData) (location : GLint) : GLenum :=
  match data.indexes[data.getIndexForLocation location]? with
  | some info => info.type
  | none => 0#32

/-- `ProgramData::setupLocationShiftWAR`. -/
def setupLocationShiftWAR (data : ProgramData) : ProgramData :=
  { data with
    locShiftWAR :=
      data.indexes.all (fun info => info.base &&& 0xffff#32 == 0#32) && decide (1 < data.numIndexes) }

/-- `ProgramData::locationWARHostToApp`.  The division is the signed one of C. -/
def locationWARHostToApp (data : ProgramData) (hostLoc arrIndex : GLint) :
    GLint × ProgramData :=
  if !data.locShiftWAR then (hostLoc, data)
  else
    let index := data.getIndexForLocation hostLoc
    match data.indexes[index]? with
    | none => (-1#32, data)
    | some info =>
        let stride :=
          if 0 < arrIndex.toInt then (hostLoc - info.base).sdiv arrIndex
          else info.hostLocsPerElement
        (info.appBase + arrIndex,
          { data with indexes := data.indexes.set index { info with hostLocsPerElement := stride } })

/-- `ProgramData::locationWARAppToHost`. -/
def locationWARAppToHost (data : ProgramData) (appLoc : GLint) : GLint :=
  if !data.locShiftWAR then appLoc
  else
    match data.indexes.find? (fun info => info.covers appLoc) with
    | some info => info.base + (appLoc - info.appBase) * info.hostLocsPerElement
    | none => -1#32

/-- `ProgramData::getNextSamplerUniform`: the first sampler after `index`, with
the unit it samples and its target; `none` is the result `-1`. -/
def getNextSamplerUniform (data : ProgramData) (index : Int) : Option (Nat × GLint × GLenum) :=
  if index + 1 < 0 then none
  else
    match (data.indexes.zipIdx.drop (index + 1).toNat).find?
        fun entry => entry.1.type == GL_SAMPLER_2D with
    | some (info, i) => some (i, info.samplerValue, info.samplerTarget)
    | none => none

/-- `ProgramData::setSamplerUniform`: the target is returned when an entry was
set.  The entry is recognised by the texture target `GL_TEXTURE_2D`, not by the
uniform type `GL_SAMPLER_2D`. -/
def setSamplerUniform (data : ProgramData) (appLoc val : GLint) : Option GLenum × ProgramData :=
  match data.indexes.findIdx? fun info => info.covers appLoc && info.type == GL_TEXTURE_2D with
  | none => (none, data)
  | some i =>
      (data.indexes[i]?.map IndexInfo.samplerTarget,
        { data with
          indexes := data.indexes.modify i fun info => { info with samplerValue := val } })

/-- `ProgramData::attachShader`. -/
def attachShader (data : ProgramData) (shader : GLuint) : Bool × ProgramData :=
  if shader ∈ data.shaders then (false, data)
  else (true, { data with shaders := data.shaders ++ [shader] })

/-- `ProgramData::detachShader`. -/
def detachShader (data : ProgramData) (shader : GLuint) : Bool × ProgramData :=
  if shader ∈ data.shaders then (true, { data with shaders := data.shaders.erase shader })
  else (false, data)

end ProgramData

end OpenglCodecCommon
end DeviceAndroVM
