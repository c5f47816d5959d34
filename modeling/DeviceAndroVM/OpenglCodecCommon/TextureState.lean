import DeviceAndroVM.OpenGL.Types
import DeviceAndroVM.Library.BinarySearch

/-!
# Texture state of `GLClientState`

The part of `GLClientState.cpp` that emulates `GL_OES_EGL_image_external`: 32
texture units, each with two bindings and two enable bits, and a table of the
textures ever bound, kept sorted by name and searched with `bsearch`.
-/

namespace DeviceAndroVM
namespace OpenglCodecCommon

open OpenGL Library

/-- `GLClientState::MAX_TEXTURE_UNITS`. -/
abbrev MAX_TEXTURE_UNITS : Nat := 32

/-- `enum TextureTarget`. -/
inductive TextureTarget
  | TEXTURE_2D
  | TEXTURE_EXTERNAL
  deriving DecidableEq

namespace TextureTarget

/-- The value of the enumerator, used as a shift in `enables`. -/
def toNat : TextureTarget → Nat
  | TEXTURE_2D => 0
  | TEXTURE_EXTERNAL => 1

/-- The GL target whose bindings the slot records. -/
def glTarget : TextureTarget → GLenum
  | TEXTURE_2D => GL_TEXTURE_2D
  | TEXTURE_EXTERNAL => GL_TEXTURE_EXTERNAL_OES

/-- The slot of a GL target: the `switch` over the two tracked targets that
`bindTexture`, `getBoundTexture` and the enables share. -/
def ofGLenum? (target : GLenum) : Option TextureTarget :=
  if target = GL_TEXTURE_2D then some TEXTURE_2D
  else if target = GL_TEXTURE_EXTERNAL_OES then some TEXTURE_EXTERNAL
  else none

end TextureTarget

/-- `struct TextureUnit`. -/
structure TextureUnit where
  enables : BitVec 32
  texture : TextureTarget → GLuint

/-- `struct TextureRec`. -/
structure TextureRec where
  id : GLuint
  target : GLenum
  deriving DecidableEq

/-- `struct TextureState`: `textures` lists the first `numTextures` records of
the allocated array. -/
structure TextureState where
  unit : Fin MAX_TEXTURE_UNITS → TextureUnit
  activeUnit : Fin MAX_TEXTURE_UNITS
  textures : List TextureRec
  allocTextures : GLuint

namespace TextureUnit

/-- `enables & (1u << target)`. -/
def isEnabled (unit : TextureUnit) (target : TextureTarget) : Bool :=
  unit.enables &&& (1#32 <<< target.toNat) != 0#32

/-- `GLClientState::getPriorityEnabledTarget`, on the enables of one unit. -/
def getPriorityEnabledTarget (unit : TextureUnit) (allDisabled : GLenum) : GLenum :=
  if unit.isEnabled .TEXTURE_EXTERNAL then GL_TEXTURE_EXTERNAL_OES
  else if unit.isEnabled .TEXTURE_2D then GL_TEXTURE_2D
  else allDisabled

/-- `GLClientState::getBoundTexture`, on the bindings of one unit. -/
def getBoundTexture (unit : TextureUnit) (target : GLenum) : GLuint :=
  match TextureTarget.ofGLenum? target with
  | some t => unit.texture t
  | none => 0#32

end TextureUnit

namespace TextureState

/-- The constructor's `memset` of `m_tex.unit` and empty table. -/
def init : TextureState where
  unit := fun _ => { enables := 0#32, texture := fun _ => 0#32 }
  activeUnit := 0
  textures := []
  allocTextures := 0#32

/-- The number of records, as the unsigned counter stores it. -/
def numTextures (tex : TextureState) : GLuint := BitVec.ofNat 32 tex.textures.length

/-- `*m_tex.activeUnit`. -/
def active (tex : TextureState) : TextureUnit := tex.unit tex.activeUnit

/-- Overwrite the active unit. -/
def setActive (tex : TextureState) (u : TextureUnit) : TextureState :=
  { tex with unit := Function.update tex.unit tex.activeUnit u }

/-- `GLClientState::setActiveTextureUnit`. -/
def setActiveTextureUnit (tex : TextureState) (texture : GLenum) : GLenum × TextureState :=
  let unit : GLuint := texture - GL_TEXTURE0
  if h : unit.toNat < MAX_TEXTURE_UNITS then
    (GL_NO_ERROR, { tex with activeUnit := ⟨unit.toNat, h⟩ })
  else (GL_INVALID_OPERATION, tex)

/-- `GLClientState::getActiveTextureUnit`. -/
def getActiveTextureUnit (tex : TextureState) : GLenum :=
  GL_TEXTURE0 + BitVec.ofNat 32 tex.activeUnit.val

/-- `GLClientState::enableTextureTarget`. -/
def enableTextureTarget (tex : TextureState) (target : GLenum) : TextureState :=
  match TextureTarget.ofGLenum? target with
  | some t =>
      tex.setActive { tex.active with enables := tex.active.enables ||| (1#32 <<< t.toNat) }
  | none => tex

/-- `GLClientState::disableTextureTarget`. -/
def disableTextureTarget (tex : TextureState) (target : GLenum) : TextureState :=
  match TextureTarget.ofGLenum? target with
  | some t =>
      tex.setActive { tex.active with enables := tex.active.enables &&& ~~~(1#32 <<< t.toNat) }
  | none => tex

/-- `GLClientState::getPriorityEnabledTarget`. -/
def getPriorityEnabledTarget (tex : TextureState) (allDisabled : GLenum) : GLenum :=
  tex.active.getPriorityEnabledTarget allDisabled

/-- `GLClientState::getBoundTexture`. -/
def getBoundTexture (tex : TextureState) (target : GLenum) : GLuint :=
  tex.active.getBoundTexture target

/-! ## The texture table -/

/-- `GLClientState::compareTexId`: the difference of the names read as signed
words.  The machine subtraction wraps, so it can have the wrong sign. -/
def compareTexId (id : GLuint) (texrec : TextureRec) : Int := (id - texrec.id).toInt

/-- `bsearch(&id, m_tex.textures, m_tex.numTextures, sizeof(TextureRec), compareTexId)`. -/
def findTexture (tex : TextureState) (id : GLuint) : Option Nat :=
  bsearch compareTexId id tex.textures

/-- The insertion loop of `addTextureRec`, on the array read from its end:
records with a larger name move up by one place. -/
def insertFromEnd (texrec : TextureRec) : List TextureRec → List TextureRec
  | [] => [texrec]
  | prev :: before =>
      if texrec.id < prev.id then prev :: insertFromEnd texrec before
      else texrec :: prev :: before

/-- The table after the insertion loop. -/
def insertRec (texrec : TextureRec) (textures : List TextureRec) : List TextureRec :=
  (insertFromEnd texrec textures.reverse).reverse

/-- `MAX_TEXTURES` of `addTextureRec`. -/
abbrev MAX_TEXTURES : GLuint := 0xFFFFFFFF#32

/-- The capacity `addTextureRec` asks for when the table is full; `none` when
the counter cannot grow any more. -/
def newAlloc (alloc : GLuint) : Option GLuint :=
  if alloc ≤ MAX_TEXTURES - alloc then
    some (if 4#32 < 2#32 * alloc then 2#32 * alloc else 4#32)
  else if alloc = MAX_TEXTURES then none
  else some MAX_TEXTURES

/-- `GLClientState::addTextureRec`.  `realloc` says whether the C library
grants a block of that many bytes (`sizeof(TextureRec)` is 8); the result is
the new record together with the state, or `none` for `NULL`. -/
def addTextureRec (realloc : BitVec 32 → Bool) (tex : TextureState) (id : GLuint)
    (target : GLenum) : Option (TextureRec × TextureState) :=
  let texrec : TextureRec := { id, target }
  if tex.numTextures = tex.allocTextures then
    match newAlloc tex.allocTextures with
    | none => none
    | some alloc =>
        if realloc (alloc * 8#32) then
          some (texrec, { tex with
            textures := insertRec texrec tex.textures
            allocTextures := alloc })
        else none
  else some (texrec, { tex with textures := insertRec texrec tex.textures })

/-- What `bindTexture` gives back: the error code, and `*firstUse` when it is
written. -/
structure BindResult where
  err : GLenum
  firstUse : Option Bool
  deriving DecidableEq

/-- The `switch` at the end of `bindTexture`: record the binding of a tracked
target on the active unit. -/
def setBinding (tex : TextureState) (target : GLenum) (texture : GLuint) : TextureState :=
  match TextureTarget.ofGLenum? target with
  | some t =>
      tex.setActive { tex.active with texture := Function.update tex.active.texture t texture }
  | none => tex

/-- `GLClientState::bindTexture`. -/
def bindTexture (realloc : BitVec 32 → Bool) (tex : TextureState) (target : GLenum)
    (texture : GLuint) : BindResult × TextureState :=
  if texture = 0#32 then
    ({ err := GL_NO_ERROR, firstUse := some false }, tex.setBinding target texture)
  else
    match (tex.findTexture texture).bind (tex.textures[·]?) with
    | some texrec =>
        if target ≠ texrec.target then
          ({ err := GL_INVALID_OPERATION, firstUse := none }, tex)
        else ({ err := GL_NO_ERROR, firstUse := some false }, tex.setBinding target texture)
    | none =>
        match addTextureRec realloc tex texture target with
        | none => ({ err := GL_OUT_OF_MEMORY, firstUse := none }, tex)
        | some (texrec, tex') =>
            if target ≠ texrec.target then
              ({ err := GL_INVALID_OPERATION, firstUse := none }, tex')
            else ({ err := GL_NO_ERROR, firstUse := some true }, tex'.setBinding target texture)

/-- The unit loop of `deleteTextures`: at most one of the two bindings of a
unit is cleared. -/
def clearBinding (id : GLuint) (u : TextureUnit) : TextureUnit :=
  if u.texture .TEXTURE_2D = id then
    { u with texture := Function.update u.texture .TEXTURE_2D 0#32 }
  else if u.texture .TEXTURE_EXTERNAL = id then
    { u with texture := Function.update u.texture .TEXTURE_EXTERNAL 0#32 }
  else u

/-- The body of the loop of `deleteTextures`. -/
def deleteTexture (tex : TextureState) (id : GLuint) : TextureState :=
  match tex.findTexture id with
  | none => tex
  | some i =>
      { tex with
        textures := tex.textures.eraseIdx i
        unit := fun u => clearBinding id (tex.unit u) }

/-- `GLClientState::deleteTextures`, for the `n` names the array holds. -/
def deleteTextures (tex : TextureState) (textures : List GLuint) : TextureState :=
  textures.foldl deleteTexture tex

end TextureState
end OpenglCodecCommon
end DeviceAndroVM
