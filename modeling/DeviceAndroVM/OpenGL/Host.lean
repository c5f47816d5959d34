import Mathlib.Data.List.AList
import Mathlib.Logic.Function.Basic
import DeviceAndroVM.OpenGL.Types
import DeviceAndroVM.Library.ByteBlock

/-!
# The GL context on the host

The part of a GL context that the commands of `GLCmd` read and write by the
specification of OpenGL ES: texture units and bindings, texture enables, texture
objects with the target they were created for, buffer bindings and buffer
contents.  Commands about anything else leave it unchanged.

* `HostCaps` — what depends on the implementation.
* `Host.exec` — one command; an erroneous command has no effect.
-/

namespace DeviceAndroVM
namespace OpenGL

open Library

/-- The number of texture units that `GLClientState` tracks. -/
abbrev GUEST_TEXTURE_UNITS : Nat := 32

/-- The limits of a host: its texture units and texture targets.  It has all units
that the guest tracks and knows `GL_TEXTURE_2D`. -/
structure HostCaps where
  maxUnits : Nat
  isTextureTarget : GLenum → Bool
  units_le : GUEST_TEXTURE_UNITS ≤ maxUnits
  texture2D : isTextureTarget GL_TEXTURE_2D = true

/-- The least host. -/
def HostCaps.minimal : HostCaps where
  maxUnits := GUEST_TEXTURE_UNITS
  isTextureTarget := fun target => target == GL_TEXTURE_2D
  units_le := Nat.le_refl _
  texture2D := beq_self_eq_true _

/-- The state of the context. -/
structure Host where
  activeUnit : Nat
  binding : Nat → GLenum → GLuint
  enabled : Nat → GLenum → Bool
  textures : AList fun _ : GLuint => GLenum
  arrayBuffer : GLuint
  elementBuffer : GLuint
  buffers : AList fun _ : GLuint => ByteBlock

namespace Host

/-- A new context. -/
def init : Host where
  activeUnit := 0
  binding := fun _ _ => 0#32
  enabled := fun _ _ => false
  textures := ∅
  arrayBuffer := 0#32
  elementBuffer := 0#32
  buffers := ∅

variable (host : Host)

/-! ## Textures -/

/-- Set the binding of the active unit. -/
def setBinding (target : GLenum) (texture : GLuint) : Host :=
  { host with
    binding := fun unit other =>
      if unit = host.activeUnit ∧ other = target then texture else host.binding unit other }

/-- `glBindTexture`: a name gets an object of the target with its first binding,
and can only be bound to that target. -/
def bindTexture (caps : HostCaps) (target : GLenum) (texture : GLuint) : Host :=
  if !caps.isTextureTarget target then host
  else if texture = 0#32 then host.setBinding target texture
  else
    match host.textures.lookup texture with
    | none =>
        { host.setBinding target texture with textures := host.textures.insert texture target }
    | some old => if old = target then host.setBinding target texture else host

/-- `glDeleteTextures` for one name: its bindings revert to 0. -/
def deleteTexture (texture : GLuint) : Host :=
  if texture = 0#32 then host
  else
    { host with
      textures := host.textures.erase texture
      binding := fun unit target =>
        if host.binding unit target = texture then 0#32 else host.binding unit target }

/-- `glEnable` and `glDisable` of a texture target, on the active unit. -/
def setEnabled (caps : HostCaps) (cap : GLenum) (on : Bool) : Host :=
  if caps.isTextureTarget cap then
    { host with
      enabled := fun unit target =>
        if unit = host.activeUnit ∧ target = cap then on else host.enabled unit target }
  else host

/-! ## Buffers -/

/-- The buffer bound to a target; `none` for an invalid target. -/
def boundBuffer (target : GLenum) : Option GLuint :=
  if target = GL_ARRAY_BUFFER then some host.arrayBuffer
  else if target = GL_ELEMENT_ARRAY_BUFFER then some host.elementBuffer
  else none

/-- `glBindBuffer`: a name gets an empty buffer object with its first binding. -/
def bindBuffer (target : GLenum) (buffer : GLuint) : Host :=
  let created :=
    if buffer ≠ 0#32 ∧ host.buffers.lookup buffer = none then
      { host with buffers := host.buffers.insert buffer [] }
    else host
  if target = GL_ARRAY_BUFFER then { created with arrayBuffer := buffer }
  else if target = GL_ELEMENT_ARRAY_BUFFER then { created with elementBuffer := buffer }
  else host

/-- The usages of OpenGL ES 2.0. -/
def isUsage (usage : GLenum) : Bool :=
  usage == GL_STREAM_DRAW || usage == GL_STATIC_DRAW || usage == GL_DYNAMIC_DRAW

/-- `glBufferData`. -/
def bufferData (target : GLenum) (size : GLint) (data : DataPtr) (usage : GLenum) : Host :=
  match host.boundBuffer target with
  | none => host
  | some buffer =>
      if buffer = 0#32 ∨ size.toInt < 0 ∨ !isUsage usage then host
      else
        { host with
          buffers := host.buffers.insert buffer (ByteBlock.ofMemory size.toInt.toNat data) }

/-- `glBufferSubData`: the whole range must lie in the buffer. -/
def bufferSubData (target : GLenum) (offset size : GLint) (data : Nat → UInt8) : Host :=
  match host.boundBuffer target with
  | none => host
  | some buffer =>
      match host.buffers.lookup buffer with
      | none => host
      | some bytes =>
          if offset.toInt < 0 ∨ size.toInt < 0 ∨
              (bytes.length : Int) < offset.toInt + size.toInt then host
          else
            { host with
              buffers := host.buffers.insert buffer
                (bytes.overwrite offset.toInt.toNat size.toInt.toNat data) }

/-- `glDeleteBuffers` for one name: its bindings revert to 0. -/
def deleteBuffer (buffer : GLuint) : Host :=
  if buffer = 0#32 then host
  else
    { host with
      buffers := host.buffers.erase buffer
      arrayBuffer := if host.arrayBuffer = buffer then 0#32 else host.arrayBuffer
      elementBuffer := if host.elementBuffer = buffer then 0#32 else host.elementBuffer }

/-- One command. -/
def exec (caps : HostCaps) : GLCmd → Host
  | .glActiveTexture texture =>
      let unit := (texture - GL_TEXTURE0).toNat
      if unit < caps.maxUnits then { host with activeUnit := unit } else host
  | .glBindTexture target texture => host.bindTexture caps target texture
  | .glDeleteTextures textures => textures.foldl deleteTexture host
  | .glEnable cap => host.setEnabled caps cap true
  | .glDisable cap => host.setEnabled caps cap false
  | .glBindBuffer target buffer => host.bindBuffer target buffer
  | .glBufferData target size data usage => host.bufferData target size data usage
  | .glBufferSubData target offset size data => host.bufferSubData target offset size data
  | .glDeleteBuffers buffers => buffers.foldl deleteBuffer host
  | _ => host

end Host
end OpenGL
end DeviceAndroVM
