import DeviceAndroVM.OpenGL.Host

/-!
# Enabled arrays on the host

Which vertex arrays a GL context has enabled, by the specifications of OpenGL ES 2.0
(generic attributes) and 1.1 (client arrays, of which the texture coordinates have one
for each unit).  Commands about anything else leave it unchanged.

* `HostArrays.exec` — one command; an erroneous command has no effect.
* `hostArrays` — a new context after a stream of commands.
-/

namespace DeviceAndroVM
namespace OpenGL

/-- The enables of the context, and the unit that `glClientActiveTexture` selected. -/
structure HostArrays where
  attribs : Nat → Bool
  clientUnit : Nat
  clientArrays : GLenum → Nat → Bool

namespace HostArrays

/-- A new context has all arrays disabled. -/
def init : HostArrays where
  attribs := fun _ => false
  clientUnit := 0
  clientArrays := fun _ _ => false

variable (host : HostArrays)

/-- `glEnableVertexAttribArray` and `glDisableVertexAttribArray`. -/
def setAttrib (maxVertexAttribs : Nat) (index : GLuint) (on : Bool) : HostArrays :=
  if index.toNat < maxVertexAttribs then
    { host with attribs := Function.update host.attribs index.toNat on }
  else host

/-- The unit an array belongs to; arrays without units have one only. -/
def unitOf (array : GLenum) : Nat :=
  if array = GL_TEXTURE_COORD_ARRAY then host.clientUnit else 0

/-- `glEnableClientState` and `glDisableClientState`. -/
def setClientArray (array : GLenum) (on : Bool) : HostArrays :=
  { host with
    clientArrays := fun other unit =>
      if other = array ∧ unit = host.unitOf array then on else host.clientArrays other unit }

/-- One command. -/
def exec (caps : HostCaps) (maxVertexAttribs : Nat) : GLCmd → HostArrays
  | .glEnableVertexAttribArray index => host.setAttrib maxVertexAttribs index true
  | .glDisableVertexAttribArray index => host.setAttrib maxVertexAttribs index false
  | .glClientActiveTexture texture =>
      let unit := (texture - GL_TEXTURE0).toNat
      if unit < caps.maxUnits then { host with clientUnit := unit } else host
  | .glEnableClientState array => host.setClientArray array true
  | .glDisableClientState array => host.setClientArray array false
  | _ => host

/-- The commands about the enables. -/
def concerns : GLCmd → Bool
  | .glEnableVertexAttribArray _ | .glDisableVertexAttribArray _ | .glClientActiveTexture _
  | .glEnableClientState _ | .glDisableClientState _ => true
  | _ => false

theorem exec_of_not_concerns (caps : HostCaps) (maxVertexAttribs : Nat) {cmd : GLCmd}
    (h : concerns cmd = false) : host.exec caps maxVertexAttribs cmd = host := by
  cases cmd <;> first | rfl | cases h

end HostArrays

/-- The enables after the commands of a stream. -/
def hostArrays (caps : HostCaps) (maxVertexAttribs : Nat) (stream : List GLCmd) : HostArrays :=
  stream.foldl (fun host cmd => host.exec caps maxVertexAttribs cmd) HostArrays.init

theorem hostArrays_append (caps : HostCaps) (maxVertexAttribs : Nat) (stream : List GLCmd)
    (cmd : GLCmd) :
    hostArrays caps maxVertexAttribs (stream ++ [cmd]) =
      (hostArrays caps maxVertexAttribs stream).exec caps maxVertexAttribs cmd :=
  List.foldl_append

end OpenGL
end DeviceAndroVM
