import DeviceAndroVM.OpenGL.Host
import DeviceAndroVM.OpenglCodecCommon.GLClientState
import DeviceAndroVM.OpenglCodecCommon.GLSharedGroup

/-!
# The encoders

What `GLEncoder` and `GL2Encoder` have in common: the client state, the shared
group, the error and the stream of commands, and the texture calls, which are the
same functions in both classes.

* `Encoder.host` — the host after all commands sent so far.
* `with2DTextureTarget` — a command between `override2DTextureTarget` and
  `restore2DTextureTarget`.
-/

namespace DeviceAndroVM
namespace OpenglCodecCommon

open OpenGL

/-- The state of `GLEncoder` and of `GL2Encoder`: `m_state`, `m_shared`, `m_error`, and
the commands sent since the context was created. -/
structure Encoder where
  state : GLClientState
  shared : GLSharedGroup
  error : GLenum
  stream : List GLCmd

namespace Encoder

/-- The encoder of a new context. -/
def init (memory : Nat → VertexAttribState) (shared : GLSharedGroup) : Encoder where
  state := GLClientState.init CODEC_MAX_VERTEX_ATTRIBUTES memory
  shared := shared
  error := GL_NO_ERROR
  stream := []

variable (ctx : Encoder)

/-- Send a command. -/
def emit (cmd : GLCmd) : Encoder := { ctx with stream := ctx.stream ++ [cmd] }

/-- `setError`. -/
def setError (error : GLenum) : Encoder := { ctx with error := error }

/-- `m_state`'s texture state. -/
def tex : TextureState := ctx.state.tex

/-- Replace the texture state of `m_state`. -/
def setTex (tex : TextureState) : Encoder := { ctx with state := { ctx.state with tex := tex } }

/-- The host when it has executed everything sent. -/
def host (caps : HostCaps) : Host := ctx.stream.foldl (fun h cmd => h.exec caps cmd) Host.init

/-- The command changes nothing that the host model records. -/
def NoEffect (caps : HostCaps) (cmd : GLCmd) : Prop := ∀ host : Host, host.exec caps cmd = host

/-! ## Texture calls -/

/-- `s_glActiveTexture`. -/
def glActiveTexture (texture : GLenum) : Encoder :=
  let result := ctx.tex.setActiveTextureUnit texture
  if result.1 ≠ GL_NO_ERROR then (ctx.setTex result.2).setError result.1
  else (ctx.setTex result.2).emit (.glActiveTexture texture)

/-- The default states of an external texture which differ from those of a 2D one,
sent at its first use. -/
def sendExternalDefaults (texture : GLuint) : Encoder :=
  (((ctx.emit (.glBindTexture GL_TEXTURE_2D texture)).emit
    (.glTexParameter GL_TEXTURE_2D GL_TEXTURE_MIN_FILTER (.i GL_LINEAR))).emit
    (.glTexParameter GL_TEXTURE_2D GL_TEXTURE_WRAP_S (.i GL_CLAMP_TO_EDGE))).emit
    (.glTexParameter GL_TEXTURE_2D GL_TEXTURE_WRAP_T (.i GL_CLAMP_TO_EDGE))

/-- `s_glBindTexture` after `m_state->bindTexture` succeeded. -/
def sendBinding (target : GLenum) (texture : GLuint) (firstUse : Bool) : Encoder :=
  if target ≠ GL_TEXTURE_2D ∧ target ≠ GL_TEXTURE_EXTERNAL_OES then
    ctx.emit (.glBindTexture target texture)
  else
    let priorityTarget := ctx.tex.getPriorityEnabledTarget GL_TEXTURE_2D
    let first :=
      if target = GL_TEXTURE_EXTERNAL_OES ∧ firstUse then
        if target ≠ priorityTarget then
          (ctx.sendExternalDefaults texture).emit
            (.glBindTexture GL_TEXTURE_2D (ctx.tex.getBoundTexture GL_TEXTURE_2D))
        else ctx.sendExternalDefaults texture
      else ctx
    if target = priorityTarget then first.emit (.glBindTexture GL_TEXTURE_2D texture) else first

/-- `s_glBindTexture`. -/
def glBindTexture (realloc : BitVec 32 → Bool) (target : GLenum) (texture : GLuint) : Encoder :=
  let result := ctx.tex.bindTexture realloc target texture
  if result.1.err ≠ GL_NO_ERROR then (ctx.setTex result.2).setError result.1.err
  else (ctx.setTex result.2).sendBinding target texture (result.1.firstUse == some true)

/-- `s_glDeleteTextures`, for a non-negative count. -/
def glDeleteTextures (textures : List GLuint) : Encoder :=
  (ctx.setTex (ctx.tex.deleteTextures textures)).emit (.glDeleteTextures textures)

/-- `override2DTextureTarget`. -/
def override2DTextureTarget (target : GLenum) : Encoder :=
  if (target = GL_TEXTURE_2D ∨ target = GL_TEXTURE_EXTERNAL_OES) ∧
      target ≠ ctx.tex.getPriorityEnabledTarget GL_TEXTURE_2D then
    ctx.emit (.glBindTexture GL_TEXTURE_2D (ctx.tex.getBoundTexture target))
  else ctx

/-- `restore2DTextureTarget`. -/
def restore2DTextureTarget : Encoder :=
  ctx.emit (.glBindTexture GL_TEXTURE_2D
    (ctx.tex.getBoundTexture (ctx.tex.getPriorityEnabledTarget GL_TEXTURE_2D)))

/-- A command on the texture of a target: the two tracked targets are overridden and
restored around it, every other one is passed on. -/
def with2DTextureTarget (target : GLenum) (cmd : GLenum → GLCmd) : Encoder :=
  if target = GL_TEXTURE_2D ∨ target = GL_TEXTURE_EXTERNAL_OES then
    ((ctx.override2DTextureTarget target).emit (cmd GL_TEXTURE_2D)).restore2DTextureTarget
  else ctx.emit (cmd target)

/-- `s_glGetTexParameter{fv,iv,xv}` where the host answers. -/
def getTexParameter (entry : GetTexParameter) (target pname : GLenum) : Encoder :=
  ctx.with2DTextureTarget target fun t => .glGetTexParameter entry t pname

/-- `s_glGetTexParameteriv`, with the value that the encoder answers itself. -/
def glGetTexParameteriv (target pname : GLenum) : Option GLint × Encoder :=
  if pname = GL_REQUIRED_TEXTURE_IMAGE_UNITS_OES then (some 1#32, ctx)
  else (none, ctx.getTexParameter .iv target pname)

/-- `s_glTexParameter{f,fv,i,iv,x,xv}`, given the encoder's own
`isValidTextureExternalParam`. -/
def texParameter (isValidTextureExternalParam : GLenum → GLenum → Bool)
    (target pname : GLenum) (value : TexParameterValue) : Encoder :=
  if target = GL_TEXTURE_EXTERNAL_OES ∧ !isValidTextureExternalParam pname value.asGLenum then
    ctx.setError GL_INVALID_ENUM
  else ctx.with2DTextureTarget target fun t => .glTexParameter t pname value

/-- The calls on texture images, which reject `GL_TEXTURE_EXTERNAL_OES`. -/
def texImage (target : GLenum) (cmd : GLenum → GLCmd) : Encoder :=
  if target = GL_TEXTURE_EXTERNAL_OES then ctx.setError GL_INVALID_ENUM
  else ctx.with2DTextureTarget target cmd

/-- `s_glTexImage2D`. -/
def glTexImage2D (target : GLenum) (level internalFormat width height border : GLint)
    (format type : GLenum) (data : DataPtr) : Encoder :=
  ctx.texImage target fun t =>
    .glTexImage2D t level internalFormat width height border format type data

/-- `s_glTexSubImage2D`. -/
def glTexSubImage2D (target : GLenum) (level xoffset yoffset width height : GLint)
    (format type : GLenum) (pixels : DataPtr) : Encoder :=
  ctx.texImage target fun t =>
    .glTexSubImage2D t level xoffset yoffset width height format type pixels

/-- `s_glCompressedTexImage2D`. -/
def glCompressedTexImage2D (target : GLenum) (level : GLint) (internalFormat : GLenum)
    (width height border imageSize : GLint) (data : DataPtr) : Encoder :=
  ctx.texImage target fun t =>
    .glCompressedTexImage2D t level internalFormat width height border imageSize data

/-- `s_glCompressedTexSubImage2D`. -/
def glCompressedTexSubImage2D (target : GLenum) (level xoffset yoffset width height : GLint)
    (format : GLenum) (imageSize : GLint) (data : DataPtr) : Encoder :=
  ctx.texImage target fun t =>
    .glCompressedTexSubImage2D t level xoffset yoffset width height format imageSize data

/-- `s_glCopyTexImage2D`. -/
def glCopyTexImage2D (target : GLenum) (level : GLint) (internalformat : GLenum)
    (x y width height border : GLint) : Encoder :=
  ctx.texImage target fun t =>
    .glCopyTexImage2D t level internalformat x y width height border

/-- `s_glCopyTexSubImage2D`. -/
def glCopyTexSubImage2D (target : GLenum)
    (level xoffset yoffset x y width height : GLint) : Encoder :=
  ctx.texImage target fun t => .glCopyTexSubImage2D t level xoffset yoffset x y width height

/-- `s_glGenerateMipmap`, and `s_glGenerateMipmapOES` of `GLEncoder`. -/
def glGenerateMipmap (target : GLenum) : Encoder :=
  ctx.texImage target fun t => .glGenerateMipmap t

/-! ## What the calls leave alone -/

variable {ctx}

@[simp] theorem emit_state (cmd : GLCmd) : (ctx.emit cmd).state = ctx.state := rfl
@[simp] theorem emit_shared (cmd : GLCmd) : (ctx.emit cmd).shared = ctx.shared := rfl
@[simp] theorem emit_tex (cmd : GLCmd) : (ctx.emit cmd).tex = ctx.tex := rfl
@[simp] theorem setError_state (error : GLenum) : (ctx.setError error).state = ctx.state := rfl
@[simp] theorem setError_tex (error : GLenum) : (ctx.setError error).tex = ctx.tex := rfl
@[simp] theorem setTex_tex (tex : TextureState) : (ctx.setTex tex).tex = tex := rfl
@[simp] theorem setTex_shared (tex : TextureState) : (ctx.setTex tex).shared = ctx.shared := rfl

@[simp] theorem setError_shared (error : GLenum) :
    (ctx.setError error).shared = ctx.shared := rfl

@[simp] theorem glActiveTexture_shared (texture : GLenum) :
    (ctx.glActiveTexture texture).shared = ctx.shared := by
  simp only [glActiveTexture]
  split
  · rfl
  · rfl

@[simp] theorem sendBinding_shared (target : GLenum) (texture : GLuint) (firstUse : Bool) :
    (ctx.sendBinding target texture firstUse).shared = ctx.shared := by
  simp only [sendBinding]
  split_ifs <;> rfl

@[simp] theorem glBindTexture_shared (realloc : BitVec 32 → Bool) (target : GLenum)
    (texture : GLuint) : (ctx.glBindTexture realloc target texture).shared = ctx.shared := by
  simp only [glBindTexture]
  split
  · rfl
  · exact sendBinding_shared _ _ _

@[simp] theorem with2DTextureTarget_shared (target : GLenum) (cmd : GLenum → GLCmd) :
    (ctx.with2DTextureTarget target cmd).shared = ctx.shared := by
  simp only [with2DTextureTarget, override2DTextureTarget]
  split_ifs <;> rfl

@[simp] theorem glGetTexParameteriv_shared (target pname : GLenum) :
    (ctx.glGetTexParameteriv target pname).2.shared = ctx.shared := by
  simp only [glGetTexParameteriv]
  split
  · rfl
  · exact with2DTextureTarget_shared _ _

@[simp] theorem texParameter_shared (isValid : GLenum → GLenum → Bool) (target pname : GLenum)
    (value : TexParameterValue) :
    (ctx.texParameter isValid target pname value).shared = ctx.shared := by
  simp only [texParameter]
  split
  · rfl
  · exact with2DTextureTarget_shared _ _

@[simp] theorem texImage_shared (target : GLenum) (cmd : GLenum → GLCmd) :
    (ctx.texImage target cmd).shared = ctx.shared := by
  simp only [texImage]
  split
  · rfl
  · exact with2DTextureTarget_shared _ _

@[simp] theorem host_init (memory : Nat → VertexAttribState) (shared : GLSharedGroup)
    (caps : HostCaps) : (init memory shared).host caps = Host.init := rfl

@[simp] theorem host_emit (cmd : GLCmd) (caps : HostCaps) :
    (ctx.emit cmd).host caps = (ctx.host caps).exec caps cmd :=
  List.foldl_append

@[simp] theorem host_setError (error : GLenum) (caps : HostCaps) :
    (ctx.setError error).host caps = ctx.host caps := rfl

@[simp] theorem host_setTex (tex : TextureState) (caps : HostCaps) :
    (ctx.setTex tex).host caps = ctx.host caps := rfl

end Encoder

end OpenglCodecCommon
end DeviceAndroVM
