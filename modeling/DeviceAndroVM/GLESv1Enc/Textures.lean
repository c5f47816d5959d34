import DeviceAndroVM.OpenglCodecCommon.Encoder

/-!
# Texture calls of `GLEncoder`

`GLEncoder.cpp` lines 603–1039.

* `s_glEnable`, `s_glDisable` — the only calls that change the priority of the
  targets.
* `GLTextureCall` — the texture calls, as the labels of a run.
-/

namespace DeviceAndroVM
namespace GLESv1Enc

open OpenGL OpenglCodecCommon

namespace GLEncoder

variable (ctx : Encoder)

/-- `isValidTextureExternalParam` of `GLEncoder.cpp`. -/
def isValidTextureExternalParam (pname param : GLenum) : Bool :=
  if pname = GL_TEXTURE_MIN_FILTER ∨ pname = GL_TEXTURE_MAG_FILTER then
    param == GL_NEAREST || param == GL_LINEAR
  else if pname = GL_TEXTURE_WRAP_S ∨ pname = GL_TEXTURE_WRAP_T then param == GL_CLAMP_TO_EDGE
  else if pname = GL_GENERATE_MIPMAP then param == GL_FALSE
  else true

/-- `GLEncoder::s_glActiveTexture`. -/
def s_glActiveTexture (texture : GLenum) : Encoder := ctx.glActiveTexture texture

/-- `GLEncoder::s_glBindTexture`. -/
def s_glBindTexture (realloc : BitVec 32 → Bool) (target : GLenum) (texture : GLuint) : Encoder :=
  ctx.glBindTexture realloc target texture

/-- `GLEncoder::s_glDeleteTextures`. -/
def s_glDeleteTextures (textures : List GLuint) : Encoder := ctx.glDeleteTextures textures

/-! ## Enabling -/

/-- `GLEncoder::s_glDisable`. -/
def s_glDisable (cap : GLenum) : Encoder :=
  if cap = GL_TEXTURE_2D ∨ cap = GL_TEXTURE_EXTERNAL_OES then
    let prevTarget := ctx.tex.getPriorityEnabledTarget GL_INVALID_ENUM
    let disabled := ctx.setTex (ctx.tex.disableTextureTarget cap)
    let currTarget := disabled.tex.getPriorityEnabledTarget GL_INVALID_ENUM
    if prevTarget ≠ currTarget then
      let sent :=
        if currTarget = GL_INVALID_ENUM then disabled.emit (.glDisable GL_TEXTURE_2D) else disabled
      let bound := if currTarget = GL_INVALID_ENUM then GL_TEXTURE_2D else currTarget
      sent.emit (.glBindTexture GL_TEXTURE_2D (sent.tex.getBoundTexture bound))
    else disabled
  else ctx.emit (.glDisable cap)

/-- `GLEncoder::s_glEnable`. -/
def s_glEnable (cap : GLenum) : Encoder :=
  if cap = GL_TEXTURE_2D ∨ cap = GL_TEXTURE_EXTERNAL_OES then
    let prevTarget := ctx.tex.getPriorityEnabledTarget GL_INVALID_ENUM
    let enabled := ctx.setTex (ctx.tex.enableTextureTarget cap)
    let currTarget := enabled.tex.getPriorityEnabledTarget GL_INVALID_ENUM
    if prevTarget ≠ currTarget then
      let sent :=
        if prevTarget = GL_INVALID_ENUM then enabled.emit (.glEnable GL_TEXTURE_2D) else enabled
      if currTarget = GL_TEXTURE_EXTERNAL_OES then
        sent.emit (.glBindTexture GL_TEXTURE_2D (sent.tex.getBoundTexture currTarget))
      else sent
    else enabled
  else ctx.emit (.glEnable cap)

/-! ## Parameters and images -/

/-- `GLEncoder::s_glGetTexParameterfv`. -/
def s_glGetTexParameterfv (target pname : GLenum) : Encoder :=
  ctx.getTexParameter .fv target pname

/-- `GLEncoder::s_glGetTexParameteriv`. -/
def s_glGetTexParameteriv (target pname : GLenum) : Option GLint × Encoder :=
  ctx.glGetTexParameteriv target pname

/-- `GLEncoder::s_glGetTexParameterxv`. -/
def s_glGetTexParameterxv (target pname : GLenum) : Encoder :=
  ctx.getTexParameter .xv target pname

/-- `GLEncoder::s_glTexParameterf`. -/
def s_glTexParameterf (target pname : GLenum) (param : GLfloat) : Encoder :=
  ctx.texParameter isValidTextureExternalParam target pname (.f param)

/-- `GLEncoder::s_glTexParameterfv`. -/
def s_glTexParameterfv (target pname : GLenum) (params : Nat → GLfloat) : Encoder :=
  ctx.texParameter isValidTextureExternalParam target pname (.fv params)

/-- `GLEncoder::s_glTexParameteri`. -/
def s_glTexParameteri (target pname : GLenum) (param : GLint) : Encoder :=
  ctx.texParameter isValidTextureExternalParam target pname (.i param)

/-- `GLEncoder::s_glTexParameterx`. -/
def s_glTexParameterx (target pname : GLenum) (param : GLfixed) : Encoder :=
  ctx.texParameter isValidTextureExternalParam target pname (.x param)

/-- `GLEncoder::s_glTexParameteriv`. -/
def s_glTexParameteriv (target pname : GLenum) (params : Nat → GLint) : Encoder :=
  ctx.texParameter isValidTextureExternalParam target pname (.iv params)

/-- `GLEncoder::s_glTexParameterxv`. -/
def s_glTexParameterxv (target pname : GLenum) (params : Nat → GLfixed) : Encoder :=
  ctx.texParameter isValidTextureExternalParam target pname (.xv params)

/-- `GLEncoder::s_glTexImage2D`. -/
def s_glTexImage2D (target : GLenum) (level internalFormat width height border : GLint)
    (format type : GLenum) (data : DataPtr) : Encoder :=
  ctx.glTexImage2D target level internalFormat width height border format type data

/-- `GLEncoder::s_glTexSubImage2D`. -/
def s_glTexSubImage2D (target : GLenum) (level xoffset yoffset width height : GLint)
    (format type : GLenum) (pixels : DataPtr) : Encoder :=
  ctx.glTexSubImage2D target level xoffset yoffset width height format type pixels

/-- `GLEncoder::s_glCompressedTexImage2D`. -/
def s_glCompressedTexImage2D (target : GLenum) (level : GLint) (internalFormat : GLenum)
    (width height border imageSize : GLint) (data : DataPtr) : Encoder :=
  ctx.glCompressedTexImage2D target level internalFormat width height border imageSize data

/-- `GLEncoder::s_glCompressedTexSubImage2D`. -/
def s_glCompressedTexSubImage2D (target : GLenum) (level xoffset yoffset width height : GLint)
    (format : GLenum) (imageSize : GLint) (data : DataPtr) : Encoder :=
  ctx.glCompressedTexSubImage2D target level xoffset yoffset width height format imageSize data

/-- `GLEncoder::s_glCopyTexImage2D`. -/
def s_glCopyTexImage2D (target : GLenum) (level : GLint) (internalformat : GLenum)
    (x y width height border : GLint) : Encoder :=
  ctx.glCopyTexImage2D target level internalformat x y width height border

/-- `GLEncoder::s_glCopyTexSubImage2D`. -/
def s_glCopyTexSubImage2D (target : GLenum)
    (level xoffset yoffset x y width height : GLint) : Encoder :=
  ctx.glCopyTexSubImage2D target level xoffset yoffset x y width height

/-- `GLEncoder::s_glGenerateMipmapOES`. -/
def s_glGenerateMipmapOES (target : GLenum) : Encoder := ctx.glGenerateMipmap target

/-! ## Calls -/

/-- The texture calls of one context, and `glEnable` and `glDisable` of anything. -/
inductive GLTextureCall
  | glActiveTexture (texture : GLenum)
  | glBindTexture (realloc : BitVec 32 → Bool) (target : GLenum) (texture : GLuint)
  | glDeleteTextures (textures : List GLuint)
  | glDisable (cap : GLenum)
  | glEnable (cap : GLenum)
  | glGetTexParameterfv (target pname : GLenum)
  | glGetTexParameteriv (target pname : GLenum)
  | glGetTexParameterxv (target pname : GLenum)
  | glTexParameterf (target pname : GLenum) (param : GLfloat)
  | glTexParameterfv (target pname : GLenum) (params : Nat → GLfloat)
  | glTexParameteri (target pname : GLenum) (param : GLint)
  | glTexParameterx (target pname : GLenum) (param : GLfixed)
  | glTexParameteriv (target pname : GLenum) (params : Nat → GLint)
  | glTexParameterxv (target pname : GLenum) (params : Nat → GLfixed)
  | glTexImage2D (target : GLenum) (level internalFormat width height border : GLint)
      (format type : GLenum) (data : DataPtr)
  | glTexSubImage2D (target : GLenum) (level xoffset yoffset width height : GLint)
      (format type : GLenum) (pixels : DataPtr)
  | glCompressedTexImage2D (target : GLenum) (level : GLint) (internalFormat : GLenum)
      (width height border imageSize : GLint) (data : DataPtr)
  | glCompressedTexSubImage2D (target : GLenum) (level xoffset yoffset width height : GLint)
      (format : GLenum) (imageSize : GLint) (data : DataPtr)
  | glCopyTexImage2D (target : GLenum) (level : GLint) (internalformat : GLenum)
      (x y width height border : GLint)
  | glCopyTexSubImage2D (target : GLenum) (level xoffset yoffset x y width height : GLint)
  | glGenerateMipmapOES (target : GLenum)

/-- The encoder after one call. -/
def runTextureCall : GLTextureCall → Encoder
  | .glActiveTexture texture => s_glActiveTexture ctx texture
  | .glBindTexture realloc target texture => s_glBindTexture ctx realloc target texture
  | .glDeleteTextures textures => s_glDeleteTextures ctx textures
  | .glDisable cap => s_glDisable ctx cap
  | .glEnable cap => s_glEnable ctx cap
  | .glGetTexParameterfv target pname => s_glGetTexParameterfv ctx target pname
  | .glGetTexParameteriv target pname => (s_glGetTexParameteriv ctx target pname).2
  | .glGetTexParameterxv target pname => s_glGetTexParameterxv ctx target pname
  | .glTexParameterf target pname param => s_glTexParameterf ctx target pname param
  | .glTexParameterfv target pname params => s_glTexParameterfv ctx target pname params
  | .glTexParameteri target pname param => s_glTexParameteri ctx target pname param
  | .glTexParameterx target pname param => s_glTexParameterx ctx target pname param
  | .glTexParameteriv target pname params => s_glTexParameteriv ctx target pname params
  | .glTexParameterxv target pname params => s_glTexParameterxv ctx target pname params
  | .glTexImage2D target level internalFormat width height border format type data =>
      s_glTexImage2D ctx target level internalFormat width height border format type data
  | .glTexSubImage2D target level xoffset yoffset width height format type pixels =>
      s_glTexSubImage2D ctx target level xoffset yoffset width height format type pixels
  | .glCompressedTexImage2D target level internalFormat width height border imageSize data =>
      s_glCompressedTexImage2D ctx target level internalFormat width height border imageSize data
  | .glCompressedTexSubImage2D target level xoffset yoffset width height format imageSize data =>
      s_glCompressedTexSubImage2D ctx target level xoffset yoffset width height format imageSize
        data
  | .glCopyTexImage2D target level internalformat x y width height border =>
      s_glCopyTexImage2D ctx target level internalformat x y width height border
  | .glCopyTexSubImage2D target level xoffset yoffset x y width height =>
      s_glCopyTexSubImage2D ctx target level xoffset yoffset x y width height
  | .glGenerateMipmapOES target => s_glGenerateMipmapOES ctx target

end GLEncoder

end GLESv1Enc
end DeviceAndroVM
