import DeviceAndroVM.OpenglCodecCommon.Encoder

/-!
# Texture and program calls of `GL2Encoder`

`GL2Encoder.cpp` lines 669–708 (linking), 808–893 (the texture units of the current
program) and 1010–1326 (textures).

* `updateHostTexture2DBinding` — give a unit the target that a sampler of the program
  reads.
* `useProgramLoop` — the loop of `s_glUseProgram` over the sampler uniforms.
* `GL2TextureCall` — these calls, as the labels of a run.
-/

namespace DeviceAndroVM
namespace GLESv2Enc

open OpenGL OpenglCodecCommon

namespace GL2Encoder

variable (ctx : Encoder)

/-! ## Linking -/

/-- An active uniform, as `glGetActiveUniform` and `glGetUniformLocation` report it. -/
structure ActiveUniform where
  name : String8
  size : GLint
  type : GLenum
  location : GLint

/-- What the host answers to the queries of `s_glLinkProgram`. -/
structure LinkReply where
  linkStatus : Bool
  uniforms : List ActiveUniform

/-- The loop of `s_glLinkProgram` over the active uniforms, from uniform `i` on. -/
def setUniforms (shared : GLSharedGroup) (program : GLuint) :
    Nat → List ActiveUniform → GLSharedGroup
  | _, [] => shared
  | i, u :: rest =>
      setUniforms (shared.setProgramIndexInfo program (BitVec.ofNat 32 i) u.location u.size u.type
        u.name) program (i + 1) rest

/-- `GL2Encoder::s_glLinkProgram`; `memory` is what the new uniform table holds before
it is filled. -/
def s_glLinkProgram (program : GLuint) (reply : LinkReply) (memory : Nat → IndexInfo) : Encoder :=
  if !reply.linkStatus then ctx
  else
    let numUniforms := BitVec.ofNat 32 reply.uniforms.length
    let table := ctx.shared.initProgramData program numUniforms memory
    let filled := setUniforms table program 0 reply.uniforms
    { ctx with shared := filled.setupLocationShiftWAR program }

/-! ## The texture units of the current program -/

/-- `GL2Encoder::updateHostTexture2DBinding`, with its result. -/
def updateHostTexture2DBinding (texUnit newTarget : GLenum) : Bool × Encoder :=
  if newTarget ≠ GL_TEXTURE_2D ∧ newTarget ≠ GL_TEXTURE_EXTERNAL_OES then (false, ctx)
  else
    let tex := (ctx.tex.setActiveTextureUnit texUnit).2
    let oldTarget := tex.getPriorityEnabledTarget GL_TEXTURE_2D
    if newTarget ≠ oldTarget then
      let switched :=
        if newTarget = GL_TEXTURE_EXTERNAL_OES then
          (tex.disableTextureTarget GL_TEXTURE_2D).enableTextureTarget GL_TEXTURE_EXTERNAL_OES
        else
          (tex.disableTextureTarget GL_TEXTURE_EXTERNAL_OES).enableTextureTarget GL_TEXTURE_2D
      (true, ((ctx.setTex switched).emit (.glActiveTexture texUnit)).emit
        (.glBindTexture GL_TEXTURE_2D (switched.getBoundTexture newTarget)))
    else (false, ctx.setTex tex)

/-- The `while` loop of `s_glUseProgram`, with `hostActiveTexture` and `samplerIdx`.
It ends when no sampler uniform is left; `fuel` bounds the uniforms still to come. -/
def useProgramLoop (program : GLuint) : Nat → Encoder → GLenum → Int → Encoder × GLenum
  | 0, ctx, hostActiveTexture, _ => (ctx, hostActiveTexture)
  | fuel + 1, ctx, hostActiveTexture, samplerIdx =>
      match ctx.shared.getNextSamplerUniform program samplerIdx with
      | none => (ctx, hostActiveTexture)
      | some (next, samplerVal, samplerTarget) =>
          if samplerVal.toInt < 0 ∨ (MAX_TEXTURE_UNITS : Int) ≤ samplerVal.toInt then
            useProgramLoop program fuel ctx hostActiveTexture next
          else
            let result := updateHostTexture2DBinding ctx (GL_TEXTURE0 + samplerVal) samplerTarget
            useProgramLoop program fuel result.2
              (if result.1 then GL_TEXTURE0 + samplerVal else hostActiveTexture) next

/-- The size of the uniform table of a program. -/
def numUniforms (shared : GLSharedGroup) (program : GLuint) : Nat :=
  match shared.programs.lookup program with
  | some data => data.numIndexes
  | none => 0

/-- `GL2Encoder::s_glUseProgram`. -/
def s_glUseProgram (program : GLuint) : Encoder :=
  let sent := ctx.emit (.glUseProgram program)
  let current := { sent with state := sent.state.setCurrentProgram program }
  let origActiveTexture := current.tex.getActiveTextureUnit
  let result := useProgramLoop program (numUniforms current.shared program) current
    origActiveTexture (-1)
  let back := result.1.setTex (result.1.tex.setActiveTextureUnit origActiveTexture).2
  if result.2 ≠ origActiveTexture then back.emit (.glActiveTexture origActiveTexture) else back

/-- `GL2Encoder::s_glUniform1i`. -/
def s_glUniform1i (location x : GLint) : Encoder :=
  let program := ctx.state.currentProgram
  let hostLoc := ctx.shared.locationWARAppToHost program location
  let result := ctx.shared.setSamplerUniform program location x
  let sent := { ctx.emit (.glUniform1i hostLoc x) with shared := result.2 }
  match result.1 with
  | none => sent
  | some target =>
      let origActiveTexture := sent.tex.getActiveTextureUnit
      let update := updateHostTexture2DBinding sent (GL_TEXTURE0 + x) target
      let back :=
        if update.1 then update.2.emit (.glActiveTexture origActiveTexture) else update.2
      back.setTex (back.tex.setActiveTextureUnit origActiveTexture).2

/-! ## Textures -/

/-- `isValidTextureExternalParam` of `GL2Encoder.cpp`. -/
def isValidTextureExternalParam (pname param : GLenum) : Bool :=
  if pname = GL_TEXTURE_MIN_FILTER ∨ pname = GL_TEXTURE_MAG_FILTER then
    param == GL_NEAREST || param == GL_LINEAR
  else if pname = GL_TEXTURE_WRAP_S ∨ pname = GL_TEXTURE_WRAP_T then param == GL_CLAMP_TO_EDGE
  else true

/-! Every call below is the one that `GLEncoder` has under the same name. -/

/-- `GL2Encoder::s_glActiveTexture`. -/
def s_glActiveTexture (texture : GLenum) : Encoder := ctx.glActiveTexture texture

/-- `GL2Encoder::s_glBindTexture`. -/
def s_glBindTexture (realloc : BitVec 32 → Bool) (target : GLenum) (texture : GLuint) : Encoder :=
  ctx.glBindTexture realloc target texture

/-- `GL2Encoder::s_glDeleteTextures`. -/
def s_glDeleteTextures (textures : List GLuint) : Encoder := ctx.glDeleteTextures textures

/-- `GL2Encoder::s_glGetTexParameterfv`. -/
def s_glGetTexParameterfv (target pname : GLenum) : Encoder :=
  ctx.getTexParameter .fv target pname

/-- `GL2Encoder::s_glGetTexParameteriv`. -/
def s_glGetTexParameteriv (target pname : GLenum) : Option GLint × Encoder :=
  ctx.glGetTexParameteriv target pname

/-- `GL2Encoder::s_glTexParameterf`. -/
def s_glTexParameterf (target pname : GLenum) (param : GLfloat) : Encoder :=
  ctx.texParameter isValidTextureExternalParam target pname (.f param)

/-- `GL2Encoder::s_glTexParameterfv`. -/
def s_glTexParameterfv (target pname : GLenum) (params : Nat → GLfloat) : Encoder :=
  ctx.texParameter isValidTextureExternalParam target pname (.fv params)

/-- `GL2Encoder::s_glTexParameteri`. -/
def s_glTexParameteri (target pname : GLenum) (param : GLint) : Encoder :=
  ctx.texParameter isValidTextureExternalParam target pname (.i param)

/-- `GL2Encoder::s_glTexParameteriv`. -/
def s_glTexParameteriv (target pname : GLenum) (params : Nat → GLint) : Encoder :=
  ctx.texParameter isValidTextureExternalParam target pname (.iv params)

/-- `GL2Encoder::s_glTexImage2D`. -/
def s_glTexImage2D (target : GLenum) (level internalFormat width height border : GLint)
    (format type : GLenum) (data : DataPtr) : Encoder :=
  ctx.glTexImage2D target level internalFormat width height border format type data

/-- `GL2Encoder::s_glTexSubImage2D`. -/
def s_glTexSubImage2D (target : GLenum) (level xoffset yoffset width height : GLint)
    (format type : GLenum) (pixels : DataPtr) : Encoder :=
  ctx.glTexSubImage2D target level xoffset yoffset width height format type pixels

/-- `GL2Encoder::s_glCompressedTexImage2D`. -/
def s_glCompressedTexImage2D (target : GLenum) (level : GLint) (internalFormat : GLenum)
    (width height border imageSize : GLint) (data : DataPtr) : Encoder :=
  ctx.glCompressedTexImage2D target level internalFormat width height border imageSize data

/-- `GL2Encoder::s_glCompressedTexSubImage2D`. -/
def s_glCompressedTexSubImage2D (target : GLenum) (level xoffset yoffset width height : GLint)
    (format : GLenum) (imageSize : GLint) (data : DataPtr) : Encoder :=
  ctx.glCompressedTexSubImage2D target level xoffset yoffset width height format imageSize data

/-- `GL2Encoder::s_glCopyTexImage2D`. -/
def s_glCopyTexImage2D (target : GLenum) (level : GLint) (internalformat : GLenum)
    (x y width height border : GLint) : Encoder :=
  ctx.glCopyTexImage2D target level internalformat x y width height border

/-- `GL2Encoder::s_glCopyTexSubImage2D`. -/
def s_glCopyTexSubImage2D (target : GLenum)
    (level xoffset yoffset x y width height : GLint) : Encoder :=
  ctx.glCopyTexSubImage2D target level xoffset yoffset x y width height

/-- `GL2Encoder::s_glGenerateMipmap`. -/
def s_glGenerateMipmap (target : GLenum) : Encoder := ctx.glGenerateMipmap target

/-- The texture calls and the calls that set the texture units of programs.
`sharedGroup` is any call, of this context or another one, that leaves the group with
those records. -/
inductive GL2TextureCall
  | glActiveTexture (texture : GLenum)
  | glBindTexture (realloc : BitVec 32 → Bool) (target : GLenum) (texture : GLuint)
  | glDeleteTextures (textures : List GLuint)
  | glUseProgram (program : GLuint)
  | glUniform1i (location x : GLint)
  | glGetTexParameterfv (target pname : GLenum)
  | glGetTexParameteriv (target pname : GLenum)
  | glTexParameterf (target pname : GLenum) (param : GLfloat)
  | glTexParameterfv (target pname : GLenum) (params : Nat → GLfloat)
  | glTexParameteri (target pname : GLenum) (param : GLint)
  | glTexParameteriv (target pname : GLenum) (params : Nat → GLint)
  | glTexImage2D (target : GLenum) (level internalFormat width height border : GLint)
      (format type : GLenum) (data : DataPtr)
  | glTexSubImage2D (target : GLenum) (level xoffset yoffset width height : GLint)
      (format type : GLenum) (pixels : DataPtr)
  | glCompressedTexImage2D (target : GLenum) (level : GLint) (internalFormat : GLenum)
      (width height border imageSize : GLint) (data : DataPtr)
  | glCompressedTexSubImage2D (target : GLenum) (level xoffset yoffset width height : GLint)
      (format : GLenum) (imageSize : GLint) (data : DataPtr)
  | glCopyTexImage2D (target : GLenum) (level : GLint) (internalformat : GLenum)
      (x y width height border : GLint)
  | glCopyTexSubImage2D (target : GLenum) (level xoffset yoffset x y width height : GLint)
  | glGenerateMipmap (target : GLenum)
  | glLinkProgram (program : GLuint) (reply : LinkReply) (memory : Nat → IndexInfo)
  | sharedGroup (shared : GLSharedGroup)

/-- The encoder after one call. -/
def runTextureCall : GL2TextureCall → Encoder
  | .glActiveTexture texture => s_glActiveTexture ctx texture
  | .glBindTexture realloc target texture => s_glBindTexture ctx realloc target texture
  | .glDeleteTextures textures => s_glDeleteTextures ctx textures
  | .glUseProgram program => s_glUseProgram ctx program
  | .glUniform1i location x => s_glUniform1i ctx location x
  | .glGetTexParameterfv target pname => s_glGetTexParameterfv ctx target pname
  | .glGetTexParameteriv target pname => (s_glGetTexParameteriv ctx target pname).2
  | .glTexParameterf target pname param => s_glTexParameterf ctx target pname param
  | .glTexParameterfv target pname params => s_glTexParameterfv ctx target pname params
  | .glTexParameteri target pname param => s_glTexParameteri ctx target pname param
  | .glTexParameteriv target pname params => s_glTexParameteriv ctx target pname params
  | .glTexImage2D target level internalFormat width height border format type data =>
      s_glTexImage2D ctx target level internalFormat width height border format type data
  | .glTexSubImage2D target level xoffset yoffset width height format type pixels =>
      s_glTexSubImage2D ctx target level xoffset yoffset width height format type pixels
  | .glCompressedTexImage2D target level internalFormat width height border imageSize data =>
      s_glCompressedTexImage2D ctx target level internalFormat width height border imageSize data
  | .glCompressedTexSubImage2D target level xoffset yoffset width height format imageSize data =>
      s_glCompressedTexSubImage2D ctx target level xoffset yoffset width height format imageSize
        data
  | .glCopyTexImage2D target level internalformat x y width height border =>
      s_glCopyTexImage2D ctx target level internalformat x y width height border
  | .glCopyTexSubImage2D target level xoffset yoffset x y width height =>
      s_glCopyTexSubImage2D ctx target level xoffset yoffset x y width height
  | .glGenerateMipmap target => s_glGenerateMipmap ctx target
  | .glLinkProgram program reply memory => s_glLinkProgram ctx program reply memory
  | .sharedGroup shared => { ctx with shared := shared }

end GL2Encoder

end GLESv2Enc
end DeviceAndroVM
