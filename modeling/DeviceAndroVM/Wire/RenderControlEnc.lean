import DeviceAndroVM.Wire.EncoderCall

/-!
# The functions of `renderControl_enc.cpp`

The functions by which the guest queries the renderer of the host, makes its contexts,
surfaces and colour buffers and puts them on the screen.  `renderControl.in` lists the functions
in the order of their operations and `renderControl.attrib` says which of their pointers are read
and which are written; the reader on the host knows both.

* `RenderControlCall` — a call with its arguments; `enc` is what the function encodes.
* `renderControlApi` — the parameters of each operation, as the two files give them.
* `kinds_enc` — what a function encodes has these parameters.
-/

namespace DeviceAndroVM
namespace Wire

open Library OpenGL OpenglCodecCommon

/-- A call of `renderControl_enc.cpp`.  An output has no argument, but for the one that may be
`NULL`: there the argument is whether it is given. -/
inductive RenderControlCall
  | rcGetRendererVersion
  | rcGetEGLVersion
  | rcQueryEGLString (name : GLenum) (bufferSize : GLint)
  | rcGetGLString (name : GLenum) (bufferSize : GLint)
  | rcGetNumConfigs
  | rcGetConfigs (bufSize : GLuint)
  | rcChooseConfig (attribs : Memory) (attribs_size : GLuint) (configs : Bool)
      (configs_size : GLuint)
  | rcGetFBParam (param : GLint)
  | rcCreateContext (config share glVersion : GLuint)
  | rcDestroyContext (context : GLuint)
  | rcCreateWindowSurface (config width height : GLuint)
  | rcDestroyWindowSurface (windowSurface : GLuint)
  | rcCreateColorBuffer (width height : GLuint) (internalFormat : GLenum)
  | rcOpenColorBuffer (colorbuffer : GLuint)
  | rcCloseColorBuffer (colorbuffer : GLuint)
  | rcSetWindowColorBuffer (windowSurface colorBuffer : GLuint)
  | rcFlushWindowColorBuffer (windowSurface : GLuint)
  | rcMakeCurrent (context drawSurf readSurf : GLuint)
  | rcFBPost (colorBuffer : GLuint)
  | rcFBSetSwapInterval (interval : GLint)
  | rcBindTexture (colorBuffer : GLuint)
  | rcBindRenderbuffer (colorBuffer : GLuint)
  | rcColorBufferCacheFlush (colorbuffer : GLuint) (postCount forRead : GLint)
  | rcReadColorBuffer (colorbuffer : GLuint) (x y width height : GLint) (format type : GLenum)
  | rcUpdateColorBuffer (colorbuffer : GLuint) (x y width height : GLint) (format type : GLenum)
      (pixels : Memory)
  | rcSetOrientation (orientation : GLuint)

/-- `((glUtilsPixelBitSize(format, type) * width) >> 3) * height`. -/
def colorBufferSize (width height : GLint) (format type : GLenum) : BitVec 32 :=
  (BitVec.ofNat 32 (glUtilsPixelBitSize format type) * width).sshiftRight 3 * height

namespace RenderControlCall

/-- What the function with the name of the call and `_enc` behind it does. -/
def enc : RenderControlCall → EncCall
  | rcGetRendererVersion => packetReturning 4 10000 []
  | rcGetEGLVersion => packetReturning 4 10001 [.output 4, .output 4]
  | rcQueryEGLString name bufferSize =>
      packetReturning 4 10002 [.word name, .output bufferSize, .word bufferSize]
  | rcGetGLString name bufferSize =>
      packetReturning 4 10003 [.word name, .output bufferSize, .word bufferSize]
  | rcGetNumConfigs => packetReturning 4 10004 [.output 4]
  | rcGetConfigs bufSize => packetReturning 4 10005 [.word bufSize, .output bufSize]
  | rcChooseConfig attribs attribs_size configs configs_size =>
      packetReturning 4 10006 [.input attribs_size attribs, .word attribs_size,
        .outputIf configs (configs_size * 4), .word configs_size]
  | rcGetFBParam param => packetReturning 4 10007 [.word param]
  | rcCreateContext config share glVersion =>
      packetReturning 4 10008 [.word config, .word share, .word glVersion]
  | rcDestroyContext context => packet 10009 [.word context]
  | rcCreateWindowSurface config width height =>
      packetReturning 4 10010 [.word config, .word width, .word height]
  | rcDestroyWindowSurface windowSurface => packet 10011 [.word windowSurface]
  | rcCreateColorBuffer width height internalFormat =>
      packetReturning 4 10012 [.word width, .word height, .word internalFormat]
  | rcOpenColorBuffer colorbuffer => packet 10013 [.word colorbuffer]
  -- the only function that flushes without reading back
  | rcCloseColorBuffer colorbuffer => .whole 10014 [.word colorbuffer] 0 true
  | rcSetWindowColorBuffer windowSurface colorBuffer =>
      packet 10015 [.word windowSurface, .word colorBuffer]
  | rcFlushWindowColorBuffer windowSurface => packetReturning 4 10016 [.word windowSurface]
  | rcMakeCurrent context drawSurf readSurf =>
      packetReturning 4 10017 [.word context, .word drawSurf, .word readSurf]
  | rcFBPost colorBuffer => packet 10018 [.word colorBuffer]
  | rcFBSetSwapInterval interval => packet 10019 [.word interval]
  | rcBindTexture colorBuffer => packet 10020 [.word colorBuffer]
  | rcBindRenderbuffer colorBuffer => packet 10021 [.word colorBuffer]
  | rcColorBufferCacheFlush colorbuffer postCount forRead =>
      packetReturning 4 10022 [.word colorbuffer, .word postCount, .word forRead]
  | rcReadColorBuffer colorbuffer x y width height format type =>
      packet 10023 [.word colorbuffer, .word x, .word y, .word width, .word height, .word format,
        .word type, .output (colorBufferSize width height format type)]
  | rcUpdateColorBuffer colorbuffer x y width height format type pixels =>
      .split 10024 [colorbuffer, x, y, width, height, format, type]
        (colorBufferSize width height format type) (some pixels) [] 4
  | rcSetOrientation orientation => packet 10025 [.word orientation]

end RenderControlCall

/-! ## What the reader knows -/

/-- `base_opcode`. -/
def renderControlBase : Nat := 10000

/-- The functions of `renderControl.in`, each with its parameters in their order. -/
def renderControlApi : List (List FieldKind) :=
  [[], -- rcGetRendererVersion
    [.answer, .answer], -- rcGetEGLVersion
    [word, .answer, word], -- rcQueryEGLString
    [word, .answer, word], -- rcGetGLString
    [.answer], -- rcGetNumConfigs
    [word, .answer], -- rcGetConfigs
    [.block, word, .answer, word], -- rcChooseConfig
    [word], -- rcGetFBParam
    [word, word, word], -- rcCreateContext
    [word], -- rcDestroyContext
    [word, word, word], -- rcCreateWindowSurface
    [word], -- rcDestroyWindowSurface
    [word, word, word], -- rcCreateColorBuffer
    [word], -- rcOpenColorBuffer
    [word], -- rcCloseColorBuffer
    [word, word], -- rcSetWindowColorBuffer
    [word], -- rcFlushWindowColorBuffer
    [word, word, word], -- rcMakeCurrent
    [word], -- rcFBPost
    [word], -- rcFBSetSwapInterval
    [word], -- rcBindTexture
    [word], -- rcBindRenderbuffer
    [word, word, word], -- rcColorBufferCacheFlush
    [word, word, word, word, word, word, word, .answer],
    -- rcReadColorBuffer
    [word, word, word, word, word, word, word, .block],
    -- rcUpdateColorBuffer
    [word]] -- rcSetOrientation

/-- The fields of an operation of `renderControl_opcodes.h`. -/
def renderControlKinds (op : Nat) : Option (List FieldKind) :=
  if op < renderControlBase then none else renderControlApi[op - renderControlBase]?

/-- What a function encodes has the parameters that the reader expects of its operation. -/
theorem RenderControlCall.kinds_enc (c : RenderControlCall) :
    renderControlKinds c.enc.op = some c.enc.kinds := by
  cases c <;>
    (refine EncCall.kinds_of_eq renderControlKinds (by conv_lhs => whnf) ?_
     simp only [EncCall.op, EncCall.kinds, List.map, Param.kind]
     decide +kernel)

end Wire
end DeviceAndroVM
