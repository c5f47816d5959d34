import DeviceAndroVM.Wire.EncoderCall

/-!
# The functions of `gl2_enc.cpp`

The functions by which the encoder of OpenGL ES 2 passes calls to the host, as far as they
are not `enc_unsupported`.

* `Gl2Call` — a call with its arguments; `enc` is what the function encodes.
* `gl2Api` — the parameters of each operation.
* `kinds_enc` — what a function encodes has the parameters of its operation.
-/

namespace DeviceAndroVM
namespace Wire

open Library OpenGL OpenglCodecCommon

/-- A call of `gl2_enc.cpp`.  An output has no argument, but for one that may be `NULL`: there
the argument is whether it is given. -/
inductive Gl2Call
  | glActiveTexture (texture : GLenum)
  | glAttachShader (program shader : GLuint)
  | glBindAttribLocation (program index : GLuint) (name : CString)
  | glBindBuffer (target : GLenum) (buffer : GLuint)
  | glBindFramebuffer (target : GLenum) (framebuffer : GLuint)
  | glBindRenderbuffer (target : GLenum) (renderbuffer : GLuint)
  | glBindTexture (target : GLenum) (texture : GLuint)
  | glBlendColor (red green blue alpha : GLfloat)
  | glBlendEquation (mode : GLenum)
  | glBlendEquationSeparate (modeRGB modeAlpha : GLenum)
  | glBlendFunc (sfactor dfactor : GLenum)
  | glBlendFuncSeparate (srcRGB dstRGB srcAlpha dstAlpha : GLenum)
  | glBufferData (target : GLenum) (size : GLint) (data : DataPtr) (usage : GLenum)
  | glBufferSubData (target : GLenum) (offset size : GLint) (data : Memory)
  | glCheckFramebufferStatus (target : GLenum)
  | glClear (mask : GLuint)
  | glClearColor (red green blue alpha : GLfloat)
  | glClearDepthf (depth : GLfloat)
  | glClearStencil (s : GLint)
  | glColorMask (red green blue alpha : GLboolean)
  | glCompileShader (shader : GLuint)
  | glCompressedTexImage2D (target : GLenum) (level : GLint) (internalformat : GLenum)
      (width height border imageSize : GLint) (data : DataPtr)
  | glCompressedTexSubImage2D (target : GLenum) (level xoffset yoffset width height : GLint)
      (format : GLenum) (imageSize : GLint) (data : Memory)
  | glCopyTexImage2D (target : GLenum) (level : GLint) (internalformat : GLenum)
      (x y width height border : GLint)
  | glCopyTexSubImage2D (target : GLenum) (level xoffset yoffset x y width height : GLint)
  | glCreateProgram
  | glCreateShader (type : GLenum)
  | glCullFace (mode : GLenum)
  | glDeleteBuffers (n : GLint) (buffers : Memory)
  | glDeleteFramebuffers (n : GLint) (framebuffers : Memory)
  | glDeleteProgram (program : GLuint)
  | glDeleteRenderbuffers (n : GLint) (renderbuffers : Memory)
  | glDeleteShader (shader : GLuint)
  | glDeleteTextures (n : GLint) (textures : Memory)
  | glDepthFunc (func : GLenum)
  | glDepthMask (flag : GLboolean)
  | glDepthRangef (zNear zFar : GLfloat)
  | glDetachShader (program shader : GLuint)
  | glDisable (cap : GLenum)
  | glDisableVertexAttribArray (index : GLuint)
  | glDrawArrays (mode : GLenum) (first count : GLint)
  | glEnable (cap : GLenum)
  | glEnableVertexAttribArray (index : GLuint)
  | glFinish
  | glFlush
  | glFramebufferRenderbuffer (target attachment renderbuffertarget : GLenum)
      (renderbuffer : GLuint)
  | glFramebufferTexture2D (target attachment textarget : GLenum) (texture : GLuint) (level : GLint)
  | glFrontFace (mode : GLenum)
  | glGenBuffers (n : GLint)
  | glGenerateMipmap (target : GLenum)
  | glGenFramebuffers (n : GLint)
  | glGenRenderbuffers (n : GLint)
  | glGenTextures (n : GLint)
  | glGetActiveAttrib (program index : GLuint) (bufsize : GLint) (length name : Bool)
  | glGetActiveUniform (program index : GLuint) (bufsize : GLint) (length name : Bool)
  | glGetAttachedShaders (program : GLuint) (maxcount : GLint) (count : Bool)
  | glGetAttribLocation (program : GLuint) (name : CString)
  | glGetBooleanv (pname : GLenum)
  | glGetBufferParameteriv (target pname : GLenum)
  | glGetError
  | glGetFloatv (pname : GLenum)
  | glGetFramebufferAttachmentParameteriv (target attachment pname : GLenum)
  | glGetIntegerv (pname : GLenum)
  | glGetProgramiv (program : GLuint) (pname : GLenum)
  | glGetProgramInfoLog (program : GLuint) (bufsize : GLint)
  | glGetRenderbufferParameteriv (target pname : GLenum)
  | glGetShaderiv (shader : GLuint) (pname : GLenum)
  | glGetShaderInfoLog (shader : GLuint) (bufsize : GLint) (length : Bool)
  | glGetShaderPrecisionFormat (shadertype precisiontype : GLenum)
  | glGetShaderSource (shader : GLuint) (bufsize : GLint) (length : Bool)
  | glGetTexParameterfv (target pname : GLenum)
  | glGetTexParameteriv (target pname : GLenum)
  | glGetUniformfv (program : GLuint) (location : GLint)
  | glGetUniformiv (program : GLuint) (location : GLint)
  | glGetUniformLocation (program : GLuint) (name : CString)
  | glGetVertexAttribfv (index : GLuint) (pname : GLenum)
  | glGetVertexAttribiv (index : GLuint) (pname : GLenum)
  | glHint (target mode : GLenum)
  | glIsBuffer (buffer : GLuint)
  | glIsEnabled (cap : GLenum)
  | glIsFramebuffer (framebuffer : GLuint)
  | glIsProgram (program : GLuint)
  | glIsRenderbuffer (renderbuffer : GLuint)
  | glIsShader (shader : GLuint)
  | glIsTexture (texture : GLuint)
  | glLineWidth (width : GLfloat)
  | glLinkProgram (program : GLuint)
  | glPixelStorei (pname : GLenum) (param : GLint)
  | glPolygonOffset (factor units : GLfloat)
  | glReadPixels (x y width height : GLint) (format type : GLenum)
  | glReleaseShaderCompiler
  | glRenderbufferStorage (target internalformat : GLenum) (width height : GLint)
  | glSampleCoverage (value : GLfloat) (invert : GLboolean)
  | glScissor (x y width height : GLint)
  | glStencilFunc (func : GLenum) (ref : GLint) (mask : GLuint)
  | glStencilFuncSeparate (face func : GLenum) (ref : GLint) (mask : GLuint)
  | glStencilMask (mask : GLuint)
  | glStencilMaskSeparate (face : GLenum) (mask : GLuint)
  | glStencilOp (fail zfail zpass : GLenum)
  | glStencilOpSeparate (face fail zfail zpass : GLenum)
  | glTexImage2D (target : GLenum) (level internalformat width height border : GLint)
      (format type : GLenum) (pixels : DataPtr)
  | glTexParameterf (target pname : GLenum) (param : GLfloat)
  | glTexParameterfv (target pname : GLenum) (params : Memory)
  | glTexParameteri (target pname : GLenum) (param : GLint)
  | glTexParameteriv (target pname : GLenum) (params : Memory)
  | glTexSubImage2D (target : GLenum) (level xoffset yoffset width height : GLint)
      (format type : GLenum) (pixels : Memory)
  | glUniform1f (location : GLint) (x : GLfloat)
  | glUniform1fv (location count : GLint) (v : Memory)
  | glUniform1i (location x : GLint)
  | glUniform1iv (location count : GLint) (v : Memory)
  | glUniform2f (location : GLint) (x y : GLfloat)
  | glUniform2fv (location count : GLint) (v : Memory)
  | glUniform2i (location x y : GLint)
  | glUniform2iv (location count : GLint) (v : Memory)
  | glUniform3f (location : GLint) (x y z : GLfloat)
  | glUniform3fv (location count : GLint) (v : Memory)
  | glUniform3i (location x y z : GLint)
  | glUniform3iv (location count : GLint) (v : Memory)
  | glUniform4f (location : GLint) (x y z w : GLfloat)
  | glUniform4fv (location count : GLint) (v : Memory)
  | glUniform4i (location x y z w : GLint)
  | glUniform4iv (location count : GLint) (v : Memory)
  | glUniformMatrix2fv (location count : GLint) (transpose : GLboolean) (value : Memory)
  | glUniformMatrix3fv (location count : GLint) (transpose : GLboolean) (value : Memory)
  | glUniformMatrix4fv (location count : GLint) (transpose : GLboolean) (value : Memory)
  | glUseProgram (program : GLuint)
  | glValidateProgram (program : GLuint)
  | glVertexAttrib1f (indx : GLuint) (x : GLfloat)
  | glVertexAttrib1fv (indx : GLuint) (values : Memory)
  | glVertexAttrib2f (indx : GLuint) (x y : GLfloat)
  | glVertexAttrib2fv (indx : GLuint) (values : Memory)
  | glVertexAttrib3f (indx : GLuint) (x y z : GLfloat)
  | glVertexAttrib3fv (indx : GLuint) (values : Memory)
  | glVertexAttrib4f (indx : GLuint) (x y z w : GLfloat)
  | glVertexAttrib4fv (indx : GLuint) (values : Memory)
  | glViewport (x y width height : GLint)
  | glEGLImageTargetTexture2DOES (target : GLenum) (image : GLuint)
  | glEGLImageTargetRenderbufferStorageOES (target : GLenum) (image : GLuint)
  | glUnmapBufferOES (target : GLenum)
  | glTexImage3DOES (target : GLenum) (level : GLint) (internalformat : GLenum)
      (width height depth border : GLint) (format type : GLenum) (pixels : DataPtr)
  | glTexSubImage3DOES (target : GLenum) (level xoffset yoffset zoffset width height depth : GLint)
      (format type : GLenum) (pixels : Memory)
  | glCopyTexSubImage3DOES (target : GLenum)
      (level xoffset yoffset zoffset x y width height : GLint)
  | glCompressedTexImage3DOES (target : GLenum) (level : GLint) (internalformat : GLenum)
      (width height depth border imageSize : GLint) (data : Memory)
  | glCompressedTexSubImage3DOES (target : GLenum)
      (level xoffset yoffset zoffset width height depth : GLint) (format : GLenum)
      (imageSize : GLint) (data : Memory)
  | glFramebufferTexture3DOES (target attachment textarget : GLenum) (texture : GLuint)
      (level zoffset : GLint)
  | glBindVertexArrayOES (array : GLuint)
  | glDeleteVertexArraysOES (n : GLint) (arrays : Memory)
  | glGenVertexArraysOES (n : GLint)
  | glIsVertexArrayOES (array : GLuint)
  | glDiscardFramebufferEXT (target : GLenum) (numAttachments : GLint) (attachments : Memory)
  | glVertexAttribPointerData (indx : GLuint) (size : GLint) (type : GLenum)
      (normalized : GLboolean) (stride : GLint) (data : VoidPtr) (datalen : GLuint)
  | glVertexAttribPointerOffset (indx : GLuint) (size : GLint) (type : GLenum)
      (normalized : GLboolean) (stride : GLint) (offset : GLuint)
  | glDrawElementsOffset (mode : GLenum) (count : GLint) (type : GLenum) (offset : GLuint)
  | glDrawElementsData (mode : GLenum) (count : GLint) (type : GLenum) (data : Memory)
      (datalen : GLuint)
  | glGetCompressedTextureFormats (count : GLint)
  | glShaderString (shader : GLuint) (string : Memory) (len : GLint)
  | glFinishRoundTrip

namespace Gl2Call

/-- What the function with the name of the call and `_enc` behind it does. -/
def enc (ctx : EncoderContext) : Gl2Call → EncCall
  | glActiveTexture texture => packet 2048 [.word texture]
  | glAttachShader program shader => packet 2049 [.word program, .word shader]
  | glBindAttribLocation program index name =>
      packet 2050 [.word program, .word index, .input (strlenPlusOne name) (stringMemory name)]
  | glBindBuffer target buffer => packet 2051 [.word target, .word buffer]
  | glBindFramebuffer target framebuffer => packet 2052 [.word target, .word framebuffer]
  | glBindRenderbuffer target renderbuffer => packet 2053 [.word target, .word renderbuffer]
  | glBindTexture target texture => packet 2054 [.word target, .word texture]
  | glBlendColor red green blue alpha =>
      packet 2055 [.word red, .word green, .word blue, .word alpha]
  | glBlendEquation mode => packet 2056 [.word mode]
  | glBlendEquationSeparate modeRGB modeAlpha => packet 2057 [.word modeRGB, .word modeAlpha]
  | glBlendFunc sfactor dfactor => packet 2058 [.word sfactor, .word dfactor]
  | glBlendFuncSeparate srcRGB dstRGB srcAlpha dstAlpha =>
      packet 2059 [.word srcRGB, .word dstRGB, .word srcAlpha, .word dstAlpha]
  | glBufferData target size data usage => .split 2060 [target, size] size data [usage] 0
  | glBufferSubData target offset size data =>
      .split 2061 [target, offset, size] size (some data) [] 0
  | glCheckFramebufferStatus target => packetReturning 4 2062 [.word target]
  | glClear mask => packet 2063 [.word mask]
  | glClearColor red green blue alpha =>
      packet 2064 [.word red, .word green, .word blue, .word alpha]
  | glClearDepthf depth => packet 2065 [.word depth]
  | glClearStencil s => packet 2066 [.word s]
  | glColorMask red green blue alpha =>
      packet 2067 [.byte red, .byte green, .byte blue, .byte alpha]
  | glCompileShader shader => packet 2068 [.word shader]
  | glCompressedTexImage2D target level internalformat width height border imageSize data =>
      .split 2069 [target, level, internalformat, width, height, border, imageSize] imageSize data
        [] 0
  | glCompressedTexSubImage2D target level xoffset yoffset width height format imageSize data =>
      .split 2070 [target, level, xoffset, yoffset, width, height, format, imageSize] imageSize
        (some data) [] 0
  | glCopyTexImage2D target level internalformat x y width height border =>
      packet 2071 [.word target, .word level, .word internalformat, .word x, .word y, .word width,
        .word height, .word border]
  | glCopyTexSubImage2D target level xoffset yoffset x y width height =>
      packet 2072 [.word target, .word level, .word xoffset, .word yoffset, .word x, .word y, .word
        width, .word height]
  | glCreateProgram => packetReturning 4 2073 []
  | glCreateShader type => packetReturning 4 2074 [.word type]
  | glCullFace mode => packet 2075 [.word mode]
  | glDeleteBuffers n buffers => packet 2076 [.word n, .input (n * 4) buffers]
  | glDeleteFramebuffers n framebuffers => packet 2077 [.word n, .input (n * 4) framebuffers]
  | glDeleteProgram program => packet 2078 [.word program]
  | glDeleteRenderbuffers n renderbuffers => packet 2079 [.word n, .input (n * 4) renderbuffers]
  | glDeleteShader shader => packet 2080 [.word shader]
  | glDeleteTextures n textures => packet 2081 [.word n, .input (n * 4) textures]
  | glDepthFunc func => packet 2082 [.word func]
  | glDepthMask flag => packet 2083 [.byte flag]
  | glDepthRangef zNear zFar => packet 2084 [.word zNear, .word zFar]
  | glDetachShader program shader => packet 2085 [.word program, .word shader]
  | glDisable cap => packet 2086 [.word cap]
  | glDisableVertexAttribArray index => packet 2087 [.word index]
  | glDrawArrays mode first count => packet 2088 [.word mode, .word first, .word count]
  | glEnable cap => packet 2090 [.word cap]
  | glEnableVertexAttribArray index => packet 2091 [.word index]
  | glFinish => packet 2092 []
  | glFlush => packet 2093 []
  | glFramebufferRenderbuffer target attachment renderbuffertarget renderbuffer =>
      packet 2094 [.word target, .word attachment, .word renderbuffertarget, .word renderbuffer]
  | glFramebufferTexture2D target attachment textarget texture level =>
      packet 2095 [.word target, .word attachment, .word textarget, .word texture, .word level]
  | glFrontFace mode => packet 2096 [.word mode]
  | glGenBuffers n => packet 2097 [.word n, .output (n * 4)]
  | glGenerateMipmap target => packet 2098 [.word target]
  | glGenFramebuffers n => packet 2099 [.word n, .output (n * 4)]
  | glGenRenderbuffers n => packet 2100 [.word n, .output (n * 4)]
  | glGenTextures n => packet 2101 [.word n, .output (n * 4)]
  | glGetActiveAttrib program index bufsize length name =>
      packet 2102 [.word program, .word index, .word bufsize, .outputIf length 4, .output 4, .output
        4, .outputIf name bufsize]
  | glGetActiveUniform program index bufsize length name =>
      packet 2103 [.word program, .word index, .word bufsize, .outputIf length 4, .output 4, .output
        4, .outputIf name bufsize]
  | glGetAttachedShaders program maxcount count =>
      packet 2104 [.word program, .word maxcount, .outputIf count 4, .output (maxcount * 4)]
  | glGetAttribLocation program name =>
      packetReturning 4 2105 [.word program, .input (strlenPlusOne name) (stringMemory name)]
  | glGetBooleanv pname => packet 2106 [.word pname, .output (glUtilsParamSize pname)]
  | glGetBufferParameteriv target pname => packet 2107 [.word target, .word pname, .output 4]
  | glGetError => packetReturning 4 2108 []
  | glGetFloatv pname => packet 2109 [.word pname, .output (glUtilsParamSize pname * 4)]
  | glGetFramebufferAttachmentParameteriv target attachment pname =>
      packet 2110 [.word target, .word attachment, .word pname, .output 4]
  | glGetIntegerv pname => packet 2111 [.word pname, .output (glUtilsParamSize pname * 4)]
  | glGetProgramiv program pname => packet 2112 [.word program, .word pname, .output 4]
  | glGetProgramInfoLog program bufsize =>
      packet 2113 [.word program, .word bufsize, .output 4, .output bufsize]
  | glGetRenderbufferParameteriv target pname => packet 2114 [.word target, .word pname, .output 4]
  | glGetShaderiv shader pname => packet 2115 [.word shader, .word pname, .output 4]
  | glGetShaderInfoLog shader bufsize length =>
      packet 2116 [.word shader, .word bufsize, .outputIf length 4, .output bufsize]
  | glGetShaderPrecisionFormat shadertype precisiontype =>
      packet 2117 [.word shadertype, .word precisiontype, .output 8, .output 4]
  | glGetShaderSource shader bufsize length =>
      packet 2118 [.word shader, .word bufsize, .outputIf length 4, .output bufsize]
  | glGetTexParameterfv target pname =>
      packet 2120 [.word target, .word pname, .output (glUtilsParamSize pname * 4)]
  | glGetTexParameteriv target pname =>
      packet 2121 [.word target, .word pname, .output (glUtilsParamSize pname * 4)]
  | glGetUniformfv program location =>
      packet 2122 [.word program, .word location, .output (glSizeof (ctx.uniformType program
        location))]
  | glGetUniformiv program location =>
      packet 2123 [.word program, .word location, .output (glSizeof (ctx.uniformType program
        location))]
  | glGetUniformLocation program name =>
      packetReturning 4 2124 [.word program, .input (strlenPlusOne name) (stringMemory name)]
  | glGetVertexAttribfv index pname =>
      packet 2125 [.word index, .word pname, .output (glUtilsParamSize pname * 4)]
  | glGetVertexAttribiv index pname =>
      packet 2126 [.word index, .word pname, .output (glUtilsParamSize pname * 4)]
  | glHint target mode => packet 2128 [.word target, .word mode]
  | glIsBuffer buffer => packetReturning 1 2129 [.word buffer]
  | glIsEnabled cap => packetReturning 1 2130 [.word cap]
  | glIsFramebuffer framebuffer => packetReturning 1 2131 [.word framebuffer]
  | glIsProgram program => packetReturning 1 2132 [.word program]
  | glIsRenderbuffer renderbuffer => packetReturning 1 2133 [.word renderbuffer]
  | glIsShader shader => packetReturning 1 2134 [.word shader]
  | glIsTexture texture => packetReturning 1 2135 [.word texture]
  | glLineWidth width => packet 2136 [.word width]
  | glLinkProgram program => packet 2137 [.word program]
  | glPixelStorei pname param => packet 2138 [.word pname, .word param]
  | glPolygonOffset factor units => packet 2139 [.word factor, .word units]
  | glReadPixels x y width height format type =>
      packet 2140 [.word x, .word y, .word width, .word height, .word format, .word type, .output
        (ctx.pixelDataSize width height format type true)]
  | glReleaseShaderCompiler => packet 2141 []
  | glRenderbufferStorage target internalformat width height =>
      packet 2142 [.word target, .word internalformat, .word width, .word height]
  | glSampleCoverage value invert => packet 2143 [.word value, .byte invert]
  | glScissor x y width height => packet 2144 [.word x, .word y, .word width, .word height]
  | glStencilFunc func ref mask => packet 2147 [.word func, .word ref, .word mask]
  | glStencilFuncSeparate face func ref mask =>
      packet 2148 [.word face, .word func, .word ref, .word mask]
  | glStencilMask mask => packet 2149 [.word mask]
  | glStencilMaskSeparate face mask => packet 2150 [.word face, .word mask]
  | glStencilOp fail zfail zpass => packet 2151 [.word fail, .word zfail, .word zpass]
  | glStencilOpSeparate face fail zfail zpass =>
      packet 2152 [.word face, .word fail, .word zfail, .word zpass]
  | glTexImage2D target level internalformat width height border format type pixels =>
      .split 2153 [target, level, internalformat, width, height, border, format, type]
        (ctx.pixelDataSize width height format type false) pixels [] 0
  | glTexParameterf target pname param => packet 2154 [.word target, .word pname, .word param]
  | glTexParameterfv target pname params =>
      packet 2155 [.word target, .word pname, .input (glUtilsParamSize pname * 4) params]
  | glTexParameteri target pname param => packet 2156 [.word target, .word pname, .word param]
  | glTexParameteriv target pname params =>
      packet 2157 [.word target, .word pname, .input (glUtilsParamSize pname * 4) params]
  | glTexSubImage2D target level xoffset yoffset width height format type pixels =>
      .split 2158 [target, level, xoffset, yoffset, width, height, format, type] (ctx.pixelDataSize
        width height format type false) (some pixels) [] 0
  | glUniform1f location x => packet 2159 [.word location, .word x]
  | glUniform1fv location count v => packet 2160 [.word location, .word count, .input (count * 4) v]
  | glUniform1i location x => packet 2161 [.word location, .word x]
  | glUniform1iv location count v => packet 2162 [.word location, .word count, .input (count * 4) v]
  | glUniform2f location x y => packet 2163 [.word location, .word x, .word y]
  | glUniform2fv location count v =>
      packet 2164 [.word location, .word count, .input (count * 2 * 4) v]
  | glUniform2i location x y => packet 2165 [.word location, .word x, .word y]
  | glUniform2iv location count v =>
      packet 2166 [.word location, .word count, .input (count * 2 * 4) v]
  | glUniform3f location x y z => packet 2167 [.word location, .word x, .word y, .word z]
  | glUniform3fv location count v =>
      packet 2168 [.word location, .word count, .input (count * 3 * 4) v]
  | glUniform3i location x y z => packet 2169 [.word location, .word x, .word y, .word z]
  | glUniform3iv location count v =>
      packet 2170 [.word location, .word count, .input (3 * count * 4) v]
  | glUniform4f location x y z w => packet 2171 [.word location, .word x, .word y, .word z, .word w]
  | glUniform4fv location count v =>
      packet 2172 [.word location, .word count, .input (4 * count * 4) v]
  | glUniform4i location x y z w => packet 2173 [.word location, .word x, .word y, .word z, .word w]
  | glUniform4iv location count v =>
      packet 2174 [.word location, .word count, .input (4 * count * 4) v]
  | glUniformMatrix2fv location count transpose value =>
      packet 2175 [.word location, .word count, .byte transpose, .input (count * 4 * 4) value]
  | glUniformMatrix3fv location count transpose value =>
      packet 2176 [.word location, .word count, .byte transpose, .input (count * 9 * 4) value]
  | glUniformMatrix4fv location count transpose value =>
      packet 2177 [.word location, .word count, .byte transpose, .input (count * 16 * 4) value]
  | glUseProgram program => packet 2178 [.word program]
  | glValidateProgram program => packet 2179 [.word program]
  | glVertexAttrib1f indx x => packet 2180 [.word indx, .word x]
  | glVertexAttrib1fv indx values => packet 2181 [.word indx, .input 4 values]
  | glVertexAttrib2f indx x y => packet 2182 [.word indx, .word x, .word y]
  | glVertexAttrib2fv indx values => packet 2183 [.word indx, .input 8 values]
  | glVertexAttrib3f indx x y z => packet 2184 [.word indx, .word x, .word y, .word z]
  | glVertexAttrib3fv indx values => packet 2185 [.word indx, .input 12 values]
  | glVertexAttrib4f indx x y z w => packet 2186 [.word indx, .word x, .word y, .word z, .word w]
  | glVertexAttrib4fv indx values => packet 2187 [.word indx, .input 16 values]
  | glViewport x y width height => packet 2189 [.word x, .word y, .word width, .word height]
  | glEGLImageTargetTexture2DOES target image => packet 2190 [.word target, .word image]
  | glEGLImageTargetRenderbufferStorageOES target image => packet 2191 [.word target, .word image]
  | glUnmapBufferOES target => packetReturning 1 2195 [.word target]
  | glTexImage3DOES target level internalformat width height depth border format type pixels =>
      .split 2196 [target, level, internalformat, width, height, depth, border, format, type]
        (ctx.pixelDataSize3D width height depth format type false) pixels [] 0
  | glTexSubImage3DOES target level xoffset yoffset zoffset width height depth format type pixels =>
      .split 2197 [target, level, xoffset, yoffset, zoffset, width, height, depth, format, type]
        (ctx.pixelDataSize3D width height depth format type false) (some pixels) [] 0
  | glCopyTexSubImage3DOES target level xoffset yoffset zoffset x y width height =>
      packet 2198 [.word target, .word level, .word xoffset, .word yoffset, .word zoffset, .word x,
        .word y, .word width, .word height]
  | glCompressedTexImage3DOES target level internalformat width height depth border imageSize data
      =>
      .split 2199 [target, level, internalformat, width, height, depth, border, imageSize] imageSize
        (some data) [] 0
  | glCompressedTexSubImage3DOES target level xoffset yoffset zoffset width height depth format
      imageSize data =>
      .split 2200 [target, level, xoffset, yoffset, zoffset, width, height, depth, format,
        imageSize] imageSize (some data) [] 0
  | glFramebufferTexture3DOES target attachment textarget texture level zoffset =>
      packet 2201 [.word target, .word attachment, .word textarget, .word texture, .word level,
        .word zoffset]
  | glBindVertexArrayOES array => packet 2202 [.word array]
  | glDeleteVertexArraysOES n arrays => packet 2203 [.word n, .input (n * 4) arrays]
  | glGenVertexArraysOES n => packet 2204 [.word n, .output (n * 4)]
  | glIsVertexArrayOES array => packetReturning 1 2205 [.word array]
  | glDiscardFramebufferEXT target numAttachments attachments =>
      packet 2206 [.word target, .word numAttachments, .input (numAttachments * 4) attachments]
  | glVertexAttribPointerData indx size type normalized stride data datalen =>
      packet 2249 [.word indx, .word size, .word type, .byte normalized, .word stride, .input
        datalen (ctx.packed data size type stride datalen), .word datalen]
  | glVertexAttribPointerOffset indx size type normalized stride offset =>
      packet 2250 [.word indx, .word size, .word type, .byte normalized, .word stride, .word offset]
  | glDrawElementsOffset mode count type offset =>
      packet 2251 [.word mode, .word count, .word type, .word offset]
  | glDrawElementsData mode count type data datalen =>
      packet 2252 [.word mode, .word count, .word type, .input datalen data, .word datalen]
  | glGetCompressedTextureFormats count => packet 2253 [.word count, .output (count * 4)]
  | glShaderString shader string len => packet 2254 [.word shader, .input len string, .word len]
  | glFinishRoundTrip => packetReturning 4 2255 []

end Gl2Call

/-- The operations of `gl2_opcodes.h` that have a function, each with its parameters. -/
def gl2Api : List (Nat × List FieldKind) :=
  [(2048, [word]), (2049, [word, word]), (2050, [word, word, .block]), (2051, [word, word]),
    (2052, [word, word]), (2053, [word, word]), (2054, [word, word]),
    (2055, [word, word, word, word]), (2056, [word]), (2057, [word, word]), (2058, [word, word]),
    (2059, [word, word, word, word]), (2060, [word, word, .block, word]),
    (2061, [word, word, word, .block]), (2062, [word]), (2063, [word]),
    (2064, [word, word, word, word]), (2065, [word]), (2066, [word]),
    (2067, [byte, byte, byte, byte]), (2068, [word]),
    (2069, [word, word, word, word, word, word, word, .block]),
    (2070, [word, word, word, word, word, word, word, word, .block]),
    (2071, [word, word, word, word, word, word, word, word]),
    (2072, [word, word, word, word, word, word, word, word]), (2073, []), (2074, [word]),
    (2075, [word]), (2076, [word, .block]), (2077, [word, .block]), (2078, [word]),
    (2079, [word, .block]), (2080, [word]), (2081, [word, .block]), (2082, [word]), (2083, [byte]),
    (2084, [word, word]), (2085, [word, word]), (2086, [word]), (2087, [word]),
    (2088, [word, word, word]), (2090, [word]), (2091, [word]), (2092, []), (2093, []),
    (2094, [word, word, word, word]), (2095, [word, word, word, word, word]), (2096, [word]),
    (2097, [word, .answer]), (2098, [word]), (2099, [word, .answer]), (2100, [word, .answer]),
    (2101, [word, .answer]), (2102, [word, word, word, .answer, .answer, .answer, .answer]),
    (2103, [word, word, word, .answer, .answer, .answer, .answer]),
    (2104, [word, word, .answer, .answer]), (2105, [word, .block]), (2106, [word, .answer]),
    (2107, [word, word, .answer]), (2108, []), (2109, [word, .answer]),
    (2110, [word, word, word, .answer]), (2111, [word, .answer]), (2112, [word, word, .answer]),
    (2113, [word, word, .answer, .answer]), (2114, [word, word, .answer]),
    (2115, [word, word, .answer]), (2116, [word, word, .answer, .answer]),
    (2117, [word, word, .answer, .answer]), (2118, [word, word, .answer, .answer]),
    (2120, [word, word, .answer]), (2121, [word, word, .answer]), (2122, [word, word, .answer]),
    (2123, [word, word, .answer]), (2124, [word, .block]), (2125, [word, word, .answer]),
    (2126, [word, word, .answer]), (2128, [word, word]), (2129, [word]), (2130, [word]),
    (2131, [word]), (2132, [word]), (2133, [word]), (2134, [word]), (2135, [word]), (2136, [word]),
    (2137, [word]), (2138, [word, word]), (2139, [word, word]),
    (2140, [word, word, word, word, word, word, .answer]), (2141, []),
    (2142, [word, word, word, word]), (2143, [word, byte]), (2144, [word, word, word, word]),
    (2147, [word, word, word]), (2148, [word, word, word, word]), (2149, [word]),
    (2150, [word, word]), (2151, [word, word, word]), (2152, [word, word, word, word]),
    (2153, [word, word, word, word, word, word, word, word, .block]), (2154, [word, word, word]),
    (2155, [word, word, .block]), (2156, [word, word, word]), (2157, [word, word, .block]),
    (2158, [word, word, word, word, word, word, word, word, .block]), (2159, [word, word]),
    (2160, [word, word, .block]), (2161, [word, word]), (2162, [word, word, .block]),
    (2163, [word, word, word]), (2164, [word, word, .block]), (2165, [word, word, word]),
    (2166, [word, word, .block]), (2167, [word, word, word, word]), (2168, [word, word, .block]),
    (2169, [word, word, word, word]), (2170, [word, word, .block]),
    (2171, [word, word, word, word, word]), (2172, [word, word, .block]),
    (2173, [word, word, word, word, word]), (2174, [word, word, .block]),
    (2175, [word, word, byte, .block]), (2176, [word, word, byte, .block]),
    (2177, [word, word, byte, .block]), (2178, [word]), (2179, [word]), (2180, [word, word]),
    (2181, [word, .block]), (2182, [word, word, word]), (2183, [word, .block]),
    (2184, [word, word, word, word]), (2185, [word, .block]),
    (2186, [word, word, word, word, word]), (2187, [word, .block]),
    (2189, [word, word, word, word]), (2190, [word, word]), (2191, [word, word]), (2195, [word]),
    (2196, [word, word, word, word, word, word, word, word, word, .block]),
    (2197, [word, word, word, word, word, word, word, word, word, word, .block]),
    (2198, [word, word, word, word, word, word, word, word, word]),
    (2199, [word, word, word, word, word, word, word, word, .block]),
    (2200, [word, word, word, word, word, word, word, word, word, word, .block]),
    (2201, [word, word, word, word, word, word]), (2202, [word]), (2203, [word, .block]),
    (2204, [word, .answer]), (2205, [word]), (2206, [word, word, .block]),
    (2249, [word, word, word, byte, word, .block, word]),
    (2250, [word, word, word, byte, word, word]), (2251, [word, word, word, word]),
    (2252, [word, word, word, .block, word]), (2253, [word, .answer]), (2254, [word, .block, word]),
    (2255, [])]

/-- The fields of an operation. -/
def gl2Kinds (op : Nat) : Option (List FieldKind) := gl2Api.lookup op

/-- What a function encodes has the parameters of its operation. -/
theorem Gl2Call.kinds_enc (ctx : EncoderContext) (c : Gl2Call) :
    gl2Kinds (c.enc ctx).op = some (c.enc ctx).kinds := by
  cases c <;>
    (refine EncCall.kinds_of_eq gl2Kinds (by conv_lhs => whnf) ?_
     simp only [EncCall.op, EncCall.kinds, List.map, Param.kind]
     decide +kernel)

end Wire
end DeviceAndroVM
