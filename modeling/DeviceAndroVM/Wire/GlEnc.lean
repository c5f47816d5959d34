import DeviceAndroVM.Wire.EncoderCall

/-!
# The functions of `gl_enc.cpp`

The functions by which the encoder of OpenGL ES 1 passes calls to the host, as far as they
are not `enc_unsupported`.

* `GlCall` — a call with its arguments; `enc` is what the function encodes.
* `glApi` — the parameters of each operation.
* `kinds_enc` — what a function encodes has the parameters of its operation.
-/

namespace DeviceAndroVM
namespace Wire

open Library OpenGL OpenglCodecCommon

/-- A call of `gl_enc.cpp`.  An output has no argument, but for one that may be `NULL`: there
the argument is whether it is given. -/
inductive GlCall
  | glAlphaFunc (func : GLenum) (ref : GLfloat)
  | glClearColor (red green blue alpha : GLfloat)
  | glClearDepthf (depth : GLfloat)
  | glClipPlanef (plane : GLenum) (equation : Memory)
  | glColor4f (red green blue alpha : GLfloat)
  | glDepthRangef (zNear zFar : GLfloat)
  | glFogf (pname : GLenum) (param : GLfloat)
  | glFogfv (pname : GLenum) (params : Memory)
  | glFrustumf (left right bottom top zNear zFar : GLfloat)
  | glGetClipPlanef (pname : GLenum)
  | glGetFloatv (pname : GLenum)
  | glGetLightfv (light pname : GLenum)
  | glGetMaterialfv (face pname : GLenum)
  | glGetTexEnvfv (env pname : GLenum)
  | glGetTexParameterfv (target pname : GLenum)
  | glLightModelf (pname : GLenum) (param : GLfloat)
  | glLightModelfv (pname : GLenum) (params : Memory)
  | glLightf (light pname : GLenum) (param : GLfloat)
  | glLightfv (light pname : GLenum) (params : Memory)
  | glLineWidth (width : GLfloat)
  | glLoadMatrixf (m : Memory)
  | glMaterialf (face pname : GLenum) (param : GLfloat)
  | glMaterialfv (face pname : GLenum) (params : Memory)
  | glMultMatrixf (m : Memory)
  | glMultiTexCoord4f (target : GLenum) (s t r q : GLfloat)
  | glNormal3f (nx ny nz : GLfloat)
  | glOrthof (left right bottom top zNear zFar : GLfloat)
  | glPointParameterf (pname : GLenum) (param : GLfloat)
  | glPointParameterfv (pname : GLenum) (params : Memory)
  | glPointSize (size : GLfloat)
  | glPolygonOffset (factor units : GLfloat)
  | glRotatef (angle x y z : GLfloat)
  | glScalef (x y z : GLfloat)
  | glTexEnvf (target pname : GLenum) (param : GLfloat)
  | glTexEnvfv (target pname : GLenum) (params : Memory)
  | glTexParameterf (target pname : GLenum) (param : GLfloat)
  | glTexParameterfv (target pname : GLenum) (params : Memory)
  | glTranslatef (x y z : GLfloat)
  | glActiveTexture (texture : GLenum)
  | glAlphaFuncx (func : GLenum) (ref : GLfixed)
  | glBindBuffer (target : GLenum) (buffer : GLuint)
  | glBindTexture (target : GLenum) (texture : GLuint)
  | glBlendFunc (sfactor dfactor : GLenum)
  | glBufferData (target : GLenum) (size : GLint) (data : Memory) (usage : GLenum)
  | glBufferSubData (target : GLenum) (offset size : GLint) (data : Memory)
  | glClear (mask : GLuint)
  | glClearColorx (red green blue alpha : GLfixed)
  | glClearDepthx (depth : GLfixed)
  | glClearStencil (s : GLint)
  | glClientActiveTexture (texture : GLenum)
  | glColor4ub (red green blue alpha : GLubyte)
  | glColor4x (red green blue alpha : GLfixed)
  | glColorMask (red green blue alpha : GLboolean)
  | glCompressedTexImage2D (target : GLenum) (level : GLint) (internalformat : GLenum)
      (width height border imageSize : GLint) (data : DataPtr)
  | glCompressedTexSubImage2D (target : GLenum) (level xoffset yoffset width height : GLint)
      (format : GLenum) (imageSize : GLint) (data : Memory)
  | glCopyTexImage2D (target : GLenum) (level : GLint) (internalformat : GLenum)
      (x y width height border : GLint)
  | glCopyTexSubImage2D (target : GLenum) (level xoffset yoffset x y width height : GLint)
  | glCullFace (mode : GLenum)
  | glDeleteBuffers (n : GLint) (buffers : Memory)
  | glDeleteTextures (n : GLint) (textures : Memory)
  | glDepthFunc (func : GLenum)
  | glDepthMask (flag : GLboolean)
  | glDepthRangex (zNear zFar : GLfixed)
  | glDisable (cap : GLenum)
  | glDisableClientState (array : GLenum)
  | glDrawArrays (mode : GLenum) (first count : GLint)
  | glEnable (cap : GLenum)
  | glEnableClientState (array : GLenum)
  | glFinish
  | glFlush
  | glFogx (pname : GLenum) (param : GLfixed)
  | glFogxv (pname : GLenum) (params : Memory)
  | glFrontFace (mode : GLenum)
  | glFrustumx (left right bottom top zNear zFar : GLfixed)
  | glGetBooleanv (pname : GLenum)
  | glGetBufferParameteriv (target pname : GLenum)
  | glClipPlanex (pname : GLenum) (eqn : Memory)
  | glGenBuffers (n : GLint)
  | glGenTextures (n : GLint)
  | glGetError
  | glGetFixedv (pname : GLenum)
  | glGetIntegerv (pname : GLenum)
  | glGetLightxv (light pname : GLenum)
  | glGetMaterialxv (face pname : GLenum)
  | glGetTexEnviv (env pname : GLenum)
  | glGetTexEnvxv (env pname : GLenum)
  | glGetTexParameteriv (target pname : GLenum)
  | glGetTexParameterxv (target pname : GLenum)
  | glHint (target mode : GLenum)
  | glIsBuffer (buffer : GLuint)
  | glIsEnabled (cap : GLenum)
  | glIsTexture (texture : GLuint)
  | glLightModelx (pname : GLenum) (param : GLfixed)
  | glLightModelxv (pname : GLenum) (params : Memory)
  | glLightx (light pname : GLenum) (param : GLfixed)
  | glLightxv (light pname : GLenum) (params : Memory)
  | glLineWidthx (width : GLfixed)
  | glLoadIdentity
  | glLoadMatrixx (m : Memory)
  | glLogicOp (opcode : GLenum)
  | glMaterialx (face pname : GLenum) (param : GLfixed)
  | glMaterialxv (face pname : GLenum) (params : Memory)
  | glMatrixMode (mode : GLenum)
  | glMultMatrixx (m : Memory)
  | glMultiTexCoord4x (target : GLenum) (s t r q : GLfixed)
  | glNormal3x (nx ny nz : GLfixed)
  | glOrthox (left right bottom top zNear zFar : GLfixed)
  | glPixelStorei (pname : GLenum) (param : GLint)
  | glPointParameterx (pname : GLenum) (param : GLfixed)
  | glPointParameterxv (pname : GLenum) (params : Memory)
  | glPointSizex (size : GLfixed)
  | glPolygonOffsetx (factor units : GLfixed)
  | glPopMatrix
  | glPushMatrix
  | glReadPixels (x y width height : GLint) (format type : GLenum)
  | glRotatex (angle x y z : GLfixed)
  | glSampleCoverage (value : GLfloat) (invert : GLboolean)
  | glSampleCoveragex (value : GLfixed) (invert : GLboolean)
  | glScalex (x y z : GLfixed)
  | glScissor (x y width height : GLint)
  | glShadeModel (mode : GLenum)
  | glStencilFunc (func : GLenum) (ref : GLint) (mask : GLuint)
  | glStencilMask (mask : GLuint)
  | glStencilOp (fail zfail zpass : GLenum)
  | glTexEnvi (target pname : GLenum) (param : GLint)
  | glTexEnvx (target pname : GLenum) (param : GLfixed)
  | glTexEnviv (target pname : GLenum) (params : Memory)
  | glTexEnvxv (target pname : GLenum) (params : Memory)
  | glTexImage2D (target : GLenum) (level internalformat width height border : GLint)
      (format type : GLenum) (pixels : DataPtr)
  | glTexParameteri (target pname : GLenum) (param : GLint)
  | glTexParameterx (target pname : GLenum) (param : GLfixed)
  | glTexParameteriv (target pname : GLenum) (params : Memory)
  | glTexParameterxv (target pname : GLenum) (params : Memory)
  | glTexSubImage2D (target : GLenum) (level xoffset yoffset width height : GLint)
      (format type : GLenum) (pixels : Memory)
  | glTranslatex (x y z : GLfixed)
  | glViewport (x y width height : GLint)
  | glVertexPointerOffset (size : GLint) (type : GLenum) (stride : GLint) (offset : GLuint)
  | glColorPointerOffset (size : GLint) (type : GLenum) (stride : GLint) (offset : GLuint)
  | glNormalPointerOffset (type : GLenum) (stride : GLint) (offset : GLuint)
  | glPointSizePointerOffset (type : GLenum) (stride : GLint) (offset : GLuint)
  | glTexCoordPointerOffset (size : GLint) (type : GLenum) (stride : GLint) (offset : GLuint)
  | glWeightPointerOffset (size : GLint) (type : GLenum) (stride : GLint) (offset : GLuint)
  | glMatrixIndexPointerOffset (size : GLint) (type : GLenum) (stride : GLint) (offset : GLuint)
  | glVertexPointerData (size : GLint) (type : GLenum) (stride : GLint) (data : VoidPtr)
      (datalen : GLuint)
  | glColorPointerData (size : GLint) (type : GLenum) (stride : GLint) (data : VoidPtr)
      (datalen : GLuint)
  | glNormalPointerData (type : GLenum) (stride : GLint) (data : VoidPtr) (datalen : GLuint)
  | glTexCoordPointerData (unit size : GLint) (type : GLenum) (stride : GLint) (data : VoidPtr)
      (datalen : GLuint)
  | glPointSizePointerData (type : GLenum) (stride : GLint) (data : VoidPtr) (datalen : GLuint)
  | glWeightPointerData (size : GLint) (type : GLenum) (stride : GLint) (data : VoidPtr)
      (datalen : GLuint)
  | glMatrixIndexPointerData (size : GLint) (type : GLenum) (stride : GLint) (data : VoidPtr)
      (datalen : GLuint)
  | glDrawElementsOffset (mode : GLenum) (count : GLint) (type : GLenum) (offset : GLuint)
  | glDrawElementsData (mode : GLenum) (count : GLint) (type : GLenum) (data : Memory)
      (datalen : GLuint)
  | glGetCompressedTextureFormats (count : GLint)
  | glFinishRoundTrip
  | glBlendEquationSeparateOES (modeRGB modeAlpha : GLenum)
  | glBlendFuncSeparateOES (srcRGB dstRGB srcAlpha dstAlpha : GLenum)
  | glBlendEquationOES (mode : GLenum)
  | glDrawTexsOES (x y z width height : GLshort)
  | glDrawTexiOES (x y z width height : GLint)
  | glDrawTexxOES (x y z width height : GLfixed)
  | glDrawTexsvOES (coords : Memory)
  | glDrawTexivOES (coords : Memory)
  | glDrawTexxvOES (coords : Memory)
  | glDrawTexfOES (x y z width height : GLfloat)
  | glDrawTexfvOES (coords : Memory)
  | glEGLImageTargetTexture2DOES (target : GLenum) (image : GLuint)
  | glEGLImageTargetRenderbufferStorageOES (target : GLenum) (image : GLuint)
  | glAlphaFuncxOES (func : GLenum) (ref : GLfixed)
  | glClearColorxOES (red green blue alpha : GLfixed)
  | glClearDepthxOES (depth : GLfixed)
  | glClipPlanexOES (plane : GLenum) (equation : Memory)
  | glClipPlanexIMG (plane : GLenum) (equation : Memory)
  | glColor4xOES (red green blue alpha : GLfixed)
  | glDepthRangexOES (zNear zFar : GLfixed)
  | glFogxOES (pname : GLenum) (param : GLfixed)
  | glFogxvOES (pname : GLenum) (params : Memory)
  | glFrustumxOES (left right bottom top zNear zFar : GLfixed)
  | glGetClipPlanexOES (pname : GLenum)
  | glGetClipPlanex (pname : GLenum)
  | glGetFixedvOES (pname : GLenum)
  | glGetLightxvOES (light pname : GLenum)
  | glGetMaterialxvOES (face pname : GLenum)
  | glGetTexEnvxvOES (env pname : GLenum)
  | glGetTexParameterxvOES (target pname : GLenum)
  | glLightModelxOES (pname : GLenum) (param : GLfixed)
  | glLightModelxvOES (pname : GLenum) (params : Memory)
  | glLightxOES (light pname : GLenum) (param : GLfixed)
  | glLightxvOES (light pname : GLenum) (params : Memory)
  | glLineWidthxOES (width : GLfixed)
  | glLoadMatrixxOES (m : Memory)
  | glMaterialxOES (face pname : GLenum) (param : GLfixed)
  | glMaterialxvOES (face pname : GLenum) (params : Memory)
  | glMultMatrixxOES (m : Memory)
  | glMultiTexCoord4xOES (target : GLenum) (s t r q : GLfixed)
  | glNormal3xOES (nx ny nz : GLfixed)
  | glOrthoxOES (left right bottom top zNear zFar : GLfixed)
  | glPointParameterxOES (pname : GLenum) (param : GLfixed)
  | glPointParameterxvOES (pname : GLenum) (params : Memory)
  | glPointSizexOES (size : GLfixed)
  | glPolygonOffsetxOES (factor units : GLfixed)
  | glRotatexOES (angle x y z : GLfixed)
  | glSampleCoveragexOES (value : GLfixed) (invert : GLboolean)
  | glScalexOES (x y z : GLfixed)
  | glTexEnvxOES (target pname : GLenum) (param : GLfixed)
  | glTexEnvxvOES (target pname : GLenum) (params : Memory)
  | glTexParameterxOES (target pname : GLenum) (param : GLfixed)
  | glTexParameterxvOES (target pname : GLenum) (params : Memory)
  | glTranslatexOES (x y z : GLfixed)
  | glIsRenderbufferOES (renderbuffer : GLuint)
  | glBindRenderbufferOES (target : GLenum) (renderbuffer : GLuint)
  | glDeleteRenderbuffersOES (n : GLint) (renderbuffers : Memory)
  | glGenRenderbuffersOES (n : GLint)
  | glRenderbufferStorageOES (target internalformat : GLenum) (width height : GLint)
  | glGetRenderbufferParameterivOES (target pname : GLenum)
  | glIsFramebufferOES (framebuffer : GLuint)
  | glBindFramebufferOES (target : GLenum) (framebuffer : GLuint)
  | glDeleteFramebuffersOES (n : GLint) (framebuffers : Memory)
  | glGenFramebuffersOES (n : GLint)
  | glCheckFramebufferStatusOES (target : GLenum)
  | glFramebufferRenderbufferOES (target attachment renderbuffertarget : GLenum)
      (renderbuffer : GLuint)
  | glFramebufferTexture2DOES (target attachment textarget : GLenum) (texture : GLuint)
      (level : GLint)
  | glGetFramebufferAttachmentParameterivOES (target attachment pname : GLenum)
  | glGenerateMipmapOES (target : GLenum)
  | glUnmapBufferOES (target : GLenum)
  | glCurrentPaletteMatrixOES (matrixpaletteindex : GLuint)
  | glLoadPaletteFromModelViewMatrixOES
  | glQueryMatrixxOES
  | glDepthRangefOES (zNear zFar : GLfloat)
  | glFrustumfOES (left right bottom top zNear zFar : GLfloat)
  | glOrthofOES (left right bottom top zNear zFar : GLfloat)
  | glClipPlanefOES (plane : GLenum) (equation : Memory)
  | glClipPlanefIMG (plane : GLenum) (equation : Memory)
  | glGetClipPlanefOES (pname : GLenum)
  | glClearDepthfOES (depth : GLfloat)
  | glTexGenfOES (coord pname : GLenum) (param : GLfloat)
  | glTexGenfvOES (coord pname : GLenum) (params : Memory)
  | glTexGeniOES (coord pname : GLenum) (param : GLint)
  | glTexGenivOES (coord pname : GLenum) (params : Memory)
  | glTexGenxOES (coord pname : GLenum) (param : GLfixed)
  | glTexGenxvOES (coord pname : GLenum) (params : Memory)
  | glGetTexGenfvOES (coord pname : GLenum) (params : Memory)
  | glGetTexGenivOES (coord pname : GLenum) (params : Memory)
  | glGetTexGenxvOES (coord pname : GLenum) (params : Memory)
  | glBindVertexArrayOES (array : GLuint)
  | glDeleteVertexArraysOES (n : GLint) (arrays : Memory)
  | glGenVertexArraysOES (n : GLint)
  | glIsVertexArrayOES (array : GLuint)
  | glDiscardFramebufferEXT (target : GLenum) (numAttachments : GLint) (attachments : Memory)
  | glRenderbufferStorageMultisampleIMG (target : GLenum) (samples : GLint)
      (internalformat : GLenum) (width height : GLint)
  | glFramebufferTexture2DMultisampleIMG (target attachment textarget : GLenum) (texture : GLuint)
      (level samples : GLint)
  | glDeleteFencesNV (n : GLint) (fences : Memory)
  | glGenFencesNV (n : GLint) (fences : Memory)
  | glIsFenceNV (fence : GLuint)
  | glTestFenceNV (fence : GLuint)
  | glGetFenceivNV (fence : GLuint) (pname : GLenum)
  | glFinishFenceNV (fence : GLuint)
  | glSetFenceNV (fence : GLuint) (condition : GLenum)
  | glGetDriverControlsQCOM (size : GLint)
  | glGetDriverControlStringQCOM (driverControl : GLuint) (bufSize : GLint)
  | glEnableDriverControlQCOM (driverControl : GLuint)
  | glDisableDriverControlQCOM (driverControl : GLuint)
  | glExtGetTexturesQCOM (maxTextures : GLint)
  | glExtGetBuffersQCOM (maxBuffers : GLint)
  | glExtGetRenderbuffersQCOM (maxRenderbuffers : GLint)
  | glExtGetFramebuffersQCOM (maxFramebuffers : GLint)
  | glExtGetTexLevelParameterivQCOM (texture : GLuint) (face : GLenum) (level : GLint)
      (pname : GLenum)
  | glExtTexObjectStateOverrideiQCOM (target pname : GLenum) (param : GLint)
  | glExtGetTexSubImageQCOM (target : GLenum)
      (level xoffset yoffset zoffset width height depth : GLint) (format type : GLenum)
  | glExtGetShadersQCOM (maxShaders : GLint)
  | glExtGetProgramsQCOM (maxPrograms : GLint)
  | glExtIsProgramBinaryQCOM (program : GLuint)
  | glStartTilingQCOM (x y width height preserveMask : GLuint)
  | glEndTilingQCOM (preserveMask : GLuint)

namespace GlCall

/-- What the function with the name of the call and `_enc` behind it does. -/
def enc (ctx : EncoderContext) : GlCall → EncCall
  | glAlphaFunc func ref => packet 1024 [.word func, .word ref]
  | glClearColor red green blue alpha =>
      packet 1025 [.word red, .word green, .word blue, .word alpha]
  | glClearDepthf depth => packet 1026 [.word depth]
  | glClipPlanef plane equation => packet 1027 [.word plane, .input 16 equation]
  | glColor4f red green blue alpha => packet 1028 [.word red, .word green, .word blue, .word alpha]
  | glDepthRangef zNear zFar => packet 1029 [.word zNear, .word zFar]
  | glFogf pname param => packet 1030 [.word pname, .word param]
  | glFogfv pname params => packet 1031 [.word pname, .input (glUtilsParamSize pname * 4) params]
  | glFrustumf left right bottom top zNear zFar =>
      packet 1032 [.word left, .word right, .word bottom, .word top, .word zNear, .word zFar]
  | glGetClipPlanef pname => packet 1033 [.word pname, .output 16]
  | glGetFloatv pname => packet 1034 [.word pname, .output (glUtilsParamSize pname * 4)]
  | glGetLightfv light pname =>
      packet 1035 [.word light, .word pname, .output (glUtilsParamSize pname * 4)]
  | glGetMaterialfv face pname =>
      packet 1036 [.word face, .word pname, .output (glUtilsParamSize pname * 4)]
  | glGetTexEnvfv env pname =>
      packet 1037 [.word env, .word pname, .output (glUtilsParamSize pname * 4)]
  | glGetTexParameterfv target pname =>
      packet 1038 [.word target, .word pname, .output (glUtilsParamSize pname * 4)]
  | glLightModelf pname param => packet 1039 [.word pname, .word param]
  | glLightModelfv pname params =>
      packet 1040 [.word pname, .input (glUtilsParamSize pname * 4) params]
  | glLightf light pname param => packet 1041 [.word light, .word pname, .word param]
  | glLightfv light pname params =>
      packet 1042 [.word light, .word pname, .input (glUtilsParamSize pname * 4) params]
  | glLineWidth width => packet 1043 [.word width]
  | glLoadMatrixf m => packet 1044 [.input 64 m]
  | glMaterialf face pname param => packet 1045 [.word face, .word pname, .word param]
  | glMaterialfv face pname params =>
      packet 1046 [.word face, .word pname, .input (glUtilsParamSize pname * 4) params]
  | glMultMatrixf m => packet 1047 [.input 64 m]
  | glMultiTexCoord4f target s t r q =>
      packet 1048 [.word target, .word s, .word t, .word r, .word q]
  | glNormal3f nx ny nz => packet 1049 [.word nx, .word ny, .word nz]
  | glOrthof left right bottom top zNear zFar =>
      packet 1050 [.word left, .word right, .word bottom, .word top, .word zNear, .word zFar]
  | glPointParameterf pname param => packet 1051 [.word pname, .word param]
  | glPointParameterfv pname params =>
      packet 1052 [.word pname, .input (glUtilsParamSize pname * 4) params]
  | glPointSize size => packet 1053 [.word size]
  | glPolygonOffset factor units => packet 1054 [.word factor, .word units]
  | glRotatef angle x y z => packet 1055 [.word angle, .word x, .word y, .word z]
  | glScalef x y z => packet 1056 [.word x, .word y, .word z]
  | glTexEnvf target pname param => packet 1057 [.word target, .word pname, .word param]
  | glTexEnvfv target pname params =>
      packet 1058 [.word target, .word pname, .input (glUtilsParamSize pname * 4) params]
  | glTexParameterf target pname param => packet 1059 [.word target, .word pname, .word param]
  | glTexParameterfv target pname params =>
      packet 1060 [.word target, .word pname, .input (glUtilsParamSize pname * 4) params]
  | glTranslatef x y z => packet 1061 [.word x, .word y, .word z]
  | glActiveTexture texture => packet 1062 [.word texture]
  | glAlphaFuncx func ref => packet 1063 [.word func, .word ref]
  | glBindBuffer target buffer => packet 1064 [.word target, .word buffer]
  | glBindTexture target texture => packet 1065 [.word target, .word texture]
  | glBlendFunc sfactor dfactor => packet 1066 [.word sfactor, .word dfactor]
  | glBufferData target size data usage =>
      packet 1067 [.word target, .word size, .input size data, .word usage]
  | glBufferSubData target offset size data =>
      packet 1068 [.word target, .word offset, .word size, .input size data]
  | glClear mask => packet 1069 [.word mask]
  | glClearColorx red green blue alpha =>
      packet 1070 [.word red, .word green, .word blue, .word alpha]
  | glClearDepthx depth => packet 1071 [.word depth]
  | glClearStencil s => packet 1072 [.word s]
  | glClientActiveTexture texture => packet 1073 [.word texture]
  | glColor4ub red green blue alpha => packet 1074 [.byte red, .byte green, .byte blue, .byte alpha]
  | glColor4x red green blue alpha => packet 1075 [.word red, .word green, .word blue, .word alpha]
  | glColorMask red green blue alpha =>
      packet 1076 [.byte red, .byte green, .byte blue, .byte alpha]
  | glCompressedTexImage2D target level internalformat width height border imageSize data =>
      packet 1078 [.word target, .word level, .word internalformat, .word width, .word height, .word
        border, .word imageSize, .inputIf data imageSize]
  | glCompressedTexSubImage2D target level xoffset yoffset width height format imageSize data =>
      packet 1079 [.word target, .word level, .word xoffset, .word yoffset, .word width, .word
        height, .word format, .word imageSize, .input imageSize data]
  | glCopyTexImage2D target level internalformat x y width height border =>
      packet 1080 [.word target, .word level, .word internalformat, .word x, .word y, .word width,
        .word height, .word border]
  | glCopyTexSubImage2D target level xoffset yoffset x y width height =>
      packet 1081 [.word target, .word level, .word xoffset, .word yoffset, .word x, .word y, .word
        width, .word height]
  | glCullFace mode => packet 1082 [.word mode]
  | glDeleteBuffers n buffers => packet 1083 [.word n, .input (n * 4) buffers]
  | glDeleteTextures n textures => packet 1084 [.word n, .input (n * 4) textures]
  | glDepthFunc func => packet 1085 [.word func]
  | glDepthMask flag => packet 1086 [.byte flag]
  | glDepthRangex zNear zFar => packet 1087 [.word zNear, .word zFar]
  | glDisable cap => packet 1088 [.word cap]
  | glDisableClientState array => packet 1089 [.word array]
  | glDrawArrays mode first count => packet 1090 [.word mode, .word first, .word count]
  | glEnable cap => packet 1092 [.word cap]
  | glEnableClientState array => packet 1093 [.word array]
  | glFinish => packet 1094 []
  | glFlush => packet 1095 []
  | glFogx pname param => packet 1096 [.word pname, .word param]
  | glFogxv pname params => packet 1097 [.word pname, .input (glUtilsParamSize pname * 4) params]
  | glFrontFace mode => packet 1098 [.word mode]
  | glFrustumx left right bottom top zNear zFar =>
      packet 1099 [.word left, .word right, .word bottom, .word top, .word zNear, .word zFar]
  | glGetBooleanv pname => packet 1100 [.word pname, .output (glUtilsParamSize pname)]
  | glGetBufferParameteriv target pname => packet 1101 [.word target, .word pname, .output 4]
  | glClipPlanex pname eqn => packet 1102 [.word pname, .input 16 eqn]
  | glGenBuffers n => packet 1103 [.word n, .output (n * 4)]
  | glGenTextures n => packet 1104 [.word n, .output (n * 4)]
  | glGetError => packetReturning 4 1105 []
  | glGetFixedv pname => packet 1106 [.word pname, .output (glUtilsParamSize pname * 4)]
  | glGetIntegerv pname => packet 1107 [.word pname, .output (glUtilsParamSize pname * 4)]
  | glGetLightxv light pname =>
      packet 1108 [.word light, .word pname, .output (glUtilsParamSize pname * 4)]
  | glGetMaterialxv face pname =>
      packet 1109 [.word face, .word pname, .output (glUtilsParamSize pname * 4)]
  | glGetTexEnviv env pname =>
      packet 1112 [.word env, .word pname, .output (glUtilsParamSize pname * 4)]
  | glGetTexEnvxv env pname =>
      packet 1113 [.word env, .word pname, .output (glUtilsParamSize pname * 4)]
  | glGetTexParameteriv target pname => packet 1114 [.word target, .word pname, .output 4]
  | glGetTexParameterxv target pname => packet 1115 [.word target, .word pname, .output 4]
  | glHint target mode => packet 1116 [.word target, .word mode]
  | glIsBuffer buffer => packetReturning 1 1117 [.word buffer]
  | glIsEnabled cap => packetReturning 1 1118 [.word cap]
  | glIsTexture texture => packetReturning 1 1119 [.word texture]
  | glLightModelx pname param => packet 1120 [.word pname, .word param]
  | glLightModelxv pname params =>
      packet 1121 [.word pname, .input (glUtilsParamSize pname * 4) params]
  | glLightx light pname param => packet 1122 [.word light, .word pname, .word param]
  | glLightxv light pname params =>
      packet 1123 [.word light, .word pname, .input (glUtilsParamSize pname * 4) params]
  | glLineWidthx width => packet 1124 [.word width]
  | glLoadIdentity => packet 1125 []
  | glLoadMatrixx m => packet 1126 [.input 64 m]
  | glLogicOp opcode => packet 1127 [.word opcode]
  | glMaterialx face pname param => packet 1128 [.word face, .word pname, .word param]
  | glMaterialxv face pname params =>
      packet 1129 [.word face, .word pname, .input (glUtilsParamSize pname * 4) params]
  | glMatrixMode mode => packet 1130 [.word mode]
  | glMultMatrixx m => packet 1131 [.input 64 m]
  | glMultiTexCoord4x target s t r q =>
      packet 1132 [.word target, .word s, .word t, .word r, .word q]
  | glNormal3x nx ny nz => packet 1133 [.word nx, .word ny, .word nz]
  | glOrthox left right bottom top zNear zFar =>
      packet 1135 [.word left, .word right, .word bottom, .word top, .word zNear, .word zFar]
  | glPixelStorei pname param => packet 1136 [.word pname, .word param]
  | glPointParameterx pname param => packet 1137 [.word pname, .word param]
  | glPointParameterxv pname params =>
      packet 1138 [.word pname, .input (glUtilsParamSize pname * 4) params]
  | glPointSizex size => packet 1139 [.word size]
  | glPolygonOffsetx factor units => packet 1140 [.word factor, .word units]
  | glPopMatrix => packet 1141 []
  | glPushMatrix => packet 1142 []
  | glReadPixels x y width height format type =>
      packet 1143 [.word x, .word y, .word width, .word height, .word format, .word type, .output
        (ctx.pixelDataSize width height format type true)]
  | glRotatex angle x y z => packet 1144 [.word angle, .word x, .word y, .word z]
  | glSampleCoverage value invert => packet 1145 [.word value, .byte invert]
  | glSampleCoveragex value invert => packet 1146 [.word value, .byte invert]
  | glScalex x y z => packet 1147 [.word x, .word y, .word z]
  | glScissor x y width height => packet 1148 [.word x, .word y, .word width, .word height]
  | glShadeModel mode => packet 1149 [.word mode]
  | glStencilFunc func ref mask => packet 1150 [.word func, .word ref, .word mask]
  | glStencilMask mask => packet 1151 [.word mask]
  | glStencilOp fail zfail zpass => packet 1152 [.word fail, .word zfail, .word zpass]
  | glTexEnvi target pname param => packet 1154 [.word target, .word pname, .word param]
  | glTexEnvx target pname param => packet 1155 [.word target, .word pname, .word param]
  | glTexEnviv target pname params =>
      packet 1156 [.word target, .word pname, .input (glUtilsParamSize pname * 4) params]
  | glTexEnvxv target pname params =>
      packet 1157 [.word target, .word pname, .input (glUtilsParamSize pname * 4) params]
  | glTexImage2D target level internalformat width height border format type pixels =>
      .split 1158 [target, level, internalformat, width, height, border, format, type]
        (ctx.pixelDataSize width height format type false) pixels [] 0
  | glTexParameteri target pname param => packet 1159 [.word target, .word pname, .word param]
  | glTexParameterx target pname param => packet 1160 [.word target, .word pname, .word param]
  | glTexParameteriv target pname params =>
      packet 1161 [.word target, .word pname, .input (glUtilsParamSize pname * 4) params]
  | glTexParameterxv target pname params =>
      packet 1162 [.word target, .word pname, .input (glUtilsParamSize pname * 4) params]
  | glTexSubImage2D target level xoffset yoffset width height format type pixels =>
      .split 1163 [target, level, xoffset, yoffset, width, height, format, type] (ctx.pixelDataSize
        width height format type false) (some pixels) [] 0
  | glTranslatex x y z => packet 1164 [.word x, .word y, .word z]
  | glViewport x y width height => packet 1166 [.word x, .word y, .word width, .word height]
  | glVertexPointerOffset size type stride offset =>
      packet 1168 [.word size, .word type, .word stride, .word offset]
  | glColorPointerOffset size type stride offset =>
      packet 1169 [.word size, .word type, .word stride, .word offset]
  | glNormalPointerOffset type stride offset => packet 1170 [.word type, .word stride, .word offset]
  | glPointSizePointerOffset type stride offset =>
      packet 1171 [.word type, .word stride, .word offset]
  | glTexCoordPointerOffset size type stride offset =>
      packet 1172 [.word size, .word type, .word stride, .word offset]
  | glWeightPointerOffset size type stride offset =>
      packet 1173 [.word size, .word type, .word stride, .word offset]
  | glMatrixIndexPointerOffset size type stride offset =>
      packet 1174 [.word size, .word type, .word stride, .word offset]
  | glVertexPointerData size type stride data datalen =>
      packet 1175 [.word size, .word type, .word stride, .input datalen (ctx.packed data size type
        stride datalen), .word datalen]
  | glColorPointerData size type stride data datalen =>
      packet 1176 [.word size, .word type, .word stride, .input datalen (ctx.packed data size type
        stride datalen), .word datalen]
  | glNormalPointerData type stride data datalen =>
      packet 1177 [.word type, .word stride, .input datalen (ctx.packed data 3 type stride datalen),
        .word datalen]
  | glTexCoordPointerData unit size type stride data datalen =>
      packet 1178 [.word unit, .word size, .word type, .word stride, .input datalen (ctx.packed data
        size type stride datalen), .word datalen]
  | glPointSizePointerData type stride data datalen =>
      packet 1179 [.word type, .word stride, .input datalen (ctx.packed data 1 type stride datalen),
        .word datalen]
  | glWeightPointerData size type stride data datalen =>
      packet 1180 [.word size, .word type, .word stride, .input datalen (ctx.packed data size type
        stride datalen), .word datalen]
  | glMatrixIndexPointerData size type stride data datalen =>
      packet 1181 [.word size, .word type, .word stride, .input datalen (ctx.packed data size type
        stride datalen), .word datalen]
  | glDrawElementsOffset mode count type offset =>
      packet 1182 [.word mode, .word count, .word type, .word offset]
  | glDrawElementsData mode count type data datalen =>
      packet 1183 [.word mode, .word count, .word type, .input datalen data, .word datalen]
  | glGetCompressedTextureFormats count => packet 1184 [.word count, .output (count * 4)]
  | glFinishRoundTrip => packetReturning 4 1185 []
  | glBlendEquationSeparateOES modeRGB modeAlpha => packet 1186 [.word modeRGB, .word modeAlpha]
  | glBlendFuncSeparateOES srcRGB dstRGB srcAlpha dstAlpha =>
      packet 1187 [.word srcRGB, .word dstRGB, .word srcAlpha, .word dstAlpha]
  | glBlendEquationOES mode => packet 1188 [.word mode]
  | glDrawTexsOES x y z width height =>
      packet 1189 [.short x, .short y, .short z, .short width, .short height]
  | glDrawTexiOES x y z width height =>
      packet 1190 [.word x, .word y, .word z, .word width, .word height]
  | glDrawTexxOES x y z width height =>
      packet 1191 [.word x, .word y, .word z, .word width, .word height]
  | glDrawTexsvOES coords => packet 1192 [.input 10 coords]
  | glDrawTexivOES coords => packet 1193 [.input 20 coords]
  | glDrawTexxvOES coords => packet 1194 [.input 20 coords]
  | glDrawTexfOES x y z width height =>
      packet 1195 [.word x, .word y, .word z, .word width, .word height]
  | glDrawTexfvOES coords => packet 1196 [.input 20 coords]
  | glEGLImageTargetTexture2DOES target image => packet 1197 [.word target, .word image]
  | glEGLImageTargetRenderbufferStorageOES target image => packet 1198 [.word target, .word image]
  | glAlphaFuncxOES func ref => packet 1199 [.word func, .word ref]
  | glClearColorxOES red green blue alpha =>
      packet 1200 [.word red, .word green, .word blue, .word alpha]
  | glClearDepthxOES depth => packet 1201 [.word depth]
  | glClipPlanexOES plane equation => packet 1202 [.word plane, .input 16 equation]
  | glClipPlanexIMG plane equation => packet 1203 [.word plane, .input 16 equation]
  | glColor4xOES red green blue alpha =>
      packet 1204 [.word red, .word green, .word blue, .word alpha]
  | glDepthRangexOES zNear zFar => packet 1205 [.word zNear, .word zFar]
  | glFogxOES pname param => packet 1206 [.word pname, .word param]
  | glFogxvOES pname params => packet 1207 [.word pname, .input (glUtilsParamSize pname * 4) params]
  | glFrustumxOES left right bottom top zNear zFar =>
      packet 1208 [.word left, .word right, .word bottom, .word top, .word zNear, .word zFar]
  | glGetClipPlanexOES pname => packet 1209 [.word pname, .output 16]
  | glGetClipPlanex pname => packet 1210 [.word pname, .output 16]
  | glGetFixedvOES pname => packet 1211 [.word pname, .output (glUtilsParamSize pname * 4)]
  | glGetLightxvOES light pname =>
      packet 1212 [.word light, .word pname, .output (glUtilsParamSize pname * 4)]
  | glGetMaterialxvOES face pname =>
      packet 1213 [.word face, .word pname, .output (glUtilsParamSize pname * 4)]
  | glGetTexEnvxvOES env pname =>
      packet 1214 [.word env, .word pname, .output (glUtilsParamSize pname * 4)]
  | glGetTexParameterxvOES target pname =>
      packet 1215 [.word target, .word pname, .output (glUtilsParamSize pname * 4)]
  | glLightModelxOES pname param => packet 1216 [.word pname, .word param]
  | glLightModelxvOES pname params =>
      packet 1217 [.word pname, .input (glUtilsParamSize pname * 4) params]
  | glLightxOES light pname param => packet 1218 [.word light, .word pname, .word param]
  | glLightxvOES light pname params =>
      packet 1219 [.word light, .word pname, .input (glUtilsParamSize pname * 4) params]
  | glLineWidthxOES width => packet 1220 [.word width]
  | glLoadMatrixxOES m => packet 1221 [.input 64 m]
  | glMaterialxOES face pname param => packet 1222 [.word face, .word pname, .word param]
  | glMaterialxvOES face pname params =>
      packet 1223 [.word face, .word pname, .input (glUtilsParamSize pname * 4) params]
  | glMultMatrixxOES m => packet 1224 [.input 64 m]
  | glMultiTexCoord4xOES target s t r q =>
      packet 1225 [.word target, .word s, .word t, .word r, .word q]
  | glNormal3xOES nx ny nz => packet 1226 [.word nx, .word ny, .word nz]
  | glOrthoxOES left right bottom top zNear zFar =>
      packet 1227 [.word left, .word right, .word bottom, .word top, .word zNear, .word zFar]
  | glPointParameterxOES pname param => packet 1228 [.word pname, .word param]
  | glPointParameterxvOES pname params =>
      packet 1229 [.word pname, .input (glUtilsParamSize pname * 4) params]
  | glPointSizexOES size => packet 1230 [.word size]
  | glPolygonOffsetxOES factor units => packet 1231 [.word factor, .word units]
  | glRotatexOES angle x y z => packet 1232 [.word angle, .word x, .word y, .word z]
  | glSampleCoveragexOES value invert => packet 1233 [.word value, .byte invert]
  | glScalexOES x y z => packet 1234 [.word x, .word y, .word z]
  | glTexEnvxOES target pname param => packet 1235 [.word target, .word pname, .word param]
  | glTexEnvxvOES target pname params =>
      packet 1236 [.word target, .word pname, .input (glUtilsParamSize pname * 4) params]
  | glTexParameterxOES target pname param => packet 1237 [.word target, .word pname, .word param]
  | glTexParameterxvOES target pname params =>
      packet 1238 [.word target, .word pname, .input (glUtilsParamSize pname * 4) params]
  | glTranslatexOES x y z => packet 1239 [.word x, .word y, .word z]
  | glIsRenderbufferOES renderbuffer => packetReturning 1 1240 [.word renderbuffer]
  | glBindRenderbufferOES target renderbuffer => packet 1241 [.word target, .word renderbuffer]
  | glDeleteRenderbuffersOES n renderbuffers => packet 1242 [.word n, .input (n * 4) renderbuffers]
  | glGenRenderbuffersOES n => packet 1243 [.word n, .output (n * 4)]
  | glRenderbufferStorageOES target internalformat width height =>
      packet 1244 [.word target, .word internalformat, .word width, .word height]
  | glGetRenderbufferParameterivOES target pname =>
      packet 1245 [.word target, .word pname, .output (glUtilsParamSize pname * 4)]
  | glIsFramebufferOES framebuffer => packetReturning 1 1246 [.word framebuffer]
  | glBindFramebufferOES target framebuffer => packet 1247 [.word target, .word framebuffer]
  | glDeleteFramebuffersOES n framebuffers => packet 1248 [.word n, .input (n * 4) framebuffers]
  | glGenFramebuffersOES n => packet 1249 [.word n, .output (n * 4)]
  | glCheckFramebufferStatusOES target => packetReturning 4 1250 [.word target]
  | glFramebufferRenderbufferOES target attachment renderbuffertarget renderbuffer =>
      packet 1251 [.word target, .word attachment, .word renderbuffertarget, .word renderbuffer]
  | glFramebufferTexture2DOES target attachment textarget texture level =>
      packet 1252 [.word target, .word attachment, .word textarget, .word texture, .word level]
  | glGetFramebufferAttachmentParameterivOES target attachment pname =>
      packet 1253 [.word target, .word attachment, .word pname, .output (glUtilsParamSize pname *
        4)]
  | glGenerateMipmapOES target => packet 1254 [.word target]
  | glUnmapBufferOES target => packetReturning 1 1256 [.word target]
  | glCurrentPaletteMatrixOES matrixpaletteindex => packet 1258 [.word matrixpaletteindex]
  | glLoadPaletteFromModelViewMatrixOES => packet 1259 []
  | glQueryMatrixxOES => packetReturning 4 1262 [.output 64, .output 64]
  | glDepthRangefOES zNear zFar => packet 1263 [.word zNear, .word zFar]
  | glFrustumfOES left right bottom top zNear zFar =>
      packet 1264 [.word left, .word right, .word bottom, .word top, .word zNear, .word zFar]
  | glOrthofOES left right bottom top zNear zFar =>
      packet 1265 [.word left, .word right, .word bottom, .word top, .word zNear, .word zFar]
  | glClipPlanefOES plane equation => packet 1266 [.word plane, .input 16 equation]
  | glClipPlanefIMG plane equation => packet 1267 [.word plane, .input 16 equation]
  | glGetClipPlanefOES pname => packet 1268 [.word pname, .output 16]
  | glClearDepthfOES depth => packet 1269 [.word depth]
  | glTexGenfOES coord pname param => packet 1270 [.word coord, .word pname, .word param]
  | glTexGenfvOES coord pname params =>
      packet 1271 [.word coord, .word pname, .input (glUtilsParamSize pname * 4) params]
  | glTexGeniOES coord pname param => packet 1272 [.word coord, .word pname, .word param]
  | glTexGenivOES coord pname params =>
      packet 1273 [.word coord, .word pname, .input (glUtilsParamSize pname * 4) params]
  | glTexGenxOES coord pname param => packet 1274 [.word coord, .word pname, .word param]
  | glTexGenxvOES coord pname params =>
      packet 1275 [.word coord, .word pname, .input (glUtilsParamSize pname * 4) params]
  | glGetTexGenfvOES coord pname params =>
      packet 1276 [.word coord, .word pname, .input (glUtilsParamSize pname * 4) params]
  | glGetTexGenivOES coord pname params =>
      packet 1277 [.word coord, .word pname, .input (glUtilsParamSize pname * 4) params]
  | glGetTexGenxvOES coord pname params =>
      packet 1278 [.word coord, .word pname, .input (glUtilsParamSize pname * 4) params]
  | glBindVertexArrayOES array => packet 1279 [.word array]
  | glDeleteVertexArraysOES n arrays => packet 1280 [.word n, .input (n * 4) arrays]
  | glGenVertexArraysOES n => packet 1281 [.word n, .output (n * 4)]
  | glIsVertexArrayOES array => packetReturning 1 1282 [.word array]
  | glDiscardFramebufferEXT target numAttachments attachments =>
      packet 1283 [.word target, .word numAttachments, .input (numAttachments * 4) attachments]
  | glRenderbufferStorageMultisampleIMG target samples internalformat width height =>
      packet 1288 [.word target, .word samples, .word internalformat, .word width, .word height]
  | glFramebufferTexture2DMultisampleIMG target attachment textarget texture level samples =>
      packet 1289 [.word target, .word attachment, .word textarget, .word texture, .word level,
        .word samples]
  | glDeleteFencesNV n fences => packet 1290 [.word n, .input (n * 4) fences]
  | glGenFencesNV n fences => packet 1291 [.word n, .input (n * 4) fences]
  | glIsFenceNV fence => packetReturning 1 1292 [.word fence]
  | glTestFenceNV fence => packetReturning 1 1293 [.word fence]
  | glGetFenceivNV fence pname =>
      packet 1294 [.word fence, .word pname, .output (glUtilsParamSize pname * 4)]
  | glFinishFenceNV fence => packet 1295 [.word fence]
  | glSetFenceNV fence condition => packet 1296 [.word fence, .word condition]
  | glGetDriverControlsQCOM size => packet 1297 [.output 4, .word size, .output (size * 4)]
  | glGetDriverControlStringQCOM driverControl bufSize =>
      packet 1298 [.word driverControl, .word bufSize, .output 4, .output 1]
  | glEnableDriverControlQCOM driverControl => packet 1299 [.word driverControl]
  | glDisableDriverControlQCOM driverControl => packet 1300 [.word driverControl]
  | glExtGetTexturesQCOM maxTextures =>
      packet 1301 [.output (maxTextures * 4), .word maxTextures, .output 4]
  | glExtGetBuffersQCOM maxBuffers =>
      packet 1302 [.output (maxBuffers * 4), .word maxBuffers, .output 4]
  | glExtGetRenderbuffersQCOM maxRenderbuffers =>
      packet 1303 [.output (maxRenderbuffers * 4), .word maxRenderbuffers, .output 4]
  | glExtGetFramebuffersQCOM maxFramebuffers =>
      packet 1304 [.output (maxFramebuffers * 4), .word maxFramebuffers, .output 4]
  | glExtGetTexLevelParameterivQCOM texture face level pname =>
      packet 1305 [.word texture, .word face, .word level, .word pname, .output (glUtilsParamSize
        pname * 4)]
  | glExtTexObjectStateOverrideiQCOM target pname param =>
      packet 1306 [.word target, .word pname, .word param]
  | glExtGetTexSubImageQCOM target level xoffset yoffset zoffset width height depth format type =>
      packet 1307 [.word target, .word level, .word xoffset, .word yoffset, .word zoffset, .word
        width, .word height, .word depth, .word format, .word type, .output (depth *
        ctx.pixelDataSize width height format type false)]
  | glExtGetShadersQCOM maxShaders =>
      packet 1309 [.output (maxShaders * 4), .word maxShaders, .output 4]
  | glExtGetProgramsQCOM maxPrograms =>
      packet 1310 [.output (maxPrograms * 4), .word maxPrograms, .output 4]
  | glExtIsProgramBinaryQCOM program => packetReturning 1 1311 [.word program]
  | glStartTilingQCOM x y width height preserveMask =>
      packet 1313 [.word x, .word y, .word width, .word height, .word preserveMask]
  | glEndTilingQCOM preserveMask => packet 1314 [.word preserveMask]

end GlCall

/-- The operations of `gl_opcodes.h` that have a function, each with its parameters. -/
def glApi : List (Nat × List FieldKind) :=
  [(1024, [word, word]), (1025, [word, word, word, word]), (1026, [word]), (1027, [word, .block]),
    (1028, [word, word, word, word]), (1029, [word, word]), (1030, [word, word]),
    (1031, [word, .block]), (1032, [word, word, word, word, word, word]), (1033, [word, .answer]),
    (1034, [word, .answer]), (1035, [word, word, .answer]), (1036, [word, word, .answer]),
    (1037, [word, word, .answer]), (1038, [word, word, .answer]), (1039, [word, word]),
    (1040, [word, .block]), (1041, [word, word, word]), (1042, [word, word, .block]),
    (1043, [word]), (1044, [.block]), (1045, [word, word, word]), (1046, [word, word, .block]),
    (1047, [.block]), (1048, [word, word, word, word, word]), (1049, [word, word, word]),
    (1050, [word, word, word, word, word, word]), (1051, [word, word]), (1052, [word, .block]),
    (1053, [word]), (1054, [word, word]), (1055, [word, word, word, word]),
    (1056, [word, word, word]), (1057, [word, word, word]), (1058, [word, word, .block]),
    (1059, [word, word, word]), (1060, [word, word, .block]), (1061, [word, word, word]),
    (1062, [word]), (1063, [word, word]), (1064, [word, word]), (1065, [word, word]),
    (1066, [word, word]), (1067, [word, word, .block, word]), (1068, [word, word, word, .block]),
    (1069, [word]), (1070, [word, word, word, word]), (1071, [word]), (1072, [word]),
    (1073, [word]), (1074, [byte, byte, byte, byte]), (1075, [word, word, word, word]),
    (1076, [byte, byte, byte, byte]), (1078, [word, word, word, word, word, word, word, .block]),
    (1079, [word, word, word, word, word, word, word, word, .block]),
    (1080, [word, word, word, word, word, word, word, word]),
    (1081, [word, word, word, word, word, word, word, word]), (1082, [word]),
    (1083, [word, .block]), (1084, [word, .block]), (1085, [word]), (1086, [byte]),
    (1087, [word, word]), (1088, [word]), (1089, [word]), (1090, [word, word, word]),
    (1092, [word]), (1093, [word]), (1094, []), (1095, []), (1096, [word, word]),
    (1097, [word, .block]), (1098, [word]), (1099, [word, word, word, word, word, word]),
    (1100, [word, .answer]), (1101, [word, word, .answer]), (1102, [word, .block]),
    (1103, [word, .answer]), (1104, [word, .answer]), (1105, []), (1106, [word, .answer]),
    (1107, [word, .answer]), (1108, [word, word, .answer]), (1109, [word, word, .answer]),
    (1112, [word, word, .answer]), (1113, [word, word, .answer]), (1114, [word, word, .answer]),
    (1115, [word, word, .answer]), (1116, [word, word]), (1117, [word]), (1118, [word]),
    (1119, [word]), (1120, [word, word]), (1121, [word, .block]), (1122, [word, word, word]),
    (1123, [word, word, .block]), (1124, [word]), (1125, []), (1126, [.block]), (1127, [word]),
    (1128, [word, word, word]), (1129, [word, word, .block]), (1130, [word]), (1131, [.block]),
    (1132, [word, word, word, word, word]), (1133, [word, word, word]),
    (1135, [word, word, word, word, word, word]), (1136, [word, word]), (1137, [word, word]),
    (1138, [word, .block]), (1139, [word]), (1140, [word, word]), (1141, []), (1142, []),
    (1143, [word, word, word, word, word, word, .answer]), (1144, [word, word, word, word]),
    (1145, [word, byte]), (1146, [word, byte]), (1147, [word, word, word]),
    (1148, [word, word, word, word]), (1149, [word]), (1150, [word, word, word]), (1151, [word]),
    (1152, [word, word, word]), (1154, [word, word, word]), (1155, [word, word, word]),
    (1156, [word, word, .block]), (1157, [word, word, .block]),
    (1158, [word, word, word, word, word, word, word, word, .block]), (1159, [word, word, word]),
    (1160, [word, word, word]), (1161, [word, word, .block]), (1162, [word, word, .block]),
    (1163, [word, word, word, word, word, word, word, word, .block]), (1164, [word, word, word]),
    (1166, [word, word, word, word]), (1168, [word, word, word, word]),
    (1169, [word, word, word, word]), (1170, [word, word, word]), (1171, [word, word, word]),
    (1172, [word, word, word, word]), (1173, [word, word, word, word]),
    (1174, [word, word, word, word]), (1175, [word, word, word, .block, word]),
    (1176, [word, word, word, .block, word]), (1177, [word, word, .block, word]),
    (1178, [word, word, word, word, .block, word]), (1179, [word, word, .block, word]),
    (1180, [word, word, word, .block, word]), (1181, [word, word, word, .block, word]),
    (1182, [word, word, word, word]), (1183, [word, word, word, .block, word]),
    (1184, [word, .answer]), (1185, []), (1186, [word, word]), (1187, [word, word, word, word]),
    (1188, [word]), (1189, [short, short, short, short, short]),
    (1190, [word, word, word, word, word]), (1191, [word, word, word, word, word]),
    (1192, [.block]), (1193, [.block]), (1194, [.block]), (1195, [word, word, word, word, word]),
    (1196, [.block]), (1197, [word, word]), (1198, [word, word]), (1199, [word, word]),
    (1200, [word, word, word, word]), (1201, [word]), (1202, [word, .block]),
    (1203, [word, .block]), (1204, [word, word, word, word]), (1205, [word, word]),
    (1206, [word, word]), (1207, [word, .block]), (1208, [word, word, word, word, word, word]),
    (1209, [word, .answer]), (1210, [word, .answer]), (1211, [word, .answer]),
    (1212, [word, word, .answer]), (1213, [word, word, .answer]), (1214, [word, word, .answer]),
    (1215, [word, word, .answer]), (1216, [word, word]), (1217, [word, .block]),
    (1218, [word, word, word]), (1219, [word, word, .block]), (1220, [word]), (1221, [.block]),
    (1222, [word, word, word]), (1223, [word, word, .block]), (1224, [.block]),
    (1225, [word, word, word, word, word]), (1226, [word, word, word]),
    (1227, [word, word, word, word, word, word]), (1228, [word, word]), (1229, [word, .block]),
    (1230, [word]), (1231, [word, word]), (1232, [word, word, word, word]), (1233, [word, byte]),
    (1234, [word, word, word]), (1235, [word, word, word]), (1236, [word, word, .block]),
    (1237, [word, word, word]), (1238, [word, word, .block]), (1239, [word, word, word]),
    (1240, [word]), (1241, [word, word]), (1242, [word, .block]), (1243, [word, .answer]),
    (1244, [word, word, word, word]), (1245, [word, word, .answer]), (1246, [word]),
    (1247, [word, word]), (1248, [word, .block]), (1249, [word, .answer]), (1250, [word]),
    (1251, [word, word, word, word]), (1252, [word, word, word, word, word]),
    (1253, [word, word, word, .answer]), (1254, [word]), (1256, [word]), (1258, [word]), (1259, []),
    (1262, [.answer, .answer]), (1263, [word, word]), (1264, [word, word, word, word, word, word]),
    (1265, [word, word, word, word, word, word]), (1266, [word, .block]), (1267, [word, .block]),
    (1268, [word, .answer]), (1269, [word]), (1270, [word, word, word]),
    (1271, [word, word, .block]), (1272, [word, word, word]), (1273, [word, word, .block]),
    (1274, [word, word, word]), (1275, [word, word, .block]), (1276, [word, word, .block]),
    (1277, [word, word, .block]), (1278, [word, word, .block]), (1279, [word]),
    (1280, [word, .block]), (1281, [word, .answer]), (1282, [word]), (1283, [word, word, .block]),
    (1288, [word, word, word, word, word]), (1289, [word, word, word, word, word, word]),
    (1290, [word, .block]), (1291, [word, .block]), (1292, [word]), (1293, [word]),
    (1294, [word, word, .answer]), (1295, [word]), (1296, [word, word]),
    (1297, [.answer, word, .answer]), (1298, [word, word, .answer, .answer]), (1299, [word]),
    (1300, [word]), (1301, [.answer, word, .answer]), (1302, [.answer, word, .answer]),
    (1303, [.answer, word, .answer]), (1304, [.answer, word, .answer]),
    (1305, [word, word, word, word, .answer]), (1306, [word, word, word]),
    (1307, [word, word, word, word, word, word, word, word, word, word, .answer]),
    (1309, [.answer, word, .answer]), (1310, [.answer, word, .answer]), (1311, [word]),
    (1313, [word, word, word, word, word]), (1314, [word])]

/-- The fields of an operation. -/
def glKinds (op : Nat) : Option (List FieldKind) := glApi.lookup op

/-- What a function encodes has the parameters of its operation. -/
theorem GlCall.kinds_enc (ctx : EncoderContext) (c : GlCall) :
    glKinds (c.enc ctx).op = some (c.enc ctx).kinds := by
  cases c <;>
    (refine EncCall.kinds_of_eq glKinds (by conv_lhs => whnf) ?_
     simp only [EncCall.op, EncCall.kinds, List.map, Param.kind]
     decide +kernel)

end Wire
end DeviceAndroVM
