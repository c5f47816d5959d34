import Mathlib.Data.BitVec

/-!
# GL scalar types, enumerants and commands

The 32-bit GL types are bit vectors, so that the unsigned and the signed
readings of one word (`toNat` and `toInt`) are those of the target.  Only the
enumerants which the modelled functions test or send are listed.

A `Command` is a call of the generated encoders `gl_enc.cpp` and `gl2_enc.cpp` that the
modelled entry points make, with its arguments.  A pointer argument is the
memory behind it, of which the encoder sends the part that belongs to the call.
-/

namespace DeviceAndroVM
namespace OpenGL

/-- `GLuint`: object names and unsigned counts. -/
abbrev GLuint := BitVec 32

/-- `GLenum`. -/
abbrev GLenum := BitVec 32

/-- Whether a name or an enumerant is in a list is decided by their equality. -/
instance : LawfulBEq GLuint := inferInstance

/-- `GLint`, `GLsizei`, `GLintptr` and `GLsizeiptr` on a 32-bit target; the
signed value is `toInt`. -/
abbrev GLint := BitVec 32

/-- `GLfloat`, by its bits. -/
abbrev GLfloat := BitVec 32

/-- `GLfixed`, by its bits. -/
abbrev GLfixed := BitVec 32

/-- `void *`, as an address of the 32-bit target. -/
abbrev VoidPtr := BitVec 32

/-- The memory that can be read from a `const void * data` argument on; `none` is
`NULL`. -/
abbrev DataPtr := Option (Nat → UInt8)

/-! ## Error codes -/

abbrev GL_NO_ERROR : GLenum := 0#32
abbrev GL_INVALID_ENUM : GLenum := 0x0500#32
abbrev GL_INVALID_VALUE : GLenum := 0x0501#32
abbrev GL_INVALID_OPERATION : GLenum := 0x0502#32
abbrev GL_OUT_OF_MEMORY : GLenum := 0x0505#32

/-! ## Texture targets, units and parameters -/

abbrev GL_TEXTURE_2D : GLenum := 0x0DE1#32
abbrev GL_TEXTURE_EXTERNAL_OES : GLenum := 0x8D65#32
abbrev GL_TEXTURE0 : GLenum := 0x84C0#32

abbrev GL_TEXTURE_MAG_FILTER : GLenum := 0x2800#32
abbrev GL_TEXTURE_MIN_FILTER : GLenum := 0x2801#32
abbrev GL_TEXTURE_WRAP_S : GLenum := 0x2802#32
abbrev GL_TEXTURE_WRAP_T : GLenum := 0x2803#32
abbrev GL_GENERATE_MIPMAP : GLenum := 0x8191#32
abbrev GL_REQUIRED_TEXTURE_IMAGE_UNITS_OES : GLenum := 0x8D68#32

/-! ## Buffers -/

abbrev GL_ARRAY_BUFFER : GLenum := 0x8892#32
abbrev GL_ELEMENT_ARRAY_BUFFER : GLenum := 0x8893#32

abbrev GL_STREAM_DRAW : GLenum := 0x88E0#32
abbrev GL_STATIC_DRAW : GLenum := 0x88E4#32
abbrev GL_DYNAMIC_DRAW : GLenum := 0x88E8#32

/-! ## Client arrays -/

abbrev GL_VERTEX_ARRAY : GLenum := 0x8074#32
abbrev GL_NORMAL_ARRAY : GLenum := 0x8075#32
abbrev GL_COLOR_ARRAY : GLenum := 0x8076#32
abbrev GL_TEXTURE_COORD_ARRAY : GLenum := 0x8078#32
abbrev GL_POINT_SIZE_ARRAY_OES : GLenum := 0x8B9C#32
abbrev GL_MATRIX_INDEX_ARRAY_OES : GLenum := 0x8844#32
abbrev GL_WEIGHT_ARRAY_OES : GLenum := 0x86AD#32

/-! ## Data and uniform types -/

abbrev GL_BYTE : GLenum := 0x1400#32
abbrev GL_UNSIGNED_BYTE : GLenum := 0x1401#32
abbrev GL_SHORT : GLenum := 0x1402#32
abbrev GL_UNSIGNED_SHORT : GLenum := 0x1403#32
abbrev GL_INT : GLenum := 0x1404#32
abbrev GL_FLOAT : GLenum := 0x1406#32
abbrev GL_FIXED : GLenum := 0x140C#32
abbrev GL_HALF_FLOAT_OES : GLenum := 0x8D61#32
abbrev GL_FLOAT_VEC2 : GLenum := 0x8B50#32
abbrev GL_FLOAT_VEC3 : GLenum := 0x8B51#32
abbrev GL_FLOAT_VEC4 : GLenum := 0x8B52#32
abbrev GL_INT_VEC2 : GLenum := 0x8B53#32
abbrev GL_INT_VEC3 : GLenum := 0x8B54#32
abbrev GL_INT_VEC4 : GLenum := 0x8B55#32
abbrev GL_BOOL : GLenum := 0x8B56#32
abbrev GL_BOOL_VEC2 : GLenum := 0x8B57#32
abbrev GL_BOOL_VEC3 : GLenum := 0x8B58#32
abbrev GL_BOOL_VEC4 : GLenum := 0x8B59#32
abbrev GL_FLOAT_MAT2 : GLenum := 0x8B5A#32
abbrev GL_FLOAT_MAT3 : GLenum := 0x8B5B#32
abbrev GL_FLOAT_MAT4 : GLenum := 0x8B5C#32
abbrev GL_SAMPLER_2D : GLenum := 0x8B5E#32
abbrev GL_SAMPLER_CUBE : GLenum := 0x8B60#32

/-- The types that `glGetActiveUniform` returns. -/
def uniformTypes : List GLenum :=
  [GL_FLOAT, GL_FLOAT_VEC2, GL_FLOAT_VEC3, GL_FLOAT_VEC4, GL_INT, GL_INT_VEC2, GL_INT_VEC3,
    GL_INT_VEC4, GL_BOOL, GL_BOOL_VEC2, GL_BOOL_VEC3, GL_BOOL_VEC4, GL_FLOAT_MAT2,
    GL_FLOAT_MAT3, GL_FLOAT_MAT4, GL_SAMPLER_2D, GL_SAMPLER_CUBE]

/-! ## Parameter values -/

abbrev GL_FALSE : GLenum := 0#32
abbrev GL_NEAREST : GLenum := 0x2600#32
abbrev GL_LINEAR : GLenum := 0x2601#32
abbrev GL_CLAMP_TO_EDGE : GLenum := 0x812F#32

section Commands

/-- The argument of `glTexParameter{f,fv,i,iv,x,xv}`. -/
inductive TexParameterValue
  | f (param : GLfloat)
  | fv (params : Nat → GLfloat)
  | i (param : GLint)
  | iv (params : Nat → GLint)
  | x (param : GLfixed)
  | xv (params : Nat → GLfixed)

/-- The C conversion `(GLenum)param` of a float, by its bits: towards zero.  What C
leaves undefined, negative values and values from `2 ^ 32` on, gives 0. -/
def floatToGLenum (param : GLfloat) : GLenum :=
  let exponent := (param >>> 23 &&& 0xff#32).toNat
  let mantissa := (param &&& 0x7fffff#32).toNat + 0x800000
  if param.msb ∨ exponent < 127 ∨ 159 ≤ exponent then 0#32
  else if exponent < 150 then BitVec.ofNat 32 (mantissa >>> (150 - exponent))
  else BitVec.ofNat 32 (mantissa <<< (exponent - 150))

example : floatToGLenum 0x461C0400#32 = 9985#32 := by decide

/-- The value, or the first of the values, read as an enumerant. -/
def TexParameterValue.asGLenum : TexParameterValue → GLenum
  | f param => floatToGLenum param
  | fv params => floatToGLenum (params 0)
  | i param => param
  | iv params => params 0
  | x param => param
  | xv params => params 0

/-- The entry points `glGetTexParameter{fv,iv,xv}`. -/
inductive GetTexParameter
  | fv
  | iv
  | xv
  deriving DecidableEq

/-- The client arrays of OpenGL ES 1, by their pointer call; the texture coordinates
have one for each unit. -/
inductive ArrayPointer
  | glVertexPointer
  | glNormalPointer
  | glColorPointer
  | glPointSizePointer
  | glTexCoordPointer (unit : Nat)
  | glMatrixIndexPointer
  | glWeightPointer
  deriving DecidableEq

/-- One command on the stream to the host.  `glArrayPointerData` and
`glArrayPointerOffset` stand for the commands of `gl_enc.cpp` that end so, of which those
for normals and point sizes have no size. -/
inductive GLCmd
  | glActiveTexture (texture : GLenum)
  | glBindTexture (target : GLenum) (texture : GLuint)
  | glDeleteTextures (textures : List GLuint)
  | glEnable (cap : GLenum)
  | glDisable (cap : GLenum)
  | glGetTexParameter (entry : GetTexParameter) (target pname : GLenum)
  | glTexParameter (target pname : GLenum) (value : TexParameterValue)
  | glTexImage2D (target : GLenum) (level internalFormat width height border : GLint)
      (format type : GLenum) (data : DataPtr)
  | glTexSubImage2D (target : GLenum) (level xoffset yoffset width height : GLint)
      (format type : GLenum) (pixels : DataPtr)
  | glCompressedTexImage2D (target : GLenum) (level : GLint) (internalFormat : GLenum)
      (width height border imageSize : GLint) (data : DataPtr)
  | glCompressedTexSubImage2D (target : GLenum) (level xoffset yoffset width height : GLint)
      (format : GLenum) (imageSize : GLint) (data : DataPtr)
  | glCopyTexImage2D (target : GLenum) (level : GLint) (internalformat : GLenum)
      (x y width height border : GLint)
  | glCopyTexSubImage2D (target : GLenum) (level xoffset yoffset x y width height : GLint)
  | glGenerateMipmap (target : GLenum)
  | glUseProgram (program : GLuint)
  | glUniform1i (location x : GLint)
  | glBindBuffer (target : GLenum) (buffer : GLuint)
  | glBufferData (target : GLenum) (size : GLint) (data : DataPtr) (usage : GLenum)
  | glBufferSubData (target : GLenum) (offset size : GLint) (data : Nat → UInt8)
  | glDeleteBuffers (buffers : List GLuint)
  | glEnableVertexAttribArray (index : GLuint)
  | glDisableVertexAttribArray (index : GLuint)
  | glVertexAttribPointerData (indx : GLuint) (size : GLint) (type : GLenum)
      (normalized : Bool) (stride : GLint) (data : VoidPtr) (datalen : GLuint)
  | glVertexAttribPointerOffset (indx : GLuint) (size : GLint) (type : GLenum)
      (normalized : Bool) (stride : GLint) (offset : GLuint)
  | glClientActiveTexture (texture : GLenum)
  | glEnableClientState (array : GLenum)
  | glDisableClientState (array : GLenum)
  | glArrayPointerData (array : ArrayPointer) (size : Option GLint) (type : GLenum)
      (stride : GLint) (data : VoidPtr) (datalen : GLuint)
  | glArrayPointerOffset (array : ArrayPointer) (size : Option GLint) (type : GLenum)
      (stride : GLint) (offset : GLuint)
  | glDrawArrays (mode : GLenum) (first count : GLint)
  | glDrawElementsOffset (mode : GLenum) (count : GLint) (type : GLenum) (offset : GLuint)
  | glDrawElementsData (mode : GLenum) (count : GLint) (type : GLenum) (data : List UInt8)
      (datalen : GLuint)

/-- The commands that draw. -/
def GLCmd.isDraw : GLCmd → Bool
  | .glDrawArrays .. | .glDrawElementsOffset .. | .glDrawElementsData .. => true
  | _ => false

end Commands

end OpenGL
end DeviceAndroVM
