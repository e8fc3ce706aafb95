/-!
# Options of a generator run
-/

namespace ForeignBindings

/-- The calling convention of the native library. -/
inductive CallingConvention
  | cdecl | stdcall | fastcall
deriving Repr, DecidableEq

namespace CallingConvention

/-- All conventions, in the order in which messages list them. -/
def all : List CallingConvention := [cdecl, stdcall, fastcall]

def word : CallingConvention → String
  | cdecl => "cdecl"
  | stdcall => "stdcall"
  | fastcall => "fastcall"

/-- The name of the convention in an external block. -/
def abi : CallingConvention → String
  | cdecl => "C"
  | stdcall => "stdcall"
  | fastcall => "fastcall"

end CallingConvention

/-- What generation depends on besides the declarations. -/
structure Options where
  /-- The namespace that the emitted module is named after. -/
  scope : String
  /-- The native library to link. -/
  library : String
  convention : CallingConvention
deriving Repr, DecidableEq

end ForeignBindings
