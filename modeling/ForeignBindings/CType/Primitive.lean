/-!
# Primitive types

The types of the foreign language that correspond to a type of the emitted module by themselves,
under every spelling. The type `void` corresponds to the empty tuple.
-/

namespace ForeignBindings.CType

/-- Primitive spellings and their counterparts. -/
def primitives : List (String × String) :=
  [("void", "()"), ("bool", "bool"), ("_Bool", "bool"), ("char", "::core::ffi::c_char"),
    ("signed char", "i8"), ("unsigned char", "u8"), ("short", "i16"), ("short int", "i16"),
    ("signed short", "i16"), ("signed short int", "i16"), ("unsigned short", "u16"),
    ("unsigned short int", "u16"), ("int", "i32"), ("signed", "i32"), ("signed int", "i32"),
    ("unsigned", "u32"), ("unsigned int", "u32"), ("long", "::core::ffi::c_long"),
    ("long int", "::core::ffi::c_long"), ("signed long", "::core::ffi::c_long"),
    ("signed long int", "::core::ffi::c_long"), ("unsigned long", "::core::ffi::c_ulong"),
    ("unsigned long int", "::core::ffi::c_ulong"), ("long long", "i64"), ("long long int", "i64"),
    ("signed long long", "i64"), ("signed long long int", "i64"), ("unsigned long long", "u64"),
    ("unsigned long long int", "u64"), ("__int64", "i64"), ("unsigned __int64", "u64"),
    ("int8_t", "i8"), ("int16_t", "i16"), ("int32_t", "i32"), ("int64_t", "i64"),
    ("uint8_t", "u8"), ("uint16_t", "u16"), ("uint32_t", "u32"), ("uint64_t", "u64"),
    ("char16_t", "u16"), ("char32_t", "u32"), ("float", "f32"), ("double", "f64"),
    ("long double", "f64"), ("size_t", "usize"), ("ssize_t", "isize"), ("ptrdiff_t", "isize"),
    ("intptr_t", "isize"), ("uintptr_t", "usize")]

/-- The counterpart of a primitive spelling. -/
def primitive? (cleaned : String) : Option String := primitives.lookup cleaned

theorem mem_primitives {cleaned name : String} (known : primitive? cleaned = some name) :
    (cleaned, name) ∈ primitives := by
  obtain ⟨before, after, split, -⟩ := List.lookup_eq_some_iff.mp known
  rw [split]
  exact List.mem_append_right before List.mem_cons_self

end ForeignBindings.CType
