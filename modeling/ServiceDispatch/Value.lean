import ServiceDispatch.Failure

/-!
# Values

Arguments, outputs and return values travel as values that know their type. Two values of different
types are never confused, even where one would fit the other. Types that are not listed here, such
as those that contracts declare, are known by their names.
-/

namespace ServiceDispatch

/-- The types of values. -/
inductive ValueType where
  | i32 | i64 | u8 | u16 | u32 | u64 | usize | bool | string | bytes | strings | unit
  | optionBytes | optionString | optionU64 | pair | tagged
  /-- Any other type by its full name. -/
  | other (name : String)
  deriving DecidableEq, Repr

/-- A value with its type. -/
inductive Value where
  /-- A signed 32-bit number. -/
  | i32 (n : Int32)
  /-- A signed 64-bit number. -/
  | i64 (n : Int64)
  /-- An unsigned 8-bit number. -/
  | u8 (n : UInt8)
  /-- An unsigned 16-bit number. -/
  | u16 (n : UInt16)
  /-- An unsigned 32-bit number. -/
  | u32 (n : UInt32)
  /-- An unsigned 64-bit number. -/
  | u64 (n : UInt64)
  /-- A size, 64 bits wide. -/
  | usize (n : UInt64)
  /-- A truth value. -/
  | bool (b : Bool)
  /-- A text. -/
  | string (s : String)
  /-- A sequence of bytes. -/
  | bytes (data : List UInt8)
  /-- A sequence of texts. -/
  | strings (texts : List String)
  /-- The only value of the empty tuple type. -/
  | unit
  /-- An optional sequence of bytes. -/
  | optionBytes (data : Option (List UInt8))
  /-- An optional text. -/
  | optionString (s : Option String)
  /-- An optional unsigned 64-bit number. -/
  | optionU64 (n : Option UInt64)
  /-- Two unsigned 64-bit numbers. -/
  | pair (first second : UInt64)
  /-- An unsigned 64-bit number with a truth value. -/
  | tagged (n : UInt64) (flag : Bool)
  /-- A value of any other type, by the name of its type and its content. The content is empty in
  the value that an output parameter starts from. -/
  | other (typeName content : String)
  /-- The result of an operation that has failed, where nobody has asked whether it has. -/
  | failed (error : OperationError)
  deriving DecidableEq, Repr

namespace ValueType

/-- The full name of a type as compilers report it. -/
def typeName : ValueType → String
  | i32 => "i32"
  | i64 => "i64"
  | u8 => "u8"
  | u16 => "u16"
  | u32 => "u32"
  | u64 => "u64"
  | usize => "usize"
  | bool => "bool"
  | string => "alloc::string::String"
  | bytes => "alloc::vec::Vec<u8>"
  | strings => "alloc::vec::Vec<alloc::string::String>"
  | unit => "()"
  | optionBytes => "core::option::Option<alloc::vec::Vec<u8>>"
  | optionString => "core::option::Option<alloc::string::String>"
  | optionU64 => "core::option::Option<u64>"
  | pair => "(u64, u64)"
  | tagged => "(u64, bool)"
  | other name => name

/-- A type as it is written in a signature. -/
def written : ValueType → String
  | i32 => "i32"
  | i64 => "i64"
  | u8 => "u8"
  | u16 => "u16"
  | u32 => "u32"
  | u64 => "u64"
  | usize => "usize"
  | bool => "bool"
  | string => "String"
  | bytes => "Vec<u8>"
  | strings => "Vec<String>"
  | unit => "()"
  | optionBytes => "Option<Vec<u8>>"
  | optionString => "Option<String>"
  | optionU64 => "Option<u64>"
  | pair => "(u64, u64)"
  | tagged => "(u64, bool)"
  | other name => name

/-- The value that an output parameter starts from. -/
def initial : ValueType → Value
  | i32 => .i32 0
  | i64 => .i64 0
  | u8 => .u8 0
  | u16 => .u16 0
  | u32 => .u32 0
  | u64 => .u64 0
  | usize => .usize 0
  | bool => .bool false
  | string => .string ""
  | bytes => .bytes []
  | strings => .strings []
  | unit => .unit
  | optionBytes => .optionBytes none
  | optionString => .optionString none
  | optionU64 => .optionU64 none
  | pair => .pair 0 0
  | tagged => .tagged 0 false
  | other name => .other name ""

end ValueType

namespace Value

/-- The type of a value. -/
def type : Value → ValueType
  | i32 _ => .i32
  | i64 _ => .i64
  | u8 _ => .u8
  | u16 _ => .u16
  | u32 _ => .u32
  | u64 _ => .u64
  | usize _ => .usize
  | bool _ => .bool
  | string _ => .string
  | bytes _ => .bytes
  | strings _ => .strings
  | unit => .unit
  | optionBytes _ => .optionBytes
  | optionString _ => .optionString
  | optionU64 _ => .optionU64
  | pair _ _ => .pair
  | tagged _ _ => .tagged
  | other typeName _ => .other typeName
  | failed _ => .other "core::result::Result"

/-- The value itself if it has the type asked for. -/
def ofType? (value : Value) (type : ValueType) : Option Value :=
  if value.type = type then some value else none

end Value

/-- The initial value of a type has that type. -/
@[simp] theorem ValueType.type_initial (type : ValueType) : type.initial.type = type := by
  cases type <;> rfl

end ServiceDispatch
