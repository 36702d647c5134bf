import ServiceDispatch.Datum
import ServiceDispatch.Value

/-!
# Values as data

A value is stored as a table with one entry, whose name tells its type.
-/

namespace ServiceDispatch

namespace ValueType

/-- The types of stored values. -/
def all : List ValueType :=
  [i32, i64, u8, u16, u32, u64, usize, bool, string, bytes, strings, unit, optionBytes,
   optionString, optionU64, pair, tagged]

/-- The name of a type in stored values. -/
def tag : ValueType → String
  | i32 => "i32"
  | i64 => "i64"
  | u8 => "u8"
  | u16 => "u16"
  | u32 => "u32"
  | u64 => "u64"
  | usize => "usize"
  | bool => "bool"
  | string => "string"
  | bytes => "bytes"
  | strings => "strings"
  | unit => "unit"
  | optionBytes => "option_bytes"
  | optionString => "option_string"
  | optionU64 => "option_u64"
  | pair => "pair"
  | tagged => "tagged"
  | other name => name

/-- The type of a name. -/
def ofTag? (name : String) : Option ValueType := all.find? fun type => type.tag = name

end ValueType

namespace Value

/-- A byte as data. -/
def byteDatum (b : UInt8) : Datum := .integer b.toNat

/-- A long number as data. -/
def longDatum (n : UInt64) : Datum := .integer n.toNat

/-- A value as data, without its type. -/
def toDatum : Value → Datum
  | i32 n => .integer n.toInt
  | i64 n => .integer n.toInt
  | u8 n => byteDatum n
  | u16 n => .integer n.toNat
  | u32 n => .integer n.toNat
  | u64 n => longDatum n
  | usize n => longDatum n
  | bool b => .flag b
  | string s => .text s
  | bytes data => .list (data.map byteDatum)
  | strings texts => .list (texts.map .text)
  | unit => .null
  | optionBytes data => .ofOption (fun data => .list (data.map byteDatum)) data
  | optionString s => .ofOption .text s
  | optionU64 n => .ofOption longDatum n
  | pair first second => .list [longDatum first, longDatum second]
  | tagged n flag => .list [longDatum n, .flag flag]
  | other _ content => .text content
  | failed error => .text (Failure.surface error).message

/-- A value as data, with its type. -/
def toTagged (value : Value) : Datum := .table [(value.type.tag, value.toDatum)]

/-- Reads a byte. -/
def byte? (datum : Datum) : Option UInt8 := (datum.nat? 0x100).map .ofNat

/-- Reads a long number. -/
def long? (datum : Datum) : Option UInt64 := (datum.nat? Datum.wordBound).map .ofNat

/-- Reads a value of a type. -/
def ofDatum? : ValueType → Datum → Option Value
  | .i32, datum => do return i32 (.ofInt (← datum.integer?))
  | .i64, datum => do return i64 (.ofInt (← datum.integer?))
  | .u8, datum => do return u8 (← byte? datum)
  | .u16, datum => do return u16 (.ofNat (← datum.nat? 0x10000))
  | .u32, datum => do return u32 (.ofNat (← datum.nat? 0x100000000))
  | .u64, datum => do return u64 (← long? datum)
  | .usize, datum => do return usize (← long? datum)
  | .bool, datum => do return bool (← datum.flag?)
  | .string, datum => do return string (← datum.text?)
  | .bytes, datum => do return bytes (← datum.each? byte?)
  | .strings, datum => do return strings (← datum.each? Datum.text?)
  | .unit, _ => some unit
  | .optionBytes, datum => do
    return optionBytes (← Datum.option? (Datum.each? byte?) datum)
  | .optionString, datum => do return optionString (← Datum.option? Datum.text? datum)
  | .optionU64, datum => do return optionU64 (← Datum.option? long? datum)
  | .pair, .list [first, second] => do return pair (← long? first) (← long? second)
  | .tagged, .list [n, flag] => do return tagged (← long? n) (← flag.flag?)
  | .other name, datum => do return other name (← datum.text?)
  | _, _ => none

/-- Reads a value with its type. -/
def ofTagged? : Datum → Option Value
  | .table [(name, datum)] => do ofDatum? (← ValueType.ofTag? name) datum
  | _ => none

end Value

end ServiceDispatch
