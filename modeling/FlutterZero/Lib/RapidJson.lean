import Mathlib.Data.List.Basic

/-! # rapidjson

Values, and the accessors that assert that a value has the type that they are for.
-/

namespace FlutterZero.Lib

/-- `rapidjson::Value`, for some type of numbers. The members of an object are kept in order. -/
inductive JsonValue (ν : Type) where
  | null
  | bool (value : Bool)
  | number (value : ν)
  | string (value : List UInt8)
  | array (elements : List (JsonValue ν))
  | object (members : List (List UInt8 × JsonValue ν))

inductive JsonFault where
  /-- `RAPIDJSON_ASSERT` -/
  | assertion
deriving DecidableEq, Repr

namespace JsonValue

variable {ν : Type}

def isNull : JsonValue ν → Bool
  | null => true
  | _ => false

def isString : JsonValue ν → Bool
  | string _ => true
  | _ => false

def isArray : JsonValue ν → Bool
  | array _ => true
  | _ => false

def isObject : JsonValue ν → Bool
  | object _ => true
  | _ => false

/-- `FindMember`: the first member of the name, or `MemberEnd()`. -/
def findMember (name : List UInt8) : JsonValue ν → Except JsonFault (Option (JsonValue ν))
  | object members => .ok (members.lookup name)
  | _ => .error .assertion

/-- `std::string(GetString())`, which ends at the first NUL. -/
def getString : JsonValue ν → Except JsonFault (List UInt8)
  | string value => .ok (value.takeWhile (· ≠ 0))
  | _ => .error .assertion

def size : JsonValue ν → Except JsonFault Nat
  | array elements => .ok elements.length
  | _ => .error .assertion

/-- `operator[]`. -/
def element (index : Nat) : JsonValue ν → Except JsonFault (JsonValue ν)
  | array elements =>
    match elements[index]? with
    | some value => .ok value
    | none => .error .assertion
  | _ => .error .assertion

end JsonValue

end FlutterZero.Lib
