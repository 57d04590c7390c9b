import Faultline.Double.Shortest
import Faultline.Text.Quoted

namespace Faultline

/-- The declared type of a variable, a field or a site. -/
inductive ValueType where
  | int32
  | int64
  | float64
  | bool
  | char
  | string
  | object (className : String)
deriving DecidableEq, Inhabited, Repr

/-- A heap object's identity, together with the class it was created with. -/
structure Reference where
  id : Nat
  className : String
deriving DecidableEq, Inhabited

/-- A value of a running program. Two values are the same exactly when they are equal here: floats by
their bits, objects by identity. `Value.equals` is the comparison that programs perform. -/
inductive Value where
  | null
  | bool (b : Bool)
  | int32 (n : Int32)
  | int64 (n : Int64)
  | float64 (x : Double)
  | char (c : Char)
  | string (s : String)
  | object (reference : Reference)
  | boxed (inner : Value)
deriving DecidableEq, Inhabited

namespace ValueType

/-- Whether values of the type are boxed before they reach the hook. -/
def isPrimitive : ValueType → Bool
  | int32 | int64 | float64 | bool | char => true
  | string | object _ => false

/-- Whether the type has a null value. -/
def isReference (type : ValueType) : Bool := !type.isPrimitive

/-- What a variable of the type holds before the first store. -/
def default : ValueType → Value
  | int32 => .int32 0
  | int64 => .int64 0
  | float64 => .float64 .zero
  | bool => .bool false
  | char => .char (.ofNat 0)
  | string | object _ => .null

def text : ValueType → String
  | int32 => "int32"
  | int64 => "int64"
  | float64 => "float64"
  | bool => "bool"
  | char => "char"
  | string => "string"
  | object className => className

/-- The type as a constructor applied to its operand. -/
def debugText : ValueType → String
  | int32 => "Int32"
  | int64 => "Int64"
  | float64 => "Float64"
  | bool => "Bool"
  | char => "Char"
  | string => "String"
  | object className => s!"Object({quoteString className})"

def rank : ValueType → Nat
  | int32 => 0
  | int64 => 1
  | float64 => 2
  | bool => 3
  | char => 4
  | string => 5
  | object _ => 6

/-- The order of the types as listed, object types among themselves by class name. -/
def compare (a b : ValueType) : Ordering :=
  match a, b with
  | object c, object d => Ord.compare c d
  | _, _ => Ord.compare a.rank b.rank

end ValueType

/-- A value that does not have the shape an operation needs. -/
inductive ValueError where
  | unbox (expected : ValueType) (found : String)
  | notAssignable (expected : ValueType) (found : String)
deriving DecidableEq, Repr

def ValueError.message : ValueError → String
  | unbox expected found => s!"cannot unbox {found} as {expected.text}"
  | notAssignable expected found => s!"value of type {found} is not assignable to {expected.text}"

namespace Value

/-- The one type a value belongs to; null and boxed values have none. -/
def type? : Value → Option ValueType
  | null | boxed _ => none
  | bool _ => some .bool
  | int32 _ => some .int32
  | int64 _ => some .int64
  | float64 _ => some .float64
  | char _ => some .char
  | string _ => some .string
  | object reference => some (.object reference.className)

def isAssignable (value : Value) (type : ValueType) : Bool :=
  match value with
  | null => type.isReference
  | value => value.type? = some type

/-- Boxes a primitive value and leaves every other value as it is. -/
def box : Value → Value
  | bool b => boxed (bool b)
  | int32 n => boxed (int32 n)
  | int64 n => boxed (int64 n)
  | float64 x => boxed (float64 x)
  | char c => boxed (char c)
  | value => value

def describe : Value → String
  | null => "null"
  | boxed inner => s!"boxed {inner.describe}"
  | bool _ => "bool"
  | int32 _ => "int32"
  | int64 _ => "int64"
  | float64 _ => "float64"
  | char _ => "char"
  | string _ => "string"
  | object reference => reference.className

def unbox (value : Value) (type : ValueType) : Except ValueError Value :=
  match value with
  | boxed inner => if inner.isAssignable type then .ok inner else .error (.unbox type value.describe)
  | _ => .error (.unbox type value.describe)

/-- Equality as a program sees it: floats by arithmetic, objects by identity. -/
def equals : Value → Value → Bool
  | null, null => true
  | bool a, bool b => a = b
  | int32 a, int32 b => a = b
  | int64 a, int64 b => a = b
  | float64 a, float64 b => a.eq b
  | char a, char b => a = b
  | string a, string b => a = b
  | object a, object b => a.id = b.id
  | boxed a, boxed b => a.equals b
  | _, _ => false

/-- Whether two observed values count as one: floats by their bits, objects by identity, and a boxed value by
what it holds. -/
def same : Value → Value → Bool
  | float64 x, float64 y => x.bits = y.bits
  | object a, object b => a = b
  | boxed a, boxed b => a.same b
  | a, b => a.equals b

/-- The value as a branch condition. -/
def isTruthy : Value → Bool
  | null => false
  | bool b => b
  | int32 n => n != 0
  | int64 n => n != 0
  | float64 x => !x.isNaN && !x.isZero
  | char c => c.toNat != 0
  | string _ | object _ | boxed _ => true

def text : Value → String
  | null => "null"
  | bool b => if b then "true" else "false"
  | int32 n => n.toInt.repr
  | int64 n => n.toInt.repr ++ "L"
  | float64 x => x.text
  | char c => String.ofList ['\'', c, '\'']
  | string s => quoteString s
  | object reference => s!"<{reference.className}>"
  | boxed inner => s!"box({inner.text})"

/-- The value as a constructor applied to its operand. -/
def debugText : Value → String
  | null => "Null"
  | bool b => s!"Bool({b})"
  | int32 n => s!"Int32({n.toInt})"
  | int64 n => s!"Int64({n.toInt})"
  | float64 x => s!"Float64({x.text})"
  | char c => s!"Char({quoteChar c})"
  | string s => s!"Str({quoteString s})"
  | object reference => s!"Object({reference.className})"
  | boxed inner => s!"Boxed({inner.debugText})"

end Value

end Faultline
