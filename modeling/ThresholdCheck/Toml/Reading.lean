import ThresholdCheck.Binary64.Decimal
import ThresholdCheck.Text.Quoted
import ThresholdCheck.Toml.Document

/-!
# TOML: reading values of a wanted sort

A value is read as a truth value, a text, a number, a count or a row of values, or it is a fault
that tells what it is instead. Integers are numbers too. The entries of a table are read in the
order of their keys (`inKeyOrder`).
-/

namespace ThresholdCheck.Toml

/-! ## 1. Telling what a value is -/

/-- Whether 64 bits hold an integer, with a sign or without. -/
def fits64 (n : Int) : Bool :=
  if n < 0 then n.natAbs ≤ Binary64.twoTo 63 else n.natAbs < Binary64.twoTo 64

/-- An integer, with the width that it takes where 64 bits do not hold it. -/
def integerDescription (n : Int) : String :=
  let width :=
    if fits64 n then ""
    else if n < 0 || n.natAbs < Binary64.twoTo 127 then " as i128"
    else " as u128"
  "integer `" ++ toString n ++ "`" ++ width

/-- A decimal number, with a point in it if it is finite. -/
def floatDescription (x : Binary64) : String :=
  let digits := x.toChars
  let isWhole := digits.all fun c => c.isDigit || c = '-'
  "floating point `" ++ String.ofList digits ++ (if isWhole then ".0" else "") ++ "`"

/-- What a value is. A moment is taken apart into named parts. -/
def Value.description : Value → String
  | .scalar _ (.text s) => "string " ++ String.ofList (Text.quoted s.toList)
  | .scalar _ (.boolean b) => "boolean `" ++ toString b ++ "`"
  | .scalar _ (.integer n) => integerDescription (n.getD 0)
  | .scalar _ (.float x) => floatDescription (x.getD .nan)
  | .scalar _ .moment => "map"
  | .array _ _ _ => "sequence"
  | .table _ _ _ => "map"

/-- The fault of a value that is not of the sort that is expected, or has no value at all. -/
def Value.unexpected (expected : String) (v : Value) : Fault :=
  faultAt v.span <|
    match v with
    | .scalar _ (.integer none) => "integer number overflowed"
    | .scalar _ (.float none) => "floating-point number overflowed"
    | v => "invalid type: " ++ v.description ++ ", expected " ++ expected

/-! ## 2. Reading -/

/-- A truth value. -/
def Value.readBool : Value → Except Fault Bool
  | .scalar _ (.boolean b) => .ok b
  | v => .error (v.unexpected "a boolean")

/-- A text. -/
def Value.readText : Value → Except Fault String
  | .scalar _ (.text s) => .ok s
  | v => .error (v.unexpected "a string")

/-- A number. An integer is taken for the number nearest to it. -/
def Value.readNumber : Value → Except Fault Binary64
  | .scalar _ (.float (some x)) => .ok x
  | .scalar span (.integer (some n)) =>
    if fits64 n then .ok (Binary64.ofDecimal (n < 0) n.natAbs 0)
    else .error ((Value.scalar span (.integer (some n))).unexpected "f64")
  | v => .error (v.unexpected "f64")

/-- A count of 64 bits. -/
def Value.readCount : Value → Except Fault Nat
  | .scalar span (.integer (some n)) =>
    if fits64 n && 0 ≤ n then .ok n.toNat
    else if fits64 n then
      .error (faultAt span ("invalid value: " ++ integerDescription n ++ ", expected usize"))
    else .error ((Value.scalar span (.integer (some n))).unexpected "usize")
  | v => .error (v.unexpected "usize")

/-- A row of values. -/
def Value.readItems : Value → Except Fault (List Value)
  | .array _ _ items => .ok items
  | v => .error (v.unexpected "a sequence")

/-- Puts an entry in front of the first one whose key is not below its own. -/
def insertByKey (entry : Key × Value) : List (Key × Value) → List (Key × Value)
  | [] => [entry]
  | e :: es => if entry.1.text ≤ e.1.text then entry :: e :: es else e :: insertByKey entry es

/-- The entries of a table in the order of their keys. -/
def inKeyOrder (entries : List (Key × Value)) : List (Key × Value) :=
  entries.foldr insertByKey []

/-- The fault of a key that no field has. -/
def unknownField (key : Key) (fields : List String) : Fault :=
  faultAt key.span
    ("unknown field `" ++ key.text ++ "`, expected one of " ++
      ", ".intercalate (fields.map fun f => "`" ++ f ++ "`"))

end ThresholdCheck.Toml
