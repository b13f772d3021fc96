import DesktopTrial.Decimal.Shortest

/-!
# Layouts of decimal text

How the digits of a number are laid out on the page: where the decimal point
goes, when an exponent is written instead, and what stands for the values that
have no digits.  Each format that prints numbers owns one `Layout`.
-/

namespace DesktopTrial.Decimal

/-- The decisions of one number format. -/
structure Layout where
  /-- Powers of ten of the leading digit that are written without an exponent. -/
  positional : Int → Bool
  /-- A whole number keeps a final `.0`. -/
  pointZero : Bool
  /-- A positive exponent carries its sign. -/
  exponentPlus : Bool
  tie : Tie
  nan : String
  infinity : String
  negativeInfinity : String

def digits (n : Nat) : List Char := Nat.toDigits 10 n

def ofNat (n : Nat) : String := String.ofList (digits n)

def ofInt (n : Int) : String :=
  String.ofList (if n < 0 then '-' :: digits n.natAbs else digits n.natAbs)

def zeros (n : Nat) : List Char := List.replicate n '0'

/-- Digits with the point put where the exponent says. -/
def Layout.positionalChars (layout : Layout) (ds : List Char) (exponent : Int) : List Char :=
  let lead := exponent + ds.length - 1
  if 0 ≤ exponent then
    ds ++ zeros exponent.toNat ++ (if layout.pointZero then ['.', '0'] else [])
  else if 0 ≤ lead then
    ds.take (lead.toNat + 1) ++ '.' :: ds.drop (lead.toNat + 1)
  else
    '0' :: '.' :: zeros ((-lead).toNat - 1) ++ ds

/-- One digit before the point, the rest behind it, and the power of ten. -/
def Layout.exponentialChars (layout : Layout) (ds : List Char) (exponent : Int) : List Char :=
  let lead := exponent + ds.length - 1
  let mantissa := match ds with
    | [] => []
    | [d] => [d]
    | d :: rest => d :: '.' :: rest
  let sign := if lead < 0 then ['-'] else if layout.exponentPlus then ['+'] else []
  mantissa ++ 'e' :: sign ++ digits lead.natAbs

def Layout.chars (layout : Layout) (d : Scaled) : List Char :=
  let ds := digits d.digits
  if layout.positional (d.exponent + ds.length - 1) then
    layout.positionalChars ds d.exponent
  else layout.exponentialChars ds d.exponent

/-- The text of a binary64 value. -/
def Layout.text (layout : Layout) (x : Float) : String :=
  let bits := x.toBits
  if x.isNaN then layout.nan
  else if x.isInf then
    if signBit bits then layout.negativeInfinity else layout.infinity
  else
    let magnitude := Binary.ofBits bits
    let body :=
      if magnitude.significand = 0 then
        '0' :: (if layout.pointZero then ['.', '0'] else [])
      else layout.chars (magnitude.shortest layout.tie)
    String.ofList (if signBit bits then '-' :: body else body)

/-- Numbers in messages: never an exponent, and no point after a whole number. -/
def plain : Layout where
  positional _ := true
  pointZero := false
  exponentPlus := false
  tie := .up
  nan := "NaN"
  infinity := "inf"
  negativeInfinity := "-inf"

example : plain.text 1e22 = "10000000000000000000000" := by decide +kernel
example : plain.text (-0.0) = "-0" := by decide +kernel
example : plain.text 0.0000051 = "0.0000051" := by decide +kernel
example : plain.text (0.1 + 0.2) = "0.30000000000000004" := by decide +kernel

end DesktopTrial.Decimal
