import DesktopTrial.Decimal.Layout

/-!
# Reading decimals

Decimal text as a binary64 value, rounded to nearest.  The grammar is given in
two pieces, a run of digits and the part after an exponent mark, so that the
formats that differ in what they allow around the point can share it.
-/

namespace DesktopTrial.Decimal

def digitValue (c : Char) : Nat := c.toNat - '0'.toNat

/-- The number that a run of digits spells, continuing from `start`. -/
def digitsValue (start : Nat) (ds : List Char) : Nat :=
  ds.foldl (fun n d => 10 * n + digitValue d) start

/-- `digits * 10 ^ exponent` rounded to the nearest binary64 value.  The ends of
the range are decided beforehand, so that no huge power is ever formed. -/
def toFloat (negative : Bool) (digits : Nat) (exponent : Int) : Float :=
  let magnitude :=
    if digits = 0 then 0.0
    else
      let top := ((Decimal.digits digits).length : Int) + exponent
      if 400 < top then Float.ofBits 0x7FF0000000000000
      else if top < -400 then 0.0
      else Float.ofScientific digits (exponent < 0) exponent.natAbs
  if negative then -magnitude else magnitude

/-- A decimal in pieces: sign, digits before and behind the point, exponent. -/
structure Pieces where
  negative : Bool
  whole : List Char
  fraction : List Char
  exponent : Int

def Pieces.toFloat (p : Pieces) : Float :=
  Decimal.toFloat p.negative (digitsValue (digitsValue 0 p.whole) p.fraction)
    (p.exponent - p.fraction.length)

/-- The signed exponent after an exponent mark, which must take all the text. -/
def readExponent? (text : List Char) : Option Int :=
  let (negative, ds) := match text with
    | '-' :: rest => (true, rest)
    | '+' :: rest => (false, rest)
    | rest => (false, rest)
  if ds.isEmpty || !ds.all Char.isDigit then none
  else
    let n := digitsValue 0 ds
    some (if negative then -n else n)

/-- What may follow the digits before the point. -/
def readTail? (negative : Bool) (whole fraction rest : List Char) : Option Pieces :=
  match rest with
  | [] => some ⟨negative, whole, fraction, 0⟩
  | c :: more =>
      if c == 'e' || c == 'E' then
        (readExponent? more).map fun e => ⟨negative, whole, fraction, e⟩
      else none

/-- A decimal in the lenient form: an optional sign, digits on at least one side
of the point, and an optional exponent. -/
def readLenient? (text : List Char) : Option Pieces :=
  let (negative, body) := match text with
    | '-' :: rest => (true, rest)
    | '+' :: rest => (false, rest)
    | rest => (false, rest)
  let whole := body.takeWhile Char.isDigit
  match body.dropWhile Char.isDigit with
  | '.' :: rest =>
      let fraction := rest.takeWhile Char.isDigit
      if whole.isEmpty && fraction.isEmpty then none
      else readTail? negative whole fraction (rest.dropWhile Char.isDigit)
  | rest => if whole.isEmpty then none else readTail? negative whole [] rest

/-- The words that stand for values without digits, in any case of letters. -/
def readWord? (text : List Char) : Option Float :=
  let (negative, body) := match text with
    | '-' :: rest => (true, rest)
    | '+' :: rest => (false, rest)
    | rest => (false, rest)
  let word := String.ofList (body.map Char.toLower)
  if word == "inf" || word == "infinity" then
    some (Float.ofBits (if negative then 0xFFF0000000000000 else 0x7FF0000000000000))
  else if word == "nan" then some (Float.ofBits 0x7FF8000000000000)
  else none

def read? (text : String) : Option Float :=
  match readLenient? text.toList with
  | some pieces => some pieces.toFloat
  | none => readWord? text.toList

end DesktopTrial.Decimal
