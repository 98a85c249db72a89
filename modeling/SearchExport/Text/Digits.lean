/-!
# Decimal digits

Writing natural numbers and integers in base ten, and reading runs of digits.
-/

set_option autoImplicit false

namespace SearchExport.Text

/-- The digit with the given value. -/
def digitChar (n : Nat) : Char := Char.ofNat (48 + n % 10)

/-- The decimal digits of `n` in front of `rest`; `fuel` bounds their number. -/
def digitsOnto (fuel n : Nat) (rest : List Char) : List Char :=
  match fuel with
  | 0 => rest
  | fuel + 1 =>
    let rest := digitChar n :: rest
    if n < 10 then rest else digitsOnto fuel (n / 10) rest

/-- The decimal digits of a natural number, most significant first. -/
def digits (n : Nat) : List Char := digitsOnto (n + 1) n []

/-- The decimal digits of a natural number, filled up with zeros to at least `width` places. -/
def paddedDigits (width n : Nat) : List Char :=
  let ds := digits n
  List.replicate (width - ds.length) '0' ++ ds

/-- An integer in base ten. -/
def integer (i : Int) : List Char :=
  if i < 0 then '-' :: digits i.natAbs else digits i.natAbs

/-- The text of a natural number in base ten. -/
def ofNat (n : Nat) : String := String.ofList (digits n)

/-- The value of a digit in a base up to sixteen. -/
def digitValue? (base : Nat) (c : Char) : Option Nat :=
  let n := c.toNat
  let v :=
    if 48 ≤ n && n ≤ 57 then some (n - 48)
    else if 97 ≤ n && n ≤ 102 then some (n - 87)
    else if 65 ≤ n && n ≤ 70 then some (n - 55)
    else none
  v.bind fun d => if d < base then some d else none

/-- One of the ten decimal digits. -/
def isDigit (c : Char) : Bool := 48 ≤ c.toNat && c.toNat ≤ 57

/-- The number that a run of digits denotes, the digits before it denoting `acc`. -/
def numberFrom (base : Nat) (acc : Nat) (cs : List Char) : Nat :=
  cs.foldl (fun n c => n * base + (digitValue? base c).getD 0) acc

/-- The number that a run of digits denotes. -/
def number (base : Nat) (cs : List Char) : Nat := numberFrom base 0 cs

/-- A decimal natural number that fills the whole list. -/
def nat? (cs : List Char) : Option Nat :=
  if !cs.isEmpty && cs.all isDigit then some (number 10 cs) else none

/-- A decimal number that fills the whole list, with an optional plus sign, at most `top`. -/
def natWithin? (top : Nat) (cs : List Char) : Option Nat :=
  let cs := match cs with
    | '+' :: rest => rest
    | _ => cs
  (nat? cs).bind fun n => if n ≤ top then some n else none

end SearchExport.Text
