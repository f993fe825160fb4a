import OpenHoundOkta.Library.PythonText
import Mathlib.Algebra.Order.Field.Rat
import Mathlib.Algebra.Order.Field.Power

/-! `float` of Python with its infinities and NaN, and the texts that `int` and `float`
read. Finite numbers are exact; a magnitude that binary64 rounds past its range is an
infinity when read from text. The decimal digits of Unicode are a parameter. -/
namespace OpenHoundOkta.PythonNumbers
open PythonText

inductive PyFloat where
  | finite (value : ℚ)
  | plusInfinity
  | minusInfinity
  | nan
  deriving DecidableEq

namespace PyFloat

/- Every comparison with NaN is False. -/
def lt : PyFloat → PyFloat → Bool
  | finite a,finite b => a < b
  | minusInfinity,finite _ | minusInfinity,plusInfinity | finite _,plusInfinity => true
  | _,_ => false

def eq : PyFloat → PyFloat → Bool
  | finite a,finite b => a = b
  | plusInfinity,plusInfinity | minusInfinity,minusInfinity => true
  | _,_ => false

def le (a b : PyFloat) : Bool := a.lt b || a.eq b

/- `max(a,b)` and `min(a,b)` keep the first argument unless the second compares past it. -/
def pyMax (a b : PyFloat) : PyFloat := if a.lt b then b else a
def pyMin (a b : PyFloat) : PyFloat := if b.lt a then b else a

def neg : PyFloat → PyFloat
  | finite a => finite (-a)
  | plusInfinity => minusInfinity
  | minusInfinity => plusInfinity
  | nan => nan

def add : PyFloat → PyFloat → PyFloat
  | finite a,finite b => finite (a + b)
  | nan,_ | _,nan | plusInfinity,minusInfinity | minusInfinity,plusInfinity => nan
  | plusInfinity,_ | _,plusInfinity => plusInfinity
  | minusInfinity,_ | _,minusInfinity => minusInfinity

def sub (a b : PyFloat) : PyFloat := a.add b.neg

def divInt : PyFloat → Int → PyFloat
  | finite a,n => finite (a / (n : ℚ))
  | plusInfinity,_ => plusInfinity
  | minusInfinity,_ => minusInfinity
  | nan,_ => nan

def isFinite : PyFloat → Bool
  | finite _ => true
  | _ => false

@[simp] theorem ltFinite (a b : ℚ) : lt (finite a) (finite b) = decide (a < b) := rfl
@[simp] theorem eqFinite (a b : ℚ) : eq (finite a) (finite b) = decide (a = b) := rfl
@[simp] theorem addFinite (a b : ℚ) : add (finite a) (finite b) = finite (a + b) := rfl
@[simp] theorem divIntFinite (a : ℚ) (n : Int) : divInt (finite a) n = finite (a / (n : ℚ)) := rfl

@[simp] theorem subFinite (a b : ℚ) : sub (finite a) (finite b) = finite (a - b) := by
  rw [sub_eq_add_neg]
  rfl

@[simp] theorem leFinite (a b : ℚ) : le (finite a) (finite b) = decide (a ≤ b) := by
  simp [le,le_iff_lt_or_eq]

@[simp] theorem pyMaxFinite (a b : ℚ) : pyMax (finite a) (finite b) = finite (max a b) := by
  simp only [pyMax,ltFinite,decide_eq_true_eq]
  split
  · rename_i less
    rw [max_eq_right less.le]
  · rename_i less
    rw [max_eq_left (not_lt.mp less)]

@[simp] theorem pyMinFinite (a b : ℚ) : pyMin (finite a) (finite b) = finite (min a b) := by
  simp only [pyMin,ltFinite,decide_eq_true_eq]
  split
  · rename_i less
    rw [min_eq_right less.le]
  · rename_i less
    rw [min_eq_left (not_lt.mp less)]

theorem isFiniteIff {a : PyFloat} : a.isFinite = true ↔ ∃ value, a = finite value := by
  cases a <;> simp [isFinite]

end PyFloat

def asciiDigit (c : Char) : Option Nat := if c.isDigit then some (c.toNat - '0'.toNat) else none

/- The space around a number. `str.strip` also removes the separators U+001C to U+001F. -/
def numberSpace (c : Char) : Bool := isSpace c && !(0x1c ≤ c.toNat && c.toNat ≤ 0x1f)

def stripNumber (s : String) : String := String.ofList (rstrip numberSpace (lstrip numberSpace s.toList))

variable (digit : Char → Option Nat)

def digits : Text → Option (List Nat)
  | [] => none
  | [c] => (digit c).map (fun d => [d])
  | c :: '_' :: rest => do
    let d ← digit c
    let tail ← digits rest
    some (d::tail)
  | c::rest => do
    let d ← digit c
    let tail ← digits rest
    some (d::tail)

def decimal (ds : List Nat) : Nat := ds.foldl (fun n d => 10 * n + d) 0

def signed : Text → Bool × Text
  | '-' :: rest => (true,rest)
  | '+' :: rest => (false,rest)
  | s => (false,s)

def applySign (negative : Bool) (n : Int) : Int := if negative then -n else n

def maxStrDigits : Nat := 4300

/- `int(s)`, missing where it raises ValueError. -/
def intOf (s : String) : Option Int := do
  let (negative,rest) := signed (stripNumber s).toList
  let ds ← digits digit rest
  if maxStrDigits < ds.length then none else some (applySign negative (decimal ds))

def optionalDigits : Text → Option (List Nat)
  | [] => some []
  | s => digits digit s

def mantissa (s : Text) : Option (List Nat × Nat) :=
  match cut '.' s with
  | (whole,none) => (digits digit whole).map (fun ds => (ds,0))
  | (whole,some fraction) => do
    let ds ← optionalDigits digit whole
    let fs ← optionalDigits digit fraction
    if ds = [] ∧ fs = [] then none else some (ds ++ fs,fs.length)

def exponent (s : Text) : Option Int := do
  let (negative,rest) := signed s
  let ds ← digits digit rest
  some (applySign negative (decimal ds))

/- The smallest magnitude that binary64 rounds past its largest number. -/
def overflowMagnitude : Nat := 2 ^ 1024 - 2 ^ 970

def readFloat (negative : Bool) (magnitude : ℚ) : PyFloat :=
  if (overflowMagnitude : ℚ) ≤ magnitude then
    if negative then .minusInfinity else .plusInfinity
  else .finite (if negative then -magnitude else magnitude)

def floatOf (s : String) : Option PyFloat :=
  let (negative,rest) := signed (stripNumber s).toList
  let lower := rest.map Char.toLower
  if lower = "inf".toList ∨ lower = "infinity".toList then
    some (if negative then .minusInfinity else .plusInfinity)
  else if lower = "nan".toList then some .nan
  else do
    let (front,back) := cut 'e' (rest.map (fun c => if c = 'E' then 'e' else c))
    let (ds,places) ← mantissa digit front
    let e ← match back with
      | none => some 0
      | some back => exponent digit back
    some (readFloat negative ((decimal ds : ℚ) * 10 ^ (e - places)))

example : floatOf asciiDigit " -1_0.5e+1 " = some (.finite (-105)) := by decide +kernel

/- `round(value, n)`: to the nearest multiple of `10 ^ -n`, half to even. -/
def pyRound (n : ℕ) (value : ℚ) : ℚ :=
  let scaled := value * 10 ^ n
  let part := scaled - scaled.floor
  let nearest := if part < 1 / 2 ∨ part = 1 / 2 ∧ scaled.floor % 2 = 0 then scaled.floor else scaled.floor + 1
  nearest / 10 ^ n

end OpenHoundOkta.PythonNumbers
