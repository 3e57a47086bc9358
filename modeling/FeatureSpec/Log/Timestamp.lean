import FeatureSpec.Failure
/-!
Points in time, in microseconds since the start of 1970 in UTC, and their texts.
-/
namespace FeatureSpec.Log

structure Timestamp where
  micros : Int
  deriving DecidableEq, Repr

structure Day where
  year : Int
  month : Nat
  day : Nat
  deriving DecidableEq, Repr

namespace Day

/-- The day that comes `n` days after the start of 1970. Years are counted from March on, in
cycles of 400 years, so that a leap day ends its year. -/
def ofNumber (n : Int) : Day :=
  let z := n + 719468
  let cycle := z / 146097
  let inCycle := (z % 146097).toNat
  let year := (inCycle - inCycle / 1460 + inCycle / 36524 - inCycle / 146096) / 365
  let inYear := inCycle - (365 * year + year / 4 - year / 100)
  let month := (5 * inYear + 2) / 153
  let day := inYear - (153 * month + 2) / 5 + 1
  let january := 10 ≤ month
  { year := cycle * 400 + year + (if january then 1 else 0)
    month := if january then month - 9 else month + 3
    day }

end Day

namespace Timestamp

def epoch : Timestamp := ⟨0⟩

def nearest : Binary64 → Nat
  | .finite _ m e _ =>
    let (num, den) := Binary64.ratio m e
    Binary64.roundDiv num den
  | _ => 0

def seconds (t : Timestamp) : Int := t.micros / 1000000

def day (t : Timestamp) : Day := Day.ofNumber (t.seconds / 86400)

/-- A moment that the calendar has: its seconds fit a word of 64 bits, its year counted from 1900
one of 32 bits, and its year lies between 1 and 9999. -/
def check (t : Timestamp) : Except Failure Timestamp :=
  let year := t.day.year
  if t.seconds < -Int.pow 2 63 ∨ Int.pow 2 63 ≤ t.seconds then .error .overflow
  else if year - 1900 < -Int.pow 2 31 ∨ Int.pow 2 31 ≤ year - 1900 then .error .oversizedTime
  else if 1 ≤ year ∧ year ≤ 9999 then .ok t
  else .error (.value (.yearOutOfRange (year.bmod (Nat.pow 2 32))))

def ofWholeSeconds (n : Int) : Except Failure Timestamp := check ⟨n * 1000000⟩

def ofSeconds : Binary64 → Except Failure Timestamp
  | .finite negative m e _ =>
    let (num, den) := Binary64.ratio m e
    let whole := num / den
    let micros := nearest (Binary64.ofRatio false (num % den * 1000000) den)
    let total : Int := ((whole * 1000000 + micros : Nat) : Int)
    check ⟨if negative then -total else total⟩
  | .infinite _ => .error .overflow
  | .nan => .error (.value .notNumberAsTime)

/-- The first second whose time of day can be told, which takes a day of the calendar before
it: that of the second day. -/
def firstClock : Int := -62135510400

def checkClock (t : Timestamp) : Except Failure Unit :=
  if t.seconds < firstClock then .error (.value (.yearOutOfRange 0)) else .ok ()

def padded (width n : Nat) : String :=
  let digits := Nat.toDigits 10 n
  String.ofList (List.replicate (width - digits.length) '0' ++ digits)

def secondOfDay (t : Timestamp) : Nat := (t.seconds % 86400).toNat

def clock (t : Timestamp) : String :=
  let s := t.secondOfDay
  padded 2 (s / 3600) ++ ":" ++ padded 2 (s / 60 % 60) ++ ":" ++ padded 2 (s % 60)

/-- Date and time of day with the offset of UTC; microseconds only where there are some. -/
def text (t : Timestamp) : String :=
  let day := t.day
  let micros := (t.micros % 1000000).toNat
  let fraction := if micros = 0 then "" else "." ++ padded 6 micros
  padded 4 day.year.toNat ++ "-" ++ padded 2 day.month ++ "-" ++ padded 2 day.day ++ "T" ++
    t.clock ++ fraction ++ "+00:00"

end Timestamp
end FeatureSpec.Log
