import FeatureSpec.Text.Digit
/-!
Dates and times of day of TOML, alone or together, with or without an offset from UTC.
-/
namespace FeatureSpec.Toml

structure Date where
  year : Nat
  month : Nat
  day : Nat
  deriving DecidableEq, Repr

structure Time where
  hour : Nat
  minute : Nat
  second : Nat
  microsecond : Nat
  deriving DecidableEq, Repr

inductive Moment where
  | date (d : Date)
  | time (t : Time)
  /-- A time of a day; the offset is in minutes. -/
  | dateTime (d : Date) (t : Time) (offset : Option Int)
  deriving DecidableEq, Repr

namespace Date

def isLeap (year : Nat) : Bool := year % 4 == 0 && (year % 100 != 0 || year % 400 == 0)

def daysIn (year month : Nat) : Nat :=
  match month with
  | 2 => if isLeap year then 29 else 28
  | 4 | 6 | 9 | 11 => 30
  | _ => 31

def isValid (d : Date) : Bool := 1 ≤ d.year && d.day ≤ daysIn d.year d.month

end Date

def fixedDigits? : Nat → Nat → List Char → Option (Nat × List Char)
  | 0, n, cs => some (n, cs)
  | _ + 1, _, [] => none
  | count + 1, n, c :: cs => do
    let d ← Text.asciiDigit? c
    fixedDigits? count (10 * n + d) cs

def twoDigits? (low high : Nat) (cs : List Char) : Option (Nat × List Char) := do
  let (n, rest) ← fixedDigits? 2 0 cs
  if low ≤ n ∧ n ≤ high then return (n, rest) else none

def after? (c : Char) : List Char → Option (List Char)
  | [] => none
  | d :: rest => if d == c then some rest else none

namespace Date

def span? (cs : List Char) : Option (Date × List Char) := do
  let (year, rest) ← fixedDigits? 4 0 cs
  let (month, rest) ← twoDigits? 1 12 (← after? '-' rest)
  let (day, rest) ← twoDigits? 1 31 (← after? '-' rest)
  return (⟨year, month, day⟩, rest)

end Date

namespace Time

/-- The microseconds that digits after the point stand for; those beyond the sixth are dropped. -/
def microsecondsOf (digits : List Char) : Nat :=
  Text.ofDigits 10 (((digits ++ List.replicate 6 '0').take 6).map fun c => c.toNat - 48)

def span? (cs : List Char) : Option (Time × List Char) := do
  let (hour, rest) ← twoDigits? 0 23 cs
  let (minute, rest) ← twoDigits? 0 59 (← after? ':' rest)
  let (second, rest) ← twoDigits? 0 59 (← after? ':' rest)
  match rest with
  | '.' :: d :: more =>
    if d.isDigit then
      let (digits, more) := (d :: more).span Char.isDigit
      return (⟨hour, minute, second, microsecondsOf digits⟩, more)
    else return (⟨hour, minute, second, 0⟩, rest)
  | _ => return (⟨hour, minute, second, 0⟩, rest)

end Time

namespace Moment

def spanOffset? (cs : List Char) : Option (Int × List Char) := do
  let (hour, rest) ← twoDigits? 0 23 cs
  let (minute, rest) ← twoDigits? 0 59 (← after? ':' rest)
  return ((60 * hour + minute : Nat), rest)

def offset (cs : List Char) : Option Int × List Char :=
  match cs with
  | c :: rest =>
    if c == 'Z' || c == 'z' then (some 0, rest)
    else if c == '+' then
      match spanOffset? rest with
      | some (n, rest) => (some n, rest)
      | none => (none, cs)
    else if c == '-' then
      match spanOffset? rest with
      | some (n, rest) => (some (-n), rest)
      | none => (none, cs)
    else (none, cs)
  | [] => (none, cs)

def ofDate (d : Date) (cs : List Char) : Moment × List Char :=
  match cs with
  | c :: rest =>
    if c == 'T' || c == 't' || c == ' ' then
      match Time.span? rest with
      | some (t, rest) =>
        let (o, rest) := offset rest
        (.dateTime d t o, rest)
      | none => (.date d, cs)
    else (.date d, cs)
  | [] => (.date d, cs)

def listed (ns : List Nat) : String := ", ".intercalate (ns.map toString)

def timeParts (t : Time) : List Nat :=
  if t.microsecond ≠ 0 then [t.hour, t.minute, t.second, t.microsecond]
  else if t.second ≠ 0 then [t.hour, t.minute, t.second]
  else [t.hour, t.minute]

/-- An offset as messages show it, a negative one from the day before. -/
def shownOffset (minutes : Int) : String :=
  if minutes = 0 then "datetime.timezone.utc"
  else if 0 < minutes then s!"datetime.timezone(datetime.timedelta(seconds={60 * minutes}))"
  else s!"datetime.timezone(datetime.timedelta(days=-1, seconds={86400 + 60 * minutes}))"

def shown : Moment → String
  | .date d => s!"datetime.date({listed [d.year, d.month, d.day]})"
  | .time t => s!"datetime.time({listed (timeParts t)})"
  | .dateTime d t o =>
    let parts := listed ([d.year, d.month, d.day] ++ timeParts t)
    let zone := match o with
      | some minutes => ", tzinfo=" ++ shownOffset minutes
      | none => ""
    s!"datetime.datetime({parts}{zone})"

end Moment
end FeatureSpec.Toml
