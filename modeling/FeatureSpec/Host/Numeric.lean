import FeatureSpec.Text.Digit
/-!
Hosts given by their numbers: four octets between dots, or eight groups of hexadecimal digits
between colons.
-/
namespace FeatureSpec.Host

/-- Four groups of digits, each apart from the next by any one character, which may be a digit
too. -/
def looksNumeric (cs : List Char) : Bool :=
  let groups := cs.splitOnP fun c => !c.isDigit
  groups.length ≤ 4 && groups.all (fun g => !g.isEmpty) &&
    4 ≤ groups.foldl (fun n g => n + (g.length - 1) / 2) groups.length

def isOctet (cs : List Char) : Bool :=
  !cs.isEmpty && cs.all Char.isDigit && cs.length ≤ 3 && (cs == ['0'] || cs.head? != some '0') &&
    Text.ofDigits 10 (cs.map fun c => c.toNat - 48) ≤ 255

def isFourOctets (cs : List Char) : Bool :=
  let parts := cs.splitOn '.'
  parts.length == 4 && parts.all isOctet

def isHexGroup (cs : List Char) : Bool :=
  !cs.isEmpty && cs.length ≤ 4 && cs.all fun c => (Text.hexDigit? c).isSome

/-- Eight groups. One run of groups may be left out between two colons, also at an end. -/
def areGroups (parts : List (List Char)) : Bool :=
  let inner := (parts.drop 1).dropLast
  match inner.countP List.isEmpty with
  | 0 => parts.length == 8 && parts.all isHexGroup
  | 1 =>
    let (before, rest) := parts.span fun p => !p.isEmpty
    let after := if before.isEmpty then rest.drop 2 else rest.drop 1
    let after := if after == [[]] then [] else after
    before.all isHexGroup && after.all isHexGroup && before.length + after.length ≤ 7
  | _ => false

/-- Groups between colons. Four octets may stand for the last two groups. -/
def areColonGroups (cs : List Char) : Bool :=
  let parts := cs.splitOn ':'
  if parts.length < 3 then false
  else
    match parts.getLast? with
    | some last =>
      if last.contains '.' then isFourOctets last && areGroups (parts.dropLast ++ [['0'], ['0']])
      else areGroups parts
    | none => false

def isColonAddress (cs : List Char) : Bool :=
  let (address, zone) := cs.span (· != '%')
  areColonGroups address &&
    match zone with
    | [] => true
    | _ :: zone => !zone.isEmpty && !zone.contains '%'

end FeatureSpec.Host
