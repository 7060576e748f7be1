/-!
Names of runs: the moment a run began, in universal time, to the millisecond.
-/
namespace LintRepair.RunId

def padded (width n : Nat) : String :=
  let digits := toString n
  String.ofList (List.replicate (width - digits.length) '0') ++ digits

/-- Year, month and day of the day with this number, day 0 being the first of 1970. Years are
counted from March, so that the leap day is a year's last. -/
def civil (day : Nat) : Nat × Nat × Nat :=
  let z := day + 719468
  let era := z / 146097
  let dayOfEra := z % 146097
  let yearOfEra :=
    (dayOfEra - dayOfEra / 1460 + dayOfEra / 36524 - dayOfEra / 146096) / 365
  let dayOfYear := dayOfEra - (365 * yearOfEra + yearOfEra / 4 - yearOfEra / 100)
  let shifted := (5 * dayOfYear + 2) / 153
  let month := if shifted < 10 then shifted + 3 else shifted - 9
  let year := yearOfEra + era * 400 + (if month ≤ 2 then 1 else 0)
  (year, month, dayOfYear - (153 * shifted + 2) / 5 + 1)

/-- The name of a run that began so many milliseconds after the start of 1970. -/
def ofMilliseconds (n : Nat) : String :=
  let (year, month, day) := civil (n / 86400000)
  let rest := n % 86400000
  padded 4 year ++ padded 2 month ++ padded 2 day ++ "T" ++ padded 2 (rest / 3600000) ++
    padded 2 (rest / 60000 % 60) ++ padded 2 (rest / 1000 % 60) ++ "." ++ padded 3 (rest % 1000) ++
    "Z"

def form : String := "00000000T000000.000Z"

def isRunId (s : String) : Bool :=
  s.length = form.length &&
    (s.toList.zip form.toList).all fun p => if p.2 = '0' then p.1.isDigit else p.1 = p.2

end LintRepair.RunId
