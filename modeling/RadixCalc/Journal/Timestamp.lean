import RadixCalc.Binary64
import RadixCalc.Journal

/-!
Times of journal lines. A time is a number of seconds from the beginning of
1970, rounded to the nearest microsecond, and is shown as a date and a time of
day in universal time. Microseconds are left out when there are none.
-/

namespace RadixCalc.Journal

/-- A magnitude rounded to a whole number; halves go to the even neighbour. -/
def roundedMagnitude (value : Float) : Nat :=
  match value.toModel.unpack with
  | .finite _ mantissa (.ofNat exponent) _ => mantissa * Nat.pow 2 exponent
  | .finite _ mantissa (.negSucc exponent) _ =>
      let unit := Nat.pow 2 (exponent + 1)
      let below := mantissa / unit
      let past := 2 * (mantissa % unit)
      if past > unit ∨ (past = unit ∧ below % 2 = 1) then below + 1 else below
  | _ => 0

def signedBy (value : Float) (magnitude : Nat) : Int :=
  if Binary64.isNegative value then -(magnitude : Int) else magnitude

/-- A moment as microseconds from the beginning of 1970. The fraction of a second is rounded by
itself. -/
def microseconds (seconds : Float) : Int :=
  let whole := signedBy seconds (Binary64.wholePart seconds)
  let fraction := (seconds - Float.ofInt whole) * 1000000.0
  whole * 1000000 + signedBy fraction (roundedMagnitude fraction)

structure Date where
  year : Int
  month : Int
  day : Int

/-- The date so many days after the first day of 1970. Years are counted from March, so that the
day that comes every four years is their last; 400 of them have 146097 days. -/
def dateOfDay (day : Int) : Date :=
  let shifted := day + 719468
  let era := shifted / 146097
  let dayOfEra := shifted % 146097
  let yearOfEra :=
    (dayOfEra - dayOfEra / 1460 + dayOfEra / 36524 - dayOfEra / 146096) / 365
  let dayOfYear := dayOfEra - (365 * yearOfEra + yearOfEra / 4 - yearOfEra / 100)
  let monthFromMarch := (5 * dayOfYear + 2) / 153
  let month := if monthFromMarch < 10 then monthFromMarch + 3 else monthFromMarch - 9
  { year := yearOfEra + era * 400 + (if month ≤ 2 then 1 else 0)
    month
    day := dayOfYear - (153 * monthFromMarch + 2) / 5 + 1 }

def padded (width : Nat) (number : Int) : String :=
  let digits := toString number.toNat
  String.ofList (List.replicate (width - digits.length) '0') ++ digits

def timestampText (seconds : Float) : String :=
  let moment := microseconds seconds
  let micros := moment % 1000000
  let second := moment / 1000000
  let date := dateOfDay (second / 86400)
  let time := second % 86400
  let day := s!"{padded 4 date.year}-{padded 2 date.month}-{padded 2 date.day}"
  let clock := s!"{padded 2 (time / 3600)}:{padded 2 (time / 60 % 60)}:{padded 2 (time % 60)}"
  if micros = 0 then s!"{day}T{clock}" else s!"{day}T{clock}.{padded 6 micros}"

namespace Record

/-- The whole line of a record. -/
def line (record : Record) (seconds : Float) : String :=
  timestampText seconds ++ " " ++ record.text

end Record

end RadixCalc.Journal
