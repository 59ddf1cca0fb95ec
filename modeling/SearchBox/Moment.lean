import SearchBox.Text.Integer

/- Moments of the calendar to the microsecond, without a time zone, and the texts they have in a store,
   in messages and in replies. Days are counted by Julian day numbers. -/
namespace SearchBox

structure Moment where
  year : Int
  month : Nat
  day : Nat
  hour : Nat := 0
  minute : Nat := 0
  second : Nat := 0
  micro : Nat := 0
  deriving DecidableEq, Repr

namespace Moment

def yearText (m : Moment) : Text :=
  if m.year < 0 then '-' :: Text.padded 4 m.year.natAbs else Text.padded 4 m.year.natAbs

def dateText (m : Moment) : Text :=
  m.yearText ++ '-' :: Text.padded 2 m.month ++ '-' :: Text.padded 2 m.day

def timeText (m : Moment) : Text :=
  Text.padded 2 m.hour ++ ':' :: Text.padded 2 m.minute ++ ':' :: Text.padded 2 m.second

/-- The form in which a store keeps a moment: texts in it are in the order of time. -/
def stored (m : Moment) : Text :=
  m.dateText ++ ' ' :: m.timeText ++ '.' :: Text.padded 6 m.micro

def iso (m : Moment) : Text :=
  m.dateText ++ 'T' :: m.timeText ++
    if m.micro = 0 then [] else '.' :: Text.padded 6 m.micro

/-- The form in which a moment stands in a listing of rows: seconds and smaller parts are left out from
    the right where they are zero. -/
def shown (m : Moment) : Text :=
  let base := [m.year, m.month, m.day, m.hour, m.minute]
  let parts : List Int :=
    if m.micro ≠ 0 then base ++ [(m.second : Int), (m.micro : Int)]
    else if m.second ≠ 0 then base ++ [(m.second : Int)]
    else base
  "datetime.datetime(".toList ++ Text.join ", ".toList (parts.map Text.ofInt) ++ [')']

def dayShown (m : Moment) : Text :=
  let parts : List Int := [m.year, m.month, m.day]
  "datetime.date(".toList ++ Text.join ", ".toList (parts.map Text.ofInt) ++ [')']

/-- The number of the day, counted in noons from the start of the Julian period. -/
def julianDay (m : Moment) : Int :=
  let shift : Int := if m.month ≤ 2 then 1 else 0
  let y := m.year + 4800 - shift
  let mon : Int := m.month + 12 * shift - 3
  m.day + (153 * mon + 2) / 5 + 365 * y + y / 4 - y / 100 + y / 400 - 32045

def weekdayNames : List Text :=
  ["Mon".toList, "Tue".toList, "Wed".toList, "Thu".toList, "Fri".toList, "Sat".toList, "Sun".toList]

def monthNames : List Text :=
  ["Jan".toList, "Feb".toList, "Mar".toList, "Apr".toList, "May".toList, "Jun".toList,
    "Jul".toList, "Aug".toList, "Sep".toList, "Oct".toList, "Nov".toList, "Dec".toList]

def weekday (m : Moment) : Nat := (m.julianDay % 7).toNat

def http (m : Moment) : Text :=
  (weekdayNames[m.weekday]?.getD []) ++ ", ".toList ++ Text.padded 2 m.day ++ ' ' ::
    (monthNames[m.month - 1]?.getD []) ++ ' ' :: m.yearText ++ ' ' :: m.timeText ++ " GMT".toList

def ofJulianDay (number : Int) : Moment :=
  let century := Int.tdiv (4 * number - 7468865) 146097
  let a := number + 1 + century - Int.tdiv century 4
  let b := a + 1524
  let c := Int.tdiv (100 * b - 12210) 36525
  let d := Int.tdiv (36525 * c) 100
  let e := Int.tdiv (10000 * (b - d)) 306001
  let month := if e < 14 then e - 1 else e - 13
  { year := if 2 < month then c - 4716 else c - 4715
    month := month.toNat
    day := (b - d - Int.tdiv (306001 * e) 10000).toNat }

def digits? (width : Nat) (t : Text) : Option (Nat × Text) :=
  let head := t.take width
  if head.length = width ∧ head.all (fun c => 48 ≤ c.toNat && c.toNat ≤ 57) then
    some (digitsValue (head.map fun c => c.toNat - 48), t.drop width)
  else none

def expect? (c : Char) : Text → Option Text
  | [] => none
  | d :: rest => if d = c then some rest else none

/-- Millionths of a second from the digits after the point; further digits do not count. -/
def fraction? : Text → Option Nat
  | [] => some 0
  | '.' :: ds =>
    if ds ≠ [] ∧ ds.all (fun c => 48 ≤ c.toNat && c.toNat ≤ 57) then
      let six := (ds ++ List.replicate 6 '0').take 6
      some (digitsValue (six.map fun c => c.toNat - 48))
    else none
  | _ => none

def clock? (day : Moment) (t : Text) : Option Moment := do
  let (hour, t) ← digits? 2 t
  let t ← expect? ':' t
  let (minute, t) ← digits? 2 t
  if 24 < hour ∨ 59 < minute then none
  else match t with
    | [] => some { day with hour, minute }
    | ':' :: t => do
      let (second, t) ← digits? 2 t
      let micro ← fraction? t
      if 59 < second then none else some { day with hour, minute, second, micro }
    | _ => none

def ofIso? (t : Text) : Option Moment := do
  let (year, t) ← digits? 4 t
  let t ← expect? '-' t
  let (month, t) ← digits? 2 t
  let t ← expect? '-' t
  let (day, t) ← digits? 2 t
  if month < 1 ∨ 12 < month ∨ day < 1 ∨ 31 < day then none
  else
    let date : Moment := { year, month, day }
    match t.dropWhile fun c => c = ' ' || c = 'T' with
    | [] => some date
    | t => clock? date t

end Moment
end SearchBox
