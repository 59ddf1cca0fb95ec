import SearchBox.Moment
import SearchBox.Store.Quantity

/- The calendar of a store: which moment a stored text or number stands for. Moments are counted in
   milliseconds from noon of the first Julian day; there are none before it and none after the year 9999.
   A day of a month and an hour of a day are taken as they are written, and come to be counted only where
   the writing is ahead of the calendar's time or behind it. -/
namespace SearchBox.Calendar

def lastMilli : Int := 464269060799999

def ofMillis? (millis : Int) : Option Moment :=
  if millis < 0 ∨ lastMilli < millis then none
  else
    let day := Moment.ofJulianDay ((millis + 43200000) / 86400000)
    let rest := ((millis + 43200000) % 86400000).toNat
    some { day with
      hour := rest / 3600000
      minute := rest / 60000 % 60
      second := rest / 1000 % 60 }

def ofNumber? (q : Quantity) : Option Moment :=
  let (num, den) := q.ratio
  let (num, den) := if num < 0 then (1, 0) else Quantity.rounded num.toNat den
  if q.beyond ≠ 0 ∨ 53734845 * den ≤ 10 * num then none
  else
    let (n, d) := Quantity.rounded (num * 86400000) den
    let (n, d) := Quantity.rounded (2 * n + d) (2 * d)
    ofMillis? (n / d : Nat)

/-- A time of a day; its seconds are a ratio, and its offset tells by how many minutes it is ahead. -/
structure Time where
  hour : Nat
  minute : Nat
  second : Nat × Nat
  offset : Int

namespace Time

/-- One figure more behind the point: the number so far, and the power of ten that it is a part of. -/
def addFigure (part : (Nat × Nat) × (Nat × Nat)) (c : Char) : (Nat × Nat) × (Nat × Nat) :=
  let ((n, d), (sn, sd)) := part
  let (n, d) := Quantity.rounded (n * 10) d
  let (n, d) := Quantity.rounded (n + c.toNat * d) d
  (Quantity.rounded (n - 48 * d) d, Quantity.rounded (sn * 10) sd)

def secondOf (whole : Nat) (figures : Text) : Nat × Nat :=
  let ((n, d), (sn, sd)) := figures.foldl addFigure ((0, 1), (1, 1))
  let (n, d) := Quantity.rounded (n * sd) (d * sn)
  Quantity.rounded (n + whole * d) d

def wholeSecond (t : Time) : Nat := t.second.1 / t.second.2

def millis (t : Time) : Int :=
  let (n, d) := Quantity.rounded (t.second.1 * 1000) t.second.2
  let (n, d) := Quantity.rounded (2 * n + d) (2 * d)
  3600000 * t.hour + 60000 * t.minute + (n / d : Nat)

end Time

def offset? (t : Text) : Option Int :=
  match t.dropWhile Quantity.isSpace with
  | [] => some 0
  | c :: t =>
    if c = 'Z' ∨ c = 'z' then (if t.all Quantity.isSpace then some 0 else none)
    else if c ≠ '+' ∧ c ≠ '-' then none
    else do
      let (hours, t) ← Moment.digits? 2 t
      let t ← Moment.expect? ':' t
      let (minutes, t) ← Moment.digits? 2 t
      if 14 < hours ∨ 59 < minutes ∨ !t.all Quantity.isSpace then none
      else
        let ahead : Int := 60 * hours + minutes
        some (if c = '-' then -ahead else ahead)

def time? (t : Text) : Option Time := do
  let (hour, t) ← Moment.digits? 2 t
  let t ← Moment.expect? ':' t
  let (minute, t) ← Moment.digits? 2 t
  if 24 < hour ∨ 59 < minute then none
  else match t with
    | ':' :: t => do
      let (second, t) ← Moment.digits? 2 t
      let (figures, t) :=
        match t with
        | '.' :: rest =>
          let figures := rest.takeWhile Quantity.isFigure
          if figures = [] then ([], t) else (figures, rest.dropWhile Quantity.isFigure)
        | _ => ([], t)
      let offset ← offset? t
      if 59 < second then none else some ⟨hour, minute, Time.secondOf second figures, offset⟩
    | _ => (offset? t).map fun offset => ⟨hour, minute, (0, 1), offset⟩

def day? (t : Text) : Option (Moment × Text) := do
  let (isNegative, t) := match t with
    | '-' :: t => (true, t)
    | _ => (false, t)
  let (year, t) ← Moment.digits? 4 t
  let t ← Moment.expect? '-' t
  let (month, t) ← Moment.digits? 2 t
  let t ← Moment.expect? '-' t
  let (day, t) ← Moment.digits? 2 t
  if month < 1 ∨ 12 < month ∨ day < 1 ∨ 31 < day then none
  else some ({ year := if isNegative then -(year : Int) else year, month, day }, t)

def dayMillis (m : Moment) : Int :=
  let (year, month) := if m.month ≤ 2 then (m.year - 1, m.month + 12) else (m.year, m.month)
  let century := Int.tdiv year 100
  let leap := 2 - century + Int.tdiv century 4
  let days := Int.tdiv (36525 * (year + 4716)) 100 + 306001 * (month + 1) / 10000 + m.day + leap
  (2 * days - 3049) * 43200000

def onDay (day : Moment) (time : Time) : Option Moment :=
  let millis := dayMillis day + time.millis
  if day.year < -4713 then none
  else if time.offset ≠ 0 then ofMillis? (millis - 60000 * time.offset)
  else (ofMillis? millis).map fun _ =>
    { day with hour := time.hour, minute := time.minute, second := time.wholeSecond }

/-- Without a day, the first one of the year 2000 is meant; midnight at its end belongs to the next. -/
def onNoDay (time : Time) : Option Moment :=
  let millis := dayMillis { year := 2000, month := 1, day := 1 } + time.millis
  if time.offset ≠ 0 then ofMillis? (millis - 60000 * time.offset)
  else (ofMillis? millis).map fun m =>
    { m with hour := time.hour, minute := time.minute, second := time.wholeSecond }

/-- A text is a day, alone or with a time behind it, or a time, or a numeral. Spaces and the letter T may
    stand between a day and its time. -/
def ofText? (t : Text) : Option Moment :=
  let t := t.takeWhile (· ≠ '\x00')
  let dated : Option (Option Moment) := do
    let (day, rest) ← day? t
    match rest.dropWhile fun c => Quantity.isSpace c || c = 'T' with
    | [] => some (onDay day ⟨0, 0, (0, 1), 0⟩)
    | rest => (time? rest).map (onDay day)
  match dated with
  | some found => found
  | none =>
    match time? t with
    | some time => onNoDay time
    | none => (Quantity.ofText? t).bind ofNumber?

end SearchBox.Calendar
