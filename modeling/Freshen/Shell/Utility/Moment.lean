import Freshen.Shell.Floating
/-! Points in time as they are written: days of the calendar, times of the day, and what lies a
number of units before or after now. -/

namespace Freshen.Shell.Moment

def dayNumber (year : Int) (month day : Nat) : Int :=
  let y := if month ≤ 2 then year - 1 else year
  let era := Int.fdiv y 400
  let yearOfEra := (y - era * 400).toNat
  let shifted := (month + 9) % 12
  let dayOfYear := (153 * shifted + 2) / 5 + day - 1
  let dayOfEra := yearOfEra * 365 + yearOfEra / 4 - yearOfEra / 100 + dayOfYear
  era * 146097 + dayOfEra - 719468

def calendar (number : Int) : Int × Nat × Nat :=
  let z := number + 719468
  let era := Int.fdiv z 146097
  let dayOfEra := (z - era * 146097).toNat
  let yearOfEra := (dayOfEra - dayOfEra / 1460 + dayOfEra / 36524 - dayOfEra / 146096) / 365
  let dayOfYear := dayOfEra - (365 * yearOfEra + yearOfEra / 4 - yearOfEra / 100)
  let shifted := (5 * dayOfYear + 2) / 153
  let day := dayOfYear - (153 * shifted + 2) / 5 + 1
  let month := if shifted < 10 then shifted + 3 else shifted - 9
  let year := (yearOfEra : Int) + era * 400
  (if month ≤ 2 then year + 1 else year, month, day)

def isLeap (year : Int) : Bool := year % 4 = 0 && (year % 100 ≠ 0 || year % 400 = 0)

def daysIn (year : Int) (month : Nat) : Nat :=
  if month = 2 then if isLeap year then 29 else 28
  else if [4, 6, 9, 11].contains month then 30 else 31

def second : Int := 1000000000

def ofParts? (year : Int) (month day hour minute sec : Nat) (nanoseconds : Nat) : Option Int :=
  if month < 1 || month > 12 || day < 1 || day > daysIn year month || hour > 23 || minute > 59 ||
      sec > 60 then none
  else
    let seconds := dayNumber year month day * 86400 + (hour * 3600 + minute * 60 + sec : Nat)
    some (seconds * second + nanoseconds)

structure Parts where
  year : Int
  month : Nat
  day : Nat
  hour : Nat
  minute : Nat
  sec : Nat
  nanoseconds : Nat
  weekday : Nat
  dayOfYear : Nat
  seconds : Int

def parts (moment : Int) : Parts :=
  let seconds := Int.fdiv moment second
  let days := Int.fdiv seconds 86400
  let ofDay := (seconds - days * 86400).toNat
  let (year, month, day) := calendar days
  { year, month, day
    hour := ofDay / 3600
    minute := ofDay / 60 % 60
    sec := ofDay % 60
    nanoseconds := (moment - seconds * second).toNat
    weekday := ((days + 4) % 7).toNat
    dayOfYear := (days - dayNumber year 1 1).toNat + 1
    seconds }

def two (n : Nat) : String := Floating.padded 2 n

def weekdays : List String :=
  ["Sunday", "Monday", "Tuesday", "Wednesday", "Thursday", "Friday", "Saturday"]

def months : List String :=
  ["January", "February", "March", "April", "May", "June", "July", "August", "September",
    "October", "November", "December"]

def short (name : String) : String := (name.take 3).toString

def spaced (n : Nat) : String := if n < 10 then " " ++ toString n else toString n

def week (p : Parts) : Int × Nat :=
  let weekday := if p.weekday = 0 then 7 else p.weekday
  let days := dayNumber p.year p.month p.day
  let thursday := days - weekday + 4
  let year := (calendar thursday).1
  (year, ((thursday - dayNumber year 1 1) / 7).toNat + 1)

def format (p : Parts) : Nat → List Char → String
  | 0, _ => ""
  | _, [] => ""
  | n + 1, '%' :: c :: r =>
    let (plain, c, r) : Bool × Char × List Char := match c, r with
      | '-', c :: r => (true, c, r)
      | c, r => (false, c, r)
    let number (width k : Nat) : String := if plain then toString k else Floating.padded width k
    let hour12 := if p.hour % 12 = 0 then 12 else p.hour % 12
    let weekday := weekdays.getD p.weekday ""
    let month := months.getD (p.month - 1) ""
    let day := s!"{p.year}-{two p.month}-{two p.day}"
    let time := s!"{two p.hour}:{two p.minute}:{two p.sec}"
    let text : String := match c with
      | 'Y' => toString p.year
      | 'C' => number 2 (p.year / 100).toNat
      | 'y' => number 2 (p.year % 100).toNat
      | 'm' => number 2 p.month
      | 'd' => number 2 p.day
      | 'e' => if plain then toString p.day else spaced p.day
      | 'H' => number 2 p.hour
      | 'I' => number 2 hour12
      | 'k' => spaced p.hour
      | 'l' => spaced hour12
      | 'M' => number 2 p.minute
      | 'S' => number 2 p.sec
      | 'N' => Floating.padded 9 p.nanoseconds
      | 's' => toString p.seconds
      | 'j' => number 3 p.dayOfYear
      | 'p' => if p.hour < 12 then "AM" else "PM"
      | 'P' => if p.hour < 12 then "am" else "pm"
      | 'a' => short weekday
      | 'A' => weekday
      | 'b' | 'h' => short month
      | 'B' => month
      | 'u' => toString (if p.weekday = 0 then 7 else p.weekday)
      | 'w' => toString p.weekday
      | 'V' => number 2 (week p).2
      | 'G' => toString (week p).1
      | 'U' => number 2 ((p.dayOfYear + 6 - p.weekday) / 7)
      | 'W' => number 2 ((p.dayOfYear + 6 - (p.weekday + 6) % 7) / 7)
      | 'F' => day
      | 'T' | 'X' => time
      | 'R' => s!"{two p.hour}:{two p.minute}"
      | 'D' | 'x' => s!"{two p.month}/{two p.day}/{two ((p.year % 100).toNat)}"
      | 'r' =>
        let half := if p.hour < 12 then "AM" else "PM"
        s!"{two hour12}:{two p.minute}:{two p.sec} {half}"
      | 'c' => s!"{short weekday} {short month} {spaced p.day} {time} {p.year}"
      | 'z' => "+0000"
      | ':' => "+00:00"
      | 'Z' => "UTC"
      | 'n' => "\n"
      | 't' => "\t"
      | '%' => "%"
      | c => "%" ++ c.toString
    let r := if c = ':' then r.drop 1 else r
    text ++ format p n r
  | n + 1, c :: r => c.toString ++ format p n r

def text (moment : Int) (format_ : String) : String :=
  format (parts moment) (format_.length + 1) format_.toList

structure Draft where
  day : Option (Int × Nat × Nat) := none
  time : Option (Nat × Nat × Nat × Nat) := none
  seconds : Int := 0
  months : Int := 0
  offset : Int := 0

def numbers? (s : String) (sep : Char) : Option (List Nat) :=
  ((s.toList.splitOnP (· = sep)).map String.ofList).mapM fun t => if t.isNat then t.toNat? else none

def dayOf? (s : String) : Option (Int × Nat × Nat) :=
  match numbers? s '-', numbers? s '/' with
  | some [y, m, d], _ => some (y, m, d)
  | _, some [y, m, d] =>
    if (s.takeWhile Char.isDigit).toString.length > 2 then some (y, m, d)
    else some (d, y, m)
  | _, _ =>
    if s.length = 8 && s.isNat then
      match s.toNat? with
      | some n => some (n / 10000, n / 100 % 100, n % 100)
      | none => none
    else none

def timeOf? (s : String) : Option (Nat × Nat × Nat × Nat) :=
  match (s.splitOn ".") with
  | [t] =>
    match numbers? t ':' with
    | some [h, m] => some (h, m, 0, 0)
    | some [h, m, sec] => some (h, m, sec, 0)
    | _ => none
  | [t, fraction] =>
    match numbers? t ':', fraction.isNat with
    | some [h, m, sec], true =>
      let digits := ((fraction ++ Floating.zeros 9).take 9).toString
      digits.toNat?.map (h, m, sec, ·)
    | _, _ => none
  | _ => none

def unit? (s : String) : Option (Int × Int) :=
  let s := if s.endsWith "s" then (s.dropEnd 1).toString else s
  match s with
  | "second" | "sec" => some (1, 0)
  | "minute" | "min" => some (60, 0)
  | "hour" => some (3600, 0)
  | "day" => some (86400, 0)
  | "week" => some (604800, 0)
  | "fortnight" => some (1209600, 0)
  | "month" => some (0, 1)
  | "year" => some (0, 12)
  | _ => none

def read (today : Int × Nat × Nat) : Nat → Draft → List String → Option Draft
  | 0, _, _ => none
  | _, d, [] => some d
  | n + 1, d, w :: ws =>
    let shifted (k : Int) (unit : String) (rest : List String) : Option Draft :=
      match unit? unit with
      | some (s, m) =>
        let (sign, rest) : Int × List String := match rest with
          | "ago" :: rest => (-1, rest)
          | rest => (1, rest)
        read today n { d with
          seconds := d.seconds + sign * k * s, months := d.months + sign * k * m } rest
      | none => none
    match w with
    | "now" | "today" => read today n d ws
    | "yesterday" => read today n { d with seconds := d.seconds - 86400 } ws
    | "tomorrow" => read today n { d with seconds := d.seconds + 86400 } ws
    | "midnight" => read today n { d with time := some (0, 0, 0, 0) } ws
    | "noon" => read today n { d with time := some (12, 0, 0, 0) } ws
    | "utc" | "gmt" | "z" => read today n d ws
    | "next" =>
      match ws with
      | u :: ws => shifted 1 u ws
      | [] => none
    | "last" =>
      match ws with
      | u :: ws => shifted (-1) u ws
      | [] => none
    | w =>
      let isWeekday := weekdays.any fun x => x.toLower = w || (short x).toLower = w
      let bare := if w.endsWith "z" then (w.dropEnd 1).toString else w
      match dayOf? w, timeOf? bare, w.splitOn "t" with
      | some x, _, _ =>
        read today n { d with day := some x, time := d.time <|> some (0, 0, 0, 0) } ws
      | none, some t, _ => read today n { d with time := some t } ws
      | none, none, [a, b] =>
        let b := if b.endsWith "z" then (b.dropEnd 1).toString else b
        match dayOf? a, timeOf? b with
        | some x, some t => read today n { d with day := some x, time := some t } ws
        | _, _ => word w ws isWeekday shifted
      | none, none, _ => word w ws isWeekday shifted
where
  word (w : String) (ws : List String) (isWeekday : Bool)
      (shifted : Int → String → List String → Option Draft) : Option Draft :=
    let signed := if w.startsWith "+" then (w.drop 1).toString else w
    match signed.toInt?, ws with
    | some k, u :: ws => shifted k u ws
    | some _, [] => none
    | none, _ =>
      let digits := signed.toList.takeWhile fun c => c.isDigit || c = '-'
      match (String.ofList digits).toInt? with
      | some k => shifted k (signed.drop digits.length).toString ws
      | none =>
        if isWeekday then none
        else if (unit? w).isSome then shifted 1 w ws
        else none

def ofText? (now : Int) (s : String) : Option Int :=
  match s.toList with
  | '@' :: cs =>
    match (String.ofList cs).splitOn "." with
    | [t] => t.toInt?.map (· * second)
    | [t, f] =>
      match t.toInt?, (((f ++ Floating.zeros 9).take 9).toString).toNat? with
      | some a, some b => some (a * second + b)
      | _, _ => none
    | _ => none
  | _ =>
    let ws := ((s.toLower.toList.splitOnP fun c => c = ' ' || c = '\t' || c = ',').filter
      (!·.isEmpty)).map String.ofList
    let p := parts now
    let today := (p.year, p.month, p.day)
    match read today (4 * ws.length + 4) {} ws with
    | none => none
    | some d =>
      let (y, m, day) := d.day.getD today
      let total : Int := y * 12 + m - 1 + d.months
      let y' := Int.fdiv total 12
      let m' := (total - y' * 12).toNat + 1
      let whole := d.day.isSome || d.time.isSome || ws = []
      let (h, mi, sec, ns) := d.time.getD
        (if whole then (0, 0, 0, 0) else (p.hour, p.minute, p.sec, p.nanoseconds))
      if m < 1 || m > 12 || day < 1 || day > daysIn y m then none
      else
        let base := dayNumber y' m' 1 + (day - 1 : Int)
        if h > 23 || mi > 59 || sec > 60 then none
        else
          let seconds := base * 86400 + (h * 3600 + mi * 60 + sec : Nat) + d.seconds
          some (seconds * second + ns)

def ofStamp? (now : Int) (s : String) : Option Int :=
  let (main, sec) : String × Option Nat := match s.splitOn "." with
    | [a, b] => (a, if b.length = 2 && b.isNat then b.toNat? else some 99)
    | _ => (s, some 0)
  let digits := main.toList
  let at_ (i : Nat) : Nat := Lexeme.inBase 10 ((digits.drop i).take 2)
  if !digits.all Char.isDigit then none
  else
    let year? : Option (Int × Nat) := match digits.length with
      | 8 => some ((parts now).year, 0)
      | 10 => some (if at_ 0 < 69 then 2000 + at_ 0 else 1900 + at_ 0, 2)
      | 12 => some (at_ 0 * 100 + at_ 2, 4)
      | _ => none
    match year?, sec with
    | some (y, i), some sec => ofParts? y (at_ i) (at_ (i + 2)) (at_ (i + 4)) (at_ (i + 6)) sec 0
    | _, _ => none

end Freshen.Shell.Moment
