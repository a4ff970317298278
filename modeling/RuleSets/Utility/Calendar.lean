import RuleSets.Utility.Options
import RuleSets.Data.Double.Decimal

/-!
# Dates

Moments are seconds since the start of 1970, and days are those of the Gregorian calendar.
-/

namespace RuleSets.Utility

namespace Calendar

/-- A day. -/
structure Day where
  year : Int
  month : Nat
  day : Nat

/-- The number of a day, counted from the start of 1970. -/
def Day.number (d : Day) : Int :=
  let y := if d.month ≤ 2 then d.year - 1 else d.year
  let era := y.fdiv 400
  let yearOfEra := y - era * 400
  let month : Int := (d.month + 9) % 12
  let dayOfYear := (153 * month + 2) / 5 + d.day - 1
  era * 146097 + (yearOfEra * 365 + yearOfEra / 4 - yearOfEra / 100 + dayOfYear) - 719468

/-- The day of a number. -/
def dayOf (n : Int) : Day :=
  let n := n + 719468
  let era := n.fdiv 146097
  let dayOfEra := n - era * 146097
  let yearOfEra :=
    (dayOfEra - dayOfEra / 1460 + dayOfEra / 36524 - dayOfEra / 146096) / 365
  let dayOfYear := dayOfEra - (365 * yearOfEra + yearOfEra / 4 - yearOfEra / 100)
  let part := (5 * dayOfYear + 2) / 153
  let day := dayOfYear - (153 * part + 2) / 5 + 1
  let month := if part < 10 then part + 3 else part - 9
  ⟨yearOfEra + era * 400 + (if month ≤ 2 then 1 else 0), month.toNat, day.toNat⟩

/-- A moment: its day, the second of the day and the nanosecond. -/
structure Moment where
  day : Day
  second : Nat
  nanosecond : Nat

/-- A moment by its seconds. -/
def momentOf (seconds : Int) (nanosecond : Nat) : Moment :=
  ⟨dayOf (seconds.fdiv 86400), (seconds.fmod 86400).toNat, nanosecond⟩

/-- The seconds of a moment. -/
def Moment.seconds (m : Moment) : Int := m.day.number * 86400 + m.second

/-- The names of the months. -/
def months : List String :=
  ["January", "February", "March", "April", "May", "June", "July", "August", "September", "October",
    "November", "December"]

/-- The names of the days of a week. -/
def weekdays : List String :=
  ["Sunday", "Monday", "Tuesday", "Wednesday", "Thursday", "Friday", "Saturday"]

/-- The day of the week, from Sunday. -/
def Day.weekday (d : Day) : Nat := ((d.number + 4).fmod 7).toNat

/-- The day of the year, from zero. -/
def Day.ofYear (d : Day) : Nat := (d.number - (Day.number ⟨d.year, 1, 1⟩)).toNat

/-- The week of the year to which most days of the week belong, and that year. -/
def Day.week (d : Day) : Int × Nat :=
  let monday := (d.weekday + 6) % 7
  let thursday := dayOf (d.number + 3 - monday)
  (thursday.year, thursday.ofYear / 7 + 1)

/-- A number with something before it that fills it up. -/
def filled (width : Nat) (fill : Char) (n : Int) : Text :=
  let t := Text.decimal n.natAbs
  let t := List.replicate (width - t.length) fill ++ t
  if n < 0 then '-' :: t else t

/-- What a directive stands for that puts others together. -/
def abbreviation? : Char → Option String
  | 'F' => some "%Y-%m-%d"
  | 'T' | 'X' => some "%H:%M:%S"
  | 'D' | 'x' => some "%m/%d/%y"
  | 'R' => some "%H:%M"
  | 'r' => some "%I:%M:%S %p"
  | 'c' => some "%a %b %e %H:%M:%S %Y"
  | _ => none

/-- What a directive stands for. -/
def piece? (m : Moment) (flag? : Option Char) (width? : Option Nat) (c : Char) : Option Text :=
  let number (width : Nat) (fill : Char) (n : Int) : Option Text :=
    let width := width?.getD width
    match flag? with
    | some '-' => some (filled 0 '0' n)
    | some '_' => some (filled width ' ' n)
    | some '0' => some (filled width '0' n)
    | _ => some (filled width fill n)
  let text (s : Text) : Option Text :=
    let s := match flag? with
      | some '^' => s.map Char.toUpper
      | some '#' => if c == 'p' || c == 'Z' then s.map Char.toLower else s.map Char.toUpper
      | _ => s
    some (List.replicate (width?.getD 0 - s.length) ' ' ++ s)
  let d := m.day
  let (hour, minute) := (m.second / 3600, m.second / 60 % 60)
  let twelfth := if hour % 12 = 0 then 12 else hour % 12
  let month := (months.getD (d.month - 1) "").toList
  let weekday := (weekdays.getD d.weekday "").toList
  match c with
  | 'Y' => number 1 '0' d.year
  | 'C' => number 2 '0' (d.year / 100)
  | 'y' => number 2 '0' (d.year % 100)
  | 'm' => number 2 '0' d.month
  | 'd' => number 2 '0' d.day
  | 'e' => number 2 ' ' d.day
  | 'H' => number 2 '0' hour
  | 'k' => number 2 ' ' hour
  | 'I' => number 2 '0' twelfth
  | 'l' => number 2 ' ' twelfth
  | 'M' => number 2 '0' minute
  | 'S' => number 2 '0' (m.second % 60 : Nat)
  | 's' => number 1 '0' m.seconds
  | 'j' => number 3 '0' (d.ofYear + 1 : Nat)
  | 'u' => number 1 '0' (if d.weekday = 0 then 7 else d.weekday : Nat)
  | 'w' => number 1 '0' d.weekday
  | 'U' => number 2 '0' ((d.ofYear + 7 - d.weekday) / 7 : Nat)
  | 'W' => number 2 '0' ((d.ofYear + 7 - (d.weekday + 6) % 7) / 7 : Nat)
  | 'V' => number 2 '0' d.week.2
  | 'G' => number 1 '0' d.week.1
  | 'g' => number 2 '0' (d.week.1 % 100)
  | 'q' => number 1 '0' ((d.month + 2) / 3 : Nat)
  | 'N' =>
    let digits := filled 9 '0' m.nanosecond
    some (digits.take (width?.getD 9))
  | 'p' => text (if hour < 12 then "AM" else "PM").toList
  | 'P' => text (if hour < 12 then "am" else "pm").toList
  | 'a' => text (weekday.take 3)
  | 'A' => text weekday
  | 'b' | 'h' => text (month.take 3)
  | 'B' => text month
  | 'Z' => text "UTC".toList
  | 'z' => some "+0000".toList
  | 'n' => some ['\n']
  | 't' => some ['\t']
  | '%' => some ['%']
  | _ => none

/-- A moment as a format shows it. -/
def format (m : Moment) : Nat → Text → Text
  | 0, _ => []
  | _, [] => []
  | n + 1, '%' :: t =>
    let flag? := t.head?.filter "-_0^#".toList.contains
    let t' := if flag?.isSome then t.drop 1 else t
    let digits := t'.takeWhile Char.isDigit
    let width? := if digits.isEmpty then none else some (Text.valueOf 10 digits)
    match t'.drop digits.length with
    | [] => '%' :: t
    | ':' :: 'z' :: rest => "+00:00".toList ++ format m n rest
    | c :: rest =>
      match abbreviation? c, piece? m flag? width? c with
      | some s, _ => format m n s.toList ++ format m n rest
      | none, some s => s ++ format m n rest
      | none, none => '%' :: t.take (t.length - rest.length) ++ format m n rest
  | n + 1, c :: t => c :: format m n t

/-! ### Reading -/

/-- The number that a word is. -/
def natural? (w : Text) : Option Nat :=
  if w.isEmpty || !w.all Char.isDigit then none else some (Text.valueOf 10 w)

/-- The day that a word spells by numbers. -/
def day? (w : Text) : Option Day := do
  let valid (d : Day) : Option Day :=
    if 1 ≤ d.month && d.month ≤ 12 && 1 ≤ d.day && (dayOf d.number).day == d.day then some d else none
  match Text.splitBy (· == '-') w with
  | [y, m, d] => valid ⟨(← natural? y), ← natural? m, ← natural? d⟩
  | [t] =>
    if t.length == 8 then
      valid ⟨(← natural? (t.take 4)), ← natural? ((t.drop 4).take 2), ← natural? (t.drop 6)⟩
    else
      match Text.splitBy (· == '/') w with
      | [m, d, y] => valid ⟨(← natural? y), ← natural? m, ← natural? d⟩
      | _ => none
  | _ => none

/-- The second of a day that a word spells. -/
def time? (w : Text) : Option Nat := do
  let w := (Text.beforeSuffix? ['Z'] w).getD w
  let w := w.takeWhile (· != '.')
  let parts ← (Text.splitBy (· == ':') w).mapM natural?
  match parts with
  | [h, m] => if h < 24 && m < 60 then some (h * 3600 + m * 60) else none
  | [h, m, s] => if h < 24 && m < 60 && s ≤ 60 then some (h * 3600 + m * 60 + s) else none
  | _ => none

/-- The seconds in a unit of time of a fixed length. -/
def unit? (w : Text) : Option Int :=
  let w := (Text.beforeSuffix? ['s'] w).getD w
  match String.ofList w with
  | "second" | "sec" => some 1
  | "minute" | "min" => some 60
  | "hour" => some 3600
  | "day" => some 86400
  | "week" => some 604800
  | "fortnight" => some 1209600
  | _ => none

/-- The moment that words spell, seen from another one. -/
def words? : Nat → Moment → List Text → Option Moment
  | 0, _, _ => none
  | _, m, [] => some m
  | n + 1, m, w :: rest =>
    let shifted (seconds : Int) : Moment := momentOf (m.seconds + seconds) m.nanosecond
    let month? := (months.map fun s => Text.asciiLower s.toList).findIdx? fun s =>
      Text.asciiLower w == s || Text.asciiLower w == s.take 3
    match String.ofList (Text.asciiLower w) with
    | "now" => words? n m rest
    | "today" => words? n m rest
    | "utc" | "gmt" | "z" => words? n m rest
    | "midnight" => words? n { m with second := 0 } rest
    | "noon" => words? n { m with second := 43200 } rest
    | "yesterday" => words? n (shifted (-86400)) rest
    | "tomorrow" => words? n (shifted 86400) rest
    | _ =>
      let parts := Text.splitBy (fun c => c == 'T') w
      match day? w, time? w, parts, month? with
      | some d, _, _, _ => words? n ⟨d, 0, 0⟩ rest
      | none, some t, _, _ => words? n { m with second := t, nanosecond := 0 } rest
      | none, none, [a, b], none =>
        match day? a, time? b with
        | some d, some t => words? n ⟨d, t, 0⟩ rest
        | _, _ => none
      | none, none, _, some k =>
        match rest with
        | d :: rest =>
          let d := d.filter (· != ',')
          match natural? d, rest with
          | some d, y :: rest' =>
            match natural? y with
            | some y => words? n ⟨⟨y, k + 1, d⟩, 0, 0⟩ rest'
            | none => words? n ⟨⟨m.day.year, k + 1, d⟩, 0, 0⟩ rest
          | some d, [] => words? n ⟨⟨m.day.year, k + 1, d⟩, 0, 0⟩ rest
          | none, _ => none
        | [] => none
      | none, none, _, none =>
        let (sign, digits) : Int × Text :=
          match w with
          | '+' :: t => (1, t)
          | '-' :: t => (-1, t)
          | t => (1, t)
        let (digits, rest) : Text × List Text :=
          if digits.isEmpty then (rest.headD [], rest.drop 1) else (digits, rest)
        let number := digits.takeWhile Char.isDigit
        let (name, rest) : Text × List Text :=
          if number.length < digits.length then (digits.drop number.length, rest)
          else (rest.headD [], rest.drop 1)
        let (sign, rest) : Int × List Text :=
          if rest.head? == some "ago".toList then (-sign, rest.drop 1) else (sign, rest)
        if number.isEmpty then none
        else
          let k : Int := sign * Text.valueOf 10 number
          let name := Text.asciiLower name
          let isMonth := months.any fun s => Text.asciiLower s.toList == name ||
            Text.asciiLower (s.toList.take 3) == name
          match unit? name with
          | some s => words? n (shifted (k * s)) rest
          | none =>
            let inMonths? : Option Int :=
              match String.ofList ((Text.beforeSuffix? ['s'] name).getD name) with
              | "month" => some 1
              | "year" => some 12
              | _ => none
            match inMonths?, isMonth, rest with
            | some f, _, _ =>
              let total := m.day.year * 12 + (m.day.month - 1 : Nat) + k * f
              let d : Day := ⟨total.fdiv 12, (total.fmod 12).toNat + 1, m.day.day⟩
              words? n { m with day := dayOf d.number } rest
            | none, true, y :: rest' =>
              match (months.findIdx? fun s => Text.asciiLower (s.toList.take 3) ==
                name.take 3), natural? y with
              | some i, some y => words? n ⟨⟨y, i + 1, k.toNat⟩, 0, 0⟩ rest'
              | _, _ => none
            | none, _, _ => none

/-- The moment that a text spells, seen from another one. -/
def moment? (now : Moment) (t : Text) : Option Moment :=
  match (t.dropWhile (· == ' ')) with
  | '@' :: t =>
    let (negative, digits) : Bool × Text :=
      match t with
      | '-' :: t => (true, t)
      | t => (false, t)
    match Double.readDecimal? digits with
    | some (v, []) =>
      let whole : Int := (v.num / v.den : Nat)
      let nanosecond := v.num % v.den * 1000000000 / v.den
      some (momentOf (if negative then -whole else whole) nanosecond)
    | _ => none
  | [] => some { now with second := 0, nanosecond := 0 }
  | t =>
    let words := (Text.splitBy (fun c => c == ' ' || c == '\t') t).filter (!·.isEmpty)
    words? (words.length + 1) now words

/-- The seconds at which every machine starts. -/
def start : Int := 1750000000

end Calendar

/-- Show a date. -/
def Tool.date (all : List Text) : Tool Unit := do
  let a ← arguments 1 false "d:f:I::Rr:s:u" [long "date" 'd' .value, long "iso-8601" 'I' .perhaps,
    long "rfc-email" 'R' .nothing, long "reference" 'r' .value, long "utc" 'u' .nothing,
    long "universal" 'u' .nothing, long "rfc-3339" '3' .value] all
  let time : Nat ← call .clock
  let now := Calendar.momentOf (Calendar.start + (time / 1000000 : Nat)) (time % 1000000 * 1000)
  let m ←
    match a.value? 'd', a.value? 'r' with
    | some t, _ =>
      match Calendar.moment? now t with
      | some m => pure m
      | none => die 1 ("invalid date ".toList ++ quoted t)
    | none, some path =>
      match ← call (.facts path) with
      | .ok f =>
        pure (Calendar.momentOf (Calendar.start + (f.changed / 1000000 : Nat))
          (f.changed % 1000000 * 1000))
      | .error e => die 1 (path ++ ": ".toList ++ reason e)
    | none, none => pure now
  let clock := fun (word : Text) (between : String) =>
    match String.ofList word with
    | "hours" => between ++ "%H%:z"
    | "minutes" => between ++ "%H:%M%:z"
    | "seconds" => between ++ "%H:%M:%S%:z"
    | "ns" => between ++ "%H:%M:%S,%N%:z"
    | _ => ""
  let standard : String :=
    match a.value? 'I', a.has 'R', a.value? '3' with
    | some word, _, _ => "%Y-%m-%d" ++ clock word "T"
    | none, true, _ => "%a, %d %b %Y %H:%M:%S +0000"
    | none, false, some word => "%Y-%m-%d" ++ clock word " "
    | none, false, none => "%a %b %e %H:%M:%S %Z %Y"
  let form ←
    match a.operands with
    | [] => pure standard.toList
    | _ :: extra :: _ => extraOperand extra
    | ['+' :: t] => pure t
    | [t] => die 1 ("invalid date ".toList ++ quoted t)
  printLine (Calendar.format m (form.length + 100) form)

end RuleSets.Utility
