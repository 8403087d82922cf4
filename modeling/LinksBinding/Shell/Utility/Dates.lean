import LinksBinding.Shell.Utility.Options

/-!
# Dates

The program `date`. Times are seconds since the beginning of the year 1970; the clock of a script
starts at a fixed moment.
-/

namespace LinksBinding.Shell

open Text Session

/-- A day of the calendar and a time of the day. -/
structure Moment where
  /-- the year -/
  year : Nat
  /-- the month, counted from one -/
  month : Nat
  /-- the day of the month, counted from one -/
  day : Nat
  /-- the second of the day -/
  second : Nat

/-- How many days the months of a year have. -/
def monthLengths (year : Nat) : List Nat :=
  let isLeap := year % 4 == 0 && (year % 100 != 0 || year % 400 == 0)
  [31, if isLeap then 29 else 28, 31, 30, 31, 30, 31, 31, 30, 31, 30, 31]

/-- How many days a year has. -/
def yearLength (year : Nat) : Nat := (monthLengths year).foldl (· + ·) 0

namespace Moment

/-- The year of a day, and the number of the day in the year, both counted from `year` on. -/
def yearOf : (fuel : Nat) → (year day : Nat) → Nat × Nat
  | 0, year, day => (year, day)
  | fuel + 1, year, day =>
    if day < yearLength year then (year, day) else yearOf fuel (year + 1) (day - yearLength year)

/-- The month of a day and the number of the day in the month, both counted from zero. -/
def monthOf : (month day : Nat) → List Nat → Nat × Nat
  | month, day, [] => (month, day)
  | month, day, length :: rest =>
    if day < length then (month, day) else monthOf (month + 1) (day - length) rest

/-- The moment of a time. -/
def ofSeconds (time : Nat) : Moment :=
  let days := time / 86400
  let (year, day) := yearOf (days / 365 + 1) 1970 days
  let (month, day) := monthOf 0 day (monthLengths year)
  ⟨year, month + 1, day + 1, time % 86400⟩

/-- How many days of the year are over. -/
def dayOfYear (m : Moment) : Nat :=
  ((monthLengths m.year).take (m.month - 1)).foldl (· + ·) 0 + m.day - 1

/-- How many days are over. -/
def days (m : Moment) : Nat :=
  (List.range (m.year - 1970)).foldl (fun n year => n + yearLength (1970 + year)) 0 + m.dayOfYear

/-- The time of a moment. -/
def seconds (m : Moment) : Nat := m.days * 86400 + m.second

/-- The day of the week, with Sunday as the first. -/
def weekday (m : Moment) : Nat := (m.days + 4) % 7

end Moment

/-- The names of the days. -/
def dayNames : List String :=
  ["Sunday", "Monday", "Tuesday", "Wednesday", "Thursday", "Friday", "Saturday"]

/-- The names of the months. -/
def monthNames : List String :=
  ["January", "February", "March", "April", "May", "June", "July", "August", "September",
    "October", "November", "December"]

/-- A number with a least width. -/
def paddedNumber (fill : Char) (width n : Nat) : Octets :=
  let figures := digits n
  List.replicate (width - figures.length) fill ++ figures

/-- What a letter of a format stands for; `micros` are the microseconds of the second. -/
def momentPart (m : Moment) (micros : Nat) (letter : Char) : Option Octets :=
  let two (n : Nat) := paddedNumber '0' 2 n
  let spaced (n : Nat) := paddedNumber ' ' 2 n
  let hour := m.second / 3600
  let minute := m.second / 60 % 60
  let dayName := octets (dayNames.getD m.weekday "")
  let monthName := octets (monthNames.getD (m.month - 1) "")
  let onDial := if hour % 12 == 0 then 12 else hour % 12
  let half (early late : String) := octets (if hour < 12 then early else late)
  let day := paddedNumber '0' 4 m.year ++ '-' :: two m.month ++ '-' :: two m.day
  let time := two hour ++ ':' :: two minute ++ ':' :: two (m.second % 60)
  match letter with
  | '%' => some ['%']
  | 'n' => some ['\n']
  | 't' => some ['\t']
  | 'Y' => some (digits m.year)
  | 'C' => some (two (m.year / 100))
  | 'y' => some (two (m.year % 100))
  | 'm' => some (two m.month)
  | 'd' => some (two m.day)
  | 'e' => some (spaced m.day)
  | 'H' => some (two hour)
  | 'I' => some (two onDial)
  | 'k' => some (spaced hour)
  | 'l' => some (spaced onDial)
  | 'M' => some (two minute)
  | 'S' => some (two (m.second % 60))
  | 's' => some (digits m.seconds)
  | 'N' => some (paddedNumber '0' 9 (micros * 1000))
  | 'j' => some (paddedNumber '0' 3 (m.dayOfYear + 1))
  | 'u' => some (digits (if m.weekday == 0 then 7 else m.weekday))
  | 'w' => some (digits m.weekday)
  | 'a' => some (dayName.take 3)
  | 'A' => some dayName
  | 'b' | 'h' => some (monthName.take 3)
  | 'B' => some monthName
  | 'p' => some (half "AM" "PM")
  | 'P' => some (half "am" "pm")
  | 'q' => some (digits ((m.month - 1) / 3 + 1))
  | 'z' => some (octets "+0000")
  | 'Z' => some (octets "UTC")
  | 'F' => some day
  | 'D' | 'x' => some (two m.month ++ '/' :: two m.day ++ '/' :: two (m.year % 100))
  | 'T' | 'X' => some time
  | 'R' => some (time.take 5)
  | 'r' => some (two onDial ++ time.drop 2 ++ ' ' :: half "AM" "PM")
  | 'c' =>
    some (dayName.take 3 ++ ' ' :: monthName.take 3 ++ ' ' :: spaced m.day ++ ' ' :: time ++
      ' ' :: digits m.year)
  | _ => none

/-- A moment by a format. A sign behind the percent sign tells what numbers are filled up with. -/
def momentText (m : Moment) (micros : Nat) : Octets → Octets
  | '%' :: '-' :: letter :: rest =>
    let part := (momentPart m micros letter).getD ['%', '-', letter]
    let bare := part.dropWhile fun c => c == '0' || c == ' '
    (if bare.isEmpty then part.take 1 else bare) ++ momentText m micros rest
  | '%' :: letter :: rest =>
    (momentPart m micros letter).getD ['%', letter] ++ momentText m micros rest
  | c :: rest => c :: momentText m micros rest
  | [] => []

/-- The time that a text names: seconds behind an at sign, or a day with or without a time. -/
def timeNamed? (text : Octets) : Option Nat := do
  match text with
  | '@' :: figures => natOf? figures
  | text =>
    let (day, time) := ((text.map fun c => if c == 'T' then ' ' else c).span (· != ' '))
    match (day.splitOn '-').map natOf? with
    | [some year, some month, some day] =>
      if year < 1970 || month == 0 || 12 < month || day == 0 ||
          (monthLengths year).getD (month - 1) 0 < day then none
      else
        let places := (time.drop 1).splitOn ':'
        let numbers := if time.isEmpty then [] else places.map fun place => (natOf? place).getD 99
        let second ← match numbers with
          | [] => some 0
          | [hour, minute] =>
            if hour < 24 && minute < 60 then some ((hour * 60 + minute) * 60) else none
          | [hour, minute, second] =>
            if hour < 24 && minute < 60 && second < 61 then
              some ((hour * 60 + minute) * 60 + second)
            else none
          | _ => none
        return (Moment.mk year month day second).seconds
    | _ => none

/-- The time at which the clock of a script starts. -/
def startingTime : Nat := (Moment.mk 2024 1 1 0).seconds

/-- The program `date`. -/
def date : Program := fun _ words => do
  let words := words.map fun word => if word == octets "-I" then octets "--iso-8601" else word
  withArguments "date"
    { plain := "uRi", valued := "dr",
      long := [("utc", 'u'), ("universal", 'u'), ("date", 'd'), ("rfc-email", 'R'),
        ("iso-8601", 'i'), ("reference", 'r')] } words fun a => do
    let clock := (← process).clock
    let (time, micros) := match a.value? 'd' with
      | some text => (timeNamed? text, 0)
      | none => (some (startingTime + clock / 1000000), clock % 1000000)
    match time with
    | none =>
      failWith "date" 1 (octets "invalid date " ++ cited ((a.value? 'd').getD []))
    | some time =>
      let putBy (format : Octets) : Session Unit :=
        put (momentText (.ofSeconds time) micros format ++ ['\n'])
      match a.operands with
      | ('+' :: format) :: [] => putBy format
      | _ :: second :: _ => failUsage "date" 1 (octets "extra operand " ++ cited second)
      | [word] => failWith "date" 1 (octets "invalid date " ++ cited word)
      | [] =>
        putBy (octets (if a.has 'i' then "%F"
          else if a.has 'R' then "%a, %d %b %Y %H:%M:%S %z"
          else "%a %b %e %H:%M:%S %Z %Y"))

end LinksBinding.Shell
