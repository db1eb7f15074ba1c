import TaskRunner.Host.Utility.Number

/-! Points in time as texts: digits without separators, and the forms in which dates are written for
people. All times are told without an offset unless they name one. -/

namespace TaskRunner.Host.Utility

def billion : Int := 1000000000

structure Moment where
  year : Int
  month : Int
  day : Int
  hour : Int := 0
  minute : Int := 0
  second : Int := 0
  fraction : Int := 0
  deriving Repr

namespace Moment

def isLeap (year : Int) : Bool := year % 4 = 0 && (year % 100 ≠ 0 || year % 400 = 0)

def daysIn (year month : Int) : Int :=
  if month = 2 then (if isLeap year then 29 else 28)
  else if [4, 6, 9, 11].contains month then 30
  else 31

def daysBefore (year month : Int) : Int :=
  let y := if month ≤ 2 then year - 1 else year
  let era := y / 400
  let yearOfEra := y - era * 400
  let shifted := (month + 9) % 12
  let dayOfYear := (153 * shifted + 2) / 5
  era * 146097 + (yearOfEra * 365 + yearOfEra / 4 - yearOfEra / 100 + dayOfYear) - 719468

/-- The moment as a count; a month beyond the year and a day beyond the month run over. -/
def count (m : Moment) : Int :=
  let months := m.year * 12 + (m.month - 1)
  let days := daysBefore (months / 12) (months % 12 + 1) + m.day - 1
  ((days * 24 + m.hour) * 60 + m.minute) * 60 * billion + m.second * billion + m.fraction

def ofCount (count : Int) : Moment :=
  let seconds := count / billion
  let days := seconds / 86400
  let rest := seconds % 86400
  let z := days + 719468
  let era := z / 146097
  let dayOfEra := z - era * 146097
  let yearOfEra := (dayOfEra - dayOfEra / 1460 + dayOfEra / 36524 - dayOfEra / 146096) / 365
  let dayOfYear := dayOfEra - (365 * yearOfEra + yearOfEra / 4 - yearOfEra / 100)
  let shifted := (5 * dayOfYear + 2) / 153
  let month := if shifted < 10 then shifted + 3 else shifted - 9
  { year := yearOfEra + era * 400 + (if month ≤ 2 then 1 else 0)
    month
    day := dayOfYear - (153 * shifted + 2) / 5 + 1
    hour := rest / 3600
    minute := rest / 60 % 60
    second := rest % 60
    fraction := count % billion }

def isValid (m : Moment) : Bool :=
  1 ≤ m.month && m.month ≤ 12 && 1 ≤ m.day && m.day ≤ daysIn m.year m.month && m.hour ≤ 23 &&
    m.minute ≤ 59 && m.second ≤ 60

end Moment

def stamp? (now : Int) (text : Raw) : Option Int :=
  let cs := text.toList
  let digits := cs.takeWhile Char.isDigit
  let number (position count : Nat) : Int := valueOf 10 ((digits.drop position).take count)
  let second : Option Int :=
    match cs.drop digits.length with
    | [] => some 0
    | ['.', a, b] => if a.isDigit && b.isDigit then some (valueOf 10 [a, b]) else none
    | _ => none
  let year : Option (Int × Nat) :=
    match digits.length with
    | 8 => some ((Moment.ofCount now).year, 0)
    | 10 => some (number 0 2 + (if number 0 2 < 69 then 2000 else 1900), 2)
    | 12 => some (number 0 4, 4)
    | _ => none
  match second, year with
  | some second, some (year, start) =>
    let m : Moment :=
      { year, month := number start 2, day := number (start + 2) 2, hour := number (start + 4) 2
        minute := number (start + 6) 2, second }
    if m.isValid then some m.count else none
  | _, _ => none

namespace Date

inductive Token where
  | number (negative : Bool) (signed : Bool) (digits : List Char)
  | word (letters : String)
  | mark (c : Char)
  deriving DecidableEq, Repr

/-- `most` bounds the number of parts and is the length of the text. -/
def tokens : Nat → List Char → List Token
  | 0, _ | _, [] => []
  | most + 1, c :: rest =>
    if isBlank c then tokens most rest
    else if c.isDigit then
      let digits := (c :: rest).takeWhile Char.isDigit
      .number false false digits :: tokens most ((c :: rest).drop digits.length)
    else if (c = '-' || c = '+') && rest.head?.any Char.isDigit then
      let digits := rest.takeWhile Char.isDigit
      .number (c = '-') true digits :: tokens most (rest.drop digits.length)
    else if c.isAlpha then
      let letters := (c :: rest).takeWhile fun c => c.isAlpha || c = '.'
      .word ((String.ofList letters).toLower) :: tokens most ((c :: rest).drop letters.length)
    else .mark c :: tokens most rest

structure Reading where
  date : Option (Int × Int × Int) := none
  time : Option (Int × Int × Int × Int) := none
  zone : Option Int := none
  absolute : Option Int := none
  months : Int := 0
  days : Int := 0
  seconds : Int := 0

def months : List String :=
  ["jan", "feb", "mar", "apr", "may", "jun", "jul", "aug", "sep", "oct", "nov", "dec"]

def monthOf? (word : String) : Option Int :=
  let full :=
    ["january", "february", "march", "april", "may", "june", "july", "august", "september",
      "october", "november", "december"]
  let place := months.findIdx? (· = word) |>.or (full.findIdx? (· = word))
  place.map fun n => (n : Int) + 1

def addUnit (r : Reading) (word : String) (count : Int) : Option Reading :=
  let unit := if word.endsWith "s" then (word.dropEnd 1).toString else word
  match unit with
  | "year" => some { r with months := r.months + 12 * count }
  | "month" => some { r with months := r.months + count }
  | "fortnight" => some { r with days := r.days + 14 * count }
  | "week" => some { r with days := r.days + 7 * count }
  | "day" => some { r with days := r.days + count }
  | "hour" => some { r with seconds := r.seconds + 3600 * count }
  | "minute" | "min" => some { r with seconds := r.seconds + 60 * count }
  | "second" | "sec" => some { r with seconds := r.seconds + count }
  | _ => none

def value (digits : List Char) : Int := valueOf 10 digits

def fractionOf (digits : List Char) : Int :=
  value ((digits ++ List.replicate 9 '0').take 9)

def half? (word : String) : Option Int :=
  match word with
  | "am" | "a.m." => some 0
  | "pm" | "p.m." => some 12
  | _ => none

def setTime (r : Reading) (hour minute second fraction : Int) (rest : List Token) :
    Option (Reading × List Token) :=
  let (hour, rest) :=
    match rest with
    | .word w :: rest' =>
      match half? w with
      | some half => (if 1 ≤ hour && hour ≤ 12 then hour % 12 + half else 99, rest')
      | none => (hour, rest)
    | rest => (hour, rest)
  if r.time.isSome || 23 < hour || 59 < minute || 60 < second then none
  else some ({ r with time := some (hour, minute, second, fraction) }, rest)

def setDate (r : Reading) (year month day : Int) : Option Reading :=
  if r.date.isSome || !(Moment.isValid { year, month, day }) then none
  else some { r with date := some (year, month, day) }

def fullYear (digits : List Char) : Int :=
  if digits.length ≤ 2 then value digits + (if value digits < 69 then 2000 else 1900)
  else value digits

def item (thisYear : Int) (r : Reading) : List Token → Option (Reading × List Token)
  | .mark '@' :: .number negative _ digits :: .mark '.' :: .number _ _ part :: rest =>
    let size := value digits * billion + fractionOf part
    some ({ r with absolute := some (if negative then -size else size) }, rest)
  | .mark '@' :: .number negative _ digits :: rest =>
    let size := value digits * billion
    some ({ r with absolute := some (if negative then -size else size) }, rest)
  | .number false false y :: .number true true m :: .number true true d :: rest =>
    (setDate r (fullYear y) (value m) (value d)).map (·, rest)
  | .number false false m :: .mark '/' :: .number _ _ d :: .mark '/' :: .number _ _ y :: rest =>
    if 4 ≤ m.length then (setDate r (value m) (value d) (value y)).map (·, rest)
    else (setDate r (fullYear y) (value m) (value d)).map (·, rest)
  | .number false false m :: .mark '/' :: .number _ _ d :: rest =>
    (setDate r thisYear (value m) (value d)).map (·, rest)
  | .number false false h :: .mark ':' :: .number _ _ m :: .mark ':' :: .number _ _ s :: .mark '.' ::
      .number _ _ f :: rest =>
    setTime r (value h) (value m) (value s) (fractionOf f) rest
  | .number false false h :: .mark ':' :: .number _ _ m :: .mark ':' :: .number _ _ s :: rest =>
    setTime r (value h) (value m) (value s) 0 rest
  | .number false false h :: .mark ':' :: .number _ _ m :: rest =>
    setTime r (value h) (value m) 0 0 rest
  | .number negative true h :: .mark ':' :: .number _ _ m :: rest =>
    if r.time.isNone then none
    else
      let size := value h * 60 + value m
      some ({ r with zone := some (if negative then -size else size) }, rest)
  | .number negative signed digits :: .word word :: rest =>
    let count := if negative then -value digits else value digits
    match addUnit r word count with
    | some added =>
      match rest with
      | .word "ago" :: rest => (addUnit r word (-count)).map (·, rest)
      | rest => some (added, rest)
    | none =>
      if signed then none
      else
        match monthOf? word, half? word, rest with
        | some month, _, .number false false y :: rest =>
          (setDate r (fullYear y) month count).map (·, rest)
        | some month, _, rest => (setDate r thisYear month count).map (·, rest)
        | none, some _, rest => setTime r count 0 0 0 (.word word :: rest)
        | none, none, rest =>
          if digits.length = 8 then
            (setDate r (count / 10000) (count / 100 % 100) (count % 100)).map (·, .word word :: rest)
          else none
  | .number negative true digits :: rest =>
    if r.time.isNone || 4 < digits.length then none
    else
      let size := if digits.length ≤ 2 then value digits * 60
        else value digits / 100 * 60 + value digits % 100
      some ({ r with zone := some (if negative then -size else size) }, rest)
  | .number _ false digits :: rest =>
    let n := value digits
    if digits.length = 8 then (setDate r (n / 10000) (n / 100 % 100) (n % 100)).map (·, rest)
    else if digits.length ≤ 2 then setTime r n 0 0 0 rest
    else if digits.length ≤ 4 then setTime r (n / 100) (n % 100) 0 0 rest
    else none
  | .word word :: rest =>
    match word, rest with
    | "t", rest => if r.date.isSome then some (r, rest) else none
    | "now", rest | "today", rest => some (r, rest)
    | "yesterday", rest => some ({ r with days := r.days - 1 }, rest)
    | "tomorrow", rest => some ({ r with days := r.days + 1 }, rest)
    | "z", rest | "utc", rest | "gmt", rest => some ({ r with zone := some 0 }, rest)
    | "next", .word unit :: rest => (addUnit r unit 1).map (·, rest)
    | "last", .word unit :: rest => (addUnit r unit (-1)).map (·, rest)
    | "this", .word unit :: rest => (addUnit r unit 0).map (·, rest)
    | word, rest =>
      match monthOf? word, rest with
      | some month, .number false false d :: .mark ',' :: .number false false y :: rest =>
        (setDate r (fullYear y) month (value d)).map (·, rest)
      | some month, .number false false d :: .number false false y :: rest =>
        if 4 ≤ y.length then (setDate r (fullYear y) month (value d)).map (·, rest)
        else (setDate r thisYear month (value d)).map (·, .number false false y :: rest)
      | some month, .number false false d :: rest => (setDate r thisYear month (value d)).map (·, rest)
      | _, rest =>
        match if word.length = 1 then "abcdefghiklmnopqrstuvwxy".toList.idxOf? (word.toList.headD ' ')
          else none with
        | some place =>
          let hours : Int := if place < 12 then place + 1 else 11 - place
          some ({ r with zone := some (60 * hours) }, rest)
        | none =>
        match rest with
        | .word "ago" :: rest => (addUnit r word (-1)).map (·, rest)
        | rest => (addUnit r word 1).map (·, rest)
  | _ => none

/-- Reads items one after the other; `most` bounds their number. -/
def items (thisYear : Int) : Nat → Reading → List Token → Option Reading
  | _, r, [] => some r
  | 0, _, _ => none
  | most + 1, r, tokens =>
    match item thisYear r tokens with
    | some (r, rest) => items thisYear most r rest
    | none => none

end Date

def date? (now : Int) (text : Raw) : Option Int :=
  let today := Moment.ofCount now
  let tokens := Date.tokens text.length text.toList
  match Date.items today.year (tokens.length + 1) {} tokens with
  | none => none
  | some r =>
    match r.absolute with
    | some count => some count
    | none =>
      let (year, month, day) := r.date.getD (today.year, today.month, today.day)
      let relative := r.months ≠ 0 || r.days ≠ 0 || r.seconds ≠ 0
      let (hour, minute, second, fraction) :=
        match r.time with
        | some time => time
        | none =>
          if r.date.isSome || (tokens.isEmpty && !relative) then (0, 0, 0, 0)
          else (today.hour, today.minute, today.second, today.fraction)
      let m : Moment :=
        { year, month := month + r.months, day := day + r.days, hour, minute
          second := second + r.seconds, fraction }
      some (m.count - r.zone.getD 0 * 60 * billion)

end TaskRunner.Host.Utility
