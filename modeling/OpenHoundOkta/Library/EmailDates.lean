import OpenHoundOkta.Library.DigitTexts

/-! `email.utils.parsedate_to_datetime` of CPython 3.13, and `datetime.timestamp`. The
timestamp of a date without a zone depends on the local time of the process and is left
arbitrary. -/
namespace OpenHoundOkta.EmailDates
open PythonText PythonNumbers DigitTexts

structure DateFields where
  year : Int
  month : Nat
  day : Int
  hour : Int
  minute : Int
  second : Int
  zone : Option Int
  deriving DecidableEq, Repr

def monthNames : List String :=
  ["jan","feb","mar","apr","may","jun","jul","aug","sep","oct","nov","dec","january","february","march",
    "april","may","june","july","august","september","october","november","december"]

def dayNames : List String := ["mon","tue","wed","thu","fri","sat","sun"]

def timezones : List (String × Int) :=
  [("UT",0),("UTC",0),("GMT",0),("Z",0),("AST",-400),("ADT",-300),("EST",-500),("EDT",-400),("CST",-600),
    ("CDT",-500),("MST",-700),("MDT",-600),("PST",-800),("PDT",-700)]

def words (s : Text) : List Text := (s.splitOnP isSpace).filter (· ≠ [])

def dropComma (s : Text) : Text := if endsWith "," s then s.dropLast else s

variable (lib : TextLibrary) (tables : DigitTables)

def lowered (s : Text) : String := lib.lower (String.ofList s)

def dropDayName : List Text → List Text
  | [] => []
  | first::rest =>
    if endsWith "," first ∨ lowered lib first ∈ dayNames then rest else afterLast ',' first :: rest

def splitHyphens : List Text → List Text
  | [date,time,zone] =>
    if (date.splitOn '-').length = 3 then date.splitOn '-' ++ [time,zone] else [date,time,zone]
  | data => data

def splitZone : List Text → List Text
  | [dd,mm,yy,s] =>
    match (s.findIdx? (· = '+')).or (s.findIdx? (· = '-')) with
    | some (i+1) => [dd,mm,yy,s.take (i+1),s.drop (i+1)]
    | _ => [dd,mm,yy,s,[]]
  | data => data

def dayAndMonth (dd mm : Text) : Option (Text × Nat) :=
  if lowered lib mm ∈ monthNames then some (dd,monthNames.idxOf (lowered lib mm) % 12 + 1)
  else if lowered lib dd ∈ monthNames then some (mm,monthNames.idxOf (lowered lib dd) % 12 + 1)
  else none

def timeParts (tm : Text) : Option (Text × Text × Text) :=
  match (dropComma tm).splitOn ':' with
  | [thh,tmm] => some (thh,tmm,['0'])
  | [thh,tmm,tss] => some (thh,tmm,tss)
  | [plain] =>
    match plain.splitOn '.' with
    | [thh,tmm] => some (thh,tmm,['0'])
    | [thh,tmm,tss] => some (thh,tmm,tss)
    | _ => none
  | _ => none

def fullYear (yy : Int) : Int := if 100 ≤ yy then yy else if 68 < yy then yy + 1900 else yy + 2000

def zoneSeconds (tz : Text) : Option Int :=
  let upper := lib.upper (String.ofList tz)
  let offset :=
    match timezones.lookup upper with
    | some offset => some offset
    | none => (intOf tables.decimal upper).filter (fun n => n ≠ 0 ∨ !startsWith "-" upper.toList)
  offset.map (fun n => n.sign * (n.natAbs / 100 * 3600 + n.natAbs % 100 * 60 : Nat))

def readInt (s : Text) : Option Int := intOf tables.decimal (String.ofList s)

def datePart (dd mm yy tm tz : Text) : Option DateFields := do
  let (dd,month) ← dayAndMonth lib dd mm
  let timeFirst := (yy.findIdx? (· = ':')).any (· ≠ 0)
  let (yy,tm) := if timeFirst then (tm,yy) else (yy,tm)
  let yy := dropComma yy
  if yy = [] then none
  let (yy,tz) := if yy.head?.any tables.isDigit then (yy,tz) else (tz,yy)
  let (thh,tmm,tss) ← timeParts tm
  let year ← readInt tables yy
  let day ← readInt tables (dropComma dd)
  let hour ← readInt tables thh
  let minute ← readInt tables tmm
  let second ← readInt tables tss
  some ⟨fullYear year,month,day,hour,minute,second,zoneSeconds lib tables tz⟩

def parsedateTz (data : Text) : Option DateFields :=
  match splitZone (splitHyphens (dropDayName lib (words data))) with
  | dd::mm::yy::tm::tz::_ =>
    if dd = [] ∨ mm = [] ∨ yy = [] then none else datePart lib tables dd mm yy tm tz
  | _ => none

inductive DateError where
  | valueError
  | overflowError
  deriving DecidableEq, Repr

def isLeap (year : Int) : Bool := year % 4 = 0 && (year % 100 ≠ 0 || year % 400 = 0)

def daysInMonth (year : Int) (month : Nat) : Int :=
  if month = 2 then (if isLeap year then 29 else 28)
  else if month ∈ [4,6,9,11] then 30 else 31

def dateAdmitted (d : DateFields) : Bool :=
  1 ≤ d.year && d.year ≤ 9999 && 1 ≤ d.day && d.day ≤ daysInMonth d.year d.month &&
    0 ≤ d.hour && d.hour ≤ 23 && 0 ≤ d.minute && d.minute ≤ 59 && 0 ≤ d.second && d.second ≤ 59

def secondsPerDay : Int := 86400

def deltaOverflows (zone : Option Int) : Bool :=
  zone.any (fun seconds => seconds / secondsPerDay < -999999999 || 999999999 < seconds / secondsPerDay)

def zoneRefused (zone : Option Int) : Bool := zone.any (fun seconds => secondsPerDay ≤ seconds.natAbs)

def fieldOverflows (d : DateFields) : Bool :=
  [d.year,d.day,d.hour,d.minute,d.second].any (fun n => n < -(2^31) || 2^31 ≤ n)

def parsedateToDatetime (data : Text) : Except DateError DateFields :=
  match parsedateTz lib tables data with
  | none => .error .valueError
  | some d =>
    if deltaOverflows d.zone then .error .overflowError
    else if zoneRefused d.zone then .error .valueError
    else if fieldOverflows d then .error .overflowError
    else if dateAdmitted d then .ok d else .error .valueError

def daysBeforeMonth (year : Int) (month : Nat) : Int :=
  ((List.range (month - 1)).map (fun m => daysInMonth year (m + 1))).sum

def ordinal (d : DateFields) : Int :=
  let y := d.year - 1
  y * 365 + y / 4 - y / 100 + y / 400 + daysBeforeMonth d.year d.month + d.day

def epochOrdinal : Int := 719163

def timestamp (localTimestamp : DateFields → Option ℚ) (d : DateFields) : Option ℚ :=
  match d.zone with
  | none => localTimestamp d
  | some zone =>
    some ((ordinal d - epochOrdinal) * secondsPerDay + d.hour * 3600 + d.minute * 60 + d.second - zone : Int)

example : (parsedateToDatetime letterwiseLibrary latinTables "Sun, 06 Nov 1994 08:49:37 GMT".toList).toOption.bind
    (timestamp (fun _ => none)) = some 784111777 := by decide +kernel

end OpenHoundOkta.EmailDates
