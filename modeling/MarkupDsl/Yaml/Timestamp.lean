import MarkupDsl.Calendar
import MarkupDsl.Data
import MarkupDsl.Yaml.Error
import MarkupDsl.Yaml.Tag

/-!
# Timestamps

A timestamp names a day or a moment of the calendar.  It is known by its written form, in which the
seconds and their fraction are left out when nothing follows that is not zero.
-/

namespace MarkupDsl.Yaml.Timestamp

def microseconds (digits : List Char) : Nat :=
  Text.digitsValue 10 ((digits ++ List.replicate 6 '0').take 6)

def zoneText (sign : Option Char) (hours minutes : Nat) : String :=
  let seconds := 3600 * hours + 60 * minutes
  if sign.isNone || seconds == 0 then "datetime.timezone.utc"
  else
    let distance :=
      if sign == some '-' then "days=-1, seconds=" ++ toString (86400 - seconds)
      else "seconds=" ++ toString seconds
    "datetime.timezone(datetime.timedelta(" ++ distance ++ "))"

/-- The written form of a moment without its trailing zeros. -/
def momentText (year month day hour minute second micro : Nat) (zone : Option String) : String :=
  let tail := if micro != 0 then [second, micro] else if second != 0 then [second] else []
  let places := ([year, month, day, hour, minute] ++ tail).map fun n => toString n
  let suffix := match zone with
    | none => ""
    | some text => ", tzinfo=" ++ text
  "datetime.datetime(" ++ String.intercalate ", " places ++ suffix ++ ")"

def instant (dayNumber hour minute second micro : Nat) (zone : Option Char × Nat × Nat) : Int :=
  let seconds : Nat := ((dayNumber * 24 + hour) * 60 + minute) * 60 + second
  let distance : Int := 60 * (60 * zone.2.1 + zone.2.2)
  let offset := if zone.1 == some '-' then -distance else distance
  (seconds - offset) * 1000000 + micro

def read (parts : TimestampParts) : Except Error Data :=
  let number := Text.digitsValue 10
  let year := number parts.year
  let month := number parts.month
  let day := number parts.day
  match parts.time with
  | none =>
    if Calendar.isDay year month day then
      .ok (.other ("datetime.date(" ++
        String.intercalate ", " ([year, month, day].map fun n => toString n) ++ ")"))
    else .error .noSuchTime
  | some (hour, minute, second, fraction) =>
    let zone := parts.zone.map fun zone => (zone.1, number zone.2.1, number zone.2.2)
    let zoneExists :=
      match zone with
      | some (some _, hours, minutes) => 60 * hours + minutes < 24 * 60
      | _ => true
    let hour := number hour
    let minute := number minute
    let second := number second
    let micro := microseconds fraction
    if zoneExists && Calendar.isDay year month day && hour < 24 && minute < 60 && second < 60 then
      let written (zone : Option String) := momentText year month day hour minute second micro zone
      match zone with
      | none => .ok (.other (written none))
      | some zone =>
        .ok (.moment (instant (Calendar.dayNumber year month day) hour minute second micro zone)
          (written (some (zoneText zone.1 zone.2.1 zone.2.2))))
    else .error .noSuchTime

end MarkupDsl.Yaml.Timestamp
