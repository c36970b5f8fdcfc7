import RenderSource.Calendar.Moment
/-!
Dates, moments and zones in words: the plain text that output shows and the constructor form that
messages and container texts show.
-/
namespace RenderSource

def offsetText (s : Int) : Text :=
  let n := s.natAbs
  wording (if s < 0 then "-" else "+") ++ Decimal.padded 2 (n / 3600) ++ wording ":" ++
    Decimal.padded 2 (n / 60 % 60) ++
    (if n % 60 = 0 then [] else wording ":" ++ Decimal.padded 2 (n % 60))

def commaSeparated (ts : List Text) : Text := Text.joinWith (wording ", ") ts

/-- A length of time in microseconds as days, which may be negative, seconds of a day and
microseconds of a second. -/
def durationShown (micros : Int) : Text :=
  let days := micros.fdiv 86400000000
  let rest := micros.fmod 86400000000
  let part (name : String) (n : Int) : List Text :=
    if n = 0 then [] else [wording name ++ Decimal.ofInt n]
  let parts := part "days=" days ++ part "seconds=" (rest / 1000000) ++
    part "microseconds=" (rest % 1000000)
  wording "datetime.timedelta(" ++ (if parts.isEmpty then wording "0" else commaSeparated parts) ++
    wording ")"

def durationText (micros : Int) : Text :=
  let days := micros.fdiv 86400000000
  let rest := (micros.fmod 86400000000).toNat
  (if days = 0 then [] else
    Decimal.ofInt days ++ wording (if days.natAbs = 1 then " day, " else " days, ")) ++
  Decimal.ofNat (rest / 3600000000) ++ wording ":" ++
  Decimal.padded 2 (rest / 60000000 % 60) ++ wording ":" ++
  Decimal.padded 2 (rest / 1000000 % 60) ++
  (if rest % 1000000 = 0 then [] else wording "." ++ Decimal.padded 6 (rest % 1000000))

namespace Zone

def shown : Zone → Text
  | .naive => wording "None"
  | .fixed s =>
    if s = 0 then wording "datetime.timezone.utc"
    else wording "datetime.timezone(" ++ durationShown (s * 1000000) ++ wording ")"
  | .unspecified => wording "NoOffset()"

def text : Zone → Text
  | .fixed s => if s = 0 then wording "UTC" else wording "UTC" ++ offsetText s
  | z => z.shown

end Zone

namespace Date

def shown (d : Date) : Text :=
  wording "datetime.date(" ++ commaSeparated ([d.year, d.month, d.day].map Decimal.ofNat) ++
    wording ")"

end Date

namespace Moment

def text (m : Moment) : Text :=
  m.date.text ++ wording " " ++ Decimal.padded 2 m.hour ++ wording ":" ++
    Decimal.padded 2 m.minute ++ wording ":" ++ Decimal.padded 2 m.second ++
    (if m.microsecond = 0 then [] else wording "." ++ Decimal.padded 6 m.microsecond) ++
    (m.zone.offset?.elim [] offsetText)

/-- Seconds and microseconds are left out from the end while they are zero. -/
def shown (m : Moment) : Text :=
  let figures :=
    [m.date.year, m.date.month, m.date.day, m.hour, m.minute] ++
      (if m.microsecond = 0 then (if m.second = 0 then [] else [m.second])
       else [m.second, m.microsecond])
  let zone := if m.zone = .naive then [] else [wording "tzinfo=" ++ m.zone.shown]
  wording "datetime.datetime(" ++ commaSeparated (figures.map Decimal.ofNat ++ zone) ++ wording ")"

end Moment

end RenderSource
