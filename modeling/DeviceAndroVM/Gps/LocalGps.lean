import DeviceAndroVM.Gps.NmeaReader

/-!
# The writer of the sentences

The daemon that reads the position from properties once a second and sends it as a GGA and
an RMC sentence.

* `Properties` — the numbers in the properties.
* `splitDegrees` — degrees, minutes and the four digits behind them.
* `ggaFields`, `rmcFields` — the two formats, field by field.
* `gpgga`, `gprmc`, `emit` — the sentences of one turn of the loop.
-/

namespace DeviceAndroVM
namespace Gps

open Library Library.CString

/-- What `atof` makes of the properties. -/
structure Properties where
  i_lat : ℚ
  i_lng : ℚ
  i_alt : ℚ
  i_bearing : ℚ
  precision : ℚ

/-- Degrees, minutes, and ten thousandths of a minute. -/
def splitDegrees (o : ℚ) : Int × Int × Int :=
  let deg := truncate o
  let o := 60 * (o - deg)
  let min := truncate o
  let o := 10000 * (o - min)
  (deg, min, truncate o)

/-- `%02d%02d.%04d`. -/
def degreesText (i : ℚ) : CString :=
  let parts := splitDegrees (if i < 0 then -i else i)
  formatInt 2 parts.1 ++ (formatInt 2 parts.2.1 ++ 0x2E :: formatInt 4 parts.2.2)

/-- `%c`. -/
def hemisphere (i : ℚ) (negative positive : Char) : CString :=
  ofChars [if i < 0 then negative else positive]

/-- `%02d%02d%02d`. -/
def sixDigits (a b c : Int) : CString := formatInt 2 a ++ (formatInt 2 b ++ formatInt 2 c)

/-- The fields of `STRING_GPGGA`. -/
def ggaFields (p : Properties) (tm : Tm) : List CString :=
  [ofChars ['G', 'P', 'G', 'G', 'A'],
    sixDigits tm.tm_hour tm.tm_min tm.tm_sec,
    degreesText p.i_lat, hemisphere p.i_lat 'S' 'N',
    degreesText p.i_lng, hemisphere p.i_lng 'W' 'E',
    ofChars ['1'], ofChars ['0', '8'],
    formatInt 0 (truncate p.precision),
    formatFixed p.i_alt,
    ofChars ['M'], ofChars ['0', '.'], ofChars ['M'], [], [], []]

/-- The fields of `STRING_GPRMC`. -/
def rmcFields (p : Properties) (tm : Tm) : List CString :=
  [ofChars ['G', 'P', 'R', 'M', 'C'],
    sixDigits tm.tm_hour tm.tm_min tm.tm_sec,
    ofChars ['A'],
    degreesText p.i_lat, hemisphere p.i_lat 'S' 'N',
    degreesText p.i_lng, hemisphere p.i_lng 'W' 'E',
    formatFixed 0,
    formatFixed p.i_bearing,
    sixDigits tm.tm_mday (tm.tm_mon + 1) (tm.tm_year.tmod 100),
    formatFixed p.i_bearing,
    []]

/-- Fields with commas between them. -/
def join : List CString → CString
  | [] => []
  | [field] => field
  | field :: next :: rest => field ++ 0x2C :: join (next :: rest)

/-- A sentence: `$`, the fields, and `*47`. -/
def sentenceOf (fields : List CString) : CString :=
  0x24 :: (join fields ++ ofChars ['*', '4', '7', '\n'])

/-- `snprintf` into a buffer of 128 bytes. -/
def snprintf128 (text : CString) : CString := text.take 127

def gpgga (p : Properties) (tm : Tm) : CString := snprintf128 (sentenceOf (ggaFields p tm))

def gprmc (p : Properties) (tm : Tm) : CString := snprintf128 (sentenceOf (rmcFields p tm))

/-- One turn of the loop at the time `tv_sec`: nothing is sent for an invalid precision. -/
def emit (p : Properties) (tv_sec : Nat) : Option (CString × CString) :=
  if p.precision < 0 ∨ p.precision > 200 then none
  else
    let tm := Calendar.gmtime tv_sec
    some (gpgga p tm, gprmc p tm)

end Gps
end DeviceAndroVM
