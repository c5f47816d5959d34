import DeviceAndroVM.Library.Calendar
import DeviceAndroVM.Library.Decimal
import Mathlib.Data.UInt

/-!
# The NMEA reader

The reader of the GPS module: it collects bytes up to a newline, cuts the sentence into
tokens, keeps the tokens of GGA and RMC sentences in a global record, and updates the fix
from that record.

* `Token`, `nmea_tokenizer_init`, `nmea_tokenizer_get` — the tokenizer.
* `t_all_tokens`, `NmeaReader` — the global record and the reader.
* `nmea_reader_update_time`, … — the updates of the fix.
* `nmea_reader_parse`, `nmea_reader_addc`, `nmea_reader_set_callback` — one sentence, one
  byte, and the callback.
* `Session` — a module with the sentences it parsed and the fixes it delivered.

The numbers of the fix are of any type with the operations of `CDouble`; `exactNumbers` are
the rationals.
-/

namespace DeviceAndroVM
namespace Gps

open Library

/-! ## Tokens -/

/-- A `Token`.  Its `buff` is the C string that `p` points at; `p` is `NULL` until the
token is filled, and `length` is `end - p`. -/
structure Token where
  p : Option CString
  length : Nat
  init : Bool
  deriving DecidableEq

namespace Token

/-- A token of zeroed memory. -/
def zero : Token := ⟨none, 0, false⟩

/-- The bytes from `p + first` on, `count` of them.  Where the C string ends earlier, the
terminator is among them; no function reads on behind it. -/
def bytes (tok : Token) (first count : Nat) : CString :=
  (((tok.p.getD []) ++ [0]).drop first).take count

/-- The bytes from `p + first` to `end`. -/
def bytesFrom (tok : Token) (first : Nat) : CString := tok.bytes first (tok.length - first)

/-- `tok.p[0]`; a `NULL` pointer cannot be dereferenced. -/
def first (tok : Token) : Option UInt8 := tok.p.map fun s => s.headD 0

end Token

def MAX_NMEA_TOKENS : Nat := 16

/-- The string that starts at a place of a buffer. -/
def cstring (buffer : List UInt8) : CString := buffer.takeWhile (· != 0)

/-- The loop of the tokenizer: `s` is the buffer from `p` on and `left` is `end - p`.  A
turn consumes a byte or more, so `left` turns are enough. -/
def tokenizeLoop : Nat → List UInt8 → Nat → List Token → List Token
  | 0, _, _, tokens => tokens
  | turns + 1, s, left, tokens =>
      if left = 0 then tokens
      else
        let length := ((s.take left).takeWhile (· != 0x2C)).length
        let tokens' :=
          if 0 < length ∧ tokens.length < MAX_NMEA_TOKENS then
            tokens ++ [⟨some (cstring s), length, true⟩]
          else tokens
        let next := if length < left then length + 1 else length
        tokenizeLoop turns (s.drop next) (left - next) tokens'

/-- `nmea_tokenizer_init` on the first `pos` bytes of a buffer: no `$` in front, no line end
and no checksum. -/
def nmea_tokenizer_init (buffer : List UInt8) (pos : Nat) : List Token :=
  let p := if 0 < pos ∧ buffer.getD 0 0 = 0x24 then 1 else 0
  let line :=
    if p < pos ∧ buffer.getD (pos - 1) 0 = 0x0A then
      if p < pos - 1 ∧ buffer.getD (pos - 2) 0 = 0x0D then pos - 2 else pos - 1
    else pos
  let stop := if p + 3 ≤ line ∧ buffer.getD (line - 3) 0 = 0x2A then line - 3 else line
  tokenizeLoop (stop - p) (buffer.drop p) (stop - p) []

def nmea_tokenizer_get (t : List Token) (index : Nat) : Token :=
  match t[index]? with
  | none => ⟨some [], 0, true⟩
  | some tok => ⟨tok.p, tok.length, true⟩

/-! ## Numbers -/

/-- The operations on `double` that the reader uses. -/
class CDouble (F : Type) extends Neg F, Add F, Sub F, Mul F, Div F, IntCast F where
  floor : F → F
  /-- `(int) x`. -/
  toInt : F → Int
  /-- `strtod(s, NULL)`. -/
  strtod : CString → F

/-- `(int) x`: towards zero.  C leaves the value open when it is no `int`; the processor
gives the least one. -/
def truncate (q : ℚ) : Int :=
  let whole := if 0 ≤ q then q.floor else -(-q).floor
  if -0x80000000 ≤ whole ∧ whole < 0x80000000 then whole else -0x80000000

/-- Exact numbers. -/
instance exactNumbers : CDouble ℚ where
  floor q := q.floor
  toInt := truncate
  strtod := CString.strtod

/-- `str2int`; the result of a number that is no `int` wraps around. -/
def str2int (s : CString) : Int :=
  if s.all CString.isdigit then (CString.decimalValue s : Int).bmod 0x100000000 else -1

/-- `str2float` on `len` bytes: numbers of 16 bytes and more are not read. -/
def str2float {F : Type} [CDouble F] (s : CString) (len : Nat) : F :=
  if 16 ≤ len then ((0 : Int) : F) else CDouble.strtod (cstring s)

/-! ## The reader -/

/-- `t_all_tokens`. -/
structure t_all_tokens where
  time : Token
  latitude : Token
  latitudeHemi : Token
  longitude : Token
  fixStatus : Token
  longitudeHemi : Token
  accuracy : Token
  altitude : Token
  altitudeUnits : Token
  speed : Token
  bearing : Token
  date : Token
  deriving DecidableEq

/-- The tokens that `open_gps` leaves. -/
def t_all_tokens.zero : t_all_tokens :=
  ⟨.zero, .zero, .zero, .zero, .zero, .zero, .zero, .zero, .zero, .zero, .zero, .zero⟩

def GPS_LOCATION_HAS_LAT_LONG : UInt16 := 0x0001
def GPS_LOCATION_HAS_ALTITUDE : UInt16 := 0x0002
def GPS_LOCATION_HAS_SPEED : UInt16 := 0x0004
def GPS_LOCATION_HAS_BEARING : UInt16 := 0x0008
def GPS_LOCATION_HAS_ACCURACY : UInt16 := 0x0010

/-- `GpsLocation`. -/
structure GpsLocation (F : Type) where
  flags : UInt16
  latitude : F
  longitude : F
  altitude : F
  speed : F
  bearing : F
  accuracy : Int
  timestamp : Int
  deriving DecidableEq

def NMEA_MAX_SIZE : Nat := 83

/-- `NmeaReader`; of the callback only whether there is one. -/
structure NmeaReader (F : Type) where
  pos : Nat
  overflow : Bool
  utc_year : Int
  utc_mon : Int
  utc_day : Int
  utc_diff : Int
  fix : GpsLocation F
  callback : Bool
  in' : List UInt8
  deriving DecidableEq

variable {F : Type} [CDouble F]

namespace NmeaReader

/-- `nmea_reader_init`.  `utc_diff` is what `nmea_reader_update_utc_diff` computes. -/
def init (utc_diff : Int) : NmeaReader F :=
  { pos := 0
    overflow := false
    utc_year := -1
    utc_mon := -1
    utc_day := -1
    utc_diff
    fix := ⟨0, ((0 : Int) : F), ((0 : Int) : F), ((0 : Int) : F), ((0 : Int) : F), ((0 : Int) : F), 0, 0⟩
    callback := false
    in' := List.replicate (NMEA_MAX_SIZE + 1) 0 }

/-- `r->fix.flags |= mask`. -/
def setFlags (r : NmeaReader F) (mask : UInt16) : NmeaReader F :=
  { r with fix := { r.fix with flags := r.fix.flags ||| mask } }

/-- `r->in[r->pos] = c; r->pos += 1`. -/
def store (r : NmeaReader F) (c : UInt8) : NmeaReader F :=
  { r with in' := r.in'.set r.pos c, pos := r.pos + 1 }

/-- The current date, where the reader has none yet. -/
def withDate (r : NmeaReader F) (now : Nat) : NmeaReader F :=
  if r.utc_year < 0 then
    let tm := Calendar.gmtime now
    { r with utc_year := tm.tm_year + 1900, utc_mon := tm.tm_mon + 1, utc_day := tm.tm_mday }
  else r

end NmeaReader

/-- The broken-down time of a time token on the date of the reader. -/
def timeOf (r : NmeaReader F) (tok : Token) : Tm :=
  let seconds : F := str2float (tok.bytesFrom 4) (tok.length - 4)
  { tm_sec := CDouble.toInt seconds
    tm_min := str2int (tok.bytes 2 2)
    tm_hour := str2int (tok.bytes 0 2)
    tm_mday := r.utc_day
    tm_mon := r.utc_mon - 1
    tm_year := r.utc_year - 1900 }

/-- `nmea_reader_update_time`; `now` is what `time(NULL)` returns. -/
def nmea_reader_update_time (mktime : Tm → Int) (now : Nat) (r : NmeaReader F) (tok : Token) :
    NmeaReader F :=
  if !tok.init || tok.length < 6 then r
  else
    let r := r.withDate now
    let fix_time := mktime (timeOf r tok) + r.utc_diff
    { r with fix := { r.fix with timestamp := fix_time * 1000 } }

def nmea_reader_update_date (mktime : Tm → Int) (now : Nat) (r : NmeaReader F)
    (date time : Token) : NmeaReader F :=
  if !date.init || date.length ≠ 6 then r
  else
    let day := str2int (date.bytes 0 2)
    let mon := str2int (date.bytes 2 2)
    let year := str2int (date.bytes 4 2) + 2000
    -- the sign bit of `day|mon|year`
    if day < 0 ∨ mon < 0 ∨ year < 0 then r
    else
      nmea_reader_update_time mktime now { r with utc_year := year, utc_mon := mon, utc_day := day }
        time

def nmea_reader_update_accuracy (r : NmeaReader F) (tok : Token) : NmeaReader F :=
  if !tok.init then r
  else
    let accuracy := str2int (tok.bytesFrom 0)
    let accuracy := if accuracy < 0 ∨ accuracy > 200 then 1 else accuracy
    { r with fix := { r.fix with accuracy } }.setFlags GPS_LOCATION_HAS_ACCURACY

/-- The whole number a token holds. -/
def floatOf (tok : Token) : F := str2float (tok.bytesFrom 0) tok.length

def convert_from_hhmm (tok : Token) : F :=
  let val : F := floatOf tok
  let degrees := CDouble.toInt (CDouble.floor val / ((100 : Int) : F))
  let minutes := val - (degrees : F) * ((100 : Int) : F)
  (degrees : F) + minutes / ((60 : Int) : F)

def nmea_reader_update_latlong (r : NmeaReader F) (latitude : Token) (latitudeHemi : UInt8)
    (longitude : Token) (longitudeHemi : UInt8) : NmeaReader F :=
  if !latitude.init || latitude.length < 6 then r
  else
    let lat : F := convert_from_hhmm latitude
    let lat := if latitudeHemi = 0x53 then -lat else lat
    if !longitude.init || longitude.length < 6 then r
    else
      let lon : F := convert_from_hhmm longitude
      let lon := if longitudeHemi = 0x57 then -lon else lon
      { r with fix := { r.fix with latitude := lat, longitude := lon } }.setFlags
        GPS_LOCATION_HAS_LAT_LONG

def nmea_reader_update_altitude (r : NmeaReader F) (altitude : Token) : NmeaReader F :=
  if !altitude.init || altitude.length = 0 then r
  else
    { r with fix := { r.fix with altitude := floatOf altitude } }.setFlags GPS_LOCATION_HAS_ALTITUDE

def nmea_reader_update_bearing (r : NmeaReader F) (bearing : Token) : NmeaReader F :=
  if !bearing.init || bearing.length = 0 then r
  else
    { r with fix := { r.fix with bearing := floatOf bearing } }.setFlags GPS_LOCATION_HAS_BEARING

def nmea_reader_update_speed (r : NmeaReader F) (speed : Token) : NmeaReader F :=
  if !speed.init || speed.length = 0 then r
  else
    { r with fix := { r.fix with speed := floatOf speed } }.setFlags GPS_LOCATION_HAS_SPEED

/-! ## Sentences -/

/-- The type in the id of a sentence. -/
inductive SentenceType
  | GGA
  | GSA
  | RMC
  | unknown
  deriving DecidableEq

/-- The three bytes behind the talker; `memcmp` stops at the terminator of a shorter id. -/
def sentenceType (id : Token) : SentenceType :=
  let code := ((id.p.getD []).drop 2).take 3
  if code = [0x47, 0x47, 0x41] then .GGA
  else if code = [0x47, 0x53, 0x41] then .GSA
  else if code = [0x52, 0x4D, 0x43] then .RMC
  else .unknown

/-- The tokens that a sentence fills. -/
def t_all_tokens.fill (tokens : t_all_tokens) (tzer : List Token) : SentenceType → t_all_tokens
  | .GGA =>
      { tokens with
        time := nmea_tokenizer_get tzer 1
        fixStatus := nmea_tokenizer_get tzer 2
        latitude := nmea_tokenizer_get tzer 3
        latitudeHemi := nmea_tokenizer_get tzer 4
        longitude := nmea_tokenizer_get tzer 5
        longitudeHemi := nmea_tokenizer_get tzer 6
        accuracy := nmea_tokenizer_get tzer 8
        altitude := nmea_tokenizer_get tzer 9
        altitudeUnits := nmea_tokenizer_get tzer 10 }
  | .RMC =>
      { tokens with
        time := nmea_tokenizer_get tzer 1
        fixStatus := nmea_tokenizer_get tzer 2
        latitude := nmea_tokenizer_get tzer 3
        latitudeHemi := nmea_tokenizer_get tzer 4
        longitude := nmea_tokenizer_get tzer 5
        longitudeHemi := nmea_tokenizer_get tzer 6
        speed := nmea_tokenizer_get tzer 7
        bearing := nmea_tokenizer_get tzer 8
        date := nmea_tokenizer_get tzer 9 }
  | .GSA | .unknown => tokens

/-- The updates that `nmea_reader_parse` makes from the tokens; none where a `NULL` pointer
is dereferenced. -/
def nmea_reader_update (mktime : Tm → Int) (now : Nat) (r : NmeaReader F) (tokens : t_all_tokens) :
    Option (NmeaReader F) :=
  match tokens.latitudeHemi.first, tokens.longitudeHemi.first with
  | some latitudeHemi, some longitudeHemi =>
      let r := nmea_reader_update_time mktime now r tokens.time
      let r := nmea_reader_update_latlong r tokens.latitude latitudeHemi tokens.longitude longitudeHemi
      let r := nmea_reader_update_altitude r tokens.altitude
      let r := nmea_reader_update_accuracy r tokens.accuracy
      if tokens.fixStatus.init && tokens.fixStatus.first = some 0x41 then
        let r := nmea_reader_update_date mktime now r tokens.date tokens.time
        let r := nmea_reader_update_bearing r tokens.bearing
        some (nmea_reader_update_speed r tokens.speed)
      else some r
  | _, _ => none

namespace NmeaReader

/-- A fix with flags goes to the callback, when there is one, and loses its flags. -/
def report (r : NmeaReader F) : NmeaReader F × List (GpsLocation F) :=
  if r.fix.flags ≠ 0 && r.callback then ({ r with fix := { r.fix with flags := 0 } }, [r.fix])
  else (r, [])

end NmeaReader

/-! ## A session -/

/-- A module that has been opened, with the sentences handed to `nmea_reader_parse` and the
fixes handed to the callback.  After a `NULL` pointer has been dereferenced the process is
gone. -/
structure Session (F : Type) where
  reader : NmeaReader F
  tokens : t_all_tokens
  handed : List CString
  fixes : List (GpsLocation F)
  crashed : Bool
  deriving DecidableEq

namespace Session

/-- `open_gps` and `nmea_reader_init`. -/
def opened (utc_diff : Int) : Session F := ⟨.init utc_diff, .zero, [], [], false⟩

def report (s : Session F) : Session F :=
  { s with reader := s.reader.report.1, fixes := s.fixes ++ s.reader.report.2 }

/-- The part of `nmea_reader_parse` behind the tokenizer. -/
def parseTokens (mktime : Tm → Int) (now : Nat) (s : Session F) (tzer : List Token) : Session F :=
  let tok := nmea_tokenizer_get tzer 0
  if tok.length < 5 then s
  else
    let tokens := s.tokens.fill tzer (sentenceType tok)
    match nmea_reader_update mktime now s.reader tokens with
    | none => { s with tokens, crashed := true }
    | some r => { s with tokens, reader := r }.report

def nmea_reader_parse (mktime : Tm → Int) (now : Nat) (s : Session F) : Session F :=
  if s.reader.pos < 9 then s
  else s.parseTokens mktime now (nmea_tokenizer_init s.reader.in' s.reader.pos)

/-- A sentence is handed to `nmea_reader_parse`, and the next one begins. -/
def endSentence (mktime : Tm → Int) (now : Nat) (s : Session F) : Session F :=
  let s :=
    { s with handed := s.handed ++ [s.reader.in'.take s.reader.pos] }.nmea_reader_parse mktime now
  { s with reader := { s.reader with pos := 0 } }

def nmea_reader_addc (mktime : Tm → Int) (now : Nat) (s : Session F) (c : UInt8) : Session F :=
  let r := s.reader
  if r.overflow then { s with reader := { r with overflow := c != 0x0A } }
  else if NMEA_MAX_SIZE ≤ r.pos then { s with reader := { r with overflow := true, pos := 0 } }
  else
    let s := { s with reader := r.store c }
    if c = 0x0A then s.endSentence mktime now else s

def nmea_reader_set_callback (s : Session F) (cb : Bool) : Session F :=
  { s with reader := { s.reader with callback := cb } }.report

/-- What happens to a module: a byte arrives, at a time of the clock, or the callback is
set. -/
inductive Input
  | byte (now : Nat) (c : UInt8)
  | callback (cb : Bool)
  deriving DecidableEq

/-- One event, while the process lives. -/
def step (mktime : Tm → Int) (s : Session F) (input : Input) : Option (Session F) :=
  if s.crashed then none
  else
    match input with
    | .byte now c => some (s.nmea_reader_addc mktime now c)
    | .callback cb => some (s.nmea_reader_set_callback cb)

/-- Bytes that arrive one after the other, where `time(NULL)` is `now`. -/
def arriving (now : Nat) (s : CString) : List Input := s.map (.byte now ·)

/-- One event after the other. -/
def feed (mktime : Tm → Int) (s : Session F) (inputs : List Input) : Option (Session F) :=
  inputs.foldlM (step mktime) s

end Session

/-! ## What the updates leave alone -/

namespace NmeaReader

/-- The fields that no update of the fix writes. -/
def framing (r : NmeaReader F) : Nat × Bool × List UInt8 × Bool × Int :=
  (r.pos, r.overflow, r.in', r.callback, r.utc_diff)

@[simp] theorem framing_update_time (mktime : Tm → Int) (now : Nat) (r : NmeaReader F)
    (tok : Token) : (nmea_reader_update_time mktime now r tok).framing = r.framing := by
  unfold nmea_reader_update_time withDate
  split
  · rfl
  · split <;> rfl

@[simp] theorem framing_update_date (mktime : Tm → Int) (now : Nat) (r : NmeaReader F)
    (date time : Token) : (nmea_reader_update_date mktime now r date time).framing = r.framing := by
  unfold nmea_reader_update_date
  split
  · rfl
  · dsimp only
    split
    · rfl
    · rw [framing_update_time]
      rfl

omit [CDouble F] in
@[simp] theorem framing_update_accuracy (r : NmeaReader F) (tok : Token) :
    (nmea_reader_update_accuracy r tok).framing = r.framing := by
  unfold nmea_reader_update_accuracy
  split <;> rfl

@[simp] theorem framing_update_latlong (r : NmeaReader F) (latitude longitude : Token)
    (latitudeHemi longitudeHemi : UInt8) :
    (nmea_reader_update_latlong r latitude latitudeHemi longitude longitudeHemi).framing =
      r.framing := by
  unfold nmea_reader_update_latlong
  split
  · rfl
  · dsimp only
    split <;> rfl

@[simp] theorem framing_update_altitude (r : NmeaReader F) (tok : Token) :
    (nmea_reader_update_altitude r tok).framing = r.framing := by
  unfold nmea_reader_update_altitude
  split <;> rfl

@[simp] theorem framing_update_bearing (r : NmeaReader F) (tok : Token) :
    (nmea_reader_update_bearing r tok).framing = r.framing := by
  unfold nmea_reader_update_bearing
  split <;> rfl

@[simp] theorem framing_update_speed (r : NmeaReader F) (tok : Token) :
    (nmea_reader_update_speed r tok).framing = r.framing := by
  unfold nmea_reader_update_speed
  split <;> rfl

omit [CDouble F] in
@[simp] theorem framing_report (r : NmeaReader F) : r.report.1.framing = r.framing := by
  unfold report
  split <;> rfl

theorem framing_update {mktime : Tm → Int} {now : Nat} {r r' : NmeaReader F}
    {tokens : t_all_tokens} (h : nmea_reader_update mktime now r tokens = some r') :
    r'.framing = r.framing := by
  unfold nmea_reader_update at h
  split at h
  · dsimp only at h
    split at h
    · rw [← Option.some.inj h]
      simp
    · rw [← Option.some.inj h]
      simp
  · cases h

end NmeaReader

namespace Session

theorem framing_parse (mktime : Tm → Int) (now : Nat) (s : Session F) :
    (s.nmea_reader_parse mktime now).reader.framing = s.reader.framing ∧
      (s.nmea_reader_parse mktime now).handed = s.handed := by
  unfold nmea_reader_parse
  split
  · exact ⟨rfl, rfl⟩
  · unfold parseTokens
    dsimp only
    split
    · exact ⟨rfl, rfl⟩
    · split
      · exact ⟨rfl, rfl⟩
      · rename_i r hupdate
        refine ⟨?_, rfl⟩
        change r.report.1.framing = s.reader.framing
        rw [NmeaReader.framing_report, NmeaReader.framing_update hupdate]

end Session

end Gps
end DeviceAndroVM
