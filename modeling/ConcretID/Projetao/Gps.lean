import Mathlib.Logic.Function.Basic
import ConcretID.Library.Memory

open concretid.memory

namespace concretid.projetao

/-- The `_GPS_SENTENCE_...` constants. -/
inductive SentenceType where
  | GPGGA | GPRMC | OTHER
  deriving DecidableEq

def SentenceType.code : SentenceType → Nat
  | GPGGA => 0
  | GPRMC => 1
  | OTHER => 2

/-- The values a fix has, each with a variable and a `_new_` variable. -/
inductive Field where
  | time | date | latitude | longitude | altitude | speed | course | hdop | numsats
  deriving DecidableEq

/-- The `GPS_INVALID_...` constant `initGps` gives a field. -/
def Field.invalid : Field → UInt32
  | time => 0xFFFFFFFF
  | date => 0
  | latitude => 999999999
  | longitude => 999999999
  | altitude => 999999999
  | speed => 999999999
  | course => 999999999
  | hdop => 0xFFFFFFFF
  | numsats => 0xFF

/-- The fields a sentence of a type publishes. -/
def SentenceType.fields : SentenceType → List Field
  | GPRMC => [.time, .date, .latitude, .longitude, .speed, .course]
  | GPGGA => [.altitude, .time, .latitude, .longitude, .numsats, .hdop]
  | OTHER => []

/-- What `encode` meets in the stream and does to the fields, in order. A term is
told with the sentence type at that moment, a checksum with whether it matched
and whether the data were good. -/
inductive Event where
  | dollar
  | term (type : SentenceType) (number : UInt8) (text : List UInt8)
  | checksum (matched good : Bool) (type : SentenceType)
  | parse (f : Field) (value : UInt32)
  | negate (f : Field)
  | publish (f : Field)
  deriving DecidableEq

/-- The variables of `gps.c`. -/
structure Gps where
  published : Field → UInt32
  new : Field → UInt32
  last_time_fix : UInt32
  new_time_fix : UInt32
  last_position_fix : UInt32
  new_position_fix : UInt32
  parity : UInt8
  is_checksum_term : Bool
  term : Nat → UInt8
  sentence_type : SentenceType
  term_number : UInt8
  term_offset : Nat
  gps_data_good : Bool
  encoded_characters : UInt32
  good_sentences : UInt16
  failed_checksum : UInt16
  trace : List Event

/-! ## Reading a term -/

def gpsisdigit (c : UInt8) : Bool := 0x30 ≤ c && c ≤ 0x39

/-- `from_hex`, of which `term_complete` uses the low byte. -/
def from_hex (a : UInt8) : UInt8 :=
  if 0x41 ≤ a ∧ a ≤ 0x46 then a - 0x41 + 10
  else if 0x61 ≤ a ∧ a ≤ 0x66 then a - 0x61 + 10
  else a - 0x30

/-- The text of a term is given without its NUL. -/
def gpsatol (str : List UInt8) : UInt32 :=
  (str.takeWhile gpsisdigit).foldl (fun ret c => 10 * ret + c.toUInt32 - 0x30) 0

/-- `gpsstrcmp`: 0 also when the first string is a beginning of the second. -/
def gpsstrcmp : List UInt8 → List UInt8 → UInt8
  | [], _ => 0
  | c :: str1, d :: str2 => if c = d then gpsstrcmp str1 str2 else c
  | c :: _, [] => c

def digitValue (c : UInt8) : UInt32 := c.toUInt32 - 0x30

/-- Two decimals behind the point, as hundredths. -/
def hundredths : List UInt8 → UInt32
  | c :: d :: _ =>
    if gpsisdigit c then 10 * digitValue c + (if gpsisdigit d then digitValue d else 0) else 0
  | [c] => if gpsisdigit c then 10 * digitValue c else 0
  | [] => 0

def parse_decimal (term : List UInt8) : UInt32 :=
  let isneg := term.head? = some 0x2d
  let p := if isneg then term.tail else term
  let ret :=
    match p.dropWhile gpsisdigit with
    | c :: rest => if c = 0x2e then 100 * gpsatol p + hundredths rest else 100 * gpsatol p
    | [] => 100 * gpsatol p
  if isneg then -ret else ret

/-- The loop of `parse_degrees` over the digits behind the point. -/
def minutes_loop : List UInt8 → UInt32 → UInt32 → UInt32
  | [], _, tenk_minutes => tenk_minutes
  | c :: rest, mult, tenk_minutes =>
    if gpsisdigit c then minutes_loop rest (mult / 10) (tenk_minutes + mult * digitValue c)
    else tenk_minutes

def parse_degrees (term : List UInt8) : UInt32 :=
  let left := gpsatol term
  let tenk_minutes := left % 100 * 10000
  let tenk_minutes :=
    match term.dropWhile gpsisdigit with
    | c :: rest => if c = 0x2e then minutes_loop rest 1000 tenk_minutes else tenk_minutes
    | [] => tenk_minutes
  left / 100 * 100000 + tenk_minutes / 6

def isspace (c : UInt8) : Bool := c == 0x20 || (9 ≤ c && c ≤ 13)

/-- `(unsigned char)atoi(term)`. -/
def satellites (term : List UInt8) : UInt32 :=
  let text := term.dropWhile isspace
  let value :=
    match text with
    | c :: rest =>
      if c = 0x2d then -gpsatol rest else if c = 0x2b then gpsatol rest else gpsatol text
    | [] => 0
  value.toUInt8.toUInt32

/-! ## The decoder -/

/-- `COMBINE(sentence_type, term_number)`. -/
def COMBINE (sentence_type : SentenceType) (term_number : Nat) : Nat :=
  sentence_type.code <<< 5 ||| term_number

namespace Gps

def emit (s : Gps) (e : Event) : Gps := { s with trace := s.trace ++ [e] }

/-- `_new_... = value`. -/
def setNew (s : Gps) (f : Field) (value : UInt32) : Gps :=
  { s with new := Function.update s.new f value }.emit (.parse f value)

/-- `_new_... = -_new_...`. -/
def negateNew (s : Gps) (f : Field) : Gps :=
  { s with new := Function.update s.new f (-s.new f) }.emit (.negate f)

/-- `_... = _new_...`. -/
def publish (s : Gps) (f : Field) : Gps :=
  { s with published := Function.update s.published f (s.new f) }.emit (.publish f)

/-- The text in `_term`. -/
def text (s : Gps) : List UInt8 := (load s.term 0 15).takeWhile (· ≠ 0)

/-- The last `switch` of `term_complete`, on `COMBINE(_sentence_type, _term_number)`.
Characters are signed, so only those from `'1'` to 127 are above `'0'`. -/
def store_term (s : Gps) (now : UInt32) (code : Nat) : Gps :=
  if code = COMBINE .GPRMC 1 ∨ code = COMBINE .GPGGA 1 then
    { s with new_time_fix := now }.setNew .time (parse_decimal s.text)
  else if code = COMBINE .GPRMC 2 then { s with gps_data_good := s.term 0 == 0x41 }
  else if code = COMBINE .GPRMC 3 ∨ code = COMBINE .GPGGA 2 then
    { s with new_position_fix := now }.setNew .latitude (parse_degrees s.text)
  else if code = COMBINE .GPRMC 4 ∨ code = COMBINE .GPGGA 3 then
    if s.term 0 = 0x53 then s.negateNew .latitude else s
  else if code = COMBINE .GPRMC 5 ∨ code = COMBINE .GPGGA 4 then
    s.setNew .longitude (parse_degrees s.text)
  else if code = COMBINE .GPRMC 6 ∨ code = COMBINE .GPGGA 5 then
    if s.term 0 = 0x57 then s.negateNew .longitude else s
  else if code = COMBINE .GPRMC 7 then s.setNew .speed (parse_decimal s.text)
  else if code = COMBINE .GPRMC 8 then s.setNew .course (parse_decimal s.text)
  else if code = COMBINE .GPRMC 9 then s.setNew .date (gpsatol s.text)
  else if code = COMBINE .GPGGA 6 then
    { s with gps_data_good := 0x30 < s.term 0 && s.term 0 < 0x80 }
  else if code = COMBINE .GPGGA 7 then s.setNew .numsats (satellites s.text)
  else if code = COMBINE .GPGGA 8 then s.setNew .hdop (parse_decimal s.text)
  else if code = COMBINE .GPGGA 9 then s.setNew .altitude (parse_decimal s.text)
  else s

def term_complete (s : Gps) (now : UInt32) : Gps × Bool :=
  if s.is_checksum_term then
    let checksum := 16 * from_hex (s.term 0) + from_hex (s.term 1)
    let matched := checksum == s.parity
    let s := s.emit (.checksum matched s.gps_data_good s.sentence_type)
    if matched then
      if s.gps_data_good then
        let s := { s with
          good_sentences := s.good_sentences + 1
          last_time_fix := s.new_time_fix
          last_position_fix := s.new_position_fix }
        (s.sentence_type.fields.foldl publish s, true)
      else (s, false)
    else ({ s with failed_checksum := s.failed_checksum + 1 }, false)
  else
    let s := s.emit (.term s.sentence_type s.term_number s.text)
    if s.term_number = 0 then
      -- the first term determines the sentence type
      let sentence_type :=
        if gpsstrcmp s.text [0x47, 0x50, 0x52, 0x4d, 0x43] = 0 then SentenceType.GPRMC
        else if gpsstrcmp s.text [0x47, 0x50, 0x47, 0x47, 0x41] = 0 then .GPGGA
        else .OTHER
      ({ s with sentence_type }, false)
    else if s.sentence_type ≠ .OTHER ∧ s.term 0 ≠ 0 then
      (s.store_term now (COMBINE s.sentence_type s.term_number.toNat), false)
    else (s, false)

/-- `encode`, with what `millis()` returns. -/
def encode (s : Gps) (now : UInt32) (c : UInt8) : Gps × Bool :=
  let s := { s with encoded_characters := s.encoded_characters + 1 }
  if c = 0x2c ∨ c = 0x0d ∨ c = 0x0a ∨ c = 0x2a then
    let s := if c = 0x2c then { s with parity := s.parity ^^^ c } else s
    let (s, valid_sentence) :=
      if s.term_offset < 15 then
        { s with term := Function.update s.term s.term_offset 0 }.term_complete now
      else (s, false)
    ({ s with
      term_number := s.term_number + 1
      term_offset := 0
      is_checksum_term := c = 0x2a }, valid_sentence)
  else if c = 0x24 then
    ({ s with
      term_number := 0
      term_offset := 0
      parity := 0
      sentence_type := .OTHER
      is_checksum_term := false
      gps_data_good := false }.emit .dollar, false)
  else
    let s :=
      if s.term_offset < 14 then
        { s with
          term := Function.update s.term s.term_offset c
          term_offset := s.term_offset + 1 }
      else s
    (if s.is_checksum_term then s else { s with parity := s.parity ^^^ c }, false)

/-- The state after `initGps`, with the `_new_` variables as at boot. -/
def initGps : Gps :=
  { published := Field.invalid
    new := fun _ => 0
    last_time_fix := 0xFFFFFFFF
    new_time_fix := 0
    last_position_fix := 0xFFFFFFFF
    new_position_fix := 0
    parity := 0
    is_checksum_term := false
    term := fun _ => 0
    sentence_type := .OTHER
    term_number := 0
    term_offset := 0
    gps_data_good := false
    encoded_characters := 0
    good_sentences := 0
    failed_checksum := 0
    trace := [] }

/-- The characters fed one after the other, each with the time it comes at. -/
def feed (stream : List (UInt32 × UInt8)) : Gps :=
  stream.foldl (fun s input => (s.encode input.1 input.2).1) initGps

end Gps

end concretid.projetao
