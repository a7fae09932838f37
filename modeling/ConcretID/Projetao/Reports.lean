import ConcretID.Projetao.Decimals
import ConcretID.Projetao.Lines

open concretid.history

namespace concretid.projetao

/-! ## What a receiver reports -/

/-- A place, with the letters for its halves of the globe. -/
structure Place where
  latitude : Coordinate
  south : Bool
  longitude : Coordinate
  west : Bool
  fits : latitude.text.length ≤ 14 ∧ longitude.text.length ≤ 14

def Place.terms (p : Place) : List (List UInt8) :=
  [p.latitude.text, [if p.south then 0x53 else 0x4e], p.longitude.text, [if p.west then 0x57 else 0x45]]

/-- A signed value of a coordinate. -/
def Coordinate.turned (c : Coordinate) (negative : Bool) : Int :=
  if negative then -c.hundredThousandths else c.hundredThousandths

/-- A term whose characters all go into `_term`. -/
structure Written (term : List UInt8) : Prop where
  ne_nil : term ≠ []
  fits : term.length ≤ 14
  chars : ∀ c ∈ term, c ≠ 0 ∧ c ≠ 0x2a ∧ isTerminator c = false ∧ isDollar c = false

/-- A term that is none of those a report is read from. -/
def Ignored (term : List UInt8) : Prop := ∀ c ∈ term, isTerminator c = false ∧ isDollar c = false

/-- A sentence of type `GPRMC` with valid data, and with terms of its own behind the date. -/
structure Rmc where
  time : Decimal
  place : Place
  speed : Decimal
  course : Decimal
  date : List (Fin 10)
  more : List (List UInt8)
  fits : time.text.length ≤ 14 ∧ speed.text.length ≤ 14 ∧ course.text.length ≤ 14
  date_length : 1 ≤ date.length ∧ date.length ≤ 6
  more_length : more.length ≤ 22
  ignored : ∀ term ∈ more, Ignored term

/-- A sentence of type `GPGGA` with a fix, and with terms of its own behind the altitude. -/
structure Gga where
  time : Decimal
  place : Place
  quality : Fin 10
  satellites : List (Fin 10)
  hdop : Decimal
  altitude : Decimal
  below : Bool
  more : List (List UInt8)
  fits : time.text.length ≤ 14 ∧ hdop.text.length ≤ 14 ∧ altitude.text.length ≤ 13
  quality_pos : 0 < quality
  satellites_length : 1 ≤ satellites.length ∧ satellites.length ≤ 3
  satellites_lt : number satellites < 256
  more_length : more.length ≤ 22
  ignored : ∀ term ∈ more, Ignored term

namespace Rmc

/-- The terms that are read. -/
def front (m : Rmc) : List (List UInt8) :=
  [GPRMC_TERM, m.time.text, [0x41]] ++ m.place.terms ++ [m.speed.text, m.course.text, m.date.map digitChar]

/-- What it says of a field. -/
def value (m : Rmc) : Field → Option Int
  | .time => some m.time.hundredths
  | .date => some (number m.date)
  | .latitude => some (m.place.latitude.turned m.place.south)
  | .longitude => some (m.place.longitude.turned m.place.west)
  | .speed => some m.speed.hundredths
  | .course => some m.course.hundredths
  | _ => none

end Rmc

namespace Gga

/-- The terms that are read. -/
def front (g : Gga) : List (List UInt8) :=
  [GPGGA_TERM, g.time.text] ++ g.place.terms ++
    [[digitChar g.quality], g.satellites.map digitChar, g.hdop.text,
      if g.below then 0x2d :: g.altitude.text else g.altitude.text]

/-- What it says of a field. -/
def value (g : Gga) : Field → Option Int
  | .time => some g.time.hundredths
  | .latitude => some (g.place.latitude.turned g.place.south)
  | .longitude => some (g.place.longitude.turned g.place.west)
  | .altitude => some (if g.below then -g.altitude.hundredths else g.altitude.hundredths)
  | .hdop => some g.hdop.hundredths
  | .numsats => some (number g.satellites)
  | _ => none

end Gga

/-! ## The characters of a term -/

namespace Written

theorem of_digits {digits : List (Fin 10)} (hlength : 1 ≤ digits.length ∧ digits.length ≤ 14) :
    Written (digits.map digitChar) := by
  have hchar : ∀ d : Fin 10, digitChar d ≠ 0 ∧ digitChar d ≠ 0x2a ∧ isTerminator (digitChar d) = false ∧
      isDollar (digitChar d) = false := by decide
  refine ⟨?_, by rw [List.length_map]; exact hlength.2, fun c hc => ?_⟩
  · rw [Ne, List.map_eq_nil_iff, ← List.length_eq_zero_iff]
    omega
  · obtain ⟨d, -, rfl⟩ := List.mem_map.mp hc
    exact hchar d

/-- Digits, with a point and digits behind it or without. -/
theorem of_point {digits : List (Fin 10)} (hpos : 1 ≤ digits.length) {p : List UInt8}
    (hp : p = [] ∨ ∃ decimals : List (Fin 10), p = 0x2e :: decimals.map digitChar)
    (hfits : (digits.map digitChar ++ p).length ≤ 14) : Written (digits.map digitChar ++ p) := by
  obtain rfl | ⟨decimals, rfl⟩ := hp
  · rw [List.append_nil, List.length_map] at hfits
    rw [List.append_nil]
    exact of_digits ⟨hpos, hfits⟩
  · simp only [List.length_append, List.length_cons, List.length_map] at hfits
    refine ⟨by simp, by simpa using hfits, fun c hc => ?_⟩
    have hall {digits : List (Fin 10)} (hlength : digits.length ≤ 14) (hc : c ∈ digits.map digitChar) :
        c ≠ 0 ∧ c ≠ 0x2a ∧ isTerminator c = false ∧ isDollar c = false := by
      refine (of_digits ⟨?_, hlength⟩).chars c hc
      rw [← List.length_map (f := digitChar)]
      exact List.length_pos_of_mem hc
    rw [List.mem_append, List.mem_cons] at hc
    obtain hc | rfl | hc := hc
    · exact hall (by omega) hc
    · decide
    · exact hall (by omega) hc

theorem decimal {d : Decimal} (hfits : d.text.length ≤ 14) : Written d.text := by
  refine of_point d.whole_length.1 ?_ hfits
  cases d.decimals with
  | none => exact .inl rfl
  | some decimals => exact .inr ⟨decimals, rfl⟩

theorem coordinate {c : Coordinate} (hfits : c.text.length ≤ 14) : Written c.text := by
  refine of_point (by simp) ?_ hfits
  cases c.decimals with
  | none => exact .inl rfl
  | some decimals => exact .inr ⟨decimals, rfl⟩

theorem negative {term : List UInt8} (h : Written term) (hfits : term.length ≤ 13) : Written (0x2d :: term) := by
  refine ⟨List.cons_ne_nil _ _, by rw [List.length_cons]; omega, fun c hc => ?_⟩
  obtain rfl | hc := List.mem_cons.mp hc
  · decide
  · exact h.chars c hc

/-- A letter. -/
theorem letter {c : UInt8} (hc : c ≠ 0 ∧ c ≠ 0x2a ∧ isTerminator c = false ∧ isDollar c = false) :
    Written [c] := by
  refine ⟨List.cons_ne_nil c [], by rw [List.length_singleton]; decide, fun d hd => ?_⟩
  obtain rfl := List.mem_singleton.mp hd
  exact hc

/-- The name of a type. -/
theorem name {term : List UInt8} (h : term = GPRMC_TERM ∨ term = GPGGA_TERM) : Written term := by
  obtain rfl | rfl := h
  · exact ⟨List.cons_ne_nil _ _, by decide, by simp [GPRMC_TERM, isTerminator, isDollar]⟩
  · exact ⟨List.cons_ne_nil _ _, by decide, by simp [GPGGA_TERM, isTerminator, isDollar]⟩

theorem kept_eq {term : List UInt8} (h : Written term) : kept term = term := by
  rw [kept, List.take_of_length_le h.fits]
  exact library.before_eq_self fun hzero => (h.chars 0 hzero).1 rfl

end Written

theorem Place.written (p : Place) : ∀ term ∈ p.terms, Written term := by
  have hletter : ∀ b : Bool, Written [if b then 0x53 else 0x4e] ∧ Written [if b then 0x57 else 0x45] := by
    intro b
    cases b <;> exact ⟨.letter (by decide), .letter (by decide)⟩
  simp only [Place.terms, List.forall_mem_cons]
  exact ⟨.coordinate p.fits.1, (hletter _).1, .coordinate p.fits.2, (hletter _).2, by simp⟩

theorem Rmc.written (m : Rmc) : ∀ term ∈ m.front, Written term := by
  simp only [Rmc.front, List.forall_mem_append, List.forall_mem_cons]
  refine ⟨⟨⟨.name (.inl rfl), .decimal m.fits.1, .letter (by decide), by simp⟩, m.place.written⟩,
    .decimal m.fits.2.1, .decimal m.fits.2.2, .of_digits ⟨m.date_length.1, ?_⟩, by simp⟩
  exact Nat.le_trans m.date_length.2 (by decide)

theorem Gga.written (g : Gga) : ∀ term ∈ g.front, Written term := by
  have haltitude : Written (if g.below then 0x2d :: g.altitude.text else g.altitude.text) := by
    have hwritten : Written g.altitude.text := .decimal (Nat.le_trans g.fits.2.2 (by decide))
    split
    · exact hwritten.negative g.fits.2.2
    · exact hwritten
  have hquality : Written ([g.quality].map digitChar) := .of_digits (by simp)
  simp only [Gga.front, List.forall_mem_append, List.forall_mem_cons]
  refine ⟨⟨⟨.name (.inr rfl), .decimal g.fits.1, by simp⟩, g.place.written⟩, hquality,
    .of_digits ⟨g.satellites_length.1, ?_⟩, .decimal g.fits.2.1, haltitude, by simp⟩
  exact Nat.le_trans g.satellites_length.2 (by decide)

/-! ## What is read of it -/

/-- A `long` variable. -/
def signed (u : UInt32) : Int := u.toInt32.toInt

theorem signed_of_lt {u : UInt32} (h : u.toNat < 2 ^ 31) : signed u = u.toNat := by
  rw [signed, Int32.toInt, UInt32.toBitVec_toInt32, BitVec.toInt_eq_toNat_of_lt]
  · rfl
  · rw [UInt32.toNat_toBitVec]
    omega

theorem signed_neg {u : UInt32} (h : u.toNat < 2 ^ 31) : signed (-u) = -u.toNat := by
  have hint : u.toBitVec.toInt = u.toNat := by
    rw [BitVec.toInt_eq_toNat_of_lt]
    · rfl
    · rw [UInt32.toNat_toBitVec]
      omega
  rw [signed, Int32.toInt, UInt32.toBitVec_toInt32, UInt32.toBitVec_neg, BitVec.toInt_neg, hint]
  exact Int.bmod_eq_of_le (by omega) (by omega)

theorem Coordinate.hundredThousandths_lt (c : Coordinate) : c.hundredThousandths < 2 ^ 31 := by
  have hdegrees := c.degrees_le
  have htenk := c.tenkMinutes_lt
  rw [c.hundredThousandths_eq]
  omega

namespace Record

/-- The terms behind the tenth one say nothing. -/
theorem readAll_append (r : Record) (type : SentenceType) {front : List (List UInt8 × UInt32)}
    (hfront : 10 ≤ front.length) (more : List (List UInt8 × UInt32)) : r.readAll type (front ++ more) = r.readAll type front := by
  induction more using List.reverseRecOn with
  | nil => rw [List.append_nil]
  | append_singleton more term ih =>
    rw [← List.append_assoc, readAll_snoc, read_late, ih]
    rw [List.length_append]
    omega

end Record

/-- The word a coordinate is read as. -/
def Coordinate.word (c : Coordinate) (negative : Bool) : UInt32 :=
  if negative then -parse_degrees c.text else parse_degrees c.text

theorem Coordinate.signed_word (c : Coordinate) (negative : Bool) :
    signed (c.word negative) = c.turned negative := by
  have hexact := c.parse_degrees_exact.2
  have hlt : (parse_degrees c.text).toNat < 2 ^ 31 := hexact ▸ c.hundredThousandths_lt
  cases negative with
  | false => rw [word, turned, if_neg Bool.noConfusion, if_neg Bool.noConfusion, signed_of_lt hlt, hexact]
  | true => rw [word, turned, if_pos rfl, if_pos rfl, signed_neg hlt, hexact]

theorem Decimal.signed_parse (d : Decimal) : signed (parse_decimal d.text) = d.hundredths := by
  have hlt := d.hundredths_lt
  have hexact := d.parse_decimal_text
  rw [signed_of_lt (by omega), hexact]

theorem Decimal.signed_parse_negative (d : Decimal) :
    signed (parse_decimal (0x2d :: d.text)) = -d.hundredths := by
  have hlt := d.hundredths_lt
  have hexact := d.unsigned_text
  rw [d.parse_decimal_negative, signed_neg (by omega), hexact]

theorem signed_digits {digits : List (Fin 10)} (hlength : digits.length ≤ 6) :
    signed (gpsatol (digits.map digitChar)) = number digits := by
  have hexact := gpsatol_digits hlength (p := []) rfl
  have hlt := number_lt digits
  have hpow : 10 ^ digits.length ≤ 10 ^ 6 := Nat.pow_le_pow_right (by decide) hlength
  rw [List.append_nil] at hexact
  rw [signed_of_lt (by omega), hexact]

theorem Rmc.read (m : Rmc) (r : Record) {timed : List (List UInt8 × UInt32)}
    (htimed : timed.map Prod.fst = m.front) :
    (r.readAll .GPRMC timed).good = true ∧
      ∀ f v, m.value f = some v → signed ((r.readAll .GPRMC timed).new f) = v := by
  have hwritten := m.written
  simp only [Rmc.front, Place.terms, List.cons_append, List.nil_append] at htimed hwritten
  simp only [List.forall_mem_cons] at hwritten
  obtain ⟨-, htime, -, hlatitude, -, hlongitude, -, hspeed, hcourse, hdate, -⟩ := hwritten
  simp only [List.map_eq_cons_iff, List.map_eq_nil_iff] at htimed
  obtain ⟨⟨_, t₀⟩, _, rfl, rfl, ⟨_, t₁⟩, _, rfl, rfl, ⟨_, t₂⟩, _, rfl, rfl, ⟨_, t₃⟩, _, rfl, rfl,
    ⟨_, t₄⟩, _, rfl, rfl, ⟨_, t₅⟩, _, rfl, rfl, ⟨_, t₆⟩, _, rfl, rfl, ⟨_, t₇⟩, _, rfl, rfl,
    ⟨_, t₈⟩, _, rfl, rfl, ⟨_, t₉⟩, _, rfl, rfl, rfl⟩ := htimed
  let new := Function.update (Function.update (Function.update r.new .time (parse_decimal m.time.text))
    .latitude (m.place.latitude.word m.place.south)) .longitude (m.place.longitude.word m.place.west)
  have hread : r.readAll .GPRMC [(GPRMC_TERM, t₀), (m.time.text, t₁), ([0x41], t₂), (m.place.latitude.text, t₃),
      ([if m.place.south then 0x53 else 0x4e], t₄), (m.place.longitude.text, t₅),
      ([if m.place.west then 0x57 else 0x45], t₆), (m.speed.text, t₇), (m.course.text, t₈),
      (m.date.map digitChar, t₉)] =
      { new := Function.update (Function.update (Function.update new .speed (parse_decimal m.speed.text))
          .course (parse_decimal m.course.text)) .date (gpsatol (m.date.map digitChar))
        time_fix := t₁
        position_fix := t₃
        good := true } := by
    cases hsouth : m.place.south <;> cases hwest : m.place.west <;>
      simp [Record.readAll, Record.read, htime.ne_nil, hlatitude.ne_nil, hlongitude.ne_nil, hspeed.ne_nil,
        hcourse.ne_nil, hdate.ne_nil, GPRMC_TERM, Record.set, Record.turn, new, Coordinate.word, hsouth, hwest]
  rw [hread]
  refine ⟨rfl, fun f v hv => ?_⟩
  cases f <;> cases hv
  · exact m.time.signed_parse
  · exact signed_digits m.date_length.2
  · exact m.place.latitude.signed_word m.place.south
  · exact m.place.longitude.signed_word m.place.west
  · exact m.speed.signed_parse
  · exact m.course.signed_parse

theorem Gga.read (g : Gga) (r : Record) {timed : List (List UInt8 × UInt32)}
    (htimed : timed.map Prod.fst = g.front) :
    (r.readAll .GPGGA timed).good = true ∧
      ∀ f v, g.value f = some v → signed ((r.readAll .GPGGA timed).new f) = v := by
  have hwritten := g.written
  simp only [Gga.front, Place.terms, List.cons_append, List.nil_append] at htimed hwritten
  simp only [List.forall_mem_cons] at hwritten
  obtain ⟨-, htime, hlatitude, -, hlongitude, -, -, hsatellites, hhdop, haltitude, -⟩ := hwritten
  simp only [List.map_eq_cons_iff, List.map_eq_nil_iff] at htimed
  obtain ⟨⟨_, t₀⟩, _, rfl, rfl, ⟨_, t₁⟩, _, rfl, rfl, ⟨_, t₂⟩, _, rfl, rfl, ⟨_, t₃⟩, _, rfl, rfl,
    ⟨_, t₄⟩, _, rfl, rfl, ⟨_, t₅⟩, _, rfl, rfl, ⟨_, t₆⟩, _, rfl, rfl, ⟨_, t₇⟩, _, rfl, rfl,
    ⟨_, t₈⟩, _, rfl, rfl, ⟨_, t₉⟩, _, rfl, rfl, rfl⟩ := htimed
  let new := Function.update (Function.update (Function.update r.new .time (parse_decimal g.time.text))
    .latitude (g.place.latitude.word g.place.south)) .longitude (g.place.longitude.word g.place.west)
  let altitude := if g.below then 0x2d :: g.altitude.text else g.altitude.text
  have hgood : ∀ d : Fin 10, 0 < d → 0x30 < digitChar d ∧ digitChar d < 0x80 := by decide
  have hquality := hgood g.quality g.quality_pos
  have hread : r.readAll .GPGGA [(GPGGA_TERM, t₀), (g.time.text, t₁), (g.place.latitude.text, t₂),
      ([if g.place.south then 0x53 else 0x4e], t₃), (g.place.longitude.text, t₄),
      ([if g.place.west then 0x57 else 0x45], t₅), ([digitChar g.quality], t₆), (g.satellites.map digitChar, t₇),
      (g.hdop.text, t₈), (altitude, t₉)] =
      { new := Function.update (Function.update (Function.update new
          .numsats (concretid.projetao.satellites (g.satellites.map digitChar))) .hdop (parse_decimal g.hdop.text))
          .altitude (parse_decimal altitude)
        time_fix := t₁
        position_fix := t₂
        good := true } := by
    have haltitude : altitude ≠ [] := haltitude.ne_nil
    cases hsouth : g.place.south <;> cases hwest : g.place.west <;>
      simp [Record.readAll, Record.read, htime.ne_nil, hlatitude.ne_nil, hlongitude.ne_nil, hsatellites.ne_nil,
        hhdop.ne_nil, haltitude, hquality, GPGGA_TERM, Record.set, Record.turn, new, Coordinate.word, hsouth, hwest]
  rw [hread]
  refine ⟨rfl, fun f v hv => ?_⟩
  cases f <;> cases hv
  · exact g.time.signed_parse
  · exact g.place.latitude.signed_word g.place.south
  · exact g.place.longitude.signed_word g.place.west
  · change signed (parse_decimal altitude) = _
    cases hbelow : g.below with
    | false =>
      simp only [altitude, hbelow]
      exact g.altitude.signed_parse
    | true =>
      simp only [altitude, hbelow]
      exact g.altitude.signed_parse_negative
  · exact g.hdop.signed_parse
  · have hexact := satellites_digits g.satellites_length g.satellites_lt
    have hlt := g.satellites_lt
    rw [← hexact] at hlt ⊢
    exact signed_of_lt (Nat.lt_trans hlt (by decide))

end concretid.projetao
