import RealmServer.Lib.Calendar
import RealmServer.Packets.RoundTrip
import Mathlib.Tactic.Simps.Basic

/-!
# Packed dates

Times are sent as the fields of the local clock, packed into 32 bits.  The
writer gets the fields from `localtime_r`; the reader passes them to `mktime`
with `tm_isdst` 0, which says that they are a reading of the clock in standard
time.
-/

namespace RealmServer.Packets

open ByteBuffer Calendar

/-! ## Clocks -/

/--
A time zone.  The offset of its clocks from UTC is that of standard time and
what daylight saving time adds to it; both may change at any times.  The last
field is how `mktime` finds a time from the seconds which a clock shows and from
`tm_isdst`.  With 0 the clock is one in standard time, and the two functions are
inverse to each other.
-/
structure Zone where
  standard : Int → Int
  saving : Int → Int
  instant : (isdst : Int) → (seconds : Int) → Int
  instant_standard : ∀ time, instant 0 (time + standard time) = time
  standard_instant : ∀ seconds, instant 0 seconds + standard (instant 0 seconds) = seconds

def Zone.offset (zone : Zone) (time : Int) : Int := zone.standard time + zone.saving time

/-- The day of `time_t` 0. -/
def epoch : Int := dayOf ⟨1970, 0, 1⟩

/-- `tm`, less the day of the year. -/
structure Tm where
  sec : Int := 0
  min : Int := 0
  hour : Int := 0
  mday : Int := 0
  mon : Int := 0
  year : Int := 0
  wday : Int := 0
  isdst : Int := 0
deriving DecidableEq, Repr

/-- The fields of a clock which shows so many seconds since the beginning of 1970. -/
@[simps]
def Tm.ofSeconds (seconds isdst : Int) : Tm where
  sec := seconds % 60
  min := seconds % 3600 / 60
  hour := seconds % 86400 / 3600
  mday := (dateOf (epoch + seconds / 86400)).dayOfMonth
  mon := (dateOf (epoch + seconds / 86400)).month
  year := (dateOf (epoch + seconds / 86400)).year - 1900
  wday := weekdayOf (epoch + seconds / 86400)
  isdst := isdst

/-- The fields may be out of their ranges. -/
def Tm.seconds (lt : Tm) : Int :=
  (dayOf ⟨lt.year + 1900, lt.mon, lt.mday⟩ - epoch) * 86400 + lt.hour * 3600 + lt.min * 60 + lt.sec

/-- `localtime_r` -/
def localtime (zone : Zone) (time : Int) : Tm :=
  .ofSeconds (time + zone.offset time) (if zone.saving time = 0 then 0 else 1)

def mktime (zone : Zone) (lt : Tm) : Int := zone.instant lt.isdst lt.seconds

/-! ## Writing and reading -/

/-- The word for some fields. -/
def packFields (lt : Tm) : BitVec 32 :=
  BitVec.ofInt 32 (lt.year - 100) <<< 24 ||| BitVec.ofInt 32 lt.mon <<< 20 |||
    BitVec.ofInt 32 (lt.mday - 1) <<< 14 ||| BitVec.ofInt 32 lt.wday <<< 11 |||
    BitVec.ofInt 32 lt.hour <<< 6 ||| BitVec.ofInt 32 lt.min

def createPackedTime (zone : Zone) (time : Int) : BitVec 32 := packFields (localtime zone time)

/-- What the reader puts into a `tm` which is zero. -/
def unpackFields (packedDate : BitVec 32) : Tm where
  min := (packedDate &&& 0x3F).toNat
  hour := ((packedDate >>> 6) &&& 0x1F).toNat
  mday := ((packedDate >>> 14) &&& 0x3F).toNat + 1
  mon := ((packedDate >>> 20) &&& 0xF).toNat
  year := ((packedDate >>> 24) &&& 0x1F).toNat + 100

namespace PackedTimeTag

def read (zone : Zone) : Operation Int := do
  let packedDate ← ByteBuffer.read (.arithmetic (.integer .four))
  return mktime zone (unpackFields packedDate)

def write (zone : Zone) (time : Int) : Operation Unit :=
  ByteBuffer.write (.arithmetic (.integer .four)) (createPackedTime zone time)

end PackedTimeTag

/-! ## The fields of a word -/

theorem shiftLeft_or {low width : Nat} (small : low < 2 ^ width) (high : Nat) :
    high <<< width ||| low = high * 2 ^ width + low := by
  rw [← Nat.shiftLeft_add_eq_or_of_lt small, Nat.shiftLeft_eq]

/-- The fields do not overlap. -/
theorem packFields_toNat {lt : Tm} {year mon mday wday hour min : Nat}
    (yearIs : lt.year = year + 100) (monIs : lt.mon = mon) (mdayIs : lt.mday = mday + 1)
    (wdayIs : lt.wday = wday) (hourIs : lt.hour = hour) (minIs : lt.min = min)
    (years : year < 2 ^ 8) (months : mon < 2 ^ 4) (days : mday < 2 ^ 6) (weekdays : wday < 2 ^ 3)
    (hours : hour < 2 ^ 5) (minutes : min < 2 ^ 6) :
    (packFields lt).toNat =
      year * 2 ^ 24 +
        (mon * 2 ^ 20 + (mday * 2 ^ 14 + (wday * 2 ^ 11 + (hour * 2 ^ 6 + min)))) := by
  have shifted (value width : Nat) (small : value * 2 ^ width < 2 ^ 32) :
      (BitVec.ofInt 32 value <<< width).toNat = value <<< width := by
    have atMost : value < 2 ^ 32 :=
      Nat.lt_of_le_of_lt (Nat.le_mul_of_pos_right value (Nat.two_pow_pos width)) small
    rw [BitVec.ofInt_natCast, BitVec.toNat_shiftLeft, BitVec.toNat_ofNat,
      Nat.mod_eq_of_lt atMost, Nat.shiftLeft_eq, Nat.mod_eq_of_lt small]
  have last : (BitVec.ofInt 32 (min : Int)).toNat = min := by
    rw [BitVec.ofInt_natCast, BitVec.toNat_ofNat, Nat.mod_eq_of_lt (by omega)]
  have yearLess : lt.year - 100 = year := by omega
  have mdayLess : lt.mday - 1 = mday := by omega
  rw [packFields, yearLess, mdayLess, monIs, wdayIs, hourIs, minIs]
  simp only [BitVec.toNat_or, last]
  rw [shifted year 24 (by omega), shifted mon 20 (by omega), shifted mday 14 (by omega),
    shifted wday 11 (by omega), shifted hour 6 (by omega)]
  have hourField := shiftLeft_or minutes hour
  have wdayField := shiftLeft_or (show hour * 2 ^ 6 + min < 2 ^ 11 by omega) wday
  have mdayField := shiftLeft_or
    (show wday * 2 ^ 11 + (hour * 2 ^ 6 + min) < 2 ^ 14 by omega) mday
  have monField := shiftLeft_or
    (show mday * 2 ^ 14 + (wday * 2 ^ 11 + (hour * 2 ^ 6 + min)) < 2 ^ 20 by omega) mon
  have yearField := shiftLeft_or
    (show mon * 2 ^ 20 + (mday * 2 ^ 14 + (wday * 2 ^ 11 + (hour * 2 ^ 6 + min))) < 2 ^ 24
      by omega) year
  rw [Nat.or_assoc, Nat.or_assoc, Nat.or_assoc, Nat.or_assoc, hourField, wdayField, mdayField,
    monField, yearField]

theorem field_toNat (packedDate : BitVec 32) (place width : Nat) (small : 2 ^ width - 1 < 2 ^ 32) :
    ((packedDate >>> place) &&& BitVec.ofNat 32 (2 ^ width - 1)).toNat =
      packedDate.toNat / 2 ^ place % 2 ^ width := by
  rw [BitVec.toNat_and, BitVec.toNat_ushiftRight, BitVec.toNat_ofNat, Nat.mod_eq_of_lt small,
    Nat.and_two_pow_sub_one_eq_mod, Nat.shiftRight_eq_div_pow]

theorem unpackFields_eq (packedDate : BitVec 32) :
    unpackFields packedDate = {
      min := (packedDate.toNat % 2 ^ 6 : Nat)
      hour := (packedDate.toNat / 2 ^ 6 % 2 ^ 5 : Nat)
      mday := (packedDate.toNat / 2 ^ 14 % 2 ^ 6 : Nat) + 1
      mon := (packedDate.toNat / 2 ^ 20 % 2 ^ 4 : Nat)
      year := (packedDate.toNat / 2 ^ 24 % 2 ^ 5 : Nat) + 100 } := by
  have minute := field_toNat packedDate 0 6 (by decide)
  rw [BitVec.ushiftRight_zero, Nat.pow_zero, Nat.div_one] at minute
  have hour := field_toNat packedDate 6 5 (by decide)
  have day := field_toNat packedDate 14 6 (by decide)
  have month := field_toNat packedDate 20 4 (by decide)
  have year := field_toNat packedDate 24 5 (by decide)
  rw [unpackFields, ← minute, ← hour, ← day, ← month, ← year]
  rfl

/-- The fields have room in the word. -/
structure Tm.Fits (lt : Tm) : Prop where
  year : 100 ≤ lt.year ∧ lt.year < 132
  mon : 0 ≤ lt.mon ∧ lt.mon < 16
  mday : 1 ≤ lt.mday ∧ lt.mday < 65
  wday : 0 ≤ lt.wday ∧ lt.wday < 8
  hour : 0 ≤ lt.hour ∧ lt.hour < 32
  min : 0 ≤ lt.min ∧ lt.min < 64

/-- The reader takes out what the writer has put in, less the weekday. -/
theorem Tm.Fits.unpackFields {lt : Tm} (fits : lt.Fits) :
    unpackFields (packFields lt) = { lt with sec := 0, wday := 0, isdst := 0 } := by
  obtain ⟨years, months, days, weekdays, hours, minutes⟩ := fits
  have yearIs : ((lt.year - 100).toNat : Int) + 100 = lt.year := by omega
  have monIs : (lt.mon.toNat : Int) = lt.mon := by omega
  have mdayIs : ((lt.mday - 1).toNat : Int) + 1 = lt.mday := by omega
  have hourIs : (lt.hour.toNat : Int) = lt.hour := by omega
  have minIs : (lt.min.toNat : Int) = lt.min := by omega
  have packed : (packFields lt).toNat = _ :=
    packFields_toNat yearIs.symm monIs.symm mdayIs.symm (Int.toNat_of_nonneg weekdays.1).symm
      hourIs.symm minIs.symm (by omega) (by omega) (by omega) (by omega) (by omega) (by omega)
  have minute : (packFields lt).toNat % 2 ^ 6 = lt.min.toNat := by omega
  have hour : (packFields lt).toNat / 2 ^ 6 % 2 ^ 5 = lt.hour.toNat := by omega
  have day : (packFields lt).toNat / 2 ^ 14 % 2 ^ 6 = (lt.mday - 1).toNat := by omega
  have month : (packFields lt).toNat / 2 ^ 20 % 2 ^ 4 = lt.mon.toNat := by omega
  have year : (packFields lt).toNat / 2 ^ 24 % 2 ^ 5 = (lt.year - 100).toNat := by omega
  rw [unpackFields_eq, minute, hour, day, month, year, yearIs, monIs, mdayIs, hourIs, minIs]

/-- The bits of the minute, the hour, the day, the month and the year. -/
def fieldMask : BitVec 32 := 0x1FFFC7FF

theorem unpackFields_of_same {first second : BitVec 32}
    (same : first &&& fieldMask = second &&& fieldMask) :
    unpackFields first = unpackFields second := by
  have masked (packedDate mask : BitVec 32) (place : Nat)
      (inside : fieldMask >>> place &&& mask = mask) :
      (packedDate >>> place) &&& mask = ((packedDate &&& fieldMask) >>> place) &&& mask := by
    rw [BitVec.ushiftRight_and_distrib, BitVec.and_assoc, inside]
  have field (mask : BitVec 32) (place : Nat) (inside : fieldMask >>> place &&& mask = mask) :
      (first >>> place) &&& mask = (second >>> place) &&& mask := by
    rw [masked first mask place inside, same, ← masked second mask place inside]
  have minute := field 0x3F 0 (by decide)
  rw [BitVec.ushiftRight_zero, BitVec.ushiftRight_zero] at minute
  rw [unpackFields, unpackFields, minute, field 0x1F 6 (by decide), field 0x3F 14 (by decide),
    field 0xF 20 (by decide), field 0x1F 24 (by decide)]

/-! ## The fields of a clock -/

/-- The seconds which are shown are lost on the way. -/
theorem Tm.seconds_ofSeconds (seconds isdst : Int) :
    Tm.seconds { Tm.ofSeconds seconds isdst with sec := 0, wday := 0, isdst := 0 } =
      seconds - seconds % 60 := by
  have day := dayOf_dateOf (epoch + seconds / 86400)
  have date : (⟨(Tm.ofSeconds seconds isdst).year + 1900, (Tm.ofSeconds seconds isdst).mon,
      (Tm.ofSeconds seconds isdst).mday⟩ : Date) = dateOf (epoch + seconds / 86400) := by
    rw [Tm.ofSeconds, Int.sub_add_cancel]
  have clock : (Tm.ofSeconds seconds isdst).hour * 3600 + (Tm.ofSeconds seconds isdst).min * 60 =
      seconds % 86400 - seconds % 60 := by
    rw [Tm.ofSeconds_hour, Tm.ofSeconds_min]
    omega
  simp only [Tm.seconds]
  rw [date, day]
  omega

/-- The time when the clock showed the full minute. -/
def roundDown (zone : Zone) (time : Int) : Int := time - (localtime zone time).sec

/-- The full year which the clock shows. -/
def localYear (zone : Zone) (time : Int) : Int := (localtime zone time).year + 1900

theorem localtime_fits {zone : Zone} {time : Int} (early : 2000 ≤ localYear zone time)
    (late : localYear zone time ≤ 2031) : (localtime zone time).Fits := by
  have days := dayOfMonth_bounds (epoch + (time + zone.offset time) / 86400)
  have months := monthOf_lt (epoch + (time + zone.offset time) / 86400)
  rw [localYear] at early late
  refine ⟨by omega, ?_, ?_, ?_, ?_, ?_⟩ <;> rw [localtime]
  · rw [Tm.ofSeconds_mon, dateOf_month]
    omega
  · rw [Tm.ofSeconds_mday]
    omega
  · rw [Tm.ofSeconds_wday, weekdayOf]
    omega
  · rw [Tm.ofSeconds_hour]
    omega
  · rw [Tm.ofSeconds_min]
    omega

/-! ## There and back -/

namespace PackedTimeTag

/-- A word which stands alone in a buffer is read, whatever it is. -/
theorem read_bytes (zone : Zone) (packedDate : BitVec 32) (wpos : Nat) :
    (read zone).run ⟨ArithmeticType.bytes (.integer .four) packedDate, 0, wpos⟩ =
      .ok (mktime zone (unpackFields packedDate))
        ⟨ArithmeticType.bytes (.integer .four) packedDate, 4, wpos⟩ := by
  have length : (ArithmeticType.bytes (.integer .four) packedDate).length = 4 :=
    ArithmeticType.bytes_length (.integer .four) packedDate
  have readable : Readable (ArithmeticType.bytes (.integer .four) packedDate) 0 :=
    ⟨Nat.zero_le _, by rw [length]; decide⟩
  have shows : Shows (ArithmeticType.bytes (.integer .four) packedDate) 0
      (.arithmetic (.integer .four)) packedDate := by
    refine ⟨Nat.le_of_eq length.symm, ?_⟩
    have whole : slice (ArithmeticType.bytes (.integer .four) packedDate) 0
        (ArithmeticType.size (.integer .four)) =
          ArithmeticType.bytes (.integer .four) packedDate := by
      rw [slice, List.drop_zero]
      exact List.take_of_length_le (Nat.le_of_eq length)
    rw [whole]
    exact ArithmeticType.ofBytes_bytes (.integer .four) packedDate
  have word : (readArithmetic (.integer .four)).run
      ⟨ArithmeticType.bytes (.integer .four) packedDate, 0, wpos⟩ = .ok packedDate
        ⟨ArithmeticType.bytes (.integer .four) packedDate, 4, wpos⟩ :=
    (readArithmetic_eq_ok readable (.integer .four) rfl).mpr ⟨shows, rfl⟩
  exact (bind_of_ok word).trans rfl

theorem write_empty (zone : Zone) (time : Int) :
    (write zone time).run ByteBuffer.empty =
      .ok () ⟨ArithmeticType.bytes (.integer .four) (createPackedTime zone time), 0, 4⟩ := by
  have length : (ArithmeticType.bytes (.integer .four) (createPackedTime zone time)).length = 4 :=
    ArithmeticType.bytes_length (.integer .four) (createPackedTime zone time)
  have room : Room ([] : Network.Bytes).length
      (ArithmeticType.bytes (.integer .four) (createPackedTime zone time)) :=
    ⟨ArithmeticType.bytes_ne_nil _ _, by decide, by rw [length]; decide⟩
  have written : (append (ArithmeticType.bytes (.integer .four) (createPackedTime zone time))).run
      ⟨[], 0, ([] : Network.Bytes).length⟩ = _ := append_atEnd room
  rw [List.nil_append, length] at written
  exact written

end PackedTimeTag

/-- What the reader finds in the buffer of the writer. -/
def readBack (zone : Zone) (time : Int) : Option Int :=
  match (PackedTimeTag.write zone time).run ByteBuffer.empty with
  | .error _ _ => none
  | .ok _ buffer => readFrom zone buffer
where
  /-- The time which is read from a buffer. -/
  readFrom (zone : Zone) (buffer : ByteBuffer) : Option Int :=
    match (PackedTimeTag.read zone).run buffer with
    | .error _ _ => none
    | .ok time _ => some time

/-- What the reader makes of a word of the client. -/
def readWord (zone : Zone) (packedDate : BitVec 32) : Option Int :=
  readBack.readFrom zone (ByteBuffer.ofVector (ArithmeticType.bytes (.integer .four) packedDate))

theorem readWord_eq (zone : Zone) (packedDate : BitVec 32) :
    readWord zone packedDate = some (mktime zone (unpackFields packedDate)) := by
  rw [readWord, readBack.readFrom, ByteBuffer.ofVector, PackedTimeTag.read_bytes]

/-- The clock which showed the minute is taken for one in standard time. -/
theorem readBack_eq {zone : Zone} {time : Int} (early : 2000 ≤ localYear zone time)
    (late : localYear zone time ≤ 2031) :
    readBack zone time = some (zone.instant 0 (roundDown zone time + zone.offset time)) := by
  have minute : roundDown zone time + zone.offset time =
      time + zone.offset time - (time + zone.offset time) % 60 := by
    rw [roundDown, localtime, Tm.ofSeconds_sec]
    omega
  rw [readBack, PackedTimeTag.write_empty]
  simp only [readBack.readFrom, PackedTimeTag.read_bytes]
  rw [createPackedTime, (localtime_fits early late).unpackFields, mktime, localtime,
    Tm.seconds_ofSeconds, minute]

/-- The clock shows standard time, as it is in the minute of the time. -/
def ShowsStandard (zone : Zone) (time : Int) : Prop :=
  zone.offset time = zone.standard (roundDown zone time)

theorem readBack_iff {zone : Zone} {time : Int} (early : 2000 ≤ localYear zone time)
    (late : localYear zone time ≤ 2031) :
    readBack zone time = some (roundDown zone time) ↔ ShowsStandard zone time := by
  rw [readBack_eq early late, Option.some_inj, ShowsStandard]
  constructor
  · intro survived
    have shown := zone.standard_instant (roundDown zone time + zone.offset time)
    rw [survived] at shown
    exact (Int.add_left_cancel shown).symm
  · intro shown
    rw [shown, zone.instant_standard]

/--
The result depends on the fields of the word alone, and a time which is written
is read again if and only if it is one of standard time.
-/
theorem packedTime_exact (zone : Zone) :
    (∀ first second : BitVec 32, first &&& fieldMask = second &&& fieldMask →
        readWord zone first = readWord zone second) ∧
      ∀ time, 2000 ≤ localYear zone time → localYear zone time ≤ 2031 →
        (readBack zone time = some (roundDown zone time) ↔ ShowsStandard zone time) := by
  constructor
  · intro first second same
    rw [readWord_eq, readWord_eq, unpackFields_of_same same]
  · intro time early late
    exact readBack_iff early late

/-! ## A summer in Central Europe -/

/-- From 28 March 2010 to 31 October 2010 the clocks are an hour ahead. -/
def summerOf2010 (time : Int) : Int :=
  if 1269738000 ≤ time ∧ time < 1288486800 then 3600 else 0

def centralEurope : Zone where
  standard _ := 3600
  saving := summerOf2010
  instant isdst seconds := if isdst = 0 then seconds - 3600 else seconds - 7200
  instant_standard time := by
    rw [if_pos rfl, Int.add_sub_cancel]
  standard_instant seconds := by
    rw [if_pos rfl, Int.sub_add_cancel]

/-- 12:34:56 on the first of July; 13:34:00 is read. -/
def julyNoon : Int := 1277980496

theorem packedTime_exact_february :
    readBack centralEurope 1265000000 = some (roundDown centralEurope 1265000000) :=
  ((packedTime_exact centralEurope).2 1265000000 (by decide +kernel) (by decide +kernel)).2
    (by unfold ShowsStandard; decide +kernel)

theorem julyNoon_not_survives :
    2000 ≤ localYear centralEurope julyNoon ∧ localYear centralEurope julyNoon ≤ 2031 ∧
      readBack centralEurope julyNoon ≠ some (roundDown centralEurope julyNoon) := by
  have early : 2000 ≤ localYear centralEurope julyNoon := by decide +kernel
  have late : localYear centralEurope julyNoon ≤ 2031 := by decide +kernel
  refine ⟨early, late, ?_⟩
  rw [Ne, readBack_iff early late, ShowsStandard]
  decide +kernel

end RealmServer.Packets
