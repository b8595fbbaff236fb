import Rulebook.Time.Calendar

/-!
# Days and dates

Every day has a date that the calendar has, and every date that it has is that of one day: the
number of a day and its date determine each other (`ofDayNumber_eq_iff`).

Both are compared with a third form of a day, a cycle of four hundred years with a place in it
(`CycleDay`), in which the days, the years and the months in front are sums without a division.
-/

namespace Rulebook.Date

/-- What makes a year a leap year. -/
theorem isLeap_iff (year : Int) :
    isLeap year = true ↔ year % 4 = 0 ∧ (year % 100 ≠ 0 ∨ year % 400 = 0) := by
  simp [isLeap]

/-- What makes a date one that the calendar has. -/
theorem isValid_iff (d : Date) : d.isValid = true ↔
    1 ≤ d.month ∧ d.month ≤ 12 ∧ 1 ≤ d.day ∧ d.day ≤ monthLength d.year d.month := by
  simp [isValid, and_assoc]

/-- A month has 31 days at most. -/
theorem monthLength_le (year : Int) (month : Nat) : monthLength year month ≤ 31 := by
  unfold monthLength
  split
  · split <;> decide
  · split <;> decide

/-! ## Days of a cycle -/

/-- A day of a cycle, by the centuries, the groups of four years, the years and the days in front of
it. Years start in March. The last year of a group has a 366th day, unless it is the last one of a
century that is not the last century. -/
structure CycleDay where
  century : Nat
  group : Nat
  yearOfGroup : Nat
  day : Nat
  century_le : century ≤ 3
  group_le : group ≤ 24
  yearOfGroup_le : yearOfGroup ≤ 3
  day_le : day ≤ 364 ∨ day = 365 ∧ yearOfGroup = 3 ∧ (group ≤ 23 ∨ century = 3)

namespace CycleDay

/-- The years of the cycle in front of a day. -/
def year (d : CycleDay) : Nat := 100 * d.century + 4 * d.group + d.yearOfGroup

/-- The days of the cycle in front of a day. -/
def number (d : CycleDay) : Nat :=
  36524 * d.century + 1461 * d.group + 365 * d.yearOfGroup + d.day

/-- Fewer years are in front of a day than a cycle has. -/
theorem year_lt (d : CycleDay) : d.year < 400 := by
  obtain ⟨c, q, y, day⟩ := d
  dsimp only [year]
  omega

/-- Fewer days are in front of a day than a cycle has. -/
theorem number_lt (d : CycleDay) : (d.number : Int) < cycle := by
  obtain ⟨c, q, y, day⟩ := d
  dsimp only [number, cycle]
  omega

/-- Every number below that of the days of a cycle is that of a day. -/
theorem exists_number_eq {n : Nat} (lt : (n : Int) < cycle) : ∃ d : CycleDay, d.number = n := by
  have hcycle : cycle = 146097 := rfl
  -- The last century takes the day that is left over, and so does the last year of a group.
  obtain ⟨c, r, hn, hc, hr⟩ :
      ∃ c r, n = 36524 * c + r ∧ c ≤ 3 ∧ (r < 36524 ∨ r = 36524 ∧ c = 3) :=
    ⟨min 3 (n / 36524), n - 36524 * min 3 (n / 36524), by omega⟩
  obtain ⟨y, day, hrest, hy, hday⟩ :
      ∃ y day, r % 1461 = 365 * y + day ∧ y ≤ 3 ∧ (day < 365 ∨ day = 365 ∧ y = 3) :=
    ⟨min 3 (r % 1461 / 365), r % 1461 - 365 * min 3 (r % 1461 / 365), by omega⟩
  have hgroups := Nat.div_add_mod r 1461
  refine ⟨⟨c, r / 1461, y, day, hc, by omega, hy, by omega⟩, ?_⟩
  dsimp only [number]
  omega

/-- The days in front of a day are those of the years in front of its own and those of its year. -/
theorem number_eq (d : CycleDay) :
    (d.number : Int) = d.year * 365 + (d.year : Int) / 4 - (d.year : Int) / 100 + d.day := by
  obtain ⟨c, q, y, day⟩ := d
  dsimp only [number, year]
  omega

/-- The years in front of a day, from the days in front of it. -/
theorem year_eq (d : CycleDay) :
    ((d.number : Int) - (d.number : Int) / 1460 + (d.number : Int) / 36524 -
      (d.number : Int) / 146096) / 365 = d.year := by
  obtain ⟨c, q, y, day⟩ := d
  dsimp only [number, year]
  generalize hn : 36524 * c + 1461 * q + 365 * y + day = n
  have hcenturies : (n : Int) / 36524 - (n : Int) / 146096 = c := by
    -- The last day of the cycle is counted by both.
    have hlast : n < 36524 * (c + 1) ∨ n = 146096 := by omega
    obtain hlt | rfl := hlast <;> omega
  obtain ⟨extra, hgroups, hextra⟩ :
      ∃ extra, n / 1460 = 25 * c + q + extra ∧ (extra = 0 ∧ day ≤ 364 ∨ extra = 1 ∧ 1 ≤ day) :=
    ⟨(24 * c + q + 365 * y + day) / 1460, by omega, by omega⟩
  omega

/-- The 366th day of a year is in front of the March of a leap year. -/
theorem isLeap_of_day_eq {d : CycleDay} (h : d.day = 365) (cycles : Int) :
    isLeap (d.year + cycles * 400 + 1) = true := by
  obtain ⟨c, q, y, day⟩ := d
  rw [isLeap_iff]
  dsimp only [year] at h ⊢
  omega

/-- Every place in a year of the cycle is that of a day, the 366th one in front of the March of a
leap year. -/
theorem exists_year_eq_day_eq {year day : Nat} (hyear : year < 400) (hday : day ≤ 365)
    (hleap : day = 365 → isLeap (year + 1) = true) :
    ∃ d : CycleDay, d.year = year ∧ d.day = day := by
  rw [isLeap_iff] at hleap
  refine ⟨⟨year / 100, year % 100 / 4, year % 4, day, by omega, by omega, by omega, by omega⟩, ?_,
    rfl⟩
  dsimp only [CycleDay.year]
  omega

end CycleDay

/-! ## Months of a year -/

/-- The days of a year in front of a month. Months are counted from March. -/
def daysBefore (march : Nat) : Nat := (153 * march + 2) / 5

/-- The number in the calendar of a month counted from March. -/
def monthOf (march : Nat) : Nat := if march < 10 then march + 3 else march - 9

/-- The month of a day of a year is the one whose days it is among. -/
theorem march_eq_iff (day march : Nat) :
    (5 * day + 2) / 153 = march ↔ daysBefore march ≤ day ∧ day < daysBefore (march + 1) := by
  unfold daysBefore
  omega

/-- A year has twelve months. -/
theorem monthOf_mem {march : Nat} (h : march ≤ 11) :
    1 ≤ monthOf march ∧ monthOf march ≤ 12 ∧ (monthOf march + 9) % 12 = march := by
  unfold monthOf
  split <;> omega

/-- The days of a month but the last one of the year are those up to the next month. -/
theorem daysBefore_add_monthLength (year : Int) {march : Nat} (h : march < 11) :
    daysBefore march + monthLength year (monthOf march) = daysBefore (march + 1) := by
  have hother : monthOf march ≠ 2 := by
    have := (monthOf_mem (Nat.le_of_lt h)).2.2
    omega
  have htable : ∀ march < 11, daysBefore march + monthLength 0 (monthOf march) =
      daysBefore (march + 1) := by decide
  rw [← htable march h, monthLength, monthLength, if_neg hother, if_neg hother]

/-- The days of February are those that are left of the year. -/
theorem daysBefore_add_february (year : Int) :
    daysBefore 11 + monthLength year (monthOf 11) = if isLeap year then 366 else 365 := by
  rw [monthLength, if_pos (show monthOf 11 = 2 from rfl)]
  split <;> rfl

/-- The calendar year of a month of the year that started with the March of `started`. -/
def yearOf (started : Int) (march : Nat) : Int := started + if monthOf march ≤ 2 then 1 else 0

/-- A month has the days that are in front of the next one and of the end of the year. -/
theorem lt_daysBefore_add_monthLength_iff (started : Int) {march : Nat} (h : march ≤ 11)
    (day : Nat) : day < daysBefore march + monthLength (yearOf started march) (monthOf march) ↔
      day < daysBefore (march + 1) ∧ day ≤ 365 ∧ (day = 365 → isLeap (started + 1) = true) := by
  by_cases hlt : march < 11
  · have hnext : daysBefore (march + 1) ≤ 337 := by
      unfold daysBefore
      omega
    rw [daysBefore_add_monthLength _ hlt]
    exact ⟨fun hday => ⟨hday, by omega, by omega⟩, And.left⟩
  · obtain rfl : march = 11 := by omega
    have hnext : daysBefore (11 + 1) = 367 := rfl
    have hyear : yearOf started 11 = started + 1 := rfl
    rw [daysBefore_add_february, hyear, hnext]
    cases isLeap (started + 1) with
    | false =>
      rw [if_neg Bool.false_ne_true]
      exact ⟨fun hday => ⟨by omega, by omega, by omega⟩,
        fun ⟨_, hle, hleap⟩ => Nat.lt_of_le_of_ne hle fun h => Bool.false_ne_true (hleap h)⟩
    | true =>
      rw [if_pos rfl]
      exact ⟨fun hday => ⟨by omega, by omega, fun _ => rfl⟩, fun ⟨_, hle, _⟩ => by omega⟩

/-! ## Dates -/

/-- The date of a day of a cycle. -/
def ofCycleDay (cycles : Int) (d : CycleDay) : Date :=
  let march := (5 * d.day + 2) / 153
  ⟨yearOf (d.year + cycles * 400) march, monthOf march, d.day - daysBefore march + 1⟩

/-- The number of a day of a cycle. -/
def dayNumberOf (cycles : Int) (d : CycleDay) : Int := cycles * cycle + d.number - epoch

/-- Every day is one of a cycle. -/
theorem exists_dayNumberOf_eq (n : Int) : ∃ cycles d, dayNumberOf cycles d = n := by
  have hnonneg : 0 ≤ (n + epoch) % cycle := Int.emod_nonneg _ (by decide)
  have hlt : (n + epoch) % cycle < cycle := Int.emod_lt_of_pos _ (by decide)
  have hsum : cycle * ((n + epoch) / cycle) + (n + epoch) % cycle = n + epoch :=
    Int.mul_ediv_add_emod ..
  obtain ⟨d, hd⟩ := CycleDay.exists_number_eq (n := ((n + epoch) % cycle).toNat) (by omega)
  refine ⟨(n + epoch) / cycle, d, ?_⟩
  rw [dayNumberOf, Int.mul_comm]
  omega

/-- The date of a day counted in cycles is the one found from its number. -/
theorem ofDayNumber_dayNumberOf (cycles : Int) (d : CycleDay) :
    ofDayNumber (dayNumberOf cycles d) = ofCycleDay cycles d := by
  have hlt := d.number_lt
  have hsum : dayNumberOf cycles d + epoch = d.number + cycle * cycles := by
    rw [dayNumberOf, Int.mul_comm]
    omega
  have hplace : (dayNumberOf cycles d + epoch) % cycle = d.number := by
    rw [hsum, Int.add_mul_emod_self_left, Int.emod_eq_of_lt (by omega) hlt]
  have hcycles : (dayNumberOf cycles d + epoch) / cycle = cycles := by
    rw [hsum, Int.add_mul_ediv_left _ _ (by decide), Int.ediv_eq_zero_of_lt (by omega) hlt,
      Int.zero_add]
  have hday : ((d.number : Int) - (365 * (d.year : Int) + (d.year : Int) / 4 -
      (d.year : Int) / 100)).toNat = d.day := by
    have := d.number_eq
    omega
  unfold ofDayNumber
  dsimp only
  rw [hplace, hcycles, d.year_eq, hday]
  rfl

/-- The month of a day of a year. -/
theorem CycleDay.march_le (d : CycleDay) : (5 * d.day + 2) / 153 ≤ 11 := by
  have := d.day_le
  omega

/-- January and February are of the year that started in the March in front of them. -/
theorem started_eq (started : Int) (march : Nat) :
    (if monthOf march ≤ 2 then yearOf started march - 1 else yearOf started march) = started := by
  unfold yearOf
  split <;> omega

/-- The number found from the date of a day counted in cycles is that of the day. -/
theorem dayNumber_ofCycleDay (cycles : Int) (d : CycleDay) :
    (ofCycleDay cycles d).dayNumber = dayNumberOf cycles d := by
  obtain ⟨hfirst, -⟩ := (march_eq_iff d.day _).1 rfl
  obtain ⟨-, -, hmarch⟩ := monthOf_mem d.march_le
  have hlt := d.year_lt
  have hnumber := d.number_eq
  unfold dayNumber ofCycleDay dayNumberOf
  dsimp only
  rw [hmarch, started_eq, Int.add_mul_emod_self_right, Int.emod_eq_of_lt (by omega) (by omega),
    Int.add_mul_ediv_right _ _ (by decide), Int.ediv_eq_zero_of_lt (by omega) (by omega),
    Int.zero_add]
  unfold daysBefore at hfirst ⊢
  omega

/-- The date of a day is one that the calendar has. -/
theorem isValid_ofCycleDay (cycles : Int) (d : CycleDay) :
    (ofCycleDay cycles d).isValid = true := by
  obtain ⟨hfirst, hnext⟩ := (march_eq_iff d.day _).1 rfl
  obtain ⟨hpos, htwelve, -⟩ := monthOf_mem d.march_le
  have hday : d.day ≤ 365 := by
    have := d.day_le
    omega
  have hlength := (lt_daysBefore_add_monthLength_iff (d.year + cycles * 400) d.march_le d.day).2
    ⟨hnext, hday, fun hlast => d.isLeap_of_day_eq hlast cycles⟩
  rw [isValid_iff]
  dsimp only [ofCycleDay]
  exact ⟨hpos, htwelve, by omega, by omega⟩

/-- Every month of the calendar is counted from March. -/
theorem exists_monthOf_eq {month : Nat} (hpos : 1 ≤ month) (hle : month ≤ 12) :
    ∃ march ≤ 11, monthOf march = month := by
  refine ⟨(month + 9) % 12, by omega, ?_⟩
  unfold monthOf
  split <;> omega

/-- A date that the calendar has is that of a day. -/
theorem exists_ofCycleDay_eq {d : Date} (h : d.isValid = true) :
    ∃ cycles day, ofCycleDay cycles day = d := by
  obtain ⟨year, month, day⟩ := d
  obtain ⟨hpos, htwelve, hone, hlength⟩ := (isValid_iff _).1 h
  dsimp only at hpos htwelve hone hlength
  obtain ⟨march, hmarch, rfl⟩ := exists_monthOf_eq hpos htwelve
  obtain ⟨started, rfl⟩ : ∃ started, yearOf started march = year :=
    ⟨year - if monthOf march ≤ 2 then 1 else 0, Int.sub_add_cancel ..⟩
  -- The place of the date in the year that started in the March in front of it.
  obtain ⟨place, hplace⟩ : ∃ place, place + 1 = daysBefore march + day :=
    ⟨daysBefore march + day - 1, by omega⟩
  obtain ⟨hnext, hlast, hleap⟩ := (lt_daysBefore_add_monthLength_iff started hmarch place).1
    (by omega)
  have hinside := (march_eq_iff place march).2 ⟨by omega, hnext⟩
  obtain ⟨c, hyear, hday⟩ : ∃ c : CycleDay, c.year = (started % 400).toNat ∧ c.day = place :=
    CycleDay.exists_year_eq_day_eq (by omega) hlast fun hplace => by
      have := hleap hplace
      rw [isLeap_iff] at this ⊢
      omega
  have hstarted : ((started % 400).toNat : Int) + started / 400 * 400 = started := by omega
  refine ⟨started / 400, c, ?_⟩
  unfold ofCycleDay
  dsimp only
  rw [hyear, hday, hinside, hstarted, show place - daysBefore march + 1 = day by omega]

/-! ## Days and dates -/

/-- The date of a day is one that the calendar has. -/
theorem isValid_ofDayNumber (n : Int) : (ofDayNumber n).isValid = true := by
  obtain ⟨cycles, d, rfl⟩ := exists_dayNumberOf_eq n
  rw [ofDayNumber_dayNumberOf]
  exact isValid_ofCycleDay cycles d

/-- The number of the date of a day is the number of the day. -/
theorem dayNumber_ofDayNumber (n : Int) : (ofDayNumber n).dayNumber = n := by
  obtain ⟨cycles, d, rfl⟩ := exists_dayNumberOf_eq n
  rw [ofDayNumber_dayNumberOf, dayNumber_ofCycleDay]

/-- A date that the calendar has is the one found from its number. -/
theorem ofDayNumber_dayNumber {d : Date} (h : d.isValid = true) : ofDayNumber d.dayNumber = d := by
  obtain ⟨cycles, day, rfl⟩ := exists_ofCycleDay_eq h
  rw [dayNumber_ofCycleDay, ofDayNumber_dayNumberOf]

/-- A day has one date, which is the one that the calendar has with the day's number. -/
theorem ofDayNumber_eq_iff (n : Int) (d : Date) :
    ofDayNumber n = d ↔ d.isValid = true ∧ d.dayNumber = n := by
  constructor
  · rintro rfl
    exact ⟨isValid_ofDayNumber n, dayNumber_ofDayNumber n⟩
  · rintro ⟨valid, rfl⟩
    exact ofDayNumber_dayNumber valid

end Rulebook.Date
