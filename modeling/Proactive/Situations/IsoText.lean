import Proactive.Library.Separated
import Proactive.Situations.Dates

/-! The texts of `isoformat`: one text names one instant. -/
namespace Proactive.Situations
open Proactive.Library Proactive.Store

section civil

private def yearOfEra (dayOfEra : Int) : Int :=
  (dayOfEra - dayOfEra / 1460 + dayOfEra / 36524 - dayOfEra / 146096) / 365

private def yearStart (yearOfEra : Int) : Int := 365 * yearOfEra + yearOfEra / 4 - yearOfEra / 100

private theorem yearOfEra_mono {first second : Int} (low : 0 ≤ first) (less : first ≤ second)
    (high : second ≤ 146096) : yearOfEra first ≤ yearOfEra second := by
  have leaps : second / 1460 - first / 1460 ≤ second - first := by omega
  have centuries : second / 146096 - first / 146096 ≤ second / 36524 - first / 36524 := by omega
  unfold yearOfEra
  omega

/-- The formula for the year is right on the first and the last day of each year of an era. -/
private theorem year_ends : ∀ year ∈ List.range 400, yearOfEra (yearStart year) = year ∧
    (year < 399 → yearOfEra (yearStart (year + 1) - 1) = year) := by
  decide +kernel

private theorem dayOfYear_bounds {dayOfEra : Int} (low : 0 ≤ dayOfEra) (high : dayOfEra ≤ 146096) :
    0 ≤ yearOfEra dayOfEra ∧ yearOfEra dayOfEra ≤ 399 ∧ yearStart (yearOfEra dayOfEra) ≤ dayOfEra ∧
      (dayOfEra < yearStart (yearOfEra dayOfEra + 1) ∨ yearOfEra dayOfEra = 399) := by
  have bounds : 0 ≤ yearOfEra dayOfEra ∧ yearOfEra dayOfEra ≤ 399 := by
    unfold yearOfEra
    omega
  obtain ⟨year,named⟩ := Int.eq_ofNat_of_zero_le bounds.1
  refine ⟨bounds.1,bounds.2,?_,?_⟩
  · by_contra before
    -- the day would lie in the year before
    obtain ⟨previous,rfl⟩ : ∃ previous, year = previous + 1 := by
      refine ⟨year - 1,?_⟩
      have positive : year ≠ 0 := by
        intro zero
        rw [named,zero] at before
        unfold yearStart at before
        omega
      omega
    have ends := (year_ends previous (List.mem_range.mpr (by omega))).2 (by omega)
    have span : yearStart ((previous + 1 : Nat) : Int) - 1 ≤ 146096 := by
      unfold yearStart
      omega
    rw [named] at before
    have less := yearOfEra_mono low (by omega : dayOfEra ≤ yearStart ((previous + 1 : Nat) : Int) - 1) span
    rw [named,show ((previous + 1 : Nat) : Int) = previous + 1 from rfl,ends] at less
    omega
  · by_contra after
    -- the day would lie in the year after
    rw [not_or,named] at after
    have within : year < 399 := by omega
    have starts := (year_ends (year + 1) (List.mem_range.mpr (by omega))).1
    have reached : yearStart ((year + 1 : Nat) : Int) ≤ dayOfEra := Int.not_lt.mp after.1
    have less := yearOfEra_mono (by unfold yearStart; omega) reached high
    rw [named,starts] at less
    omega

private theorem yearStart_mono {year later : Int} (order : year < later) : yearStart (year + 1) ≤ yearStart later := by
  have leaps : (year + 1) / 4 ≤ later / 4 := Int.ediv_le_ediv (by decide) order
  have centuries : later / 100 - (year + 1) / 100 ≤ later - (year + 1) := by omega
  unfold yearStart
  omega

private theorem within_era {year dayOfYear : Int} (high : year ≤ 399)
    (ends : yearStart year + dayOfYear < yearStart (year + 1) ∨
      year = 399 ∧ yearStart year + dayOfYear ≤ 146096) : yearStart year + dayOfYear ≤ 146096 := by
  rcases ends with within | ⟨_,last⟩
  · have final : yearStart (year + 1) ≤ yearStart 400 := yearStart_mono (Int.lt_add_one_of_le high)
    have era : yearStart 400 = 146096 := rfl
    omega
  · exact last

private theorem civil_parts (date : Int) : ∃ era year dayOfYear month : Int,
    date + 719468 = era * 146097 + yearStart year + dayOfYear ∧ 0 ≤ year ∧ year ≤ 399 ∧
      0 ≤ dayOfYear ∧ dayOfYear ≤ 366 ∧ (yearStart year + dayOfYear < yearStart (year + 1) ∨
        year = 399 ∧ yearStart year + dayOfYear ≤ 146096) ∧ month = (5 * dayOfYear + 2) / 153 ∧
      civil date = if month < 10
        then (year + era * 400,month + 3,dayOfYear - (153 * month + 2) / 5 + 1)
        else (year + era * 400 + 1,month - 9,dayOfYear - (153 * month + 2) / 5 + 1) := by
  have low : 0 ≤ (date + 719468) % 146097 := Int.emod_nonneg _ (by decide)
  have high : (date + 719468) % 146097 ≤ 146096 := by omega
  obtain ⟨first,last,starts,ends⟩ := dayOfYear_bounds low high
  refine ⟨(date + 719468) / 146097,yearOfEra ((date + 719468) % 146097),
    (date + 719468) % 146097 - yearStart (yearOfEra ((date + 719468) % 146097)),_,?_,first,last,?_,?_,?_,rfl,rfl⟩
  · omega
  · omega
  · rcases ends with within | final
    · unfold yearStart at starts within ⊢
      omega
    · rw [final]
      unfold yearStart
      omega
  · omega

theorem civil_injective {first second : Int} (same : civil first = civil second) : first = second := by
  obtain ⟨era,year,dayOfYear,month,sum,yearLow,yearHigh,dayLow,dayHigh,_,named,shape⟩ := civil_parts first
  obtain ⟨era',year',dayOfYear',month',sum',yearLow',yearHigh',dayLow',dayHigh',_,named',shape'⟩ :=
    civil_parts second
  have months : 0 ≤ month ∧ month ≤ 11 ∧ 0 ≤ month' ∧ month' ≤ 11 := by omega
  have equal : month = month' ∧ year + era * 400 = year' + era' * 400 ∧
      dayOfYear - (153 * month + 2) / 5 = dayOfYear' - (153 * month' + 2) / 5 := by
    rw [shape,shape'] at same
    by_cases early : month < 10
    · by_cases early' : month' < 10
      · rw [if_pos early,if_pos early'] at same
        simp only [Prod.mk.injEq] at same
        omega
      · rw [if_pos early,if_neg early'] at same
        simp only [Prod.mk.injEq] at same
        omega
    · by_cases early' : month' < 10
      · rw [if_neg early,if_pos early'] at same
        simp only [Prod.mk.injEq] at same
        omega
      · rw [if_neg early,if_neg early'] at same
        simp only [Prod.mk.injEq] at same
        omega
  obtain ⟨sameMonth,sameYear,sameDay⟩ := equal
  have years : year = year' ∧ era = era' := by omega
  rw [sameMonth] at sameDay
  rw [years.1,years.2] at sum
  omega

theorem civil_positive {date : Int} (named : firstInstant ≤ date * day) :
    0 ≤ (civil date).1 ∧ 0 ≤ (civil date).2.1 ∧ 0 ≤ (civil date).2.2 := by
  obtain ⟨era,year,dayOfYear,month,sum,yearLow,yearHigh,dayLow,dayHigh,_,monthNamed,shape⟩ := civil_parts date
  have late : -719162 ≤ date := by
    unfold firstInstant day second at named
    omega
  have eras : 0 ≤ era := by
    unfold yearStart at sum
    omega
  rw [shape]
  split
  · dsimp only
    omega
  · dsimp only
    omega

/-- A later date has a later year, or a later month of the same year, or a later day of the same month. -/
theorem civil_lt {first later : Int} (less : first < later) :
    (civil first).1 < (civil later).1 ∨ (civil first).1 = (civil later).1 ∧
      ((civil first).2.1 < (civil later).2.1 ∨ (civil first).2.1 = (civil later).2.1 ∧
        (civil first).2.2 < (civil later).2.2) := by
  obtain ⟨era,year,dayOfYear,month,sum,yearLow,yearHigh,dayLow,dayHigh,dayEnd,named,shape⟩ := civil_parts first
  obtain ⟨era',year',dayOfYear',month',sum',yearLow',yearHigh',dayLow',dayHigh',dayEnd',named',shape'⟩ :=
    civil_parts later
  have months : 0 ≤ month ∧ month ≤ 11 ∧ 0 ≤ month' ∧ month' ≤ 11 := by omega
  have fits := within_era yearHigh dayEnd
  have fits' := within_era yearHigh' dayEnd'
  have starts : 0 ≤ yearStart year := by
    unfold yearStart
    omega
  -- the years that begin in March
  have years : year + era * 400 < year' + era' * 400 ∨
      year + era * 400 = year' + era' * 400 ∧ dayOfYear < dayOfYear' := by
    rcases Int.lt_trichotomy era era' with before | rfl | after
    · omega
    · rcases Int.lt_trichotomy year year' with before | rfl | after
      · omega
      · omega
      · have ended := yearStart_mono after
        omega
    · omega
  have order : year + era * 400 < year' + era' * 400 ∨ year + era * 400 = year' + era' * 400 ∧
      (month < month' ∨ month = month' ∧
        dayOfYear - (153 * month + 2) / 5 < dayOfYear' - (153 * month' + 2) / 5) := by
    omega
  rw [shape,shape']
  by_cases early : month < 10
  · by_cases early' : month' < 10
    · rw [if_pos early,if_pos early']
      dsimp only
      omega
    · rw [if_pos early,if_neg early']
      dsimp only
      omega
  · by_cases early' : month' < 10
    · rw [if_neg early,if_pos early']
      dsimp only
      omega
    · rw [if_neg early,if_neg early']
      dsimp only
      omega

theorem civil_bounds (date : Int) :
    1 ≤ (civil date).2.1 ∧ (civil date).2.1 ≤ 12 ∧ 1 ≤ (civil date).2.2 ∧ (civil date).2.2 ≤ 31 := by
  obtain ⟨era,year,dayOfYear,month,sum,yearLow,yearHigh,dayLow,dayHigh,dayEnd,named,shape⟩ := civil_parts date
  rw [shape]
  split
  · dsimp only
    omega
  · dsimp only
    omega

/-- The days before a year, for each integer that may stand for one. -/
def daysBefore (year : Int) : Int := 365 * (year - 1) + (year - 1) / 4 - (year - 1) / 100 + (year - 1) / 400

theorem daysBefore_mono {year later : Int} (order : year ≤ later) : daysBefore year ≤ daysBefore later := by
  have leaps : (year - 1) / 4 ≤ (later - 1) / 4 := Int.ediv_le_ediv (by decide) (by omega)
  have centuries : (later - 1) / 100 - (year - 1) / 100 ≤ later - year := by omega
  have eras : (year - 1) / 400 ≤ (later - 1) / 400 := Int.ediv_le_ediv (by decide) (by omega)
  unfold daysBefore
  omega

theorem civil_year_span (date : Int) :
    daysBefore (civil date).1 < date + 719163 ∧ date + 719163 ≤ daysBefore ((civil date).1 + 1) := by
  obtain ⟨era,year,dayOfYear,month,sum,yearLow,yearHigh,dayLow,dayHigh,_,monthNamed,shape⟩ := civil_parts date
  unfold yearStart at sum
  unfold daysBefore
  rw [shape]
  split
  · dsimp only
    constructor
    · omega
    · omega
  · dsimp only
    constructor
    · omega
    · omega

/-- A day within a year that begins in March. -/
theorem civil_march (date : Int) : ∃ year dayOfYear month : Int,
    date + 719468 = daysBefore (year + 1) + dayOfYear ∧ 0 ≤ dayOfYear ∧
      daysBefore (year + 1) + dayOfYear < daysBefore (year + 2) ∧ month = (5 * dayOfYear + 2) / 153 ∧
      civil date = if month < 10
        then (year,month + 3,dayOfYear - (153 * month + 2) / 5 + 1)
        else (year + 1,month - 9,dayOfYear - (153 * month + 2) / 5 + 1) := by
  obtain ⟨era,year,dayOfYear,month,sum,yearLow,yearHigh,dayLow,dayHigh,dayEnd,named,shape⟩ := civil_parts date
  have starts : daysBefore (year + era * 400 + 1) = era * 146097 + yearStart year := by
    unfold daysBefore yearStart
    omega
  have ends : era * 146097 + yearStart year + dayOfYear < daysBefore (year + era * 400 + 2) := by
    rcases dayEnd with within | ⟨rfl,last⟩
    · unfold daysBefore yearStart at *
      omega
    · unfold daysBefore
      omega
  exact ⟨year + era * 400,dayOfYear,month,by omega,dayLow,by omega,named,shape⟩

/-- The day of a year that begins in March says the date. -/
theorem civil_of_march {year dayOfYear date : Int} (sum : date + 719468 = daysBefore (year + 1) + dayOfYear)
    (dayLow : 0 ≤ dayOfYear) (dayEnd : daysBefore (year + 1) + dayOfYear < daysBefore (year + 2)) :
    civil date = if (5 * dayOfYear + 2) / 153 < 10
      then (year,(5 * dayOfYear + 2) / 153 + 3,dayOfYear - (153 * ((5 * dayOfYear + 2) / 153) + 2) / 5 + 1)
      else (year + 1,(5 * dayOfYear + 2) / 153 - 9,dayOfYear - (153 * ((5 * dayOfYear + 2) / 153) + 2) / 5 + 1) := by
  obtain ⟨year',dayOfYear',month,sum',dayLow',dayEnd',rfl,shape⟩ := civil_march date
  have years : year' = year := by
    rcases Int.lt_trichotomy year year' with before | same | after
    · have ended := daysBefore_mono (by omega : year + 2 ≤ year' + 1)
      omega
    · exact same.symm
    · have ended := daysBefore_mono (by omega : year' + 2 ≤ year + 1)
      omega
  subst years
  have days : dayOfYear' = dayOfYear := by omega
  rw [shape,days]

end civil

section digits

theorem number_toList (number : Nat) : (toString number).toList = Nat.toDigits 10 number := Nat.toList_repr

theorem number_plain (number : Nat) {mark : Char} (other : mark.isDigit = false) : mark ∉ (toString number).toList := by
  rw [number_toList]
  intro found
  have digit := Nat.isDigit_of_mem_toDigits (by decide) (by decide) found
  rw [other] at digit
  cases digit

theorem number_injective {first second : Nat} (same : (toString first).toList = (toString second).toList) :
    first = second := by
  rw [number_toList,number_toList] at same
  rw [← Nat.ofDigitChars_ten_toDigits (n := first),same,Nat.ofDigitChars_ten_toDigits]

theorem zeroPadded_toList (width number : Nat) : (zeroPadded width (number : Int)).toList =
    List.replicate (width - (toString (number : Int)).length) '0' ++ (toString number).toList := by
  rw [zeroPadded,String.toList_append,String.toList_ofList]
  rfl

theorem zeroPadded_value (width : Nat) {value : Int} (positive : 0 ≤ value) :
    (Nat.ofDigitChars 10 (zeroPadded width value).toList 0 : Int) = value := by
  obtain ⟨number,rfl⟩ := Int.eq_ofNat_of_zero_le positive
  rw [zeroPadded_toList,number_toList,Nat.ofDigitChars_append,Nat.ofDigitChars_replicate_zero,Nat.mul_zero,
    Nat.ofDigitChars_ten_toDigits]

theorem zeroPadded_injective {width : Nat} {first second : Int} (one : 0 ≤ first) (two : 0 ≤ second)
    (same : (zeroPadded width first).toList = (zeroPadded width second).toList) : first = second := by
  rw [← zeroPadded_value width one,← zeroPadded_value width two,same]

theorem zeroPadded_plain (width : Nat) {value : Int} (positive : 0 ≤ value) {mark : Char}
    (other : mark.isDigit = false) : mark ∉ (zeroPadded width value).toList := by
  obtain ⟨number,rfl⟩ := Int.eq_ofNat_of_zero_le positive
  rw [zeroPadded_toList,List.mem_append,not_or]
  refine ⟨fun zero => ?_,number_plain number other⟩
  rw [List.eq_of_mem_replicate zero] at other
  cases other

end digits

section instants

def fraction (micros : Int) : List Char :=
  if micros = 0 then [] else '.'::(zeroPadded 6 micros).toList

theorem isoInstant_toList (instant : Int) : (isoInstant instant).toList =
    (zeroPadded 4 (civil (instant / day)).1).toList ++ '-'::((zeroPadded 2 (civil (instant / day)).2.1).toList ++
      '-'::((zeroPadded 2 (civil (instant / day)).2.2).toList ++
        'T'::((zeroPadded 2 (instant % day / (60 * second) / 60)).toList ++
          ':'::((zeroPadded 2 (instant % day / (60 * second) % 60)).toList ++
            ':'::((zeroPadded 2 (instant % day / second % 60)).toList ++
              fraction (instant % second) ++ "+00:00".toList))))) := by
  have date : isoDate (instant / day) = zeroPadded 4 (civil (instant / day)).1 ++ "-" ++
      zeroPadded 2 (civil (instant / day)).2.1 ++ "-" ++ zeroPadded 2 (civil (instant / day)).2.2 := rfl
  have micros : (if instant % second = 0 then "" else "." ++ zeroPadded 6 (instant % second)).toList =
      fraction (instant % second) := by
    unfold fraction
    split
    · rfl
    · rw [String.toList_append]
      rfl
  have dash : "-".toList = ['-'] := rfl
  have tee : "T".toList = ['T'] := rfl
  have colon : ":".toList = [':'] := rfl
  simp only [isoInstant,clockTime,date,String.toList_append,micros,dash,tee,colon,List.append_assoc,
    List.cons_append,List.nil_append]

private theorem fraction_injective {seconds seconds' micros micros' : Int} (one : 0 ≤ seconds)
    (two : 0 ≤ seconds') (small : 0 ≤ micros) (small' : 0 ≤ micros')
    (same : (zeroPadded 2 seconds).toList ++ fraction micros = (zeroPadded 2 seconds').toList ++ fraction micros') :
    seconds = seconds' ∧ micros = micros' := by
  have plain {value : Int} (positive : 0 ≤ value) : '.' ∉ (zeroPadded 2 value).toList :=
    zeroPadded_plain 2 positive rfl
  unfold fraction at same
  by_cases whole : micros = 0
  · by_cases whole' : micros' = 0
    · rw [if_pos whole,if_pos whole',List.append_nil,List.append_nil] at same
      exact ⟨zeroPadded_injective one two same,whole.trans whole'.symm⟩
    · rw [if_pos whole,if_neg whole',List.append_nil] at same
      have dotted : '.' ∈ (zeroPadded 2 seconds).toList :=
        same ▸ List.mem_append_right _ List.mem_cons_self
      exact absurd dotted (plain one)
  · by_cases whole' : micros' = 0
    · rw [if_neg whole,if_pos whole',List.append_nil] at same
      have dotted : '.' ∈ (zeroPadded 2 seconds').toList :=
        same ▸ List.mem_append_right _ List.mem_cons_self
      exact absurd dotted (plain two)
    · rw [if_neg whole,if_neg whole'] at same
      obtain ⟨head,tail⟩ := Separated.join_injective (plain one) (plain two) same
      exact ⟨zeroPadded_injective one two head,zeroPadded_injective small small' tail⟩

/-- Two instants of the calendar with one text are the same instant. -/
theorem isoInstant_injective {first second_ : Int} (one : representable first = true)
    (two : representable second_ = true) (same : isoInstant first = isoInstant second_) :
    first = second_ := by
  have dated {instant : Int} (fine : representable instant = true) : firstInstant ≤ instant / day * day := by
    unfold representable at fine
    rw [Bool.and_eq_true,decide_eq_true_eq,decide_eq_true_eq] at fine
    unfold firstInstant day second at *
    omega
  have clock (instant : Int) : 0 ≤ instant % day / (60 * second) / 60 ∧
      0 ≤ instant % day / (60 * second) % 60 ∧ 0 ≤ instant % day / second % 60 ∧ 0 ≤ instant % second := by
    unfold day second
    omega
  have plain (width : Nat) {value : Int} (positive : 0 ≤ value) (mark : Char) (other : mark.isDigit = false) :
      mark ∉ (zeroPadded width value).toList := zeroPadded_plain width positive other
  obtain ⟨year,month,date⟩ := civil_positive (dated one)
  obtain ⟨year',month',date'⟩ := civil_positive (dated two)
  obtain ⟨hour,minute,seconds,micros⟩ := clock first
  obtain ⟨hour',minute',seconds',micros'⟩ := clock second_
  have texts := congrArg String.toList same
  rw [isoInstant_toList,isoInstant_toList] at texts
  obtain ⟨years,texts⟩ := Separated.join_injective (plain 4 year '-' rfl) (plain 4 year' '-' rfl) texts
  obtain ⟨months,texts⟩ := Separated.join_injective (plain 2 month '-' rfl) (plain 2 month' '-' rfl) texts
  obtain ⟨dates,texts⟩ := Separated.join_injective (plain 2 date 'T' rfl) (plain 2 date' 'T' rfl) texts
  obtain ⟨hours,texts⟩ := Separated.join_injective (plain 2 hour ':' rfl) (plain 2 hour' ':' rfl) texts
  obtain ⟨minutes,texts⟩ := Separated.join_injective (plain 2 minute ':' rfl) (plain 2 minute' ':' rfl) texts
  obtain ⟨sameSeconds,sameMicros⟩ := fraction_injective seconds seconds' micros micros'
    (List.append_cancel_right texts)
  have sameDate : first / day = second_ / day := by
    apply civil_injective
    refine Prod.ext ?_ (Prod.ext ?_ ?_)
    · exact zeroPadded_injective year year' years
    · exact zeroPadded_injective month month' months
    · exact zeroPadded_injective date date' dates
  have sameHour := zeroPadded_injective hour hour' hours
  have sameMinute := zeroPadded_injective minute minute' minutes
  unfold day second at *
  omega

end instants
end Proactive.Situations
