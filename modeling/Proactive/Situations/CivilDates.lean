import Proactive.Situations.DeadlineText
import Proactive.Situations.IsoText

/-! The dates that a year, a month and a day name. -/
namespace Proactive.Situations
open Proactive.Store DeadlineText

section calendar
variable {year month dayOfMonth : Nat} {date other : Int}

theorem leapYear_iff : IsoDate.leapYear year = true ↔ year % 4 = 0 ∧ (year % 100 ≠ 0 ∨ year % 400 = 0) := by
  unfold IsoDate.leapYear
  rw [Bool.and_eq_true,Bool.or_eq_true,decide_eq_true_eq,decide_eq_true_eq,decide_eq_true_eq]

theorem daysBefore_succ (year : Nat) :
    daysBefore ((year : Int) + 1) = daysBefore year + if IsoDate.leapYear year = true then 366 else 365 := by
  unfold daysBefore
  split
  · rename_i leap
    have rule := leapYear_iff.mp leap
    omega
  · rename_i common
    rw [leapYear_iff] at common
    omega

/-- The days before a month, counted from 1 March. -/
private theorem daysBeforeMonth_march (first : 1 ≤ month) (last : month ≤ 12) :
    (IsoDate.daysBeforeMonth year month : Int) = if month ≤ 2 then (153 * ((month : Int) + 9) + 2) / 5 - 306
      else (153 * ((month : Int) - 3) + 2) / 5 + if IsoDate.leapYear year = true then 60 else 59 := by
  unfold IsoDate.daysBeforeMonth IsoDate.daysInMonth
  generalize IsoDate.leapYear year = leap
  have table : ∀ leap : Bool, ∀ month ∈ List.range' 1 12,
      (((List.range (month - 1)).foldl (fun days earlier =>
          days + if earlier + 1 = 2 then if leap = true then 29 else 28
            else if earlier + 1 = 4 ∨ earlier + 1 = 6 ∨ earlier + 1 = 9 ∨ earlier + 1 = 11 then 30 else 31) 0 : Nat) : Int) =
        if month ≤ 2 then (153 * ((month : Int) + 9) + 2) / 5 - 306
        else (153 * ((month : Int) - 3) + 2) / 5 + if leap = true then 60 else 59 := by decide +kernel
  exact table leap month (List.mem_range'_1.mpr ⟨first,by omega⟩)

private theorem daysInMonth_march (first : 1 ≤ month) (last : month ≤ 12) (dayOfMonth : Nat) :
    dayOfMonth ≤ IsoDate.daysInMonth year month ↔
      if month = 2 then dayOfMonth ≤ if IsoDate.leapYear year = true then 29 else 28
      else (dayOfMonth : Int) ≤ (153 * (((month : Int) + 9) % 12 + 1) + 2) / 5 - (153 * (((month : Int) + 9) % 12) + 2) / 5 := by
  unfold IsoDate.daysInMonth
  by_cases february : month = 2
  · rw [if_pos february,if_pos february]
  · rw [if_neg february,if_neg february]
    have table : ∀ month ∈ List.range' 1 12, month ≠ 2 →
        ((if month = 4 ∨ month = 6 ∨ month = 9 ∨ month = 11 then 30 else 31 : Nat) : Int) =
          (153 * (((month : Int) + 9) % 12 + 1) + 2) / 5 - (153 * (((month : Int) + 9) % 12) + 2) / 5 := by
      decide +kernel
    rw [← table month (List.mem_range'_1.mpr ⟨first,by omega⟩) february]
    exact Int.ofNat_le.symm

private theorem daysBeforeYear_eq (positive : 1 ≤ year) : (IsoDate.daysBeforeYear year : Int) = daysBefore year := by
  unfold IsoDate.daysBeforeYear daysBefore
  omega

private theorem civil_march_month {marchYear marchMonth within : Int} (first : 0 ≤ marchMonth) (least : 1 ≤ within)
    (most : within ≤ (153 * (marchMonth + 1) + 2) / 5 - (153 * marchMonth + 2) / 5)
    (sum : date + 719468 = daysBefore (marchYear + 1) + ((153 * marchMonth + 2) / 5 + within - 1))
    (ends : date + 719468 < daysBefore (marchYear + 2)) :
    civil date = if marchMonth < 10 then (marchYear,marchMonth + 3,within)
      else (marchYear + 1,marchMonth - 9,within) := by
  have read : (5 * ((153 * marchMonth + 2) / 5 + within - 1) + 2) / 153 = marchMonth := by omega
  have rest : (153 * marchMonth + 2) / 5 + within - 1 - (153 * marchMonth + 2) / 5 + 1 = within := by omega
  rw [civil_of_march sum (by omega) (by omega),read,rest]

/-- January and February end the year that began in the March before. -/
theorem civil_early (first : 1 ≤ month) (early : month ≤ 2) (least : 1 ≤ dayOfMonth)
    (within : dayOfMonth ≤ IsoDate.daysInMonth year month)
    (counted : date + 719468 = daysBefore year + IsoDate.daysBeforeMonth year month + dayOfMonth + 305) :
    civil date = (↑year,↑month,↑dayOfMonth) := by
  have months := @daysBeforeMonth_march year month first (by omega)
  have days := (daysInMonth_march first (by omega) dayOfMonth).mp within
  have length := daysBefore_succ year
  rw [if_pos early] at months
  have same : (year : Int) - 1 + 1 = year := Int.sub_add_cancel _ _
  have after : (year : Int) - 1 + 2 = year + 1 := by omega
  have named := @civil_march_month date (year - 1) (month + 9) dayOfMonth (by omega) (by omega)
  rw [same,after] at named
  rw [named ?_ (by omega) ?_,if_neg (by omega)]
  · rw [Int.add_sub_cancel]
  · split at days
    · split at days
      · omega
      · omega
    · omega
  · split at days
    · split at days
      · rename_i leap
        rw [if_pos leap] at length
        omega
      · rename_i common
        rw [if_neg common] at length
        omega
    · split at length
      · omega
      · omega

theorem civil_late (first : 1 ≤ month) (last : month ≤ 12) (late : ¬month ≤ 2) (least : 1 ≤ dayOfMonth)
    (within : dayOfMonth ≤ IsoDate.daysInMonth year month)
    (counted : date + 719468 = daysBefore year + IsoDate.daysBeforeMonth year month + dayOfMonth + 305) :
    civil date = (↑year,↑month,↑dayOfMonth) := by
  have months := @daysBeforeMonth_march year month first last
  have days := (daysInMonth_march first last dayOfMonth).mp within
  have march : ((month : Int) + 9) % 12 = month - 3 := by omega
  rw [if_neg late] at months
  rw [if_neg (by omega),march] at days
  have start : date + 719468 = daysBefore (year + 1) + ((153 * ((month : Int) - 3) + 2) / 5 + dayOfMonth - 1) := by
    rw [counted,daysBefore_succ year,months]
    split
    · omega
    · omega
  have ends : date + 719468 < daysBefore (year + 2) := by
    have whole := daysBefore_succ (year + 1)
    rw [Int.natCast_add,Int.natCast_one,Int.add_assoc] at whole
    have short : 365 ≤ if IsoDate.leapYear (year + 1) = true then (366 : Int) else 365 := by
      split
      · decide
      · decide
    have later : daysBefore (year + (1 + 1)) = daysBefore (year + 2) := rfl
    omega
  rw [civil_march_month (by omega) (by omega) days start ends,if_pos (by omega),Int.sub_add_cancel]

/-- The calendar reads a date back from its day number. -/
theorem civil_toOrdinal (positive : 1 ≤ year) (first : 1 ≤ month) (last : month ≤ 12) (least : 1 ≤ dayOfMonth)
    (within : dayOfMonth ≤ IsoDate.daysInMonth year month) :
    civil ((IsoDate.toOrdinal year month dayOfMonth : Int) + (firstDate - 1)) = (↑year,↑month,↑dayOfMonth) := by
  have years := daysBeforeYear_eq positive
  have counted : (IsoDate.toOrdinal year month dayOfMonth : Int) + (firstDate - 1) + 719468 =
      daysBefore year + IsoDate.daysBeforeMonth year month + dayOfMonth + 305 := by
    unfold IsoDate.toOrdinal firstDate
    omega
  by_cases early : month ≤ 2
  · exact civil_early first early least within counted
  · exact civil_late first last early least within counted

theorem civil_within (named : civil date = (↑year,↑month,↑dayOfMonth)) :
    1 ≤ month ∧ month ≤ 12 ∧ 1 ≤ dayOfMonth ∧ dayOfMonth ≤ IsoDate.daysInMonth year month := by
  obtain ⟨marchYear,dayOfYear,marchMonth,sum,low,ends,rfl,shape⟩ := civil_march date
  rw [shape] at named
  have length := daysBefore_succ year
  split at named
  · simp only [Prod.mk.injEq] at named
    obtain ⟨rfl,months,days⟩ := named
    have bounds : 1 ≤ month ∧ month ≤ 12 ∧ 1 ≤ dayOfMonth := by omega
    refine ⟨bounds.1,bounds.2.1,bounds.2.2,(daysInMonth_march bounds.1 bounds.2.1 dayOfMonth).mpr ?_⟩
    have march : ((month : Int) + 9) % 12 = (5 * dayOfYear + 2) / 153 := by omega
    rw [if_neg (by omega),march]
    omega
  · simp only [Prod.mk.injEq] at named
    obtain ⟨years,months,days⟩ := named
    have after : marchYear + 2 = year + 1 := by omega
    rw [years] at sum
    rw [years,after,length] at ends
    have short : dayOfYear < if IsoDate.leapYear year = true then 366 else 365 := by omega
    have bounds : 1 ≤ month ∧ month ≤ 2 ∧ 1 ≤ dayOfMonth := by
      split at short
      · omega
      · omega
    refine ⟨bounds.1,by omega,bounds.2.2,(daysInMonth_march bounds.1 (by omega) dayOfMonth).mpr ?_⟩
    split
    · split at short
      · rename_i leap
        rw [if_pos leap]
        omega
      · rename_i common
        rw [if_neg common]
        omega
    · have march : ((month : Int) + 9) % 12 = (5 * dayOfYear + 2) / 153 := by omega
      rw [march]
      omega

theorem safeDate_iff : safeDate year month dayOfMonth = some date ↔
    1 ≤ year ∧ year ≤ 9999 ∧ civil date = (↑year,↑month,↑dayOfMonth) := by
  have read (positive : 1 ≤ year) (first : 1 ≤ month) (last : month ≤ 12) (least : 1 ≤ dayOfMonth)
      (within : dayOfMonth ≤ IsoDate.daysInMonth year month) (late : year ≤ 9999) :
      safeDate year month dayOfMonth = some ((IsoDate.toOrdinal year month dayOfMonth : Int) + (firstDate - 1)) := by
    rw [safeDate,if_pos late,IsoDate.ofCalendar,if_pos ⟨positive,first,last,least,within⟩]
    rfl
  constructor
  · intro named
    unfold safeDate IsoDate.ofCalendar at named
    split at named
    · rename_i late
      split at named
      · rename_i valid
        obtain ⟨positive,first,last,least,within⟩ := valid
        obtain rfl := Option.some.inj named
        exact ⟨positive,late,civil_toOrdinal positive first last least within⟩
      · cases named
    · cases named
  · rintro ⟨positive,late,named⟩
    obtain ⟨first,last,least,within⟩ := civil_within named
    rw [read positive first last least within late]
    exact congrArg some (civil_injective ((civil_toOrdinal positive first last least within).trans named.symm))

end calendar
end Proactive.Situations
