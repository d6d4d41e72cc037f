import Mathlib.Data.Int.Order.Basic
import Mathlib.Order.Bounds.Basic
import Proactive.Situations.CivilDates
import Proactive.Situations.OccasionDates

/-! Dates without a year: the next yearly occurrence of an anchor, and the deadline that a text names. -/
namespace Proactive.Situations
open Proactive.Library Proactive.Store DeadlineText

section years
variable {first later : Int}

theorem civil_year_mono (order : first ≤ later) : (civil first).1 ≤ (civil later).1 := by
  rcases order.lt_or_eq with less | rfl
  · rcases civil_lt less with before | ⟨same,_⟩
    · exact before.le
    · exact same.le
  · exact le_rfl

theorem civil_year_lt (years : (civil first).1 < (civil later).1) : first < later := by
  by_contra order
  exact absurd (civil_year_mono (not_lt.mp order)) (not_le.mpr years)

theorem yearOf_eq (named : firstDate ≤ first) : ((yearOf first : Nat) : Int) = (civil first).1 ∧ 1 ≤ yearOf first := by
  have span := (civil_year_span first).2
  have positive : 1 ≤ (civil first).1 := by
    by_contra early
    have none := daysBefore_mono (by omega : (civil first).1 + 1 ≤ 1)
    have start : daysBefore 1 = 0 := rfl
    unfold firstDate at named
    omega
  unfold yearOf
  omega

end years

section occurrences
variable {year other month dayOfMonth : Nat} {today date : Int}

/-- A day on which the year observes the month and day: 28 February where the year lacks a 29 February. -/
def ObservedIn (year month dayOfMonth : Nat) (date : Int) : Prop :=
  civil date = (↑year,↑month,↑dayOfMonth) ∨
    month = 2 ∧ dayOfMonth = 29 ∧ IsoDate.leapYear year = false ∧ civil date = (↑year,2,28)

theorem ObservedIn.civil_year (observed : ObservedIn year month dayOfMonth date) : (civil date).1 = year := by
  rcases observed with named | ⟨_,_,_,named⟩
  · rw [named]
  · rw [named]

theorem no_leap_day (common : IsoDate.leapYear year = false) : civil date ≠ (↑year,2,29) := by
  intro named
  obtain ⟨_,_,_,within⟩ := @civil_within year 2 29 date named
  rw [IsoDate.daysInMonth,if_pos rfl,common] at within
  exact absurd within (by decide)

theorem ObservedIn.unique {later : Int} (one : ObservedIn year month dayOfMonth date)
    (two : ObservedIn year month dayOfMonth later) : date = later := by
  rcases one with named | ⟨rfl,rfl,common,named⟩
  · rcases two with named' | ⟨rfl,rfl,common,_⟩
    · exact civil_injective (named.trans named'.symm)
    · exact absurd named (no_leap_day common)
  · rcases two with named' | ⟨_,_,_,named'⟩
    · exact absurd named' (no_leap_day common)
    · exact civil_injective (named.trans named'.symm)

theorem occurrenceInYear_iff (positive : 1 ≤ year) (late : year ≤ 9999) :
    occurrenceInYear year month dayOfMonth = .ok date ↔ ObservedIn year month dayOfMonth date := by
  unfold occurrenceInYear ObservedIn
  split
  · rename_i leapDay
    obtain ⟨rfl,rfl,common⟩ := leapDay
    rw [dateOf_eq_ok_iff,safeDate_iff]
    constructor
    · rintro ⟨_,_,named⟩
      exact Or.inr ⟨rfl,rfl,common,named⟩
    · rintro (named | ⟨_,_,_,named⟩)
      · exact absurd named (no_leap_day common)
      · exact ⟨positive,late,named⟩
  · rename_i ordinary
    rw [dateOf_eq_ok_iff,safeDate_iff]
    constructor
    · exact fun ⟨_,_,named⟩ => Or.inl named
    · rintro (named | ⟨february,leapDay,common,_⟩)
      · exact ⟨positive,late,named⟩
      · exact absurd ⟨february,leapDay,common⟩ ordinary

/-- Each year observes a month and day of the calendar once. -/
theorem observed_once (valid : isValidDate other month dayOfMonth = true) (positive : 1 ≤ year) :
    ∃! date, ObservedIn year month dayOfMonth date := by
  obtain ⟨_,first,last,least,within⟩ := isValidDate_iff.mp valid
  have exists_ : ∃ date, ObservedIn year month dayOfMonth date := by
    by_cases leapDay : month = 2 ∧ dayOfMonth = 29 ∧ IsoDate.leapYear year = false
    · obtain ⟨february,last_,common⟩ := leapDay
      refine ⟨_,Or.inr ⟨february,last_,common,civil_toOrdinal positive (by decide) (by decide) (by decide) ?_⟩⟩
      rw [IsoDate.daysInMonth,if_pos rfl,common]
      decide
    · exact ⟨_,Or.inl (civil_toOrdinal positive first last least (daysInMonth_shared within leapDay))⟩
  obtain ⟨date,observed⟩ := exists_
  exact ⟨date,observed,fun later two => two.unique observed⟩

/-- Today or later, and no occurrence in between; and each year has one occurrence. -/
theorem yearlyOccurrence_least (valid : isValidDate other month dayOfMonth = true) (named : firstDate ≤ today)
    (early : yearOf today < 9999) :
    (∃ occurrence, yearlyOccurrenceOnOrAfter today month dayOfMonth = .ok occurrence ∧
      IsLeast {date | today ≤ date ∧ ∃ year, ObservedIn year month dayOfMonth date} occurrence) ∧
      ∀ year, 1 ≤ year → ∃! date, ObservedIn year month dayOfMonth date := by
  obtain ⟨current,positive⟩ := yearOf_eq named
  refine ⟨?_,fun year => observed_once valid⟩
  obtain ⟨occurrence,observed,_⟩ := observed_once valid positive
  obtain ⟨next,observed',_⟩ := observed_once valid (Nat.le_add_left 1 (yearOf today))
  have thisYear := (occurrenceInYear_iff positive early.le).mpr observed
  have nextYear := (occurrenceInYear_iff (Nat.le_add_left 1 (yearOf today)) early).mpr observed'
  -- an occurrence in a year is the one of that year
  have same {date chosen : Int} {year : Nat} (one : ∃ year, ObservedIn year month dayOfMonth date)
      (two : ObservedIn year month dayOfMonth chosen) (years : (civil date).1 = year) : date = chosen := by
    obtain ⟨found,one⟩ := one
    obtain rfl : found = year := Int.ofNat.inj (one.civil_year.symm.trans years)
    exact one.unique two
  unfold yearlyOccurrenceOnOrAfter
  rw [thisYear]
  by_cases reached : today ≤ occurrence
  · refine ⟨occurrence,if_pos reached,⟨reached,_,observed⟩,?_⟩
    rintro date ⟨after,found⟩
    by_contra before
    have low := civil_year_mono after
    have high := civil_year_mono (not_le.mp before).le
    rw [observed.civil_year] at high
    exact absurd (same found observed (by omega)) (not_le.mp before).ne
  · have later : today < next := civil_year_lt (by rw [observed'.civil_year]; omega)
    refine ⟨next,(if_neg reached).trans nextYear,⟨later.le,_,observed'⟩,?_⟩
    rintro date ⟨after,found⟩
    by_contra before
    have low := civil_year_mono after
    have high := civil_year_mono (not_le.mp before).le
    rw [observed'.civil_year] at high
    rcases (by omega : (civil date).1 = yearOf today ∨ (civil date).1 = (yearOf today + 1 : Nat)) with years | years
    · exact reached (same found observed years ▸ after)
    · exact absurd (same found observed' years) (not_le.mp before).ne

/-- 1 March of a year without a leap day, and the anchor of 29 February. -/
theorem yearlyOccurrence_least_leapDay : ∃ occurrence, yearlyOccurrenceOnOrAfter 20513 2 29 = .ok occurrence ∧
    IsLeast {date | 20513 ≤ date ∧ ∃ year, ObservedIn year 2 29 date} occurrence :=
  (@yearlyOccurrence_least 2024 2 29 20513 (by decide) (by decide) (by decide)).1

end occurrences

section deadlines
variable {month dayOfMonth : Nat} {today date : Int}

/-- `_yearless_dates`, with a `none` for each pair that names no date. -/
def yearlessDates (today : Int) (pairs : List (Nat × Nat)) : Except Raised (List (Option Int)) :=
  pairs.mapM (fun pair => yearlessDate today pair.1 pair.2)

/-- The dates of today's year and the next with the month and day that are at most the grace ago. -/
def upcoming (today : Int) (pair : Nat × Nat) : Set Int :=
  {date | today - rolloverGrace ≤ date ∧ date ≤ lastDate ∧
    (civil date = (↑(yearOf today),↑pair.1,↑pair.2) ∨ civil date = (↑(yearOf today + 1),↑pair.1,↑pair.2))}

/-- The earliest upcoming date, where there is one. -/
def Resolves (today : Int) (pair : Nat × Nat) (resolved : Option Int) : Prop :=
  ∀ date, resolved = some date ↔ IsLeast (upcoming today pair) date

/-- A 29 February that only the next year has. -/
def LeapDayNextYear (today : Int) (pair : Nat × Nat) : Prop :=
  pair = (2,29) ∧ IsoDate.leapYear (yearOf today) = false ∧ IsoDate.leapYear (yearOf today + 1) = true ∧
    yearOf today < 9999

/-- The grace of a day of the year 1 reaches before the first `date`. -/
def GraceBeforeFirst (today : Int) (pair : Nat × Nat) : Prop :=
  today - rolloverGrace < firstDate ∧ safeDate 1 pair.1 pair.2 ≠ none

theorem named_iff {year : Nat} (positive : 1 ≤ year) : safeDate year month dayOfMonth = some date ↔
    date ≤ lastDate ∧ civil date = (↑year,↑month,↑dayOfMonth) := by
  rw [safeDate_iff]
  constructor
  · rintro ⟨_,late,named⟩
    have span := (civil_year_span date).2
    rw [named] at span
    dsimp only at span
    have most := daysBefore_mono (by omega : (year : Int) + 1 ≤ 10000)
    have ends : daysBefore 10000 = 3652059 := rfl
    unfold lastDate
    exact ⟨by omega,named⟩
  · rintro ⟨most,named⟩
    have years := civil_year_mono most
    have last : (civil lastDate).1 = 9999 := rfl
    rw [named,last] at years
    exact ⟨positive,Int.ofNat_le.mp years,named⟩

theorem mem_upcoming (positive : 1 ≤ yearOf today) : date ∈ upcoming today (month,dayOfMonth) ↔
    today - rolloverGrace ≤ date ∧ (safeDate (yearOf today) month dayOfMonth = some date ∨
      safeDate (yearOf today + 1) month dayOfMonth = some date) := by
  unfold upcoming
  rw [Set.mem_ofPred_eq,named_iff positive,named_iff (Nat.le_add_left 1 _),← and_or_left]

theorem next_after (named : firstDate ≤ today) (next : safeDate (yearOf today + 1) month dayOfMonth = some date) :
    today < date := by
  obtain ⟨_,_,found⟩ := safeDate_iff.mp next
  apply civil_year_lt
  rw [found,← (yearOf_eq named).1]
  exact Int.ofNat_lt.mpr (Nat.lt_succ_self _)

theorem resolves_least (least : IsLeast (upcoming today (month,dayOfMonth)) date) :
    Resolves today (month,dayOfMonth) (some date) := by
  intro other
  constructor
  · rintro same
    obtain rfl := Option.some.inj same
    exact least
  · exact fun other => congrArg some (least.unique other)

theorem resolves_none : Resolves today (month,dayOfMonth) none ↔
    ∀ date, ¬IsLeast (upcoming today (month,dayOfMonth)) date := by
  constructor
  · intro resolved date least
    cases (resolved date).mpr least
  · intro absent date
    exact iff_of_false (fun same => nomatch same) (absent date)

/-- Only a leap day is a day of the next year and not of this one. -/
theorem leapDayNextYear_iff (positive : 1 ≤ yearOf today) (late : yearOf today ≤ 9999) :
    LeapDayNextYear today (month,dayOfMonth) ↔ safeDate (yearOf today) month dayOfMonth = none ∧
      safeDate (yearOf today + 1) month dayOfMonth ≠ none := by
  constructor
  · rintro ⟨same,common,leap,early⟩
    obtain ⟨rfl,rfl⟩ := Prod.mk.inj same
    constructor
    · rw [Option.eq_none_iff_forall_ne_some]
      exact fun date named => no_leap_day common (safeDate_iff.mp named).2.2
    · have fits : 29 ≤ IsoDate.daysInMonth (yearOf today + 1) 2 := by
        rw [IsoDate.daysInMonth,if_pos rfl,leap]
        decide
      have found := civil_toOrdinal (Nat.le_add_left 1 (yearOf today)) (by decide) (by decide) (by decide) fits
      rw [safeDate_iff.mpr ⟨Nat.le_add_left 1 _,early,found⟩]
      exact Option.some_ne_none _
  · rintro ⟨absent,present⟩
    obtain ⟨date,found⟩ := Option.ne_none_iff_exists'.mp present
    obtain ⟨_,early,named⟩ := safeDate_iff.mp found
    obtain ⟨first,last,least,within⟩ := civil_within named
    have leapDay : month = 2 ∧ dayOfMonth = 29 ∧ IsoDate.leapYear (yearOf today) = false := by
      by_contra ordinary
      have other := civil_toOrdinal positive first last least (daysInMonth_shared within ordinary)
      rw [safeDate_iff.mpr ⟨positive,late,other⟩] at absent
      cases absent
    obtain ⟨rfl,rfl,common⟩ := leapDay
    refine ⟨rfl,common,?_,early⟩
    rw [IsoDate.daysInMonth,if_pos rfl] at within
    split at within
    · assumption
    · exact absurd within (by decide)

theorem upcoming_next (positive : 1 ≤ yearOf today) (named : firstDate ≤ today)
    (past : ∀ candidate, safeDate (yearOf today) month dayOfMonth = some candidate → candidate < today - rolloverGrace)
    (next : safeDate (yearOf today + 1) month dayOfMonth = some date) :
    IsLeast (upcoming today (month,dayOfMonth)) date := by
  have after := next_after named next
  refine ⟨(mem_upcoming positive).mpr ⟨by unfold rolloverGrace; omega,Or.inr next⟩,fun other member => ?_⟩
  obtain ⟨reached,found | found⟩ := (mem_upcoming positive).mp member
  · exact absurd reached (not_le.mpr (past other found))
  · exact (Option.some.inj (next.symm.trans found)).le

theorem upcoming_this (positive : 1 ≤ yearOf today) (this : safeDate (yearOf today) month dayOfMonth = some date)
    (recent : today - rolloverGrace ≤ date) : IsLeast (upcoming today (month,dayOfMonth)) date := by
  refine ⟨(mem_upcoming positive).mpr ⟨recent,Or.inl this⟩,fun other member => ?_⟩
  obtain ⟨_,found | found⟩ := (mem_upcoming positive).mp member
  · exact (Option.some.inj (this.symm.trans found)).le
  · refine (civil_year_lt ?_).le
    rw [(safeDate_iff.mp this).2.2,(safeDate_iff.mp found).2.2]
    exact Int.ofNat_lt.mpr (Nat.lt_succ_self _)

theorem upcoming_none (positive : 1 ≤ yearOf today)
    (past : ∀ candidate, safeDate (yearOf today) month dayOfMonth = some candidate → candidate < today - rolloverGrace)
    (absent : safeDate (yearOf today + 1) month dayOfMonth = none) (date : Int) :
    ¬IsLeast (upcoming today (month,dayOfMonth)) date := by
  intro least
  obtain ⟨reached,found | found⟩ := (mem_upcoming positive).mp least.1
  · exact absurd reached (not_le.mpr (past date found))
  · cases absent.symm.trans found

/-- One mention resolves to the earliest upcoming date, but for two kinds of mentions. -/
theorem yearlessDate_resolves_iff (named : firstDate ≤ today) (within : today ≤ lastDate) :
    (∃ resolved, yearlessDate today month dayOfMonth = .ok resolved ∧ Resolves today (month,dayOfMonth) resolved) ↔
      ¬LeapDayNextYear today (month,dayOfMonth) ∧ ¬GraceBeforeFirst today (month,dayOfMonth) := by
  obtain ⟨current,positive⟩ := yearOf_eq named
  have late : yearOf today ≤ 9999 := by
    have years := civil_year_mono within
    have last : (civil lastDate).1 = 9999 := rfl
    rw [last,← current] at years
    exact Int.ofNat_le.mp years
  have early (grace : today - rolloverGrace < firstDate) : yearOf today = 1 := by
    have years := civil_year_mono (by unfold rolloverGrace at grace; omega : today ≤ firstDate + 6)
    have first : (civil (firstDate + 6)).1 = 1 := rfl
    omega
  rw [leapDayNextYear_iff positive late]
  unfold yearlessDate GraceBeforeFirst
  cases this : safeDate (yearOf today) month dayOfMonth with
  | none =>
    have graceless : ¬(today - rolloverGrace < firstDate ∧ safeDate 1 month dayOfMonth ≠ none) :=
      fun ⟨grace,present⟩ => present (early grace ▸ this)
    have past (date : Int) (found : safeDate (yearOf today) month dayOfMonth = some date) :
        date < today - rolloverGrace := nomatch this.symm.trans found
    dsimp only
    cases next : safeDate (yearOf today + 1) month dayOfMonth with
    | none =>
      exact iff_of_true ⟨none,rfl,resolves_none.mpr (upcoming_none positive past next)⟩
        ⟨fun leap => leap.2 rfl,graceless⟩
    | some later =>
      refine iff_of_false ?_ (fun fine => fine.1 ⟨rfl,Option.some_ne_none _⟩)
      rintro ⟨resolved,same,resolves⟩
      obtain rfl := Except.ok.inj same
      exact resolves_none.mp resolves later (upcoming_next positive named past next)
  | some candidate =>
    by_cases grace : today - rolloverGrace < firstDate
    · have raised : checkedDate (today - rolloverGrace) = .error .overflowError := if_neg (by omega)
      rw [raised]
      refine iff_of_false (fun ⟨_,same,_⟩ => nomatch same) (fun fine => fine.2 ⟨grace,?_⟩)
      rw [← early grace,this]
      exact Option.some_ne_none _
    · have near : checkedDate (today - rolloverGrace) = .ok (today - rolloverGrace) :=
        if_pos ⟨by omega,by unfold rolloverGrace; omega⟩
      rw [near]
      refine iff_of_true ⟨_,rfl,?_⟩ ⟨fun leap => absurd leap.1 (Option.some_ne_none _),fun first => grace first.1⟩
      split
      · rename_i past
        have old (date : Int) (found : safeDate (yearOf today) month dayOfMonth = some date) :
            date < today - rolloverGrace := Option.some.inj (this.symm.trans found) ▸ past
        cases next : safeDate (yearOf today + 1) month dayOfMonth with
        | none => exact resolves_none.mpr (upcoming_none positive old next)
        | some later => exact resolves_least (upcoming_next positive named old next)
      · rename_i recent
        exact resolves_least (upcoming_this positive this (not_lt.mp recent))

/-- Every mention resolves to the earliest upcoming date exactly when none is of either kind. -/
theorem yearlessDates_resolve_iff (pairs : List (Nat × Nat)) (named : firstDate ≤ today) (within : today ≤ lastDate) :
    (∃ dates, yearlessDates today pairs = .ok dates ∧ List.Forall₂ (Resolves today) pairs dates) ↔
      ∀ pair ∈ pairs, ¬LeapDayNextYear today pair ∧ ¬GraceBeforeFirst today pair := by
  unfold yearlessDates
  rw [Outcome.mapM_forall₂_iff]
  exact forall₂_congr (fun pair _ => yearlessDate_resolves_iff named within)

/-- A deadline on 3 January that a text of 20 December mentions. -/
theorem yearlessDates_resolve_january :
    ∃ dates, yearlessDates 20442 [(1,3)] = .ok dates ∧ List.Forall₂ (Resolves 20442) [(1,3)] dates := by
  refine (yearlessDates_resolve_iff [(1,3)] (by decide) (by decide)).mpr ?_
  rintro pair member
  obtain rfl := List.mem_singleton.mp member
  refine ⟨fun leap => ?_,fun early => ?_⟩
  · exact absurd leap.1 (by decide)
  · exact absurd early.1 (by decide)

/-- 29 February of the next year, mentioned in a year that has none. -/
theorem yearlessDates_leapDay : ¬∃ dates, yearlessDates 21183 [(2,29)] = .ok dates ∧
    List.Forall₂ (Resolves 21183) [(2,29)] dates := by
  rintro ⟨dates,ran,each⟩
  have none : yearlessDates 21183 [(2,29)] = .ok [none] := by decide +kernel
  obtain rfl := Except.ok.inj (none.symm.trans ran)
  cases each with
  | cons resolves _ =>
    have next : safeDate (yearOf 21183 + 1) 2 29 = some 21243 := by decide +kernel
    refine resolves_none.mp resolves 21243 (upcoming_next (by decide) (by decide) ?_ next)
    intro candidate found
    have absent : safeDate (yearOf 21183) 2 29 = .none := by decide +kernel
    rw [absent] at found
    cases found

end deadlines
end Proactive.Situations
