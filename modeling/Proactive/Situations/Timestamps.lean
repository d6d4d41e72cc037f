import Mathlib.Algebra.Group.Int.Defs
import Mathlib.Data.Int.Order.Basic
import Proactive.Library.Characters
import Proactive.Library.Lexicographic
import Proactive.Situations.IsoText

/-! The texts of the stored timestamps stand in the order of their instants. -/
namespace Proactive.Situations
open Proactive.Library Proactive.Store Lexicographic

/-- A timezone-aware `datetime`: its wall clock in microseconds, and its offset from UTC. -/
structure AwareDateTime where
  wall : Int
  utcOffset : Int
  named : representable wall = true
  bounded : -day < utcOffset ∧ utcOffset < day

namespace AwareDateTime

def instant (value : AwareDateTime) : Int := value.wall - value.utcOffset

/-- The year that the instant has in UTC, also where no `datetime` names it. -/
def utcYear (value : AwareDateTime) : Int := (civil (value.instant / day)).1

end AwareDateTime

/-- `value.astimezone(UTC).isoformat()`, the body of `utc_iso` and of both `_utc_iso`. -/
def utcIso (value : AwareDateTime) : Except Raised String :=
  if representable value.instant then .ok (isoInstant value.instant) else .error .overflowError

section fields
variable {width : Nat} {first later : Int}

theorem zeroPadded_digits (positive : 0 ≤ first) : ∀ c ∈ (zeroPadded width first).toList, c.isDigit = true := by
  intro c member
  by_contra other
  exact zeroPadded_plain width positive (Bool.eq_false_iff.mpr other) member

theorem zeroPadded_length (wide : 0 < width) (positive : 0 ≤ first) (short : first < 10 ^ width) :
    (zeroPadded width first).toList.length = width := by
  obtain ⟨number,rfl⟩ := Int.eq_ofNat_of_zero_le positive
  have digits : (toString number).toList.length ≤ width := by
    rw [number_toList]
    exact (Nat.length_toDigits_le_iff (by decide) wide).mpr (by exact_mod_cast short)
  have text : (toString (number : Int)).length = (toString number).toList.length := rfl
  rw [zeroPadded_toList,List.length_append,List.length_replicate,text]
  omega

theorem zeroPadded_lt (wide : 0 < width) (positive : 0 ≤ first) (less : first < later) (short : later < 10 ^ width) :
    (zeroPadded width first).toList < (zeroPadded width later).toList := by
  have positive' : 0 ≤ later := Int.le_trans positive (Int.le_of_lt less)
  have one := zeroPadded_length wide positive (Int.lt_trans less short)
  have two := zeroPadded_length wide positive' short
  rw [decimal_lt_iff (one.trans two.symm) (zeroPadded_digits positive) (zeroPadded_digits positive')]
  have values := less
  rw [← zeroPadded_value width positive,← zeroPadded_value width positive'] at values
  exact_mod_cast values

theorem zeroPadded_field_lt {rest other : List Char} (wide : 0 < width) (positive : 0 ≤ first)
    (positive' : 0 ≤ later) (short : first < 10 ^ width) (short' : later < 10 ^ width)
    (order : first < later ∨ first = later ∧ rest < other) :
    (zeroPadded width first).toList ++ rest < (zeroPadded width later).toList ++ other := by
  have one := zeroPadded_length wide positive short
  have two := zeroPadded_length wide positive' short'
  refine field_lt (one.trans two.symm) ?_
  rcases order with less | ⟨rfl,less⟩
  · exact Or.inl (zeroPadded_lt wide positive less short')
  · exact Or.inr ⟨rfl,less⟩

/-- The sign of the offset stands before the point of a fraction. -/
theorem fraction_lt (positive : 0 ≤ first) (less : first < later) (short : later < 10 ^ 6) (offset : List Char) :
    fraction first ++ '+'::offset < fraction later ++ '+'::offset := by
  have point : fraction later = '.'::(zeroPadded 6 later).toList := if_neg (by omega)
  rw [point,List.cons_append]
  by_cases whole : first = 0
  · have none : fraction first = [] := if_pos whole
    rw [none,List.nil_append,List.cons_lt_cons_iff]
    exact Or.inl (by decide)
  · have point' : fraction first = '.'::(zeroPadded 6 first).toList := if_neg whole
    rw [point',List.cons_append]
    refine mark_lt '.' (zeroPadded_field_lt (by decide) positive ?_ ?_ short (Or.inl less))
    · exact Int.le_trans positive (Int.le_of_lt less)
    · exact Int.lt_trans less short

end fields

section instants
variable {first later : Int}

/-- The clock of a later instant of one day: the first field that differs is the later one's that is greater. -/
private theorem clock_lt (sameDay : first / day = later / day) (less : first < later) :
    first % day / (60 * second) / 60 < later % day / (60 * second) / 60 ∨
      first % day / (60 * second) / 60 = later % day / (60 * second) / 60 ∧
        (first % day / (60 * second) % 60 < later % day / (60 * second) % 60 ∨
          first % day / (60 * second) % 60 = later % day / (60 * second) % 60 ∧
            (first % day / second % 60 < later % day / second % 60 ∨
              first % day / second % 60 = later % day / second % 60 ∧ first % second < later % second)) := by
  unfold day second at *
  omega

private theorem clock_bounds (instant : Int) :
    (0 ≤ instant % day / (60 * second) / 60 ∧ instant % day / (60 * second) / 60 < 10 ^ 2) ∧
      (0 ≤ instant % day / (60 * second) % 60 ∧ instant % day / (60 * second) % 60 < 10 ^ 2) ∧
      (0 ≤ instant % day / second % 60 ∧ instant % day / second % 60 < 10 ^ 2) ∧
      0 ≤ instant % second ∧ instant % second < 10 ^ 6 := by
  unfold day second
  omega

private theorem date_lt {clock : Prop} (dates : first < later ∨ first = later ∧ clock) :
    (civil first).1 < (civil later).1 ∨ (civil first).1 = (civil later).1 ∧
      ((civil first).2.1 < (civil later).2.1 ∨ (civil first).2.1 = (civil later).2.1 ∧
        ((civil first).2.2 < (civil later).2.2 ∨ (civil first).2.2 = (civil later).2.2 ∧ clock)) := by
  rcases dates with before | ⟨rfl,clock⟩
  · exact (civil_lt before).imp_right (And.imp_right (Or.imp_right (And.imp_right Or.inl)))
  · exact Or.inr ⟨rfl,Or.inr ⟨rfl,Or.inr ⟨rfl,clock⟩⟩⟩

/-- The first field that differs decides, and each field has one width. -/
theorem isoInstant_lt (named : 0 ≤ (civil (first / day)).1 ∧ (civil (first / day)).1 ≤ 9999)
    (named' : 0 ≤ (civil (later / day)).1 ∧ (civil (later / day)).1 ≤ 9999) (less : first < later) :
    (isoInstant first).toList < (isoInstant later).toList := by
  have offset : "+00:00".toList = '+'::"00:00".toList := by decide
  obtain ⟨month,month',dayOfMonth,dayOfMonth'⟩ := civil_bounds (first / day)
  obtain ⟨month₂,month₂',dayOfMonth₂,dayOfMonth₂'⟩ := civil_bounds (later / day)
  obtain ⟨hour,minute,seconds,micros⟩ := clock_bounds first
  obtain ⟨hour₂,minute₂,seconds₂,micros₂⟩ := clock_bounds later
  have dates : first / day < later / day ∨ first / day = later / day ∧ first < later := by
    unfold day second
    omega
  have order := date_lt (dates.imp_right (fun same => And.intro same.1 (clock_lt same.1 same.2)))
  rw [isoInstant_toList,isoInstant_toList,offset]
  refine zeroPadded_field_lt (by decide) named.1 named'.1 (by omega) (by omega)
    (order.imp_right (And.imp_right fun order => mark_lt '-' ?_))
  refine zeroPadded_field_lt (by decide) (by omega) (by omega) (by omega) (by omega)
    (order.imp_right (And.imp_right fun order => mark_lt '-' ?_))
  refine zeroPadded_field_lt (by decide) (by omega) (by omega) (by omega) (by omega)
    (order.imp_right (And.imp_right fun order => mark_lt 'T' ?_))
  refine zeroPadded_field_lt (by decide) hour.1 hour₂.1 hour.2 hour₂.2
    (order.imp_right (And.imp_right fun order => mark_lt ':' ?_))
  refine zeroPadded_field_lt (by decide) minute.1 minute₂.1 minute.2 minute₂.2
    (order.imp_right (And.imp_right fun order => mark_lt ':' ?_))
  rw [List.append_assoc,List.append_assoc]
  exact zeroPadded_field_lt (by decide) seconds.1 seconds₂.1 seconds.2 seconds₂.2
    (order.imp_right (And.imp_right fun less => fraction_lt micros.1 less micros₂.2 _))

theorem isoInstant_plain (named : 0 ≤ (civil (first / day)).1) : ∀ c ∈ (isoInstant first).toList, c.toNat < 128 := by
  have numeral {c : Char} (digit : c.isDigit = true) : c.toNat < 128 :=
    Nat.lt_of_le_of_lt (Char.isDigit_iff_toNat.mp digit).2 (by decide)
  have field {width : Nat} {value : Int} (positive : 0 ≤ value) :
      ∀ c ∈ (zeroPadded width value).toList, c.toNat < 128 :=
    fun c member => numeral (zeroPadded_digits positive c member)
  have offset : ∀ c ∈ "+00:00".toList, c.toNat < 128 := each_of_all (by decide)
  have micros : ∀ c ∈ fraction (first % second), c.toNat < 128 := by
    unfold fraction
    split
    · exact fun c member => nomatch member
    · refine List.forall_mem_cons.mpr ⟨by decide,field ?_⟩
      exact (clock_bounds first).2.2.2.1
  obtain ⟨month,_,dayOfMonth,_⟩ := civil_bounds (first / day)
  obtain ⟨hour,minute,seconds,_⟩ := clock_bounds first
  rw [isoInstant_toList]
  simp only [List.forall_mem_append,List.forall_mem_cons]
  refine ⟨field named,by decide,field (by omega),by decide,field (by omega),by decide,field hour.1,by decide,
    field minute.1,by decide,⟨field seconds.1,micros⟩,offset⟩

end instants

section values

/-- The instants that UTC can name are those of the years of a `datetime`. -/
theorem representable_iff (value : AwareDateTime) :
    representable value.instant = true ↔ 1 ≤ value.utcYear ∧ value.utcYear ≤ 9999 := by
  obtain ⟨before,after⟩ := civil_year_span (value.instant / day)
  have start : daysBefore 1 = 0 := rfl
  have ends : daysBefore 10000 = 3652059 := rfl
  unfold representable AwareDateTime.utcYear
  rw [Bool.and_eq_true,decide_eq_true_eq,decide_eq_true_eq]
  generalize (civil (value.instant / day)).1 = year at *
  have dates : (firstInstant ≤ value.instant ↔ 0 < value.instant / day + 719163) ∧
      (value.instant ≤ lastInstant ↔ value.instant / day + 719163 ≤ 3652059) := by
    unfold firstInstant lastInstant day second
    omega
  rw [dates.1,dates.2]
  constructor
  · rintro ⟨low,high⟩
    constructor
    · by_contra early
      have none := daysBefore_mono (by omega : year + 1 ≤ 1)
      omega
    · by_contra late
      have all := daysBefore_mono (by omega : 10000 ≤ year)
      omega
  · rintro ⟨low,high⟩
    have first := daysBefore_mono low
    have last := daysBefore_mono (by omega : year + 1 ≤ 10000)
    omega

/-- The stored texts, compared byte by byte, stand in the order of the instants. -/
theorem utcIso_order (first later : AwareDateTime) (one : 1 ≤ first.utcYear ∧ first.utcYear ≤ 9999)
    (two : 1 ≤ later.utcYear ∧ later.utcYear ≤ 9999) :
    ∃ text other, utcIso first = .ok text ∧ utcIso later = .ok other ∧
      (bytes text.toList < bytes other.toList ↔ first.instant < later.instant) ∧
      (bytes text.toList = bytes other.toList ↔ first.instant = later.instant) := by
  have ordered {first later : AwareDateTime} (one : 1 ≤ first.utcYear ∧ first.utcYear ≤ 9999)
      (two : 1 ≤ later.utcYear ∧ later.utcYear ≤ 9999) (less : first.instant < later.instant) :
      bytes (isoInstant first.instant).toList < bytes (isoInstant later.instant).toList := by
    have named : 0 ≤ first.utcYear ∧ first.utcYear ≤ 9999 := ⟨by omega,one.2⟩
    have named' : 0 ≤ later.utcYear ∧ later.utcYear ≤ 9999 := ⟨by omega,two.2⟩
    exact bytes_lt (isoInstant_plain named.1) (isoInstant_plain named'.1) (isoInstant_lt named named' less)
  refine ⟨isoInstant first.instant,isoInstant later.instant,if_pos ((representable_iff first).mpr one),
    if_pos ((representable_iff later).mpr two),?_⟩
  rcases lt_trichotomy first.instant later.instant with before | same | after
  · have less := ordered one two before
    exact ⟨iff_of_true less before,iff_of_false (ne_of_bytes_lt less) before.ne⟩
  · rw [same]
    exact ⟨iff_of_false (List.lt_irrefl _) (lt_irrefl _),iff_of_true rfl rfl⟩
  · have less := ordered two one after
    exact ⟨iff_of_false (List.lt_asymm less) after.asymm,
      iff_of_false (ne_of_bytes_lt less).symm after.ne'⟩

/-- The last microsecond of a second, in a zone east of UTC, and the whole second that follows it. -/
theorem utcIso_order_second : ∃ text other,
    utcIso ⟨1783767599999999,7200 * second,by decide,by decide⟩ = .ok text ∧
      utcIso ⟨1783760400000000,0,by decide,by decide⟩ = .ok other ∧ bytes text.toList < bytes other.toList := by
  obtain ⟨text,other,one,two,order,_⟩ := utcIso_order
    ⟨1783767599999999,7200 * second,by decide,by decide⟩ ⟨1783760400000000,0,by decide,by decide⟩ (by decide) (by decide)
  exact ⟨text,other,one,two,order.mpr (by decide)⟩

end values
end Proactive.Situations
