import Mathlib.Data.List.DropRight
import Mathlib.Data.List.TakeWhile

/-! Lists without what a predicate holds of at their two ends. -/
namespace Proactive.Library
variable {α β : Type} (p : α → Bool)

def trim (list : List α) : List α := (list.dropWhile p).rdropWhile p

theorem trim_split (list : List α) :
    ∃ lead trail, list = lead ++ (trim p list ++ trail) ∧ (∀ x ∈ lead, p x = true) ∧ ∀ x ∈ trail, p x = true := by
  refine ⟨list.takeWhile p,(list.dropWhile p).rtakeWhile p,?_,fun _ => List.mem_takeWhile_imp,fun _ => List.mem_rtakeWhile_imp⟩
  unfold trim
  rw [List.rdropWhile_append_rtakeWhile,List.takeWhile_append_dropWhile]

theorem trim_head {list rest : List α} {x : α} (trimmed : trim p list = x::rest) : p x = false := by
  obtain ⟨more,shape⟩ := List.rdropWhile_prefix p (l := list.dropWhile p)
  unfold trim at trimmed
  rw [trimmed,List.cons_append] at shape
  have kept := List.head_dropWhile_not p (l := list) (by rw [← shape]; exact List.cons_ne_nil _ _)
  simpa only [← shape,List.head_cons] using kept

theorem trim_last {list rest : List α} {x : α} (trimmed : trim p list = rest ++ [x]) : p x = false := by
  unfold trim at trimmed
  have kept := List.rdropWhile_last_not p (list.dropWhile p) (by rw [trimmed]; simp)
  simpa only [trimmed,List.getLast_append_singleton,Bool.not_eq_true] using kept

/-- What satisfies `q` is all trimmed away when each such entry satisfies `p` and stands before or
after nothing but entries that do. -/
theorem trim_free_iff (q : α → Prop) (list : List α) :
    (∀ x ∈ trim p list, ¬q x) ↔ ∀ front x back, list = front ++ x::back → q x →
      p x = true ∧ ((∀ y ∈ front, p y = true) ∨ ∀ y ∈ back, p y = true) := by
  obtain ⟨lead,trail,shape,leading,trailing⟩ := trim_split p list
  constructor
  · intro free front x back split own
    have later (between : List α) (rest : trim p list ++ trail = between ++ x::back) :
        p x = true ∧ ∀ y ∈ back, p y = true := by
      have inside (member : x::back ⊆ trail) : p x = true ∧ ∀ y ∈ back, p y = true :=
        ⟨trailing x (member List.mem_cons_self),fun y other => trailing y (member (List.mem_cons_of_mem _ other))⟩
      rcases List.append_eq_append_iff.mp rest with ⟨more,_,last⟩ | ⟨more,kept,last⟩
      · exact inside (last ▸ List.subset_append_right _ _)
      · cases more with
        | nil => exact inside (last ▸ fun _ member => member)
        | cons y more =>
          obtain ⟨rfl,_⟩ := List.cons.inj last
          exact absurd own (free x (by rw [kept]; simp))
    rcases List.append_eq_append_iff.mp (split.symm.trans shape) with ⟨more,leads,rest⟩ | ⟨more,_,rest⟩
    · cases more with
      | nil =>
        obtain ⟨fine,tail⟩ := later [] rest.symm
        exact ⟨fine,Or.inr tail⟩
      | cons y more =>
        obtain ⟨rfl,_⟩ := List.cons.inj rest
        refine ⟨leading x (by rw [leads]; simp),Or.inl (fun y member => leading y ?_)⟩
        rw [leads]
        exact List.mem_append_left _ member
    · obtain ⟨fine,tail⟩ := later more rest
      exact ⟨fine,Or.inr tail⟩
  · intro trimmed x member own
    obtain ⟨first,last,kept⟩ := List.append_of_mem member
    have placed := trimmed (lead ++ first) x (last ++ trail) (by
      rw [List.append_assoc,← List.cons_append,← List.append_assoc first,← kept]
      exact shape) own
    obtain ⟨fine,all | all⟩ := placed
    · cases first with
      | nil => exact absurd fine (by rw [trim_head p kept]; exact Bool.false_ne_true)
      | cons y first =>
        have early := all y (List.mem_append_right _ List.mem_cons_self)
        rw [trim_head p kept] at early
        cases early
    · rcases List.eq_nil_or_concat last with rfl | ⟨middle,z,rfl⟩
      · rw [trim_last p kept] at fine
        cases fine
      · have late := all z (by simp)
        rw [trim_last p (kept.trans (by rw [List.concat_eq_append,← List.cons_append,← List.append_assoc]))] at late
        cases late

/-- The same of a list in which entries were put that satisfy `p` and not `q`. -/
theorem trim_free_filter_iff (q : α → Prop) (keep : α → Bool) (list : List α)
    (put : ∀ x ∈ list, keep x = false → p x = true ∧ ¬q x) :
    (∀ x ∈ trim p list, ¬q x) ↔ ∀ front x back, list.filter keep = front ++ x::back → q x →
      p x = true ∧ ((∀ y ∈ front, p y = true) ∨ ∀ y ∈ back, p y = true) := by
  rw [trim_free_iff]
  constructor
  · intro trimmed front x back split own
    obtain ⟨first,rest,shape,rfl,later⟩ := List.filter_eq_append_iff.mp split
    obtain ⟨between,last,rfl,_,_,rfl⟩ := List.filter_eq_cons_iff.mp later
    obtain ⟨fine,all | all⟩ := trimmed (first ++ between) x last (by rw [shape,List.append_assoc]) own
    · exact ⟨fine,Or.inl (fun y member => all y (List.mem_append_left _ (List.mem_of_mem_filter member)))⟩
    · exact ⟨fine,Or.inr (fun y member => all y (List.mem_of_mem_filter member))⟩
  · intro trimmed front x back split own
    have kept : keep x = true := by
      by_contra other
      exact (put x (by rw [split]; simp) (by simpa using other)).2 own
    have spread (part : List α) (inside : ∀ y ∈ part, y ∈ list) (all : ∀ y ∈ part.filter keep, p y = true) :
        ∀ y ∈ part, p y = true := by
      intro y member
      cases held : keep y with
      | true => exact all y (List.mem_filter.mpr ⟨member,held⟩)
      | false => exact (put y (inside y member) held).1
    obtain ⟨fine,all | all⟩ := trimmed (front.filter keep) x (back.filter keep) (by
      rw [split,List.filter_append,List.filter_cons_of_pos kept]) own
    · exact ⟨fine,Or.inl (spread front (fun y member => by rw [split]; exact List.mem_append_left _ member) all)⟩
    · refine ⟨fine,Or.inr (spread back (fun y member => ?_) all)⟩
      rw [split]
      exact List.mem_append_right _ (List.mem_cons_of_mem _ member)

/-- Entries that satisfy the predicate, around a list, add nothing to what is left of it. -/
theorem trim_pad {lead middle trail : List α} (leading : ∀ x ∈ lead, p x = true) (trailing : ∀ x ∈ trail, p x = true) :
    trim p (lead ++ (middle ++ trail)) = trim p middle := by
  have rear (list : List α) : (list ++ trail).rdropWhile p = list.rdropWhile p := by
    unfold List.rdropWhile
    rw [List.reverse_append,List.dropWhile_append_of_pos (fun x member => trailing x (List.mem_reverse.mp member))]
  unfold trim
  rw [List.dropWhile_append_of_pos leading,List.dropWhile_append]
  split
  · rename_i empty
    rw [List.isEmpty_iff.mp empty,List.dropWhile_eq_nil_iff.mpr trailing]
  · exact rear _

/-- A list that begins and ends with entries that fail the predicate is left alone. -/
theorem trim_bounded {first last : α} (middle : List α) (one : p first = false) (two : p last = false) :
    trim p (first::(middle ++ [last])) = first::(middle ++ [last]) := by
  have ends : first::(middle ++ [last]) = (first::middle) ++ [last] := rfl
  unfold trim
  rw [List.dropWhile_cons_of_neg (Bool.eq_false_iff.mp one),ends,
    List.rdropWhile_concat_neg p _ _ (Bool.eq_false_iff.mp two)]

theorem trim_free {list : List α} (free : ∀ x ∈ list, p x = false) : trim p list = list := by
  obtain ⟨lead,trail,shape,leading,trailing⟩ := trim_split p list
  have none {part : List α} (inside : part ⊆ list) (all : ∀ x ∈ part, p x = true) : part = [] := by
    cases part with
    | nil => rfl
    | cons x rest =>
      have held := all x List.mem_cons_self
      rw [free x (inside List.mem_cons_self)] at held
      cases held
  have leadless := none (fun x member => by rw [shape]; simp [member]) leading
  have trailless := none (fun x member => by rw [shape]; simp [member]) trailing
  rw [leadless,trailless,List.nil_append,List.append_nil] at shape
  exact shape.symm

theorem trim_sublist (list : List α) : (trim p list).Sublist list :=
  (List.rdropWhile_prefix p _).sublist.trans (List.dropWhile_sublist p)

/-- Trimming keeps whatever fails the predicate. -/
theorem trim_countP (list : List α) : (trim p list).countP (fun x => !p x) = list.countP (fun x => !p x) := by
  obtain ⟨lead,trail,shape,leading,trailing⟩ := trim_split p list
  have none {part : List α} (all : ∀ x ∈ part, p x = true) : part.countP (fun x => !p x) = 0 := by
    rw [List.countP_eq_zero]
    intro x member
    simp [all x member]
  conv_rhs => rw [shape,List.countP_append,List.countP_append,none leading,none trailing,Nat.zero_add,Nat.add_zero]

theorem trim_map (p : β → Bool) (view : α → β) (list : List α) :
    trim p (list.map view) = (trim (fun x => p (view x)) list).map view := by
  unfold trim List.rdropWhile
  rw [List.dropWhile_map,← List.map_reverse,List.dropWhile_map,List.map_reverse]
  rfl

end Proactive.Library
