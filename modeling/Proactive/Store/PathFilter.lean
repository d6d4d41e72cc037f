import Mathlib.Data.List.Forall2
import Proactive.Library.Separated
import Proactive.Store.MemoryIdentity
import Proactive.Store.MemoryQueries

/-! The path filter of recall and of the entity listing: what it accepts, against a test that the
segments of the filter begin the path. -/
namespace Proactive.Store
open Proactive.Library

/-- The segments of a filter begin the path, each under one rule. -/
def SegmentPrefix (rule : String → String → Prop) (start path : String) : Prop :=
  List.Forall₂ rule (MemoryNormalizers.segments start)
    ((MemoryNormalizers.segments path).take (MemoryNormalizers.segments start).length)

/-- Equal but for the case of ASCII letters. -/
def SameLetters (first second : String) : Prop :=
  first.toList.map Char.toLower = second.toList.map Char.toLower

/-- A child path, up to the case of letters. -/
def ChildByLetters (start path : String) : Prop :=
  ∃ front back, path.toList = front ++ '/' :: back ∧ front.map Char.toLower = start.toList.map Char.toLower

def ExtendsInCaseOnly (start path : String) : Prop :=
  ChildByLetters start path ∧ ¬ SegmentPrefix (· = ·) start path

def EqualInCaseOnly (start path : String) : Prop := SameLetters start path ∧ path ≠ start

theorem escapeLike_escaped (query : String) : (escapeLike query).toList = Like.escaped '\\' query.toList := by
  unfold escapeLike replaceCharacter Like.escaped
  rw [String.toList_ofList,List.flatMap_assoc,List.flatMap_assoc]
  congr 1
  funext character
  by_cases escape : character = '\\'
  · subst escape
    rfl
  · by_cases any : character = '%'
    · subst any
      rfl
    · by_cases one : character = '_'
      · subst one
        rfl
      · simp only [escape,any,one,if_false,List.flatMap_cons,List.flatMap_nil,List.append_nil,or_self]

theorem toLower_slash (character : Char) : character.toLower = '/' ↔ character = '/' := by
  unfold Char.toLower
  split
  · rename_i upper
    constructor
    · intro same
      -- A lower case letter lies past the separator.
      have value : character.val + ('a'.val - 'A'.val) = '/'.val := congrArg Char.val same
      have low : 'A'.val.toNat ≤ character.val.toNat := UInt32.le_iff_toNat_le.mp upper.1
      have high : character.val.toNat ≤ 'Z'.val.toNat := UInt32.le_iff_toNat_le.mp upper.2
      have number := congrArg UInt32.toNat value
      rw [UInt32.toNat_add] at number
      change 65 ≤ character.val.toNat at low
      change character.val.toNat ≤ 90 at high
      change (character.val.toNat + 32) % 4294967296 = 47 at number
      omega
    · rintro rfl
      exact absurd upper (by decide)
  · exact Iff.rfl

/-- Recall is a literal search: the text is contained, up to the case of letters. -/
theorem likeText_contains (query text : String) :
    likeText ("%" ++ escapeLike query ++ "%") text = true ↔
      ∃ front middle back, text.toList = front ++ middle ++ back ∧
        middle.map Char.toLower = query.toList.map Char.toLower := by
  unfold likeText
  rw [String.toList_append,String.toList_append,escapeLike_escaped]
  exact Like.like_contains Char.toLower '\\' (by decide) query.toList text.toList

theorem likeText_child (start path : String) :
    likeText (escapeLike start ++ "/%") path = true ↔ ChildByLetters start path := by
  have pattern : (escapeLike start ++ "/%").toList = Like.escaped '\\' (start.toList ++ ['/']) ++ ['%'] := by
    rw [String.toList_append,escapeLike_escaped]
    unfold Like.escaped
    rw [List.flatMap_append,List.append_assoc]
    rfl
  unfold likeText ChildByLetters
  rw [pattern,Like.like_extends Char.toLower '\\' (by decide),List.map_append]
  constructor
  · rintro ⟨front,back,whole,same⟩
    obtain ⟨inner,last,rfl,lower,slash⟩ := List.map_eq_append_iff.mp same
    obtain ⟨mark,rfl,marked⟩ := List.map_eq_singleton_iff.mp slash
    have named : mark = '/' := (toLower_slash mark).mp marked
    refine ⟨inner,back,?_,lower⟩
    rw [whole,named,List.append_assoc]
    rfl
  · rintro ⟨front,back,whole,same⟩
    refine ⟨front ++ ['/'],back,?_,?_⟩
    · rw [whole,List.append_assoc]
      rfl
    · rw [List.map_append,same]

theorem segmentPrefix_exact (start path : String) :
    SegmentPrefix (· = ·) start path ↔ path = start ∨ ∃ back, path.toList = start.toList ++ '/' :: back := by
  unfold SegmentPrefix MemoryNormalizers.segments
  rw [List.forall₂_eq_eq_eq,List.length_map,← List.map_take,
    (List.map_injective_iff.mpr (fun _ _ => String.ofList_injective)).eq_iff,
    Separated.splitOn_take_iff,String.toList_inj]

theorem segmentPrefix_letters (start path : String) :
    SegmentPrefix SameLetters start path ↔ SameLetters start path ∨ ChildByLetters start path := by
  have lowered (text : String) : (text.toList.map Char.toLower).splitOn '/' =
      (text.toList.splitOn '/').map (List.map Char.toLower) := Separated.splitOn_map toLower_slash text.toList
  have parts : SegmentPrefix SameLetters start path ↔
      (start.toList.map Char.toLower).splitOn '/' = ((path.toList.map Char.toLower).splitOn '/').take
        ((start.toList.map Char.toLower).splitOn '/').length := by
    unfold SegmentPrefix MemoryNormalizers.segments SameLetters
    rw [lowered,lowered,List.length_map,List.length_map,← List.map_take,← List.map_take,List.forall₂_map_left_iff,
      List.forall₂_map_right_iff]
    simp only [String.toList_ofList]
    generalize (path.toList.splitOn '/').take _ = taken
    have alike : List.Forall₂ (· = ·) = (Eq : List (List Char) → List (List Char) → Prop) := List.forall₂_eq_eq_eq
    rw [← alike,List.forall₂_map_left_iff,List.forall₂_map_right_iff]
  rw [parts,Separated.splitOn_take_iff]
  constructor
  · rintro (same | ⟨back,same⟩)
    · exact Or.inl same.symm
    · obtain ⟨front,rest,whole,lower,marked⟩ := List.map_eq_append_iff.mp same
      obtain ⟨mark,tail,rfl,slash,_⟩ := List.map_eq_cons_iff.mp marked
      rw [(toLower_slash mark).mp slash] at whole
      exact Or.inr ⟨front,tail,whole,lower⟩
  · rintro (same | ⟨front,back,whole,lower⟩)
    · exact Or.inl same.symm
    · refine Or.inr ⟨back.map Char.toLower,?_⟩
      rw [whole,List.map_append,lower]
      rfl

section Filter
variable {normalizers : MemoryNormalizers} {raw : String} {filter : PrefixFilter}

theorem prefixFilter_some (accepted : prefixFilter normalizers (some raw) = .ok filter) :
    ∃ start, normalizers.normalizePath raw = .ok start ∧
      filter = ⟨some start,some (escapeLike start ++ "/%")⟩ := by
  unfold prefixFilter at accepted
  cases normalized : normalizers.normalizePath raw with
  | error refusal =>
    rw [Option.mapM_some,normalized] at accepted
    cases accepted
  | ok start =>
    rw [Option.mapM_some,normalized] at accepted
    exact ⟨start,rfl,(Except.ok.inj accepted).symm⟩

/-- `=` tells letters apart by case, `LIKE` does not. -/
theorem accepts_iff (start path : String) :
    (PrefixFilter.mk (some start) (some (escapeLike start ++ "/%"))).accepts (some path) = true ↔
      path = start ∨ ChildByLetters start path := by
  unfold PrefixFilter.accepts
  rw [← likeText_child]
  simp

theorem child_letters_longer {start path : String} (child : ChildByLetters start path) : ¬ SameLetters start path := by
  intro same
  obtain ⟨front,back,whole,lower⟩ := child
  have lengths := congrArg List.length same
  have inner := congrArg List.length lower
  rw [List.length_map,List.length_map,whole,List.length_append,List.length_cons] at lengths
  rw [List.length_map,List.length_map] at inner
  omega

theorem exact_child_letters {start path : String} (whole : SegmentPrefix (· = ·) start path) :
    path = start ∨ ChildByLetters start path := by
  rcases (segmentPrefix_exact start path).mp whole with same | ⟨back,longer⟩
  · exact Or.inl same
  · exact Or.inr ⟨start.toList,back,longer,rfl⟩

theorem agrees_exact (start path : String) :
    ((path = start ∨ ChildByLetters start path) ↔ SegmentPrefix (· = ·) start path) ↔
      ¬ ExtendsInCaseOnly start path := by
  constructor
  · exact fun agrees extended => extended.2 (agrees.mp (Or.inr extended.1))
  · intro cased
    refine ⟨fun accepted => ?_,exact_child_letters⟩
    rcases accepted with same | child
    · exact (segmentPrefix_exact start path).mpr (Or.inl same)
    · exact not_not.mp (fun apart => cased ⟨child,apart⟩)

theorem agrees_letters (start path : String) :
    ((path = start ∨ ChildByLetters start path) ↔ SegmentPrefix SameLetters start path) ↔
      ¬ EqualInCaseOnly start path := by
  rw [segmentPrefix_letters]
  constructor
  · intro agrees equal
    rcases agrees.mpr (Or.inl equal.1) with same | child
    · exact equal.2 same
    · exact child_letters_longer child equal.1
  · intro cased
    constructor
    · rintro (rfl | child)
      · exact Or.inl rfl
      · exact Or.inr child
    · rintro (same | child)
      · exact Or.inl (not_not.mp (fun apart => cased ⟨same,apart⟩))
      · exact Or.inr child

end Filter

/-- What recall and the listing return passes the filter. -/
theorem recall_filtered {tables : MemoryTables} {query : String} {kind : Option MemoryKind}
    {entityKind : Option EntityKind} {pathPrefix : Option String} {limit : Int} {items : List MemoryItem}
    (recalled : recallItems normalizers tables query kind entityKind pathPrefix limit = .ok items) :
    ∃ filter, prefixFilter normalizers pathPrefix = .ok filter ∧
      ∀ item ∈ items, filter.accepts item.entityPath = true := by
  unfold recallItems at recalled
  obtain ⟨_,_,rest⟩ := (Outcome.bind_ok_iff _ _ _).mp recalled
  obtain ⟨filter,accepted,page⟩ := (Outcome.bind_ok_iff _ _ _).mp rest
  refine ⟨filter,accepted,fun item listed => ?_⟩
  rw [← Except.ok.inj page] at listed
  obtain ⟨row,taken,rfl⟩ := List.mem_map.mp listed
  have selected := (List.mem_filter.mp ((List.mem_insertionSort _).mp (List.mem_of_mem_take taken))).2
  unfold MemoryTables.recalled at selected
  simp only [Bool.and_eq_true] at selected
  exact selected.2

theorem listEntities_filtered {entities page : List Entity} {kind : Option EntityKind}
    {pathPrefix : Option String} {afterId limit : Int}
    (listed : listEntities normalizers entities kind pathPrefix afterId limit = .ok page) :
    ∃ filter, prefixFilter normalizers pathPrefix = .ok filter ∧
      ∀ entity ∈ page, filter.accepts entity.path = true := by
  unfold listEntities at listed
  obtain ⟨_,_,rest⟩ := (Outcome.bind_ok_iff _ _ _).mp listed
  obtain ⟨filter,accepted,found⟩ := (Outcome.bind_ok_iff _ _ _).mp rest
  refine ⟨filter,accepted,fun entity member => ?_⟩
  rw [← Except.ok.inj found] at member
  have selected := (List.mem_filter.mp ((List.mem_insertionSort _).mp (List.mem_of_mem_take member))).2
  unfold Entity.selected at selected
  simp only [Bool.and_eq_true] at selected
  exact selected.1.2

/-- Each case rule is kept but for one kind of path, and one rule is kept for a set of paths unless
paths of both kinds are in it. -/
theorem path_filter_rules (normalizers : MemoryNormalizers) (raw : String) (filter : PrefixFilter)
    (accepted : prefixFilter normalizers (some raw) = .ok filter) :
    ∃ start, normalizers.normalizePath raw = .ok start ∧ filter.normalizedPrefix = some start ∧
      (∀ path,
        ((filter.accepts (some path) = true ↔ SegmentPrefix (· = ·) start path) ↔ ¬ ExtendsInCaseOnly start path) ∧
        ((filter.accepts (some path) = true ↔ SegmentPrefix SameLetters start path) ↔ ¬ EqualInCaseOnly start path)) ∧
      ∀ paths : List String,
        ((∀ path ∈ paths, filter.accepts (some path) = true ↔ SegmentPrefix (· = ·) start path) ∨
          ∀ path ∈ paths, filter.accepts (some path) = true ↔ SegmentPrefix SameLetters start path) ↔
        ¬ ((∃ path ∈ paths, ExtendsInCaseOnly start path) ∧ ∃ path ∈ paths, EqualInCaseOnly start path) := by
  obtain ⟨start,normalized,rfl⟩ := prefixFilter_some accepted
  refine ⟨start,normalized,rfl,fun path => ?_,fun paths => ?_⟩
  · rw [accepts_iff]
    exact ⟨agrees_exact start path,agrees_letters start path⟩
  · simp only [accepts_iff,agrees_exact,agrees_letters]
    rw [not_and_or,not_exists,not_exists]
    simp only [not_and]

theorem path_filter_rules_literal :
    ∃ filter, prefixFilter asciiNormalizers (some "50%_a") = .ok filter ∧
      ((filter.accepts (some "50%_a/b") = true ↔ SegmentPrefix (· = ·) "50%_a" "50%_a/b") ↔
        ¬ ExtendsInCaseOnly "50%_a" "50%_a/b") := by
  have read : prefixFilter asciiNormalizers (some "50%_a") = .ok ⟨some "50%_a",some (escapeLike "50%_a" ++ "/%")⟩ := by
    decide +kernel
  obtain ⟨start,_,named,rules,_⟩ := path_filter_rules asciiNormalizers "50%_a" _ read
  have same : "50%_a" = start := Option.some.inj named
  subst same
  exact ⟨_,read,(rules "50%_a/b").1⟩

def workEntity (id : Nat) (path : String) : Entity := ⟨id,.activity,some path,path,.active,0,0⟩

/-- No rule at all relates the segments: the filter "work" lists "Work/Plans" and leaves out "Work". -/
theorem path_filter_no_rule :
    listEntities asciiNormalizers [workEntity 1 "Work",workEntity 2 "Work/Plans"] none (some "work") 0 20 =
        .ok [workEntity 2 "Work/Plans"] ∧
      ¬ ∃ rule : String → String → Prop, ∀ raw stored start path filter,
        asciiNormalizers.normalizePath stored = .ok path → asciiNormalizers.normalizePath raw = .ok start →
        prefixFilter asciiNormalizers (some raw) = .ok filter →
        (filter.accepts (some path) = true ↔ SegmentPrefix rule start path) := by
  refine ⟨by decide +kernel,fun ⟨rule,agrees⟩ => ?_⟩
  have read : prefixFilter asciiNormalizers (some "work") = .ok ⟨some "work",some (escapeLike "work" ++ "/%")⟩ := by
    decide +kernel
  have child := agrees "work" "Work/Plans" "work" "Work/Plans" _ (by decide +kernel) (by decide +kernel) read
  have whole := agrees "work" "Work" "work" "Work" _ (by decide +kernel) (by decide +kernel) read
  have inner : (PrefixFilter.mk (some "work") (some (escapeLike "work" ++ "/%"))).accepts (some "Work/Plans") =
      true := by decide +kernel
  have outer : (PrefixFilter.mk (some "work") (some (escapeLike "work" ++ "/%"))).accepts (some "Work") =
      false := by decide +kernel
  have alike : (MemoryNormalizers.segments "Work/Plans").take (MemoryNormalizers.segments "work").length =
      (MemoryNormalizers.segments "Work").take (MemoryNormalizers.segments "work").length := by decide +kernel
  unfold SegmentPrefix at child whole
  rw [inner,alike] at child
  rw [outer] at whole
  exact Bool.false_ne_true (whole.mpr (child.mp rfl))

end Proactive.Store
