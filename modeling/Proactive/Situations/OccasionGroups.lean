import Proactive.Library.Separated
import Proactive.Situations.OccasionDates

/-! One detection for each group of dated memories: which row supplies it, what it says of the
others, and when a group has none. -/
namespace Proactive.Situations
open Proactive.Library Proactive.Store DeadlineText

/-- The offsets of a `tzinfo` are strictly within a day. -/
structure TimeZone.Bounded (zone : TimeZone) : Prop where
  offsetAt : ∀ instant, -day < zone.offsetAt instant ∧ zone.offsetAt instant < day
  offsetOf : ∀ wall, -day < zone.offsetOf wall ∧ zone.offsetOf wall < day

section groups
variable (characters : Characters) (normalizers : MemoryNormalizers) (items : List DatedMemory) (today leadDays : Int)

/-- The rows of one key that still have a next occurrence. -/
def rowsOf (key : OccasionKey) : List Occurrence :=
  Grouping.membersOf (fun row => groupKey normalizers row.item) (occurrences characters items today) key

/-- The next occurrence lies within the row's own lead window. -/
def InWindow (row : Occurrence) : Prop := row.occurrence - today ≤ row.item.leadDays.getD leadDays

/-- The earliest row within its window, the one of the least id among these. -/
structure Triggers (rows : List Occurrence) (trigger : Occurrence) : Prop where
  member : trigger ∈ rows
  inWindow : InWindow today leadDays trigger
  earliest : ∀ row ∈ rows, InWindow today leadDays row →
    trigger.occurrence < row.occurrence ∨ trigger.occurrence = row.occurrence ∧ trigger.item.id ≤ row.item.id

/-- Two rows record different anchors. -/
def Contradictory (rows : List Occurrence) : Prop :=
  ∃ first ∈ rows, ∃ second ∈ rows, first.item.dateAnchor ≠ second.item.dateAnchor

/-- What the detection of a group says. -/
structure Announces (zone : TimeZone) (rows : List Occurrence) (detection : Detection) : Prop where
  trigger : ∃ trigger, Triggers today leadDays rows trigger ∧
    detection.dedupeKey = occasionDedupeKey trigger.item (yearOf trigger.occurrence) ∧
    detection.evidence.fact "selected_memory_id" = some (toString trigger.item.id) ∧
    detection.evidence.fact "occurrence" = some (isoDate trigger.occurrence) ∧
    detection.expiresAt = some (zone.localDayEnd trigger.occurrence)
  contradictory : ∀ anchor, anchor ∈ detection.evidence.contradictoryDates ↔
    Contradictory rows ∧ ∃ row ∈ rows, row.item.dateAnchor = some anchor
  distinct : detection.evidence.contradictoryDates.Nodup

end groups

section trigger
variable {today leadDays : Int} {rows : List Occurrence} {trigger : Occurrence}

theorem due_iff (row : Occurrence) : due today leadDays row = true ↔ InWindow today leadDays row := decide_eq_true_iff

/-- At most, in the order of the rows' keys. -/
def AtMost (first second : Occurrence) : Prop :=
  first.occurrence < second.occurrence ∨ first.occurrence = second.occurrence ∧ first.item.id ≤ second.item.id

theorem AtMost.trans {first second third : Occurrence} (one : AtMost first second) (two : AtMost second third) :
    AtMost first third := by
  unfold AtMost at *
  omega

theorem comesBefore_iff (row other : Occurrence) : comesBefore row other = true ↔ ¬AtMost other row := by
  unfold comesBefore AtMost
  simp only [Bool.or_eq_true,Bool.and_eq_true,decide_eq_true_eq,beq_iff_eq]
  omega

private theorem earliest_fold (rows : List Occurrence) (first : Occurrence) :
    let best := rows.foldl (fun best row => if comesBefore row best then row else best) first
    best ∈ first::rows ∧ ∀ row ∈ first::rows, AtMost best row := by
  induction rows generalizing first with
  | nil =>
    refine ⟨List.mem_singleton_self first,fun row member => ?_⟩
    rw [List.mem_singleton.mp member]
    exact Or.inr ⟨rfl,Nat.le_refl _⟩
  | cons second rest ih =>
    rw [List.foldl_cons]
    by_cases before : comesBefore second first = true
    · obtain ⟨member,least⟩ := ih second
      have later : AtMost second first := by
        rw [comesBefore_iff] at before
        unfold AtMost at *
        omega
      rw [if_pos before]
      refine ⟨List.mem_cons_of_mem first member,fun row listed => ?_⟩
      rcases List.mem_cons.mp listed with rfl | inner
      · exact (least second List.mem_cons_self).trans later
      · exact least row inner
    · obtain ⟨member,least⟩ := ih first
      have later : AtMost first second := not_not.mp (fun early => before ((comesBefore_iff second first).mpr early))
      rw [if_neg before]
      refine ⟨?_,fun row listed => ?_⟩
      · rcases List.mem_cons.mp member with same | inner
        · rw [same]
          exact List.mem_cons_self
        · exact List.mem_cons_of_mem first (List.mem_cons_of_mem second inner)
      · rcases List.mem_cons.mp listed with rfl | inner
        · exact least row List.mem_cons_self
        · rcases List.mem_cons.mp inner with rfl | inner
          · exact (least first List.mem_cons_self).trans later
          · exact least row (List.mem_cons_of_mem first inner)

theorem triggerOf_triggers (found : triggerOf rows today leadDays = some trigger) :
    Triggers today leadDays rows trigger := by
  unfold triggerOf at found
  cases window : rows.filter (due today leadDays) with
  | nil =>
    rw [window] at found
    cases found
  | cons first rest =>
    rw [window] at found
    obtain ⟨picked,least⟩ := earliest_fold rest first
    rw [Option.some.inj found,← window] at picked
    rw [Option.some.inj found,← window] at least
    obtain ⟨member,inWindow⟩ := List.mem_filter.mp picked
    refine ⟨member,(due_iff trigger).mp inWindow,?_⟩
    intro row other within
    exact least row (List.mem_filter.mpr ⟨other,(due_iff row).mpr within⟩)

theorem triggerOf_none_iff : triggerOf rows today leadDays = none ↔ ∀ row ∈ rows, ¬InWindow today leadDays row := by
  have empty : triggerOf rows today leadDays = none ↔ rows.filter (due today leadDays) = [] := by
    unfold triggerOf
    cases rows.filter (due today leadDays) with
    | nil => exact iff_of_true rfl rfl
    | cons first rest =>
      constructor
      · intro absent
        cases absent
      · intro absent
        cases absent
  rw [empty,List.filter_eq_nil_iff]
  constructor
  · intro undue row member within
    exact undue row member ((due_iff row).mpr within)
  · intro outside row member within
    exact outside row member ((due_iff row).mp within)

theorem mem_recordedAnchors (anchor : String) :
    anchor ∈ recordedAnchors rows ↔ ∃ row ∈ rows, row.item.dateAnchor = some anchor := by
  unfold recordedAnchors
  rw [List.mem_mergeSort,List.mem_eraseDups,List.mem_filterMap]

theorem recordedAnchors_nodup : (recordedAnchors rows).Nodup := by
  unfold recordedAnchors
  exact (List.mergeSort_perm _ _).nodup_iff.mpr (Grouping.nodup_eraseDups _)

/-- More than one anchor is recorded when two rows differ, for each row has an anchor. -/
theorem recordedAnchors_contradictory_iff (anchored : ∀ row ∈ rows, ∃ anchor, row.item.dateAnchor = some anchor) :
    1 < (recordedAnchors rows).length ↔ Contradictory rows := by
  have distinct : (recordedAnchors rows).Nodup := recordedAnchors_nodup
  have listed := @mem_recordedAnchors rows
  constructor
  · intro several
    cases anchors : recordedAnchors rows with
    | nil =>
      rw [anchors] at several
      cases several
    | cons one others =>
      cases others with
      | nil =>
        rw [anchors] at several
        exact absurd several (Nat.lt_irrefl 1)
      | cons two rest =>
        rw [anchors] at distinct listed
        obtain ⟨first,member,named⟩ := (listed one).mp List.mem_cons_self
        obtain ⟨second,other,named'⟩ := (listed two).mp (List.mem_cons_of_mem one List.mem_cons_self)
        refine ⟨first,member,second,other,fun same => ?_⟩
        rw [named,named',Option.some.injEq] at same
        exact (List.nodup_cons.mp distinct).1 (same ▸ List.mem_cons_self)
  · intro ⟨first,member,second,other,differ⟩
    obtain ⟨one,named⟩ := anchored first member
    obtain ⟨two,named'⟩ := anchored second other
    have early : one ∈ recordedAnchors rows := (listed one).mpr ⟨first,member,named⟩
    have late : two ∈ recordedAnchors rows := (listed two).mpr ⟨second,other,named'⟩
    by_contra few
    apply differ
    rw [named,named']
    congr 1
    cases anchors : recordedAnchors rows with
    | nil =>
      rw [anchors] at early
      cases early
    | cons only others =>
      rw [anchors] at early late few
      rw [List.length_cons,Nat.not_lt,Nat.succ_le_succ_iff,Nat.le_zero,List.length_eq_zero_iff] at few
      rw [few,List.mem_singleton] at early late
      exact early.trans late.symm

end trigger

section detection
variable {characters : Characters} {normalizers : MemoryNormalizers} {items : List DatedMemory}
  {today leadDays : Int} {zone : TimeZone} {rows : List Occurrence} {trigger row : Occurrence}

/-- A local day begins at an instant that UTC can name, but for a day beyond the last year. -/
theorem checkedLocalDayEnd_eq (bounded : zone.Bounded) {date : Int} (first : firstDate ≤ date)
    (last : date ≤ lastDate) :
    checkedLocalDayEnd zone date =
      if date = lastDate then .error .overflowError else .ok (zone.localDayEnd date) := by
  obtain ⟨low,high⟩ := bounded.offsetOf ((date + 1) * day)
  unfold checkedLocalDayEnd checkedDate
  unfold firstDate at first ⊢
  unfold lastDate at last ⊢
  by_cases final : date = 2932896
  · rw [if_pos final,if_neg (by omega)]
    rfl
  · rw [if_neg final,if_pos (by omega)]
    change zone.checkedLocalDayStart (date + 1) = _
    unfold TimeZone.checkedLocalDayStart TimeZone.localDayEnd
    apply if_pos
    unfold representable TimeZone.localDayStart firstInstant lastInstant
    unfold day second at low high ⊢
    rw [Bool.and_eq_true,decide_eq_true_eq,decide_eq_true_eq]
    omega

theorem mem_occurrences : row ∈ occurrences characters items today ↔
    row.item ∈ items ∧ nextOccurrence characters row.item today = .ok (some row.occurrence) := by
  unfold occurrences
  rw [List.mem_filterMap]
  constructor
  · rintro ⟨item,member,kept⟩
    cases next : nextOccurrence characters item today with
    | error failure =>
      rw [next] at kept
      cases kept
    | ok date =>
      rw [next] at kept
      cases date with
      | none => cases kept
      | some date =>
        obtain rfl := Option.some.inj kept
        exact ⟨member,next⟩
  · intro ⟨member,next⟩
    exact ⟨row.item,member,by rw [next]⟩

theorem mem_rowsOf (key : OccasionKey) : row ∈ rowsOf characters normalizers items today key ↔
    row.item ∈ items ∧ nextOccurrence characters row.item today = .ok (some row.occurrence) ∧
      groupKey normalizers row.item = key := by
  unfold rowsOf Grouping.membersOf
  rw [List.mem_filter,mem_occurrences,decide_eq_true_eq,and_assoc]

theorem nextOccurrence_anchored {item : DatedMemory} {date : Int}
    (next : nextOccurrence characters item today = .ok (some date)) : ∃ anchor, item.dateAnchor = some anchor := by
  cases dated : item.dateAnchor with
  | none =>
    rw [nextOccurrence,dated] at next
    cases next
  | some anchor => exact ⟨anchor,rfl⟩

theorem occasionDetection_announces (anchored : ∀ row ∈ rows, ∃ anchor, row.item.dateAnchor = some anchor)
    (triggers : Triggers today leadDays rows trigger) :
    Announces today leadDays zone rows
      (occasionDetection rows trigger today leadDays (zone.localDayEnd trigger.occurrence)) := by
  have several := recordedAnchors_contradictory_iff anchored
  refine ⟨⟨trigger,triggers,rfl,rfl,rfl,rfl⟩,?_,?_⟩
  · intro anchor
    unfold occasionDetection
    dsimp only
    split
    · rename_i more
      rw [mem_recordedAnchors]
      exact (and_iff_right (several.mp more)).symm
    · rename_i few
      exact iff_of_false List.not_mem_nil (fun both => few (several.mpr both.1))
  · unfold occasionDetection
    dsimp only
    split
    · exact recordedAnchors_nodup
    · exact List.nodup_nil

end detection

section identity

private theorem text_plain (memoryAttribute : MemoryAttribute) : ':' ∉ memoryAttribute.text.toList := by
  cases memoryAttribute <;> decide +kernel

private theorem text_injective {first second : MemoryAttribute} (same : first.text.toList = second.text.toList) :
    first = second := by
  have same := String.toList_injective same
  cases first <;> cases second <;> first | rfl | exact absurd same (by decide +kernel)

private theorem itemKey_toList (id year : Nat) :
    ("personal_occasion:item:" ++ toString id ++ ":" ++ toString year).toList =
      "personal_occasion:item:".toList ++ ((toString id).toList ++ ':'::(toString year).toList) := by
  simp only [String.toList_append,List.append_assoc]
  rfl

private theorem entityKey_toList (id year : Nat) (text : String) :
    ("personal_occasion:entity:" ++ toString id ++ ":" ++ text ++ ":" ++ toString year).toList =
      "personal_occasion:entity:".toList ++
        ((toString id).toList ++ ':'::(text.toList ++ ':'::(toString year).toList)) := by
  simp only [String.toList_append,List.append_assoc]
  rfl

private theorem occasionDedupeKey_cases (normalizers : MemoryNormalizers) (item : DatedMemory) (year : Nat) :
    (∃ id, groupKey normalizers item = .entity id item.memoryAttribute ∧
      (occasionDedupeKey item year).toList = "personal_occasion:entity:".toList ++
        ((toString id).toList ++ ':'::(item.memoryAttribute.text.toList ++ ':'::(toString year).toList))) ∨
    (occasionDedupeKey item year).toList =
      "personal_occasion:item:".toList ++ ((toString item.id).toList ++ ':'::(toString year).toList) := by
  unfold occasionDedupeKey groupKey
  cases item.entityId with
  | none => exact Or.inr (itemKey_toList item.id year)
  | some id =>
    by_cases free : item.memoryAttribute = .free
    · right
      dsimp only
      rw [if_pos free]
      exact itemKey_toList item.id year
    · left
      refine ⟨id,if_neg free,?_⟩
      dsimp only
      rw [if_neg free]
      exact entityKey_toList id year item.memoryAttribute.text

private theorem kinds_differ {one other : List Char} :
    "personal_occasion:entity:".toList ++ one ≠ "personal_occasion:item:".toList ++ other := by
  intro same
  have heads : ("personal_occasion:entity:".toList ++ one).take 19 =
      ("personal_occasion:item:".toList ++ other).take 19 := congrArg (List.take 19) same
  have apart : "personal_occasion:entity:".toList.take 19 ≠ "personal_occasion:item:".toList.take 19 := by
    decide +kernel
  rw [List.take_append_of_le_length (by decide +kernel),List.take_append_of_le_length (by decide +kernel)] at heads
  exact apart heads

/-- Rows of one dedupe key are of one group, or one row. -/
theorem occasionDedupeKey_same (normalizers : MemoryNormalizers) {first second : DatedMemory} {year year' : Nat}
    (same : occasionDedupeKey first year = occasionDedupeKey second year') :
    groupKey normalizers first = groupKey normalizers second ∨ first.id = second.id := by
  have same := congrArg String.toList same
  rcases occasionDedupeKey_cases normalizers first year with ⟨id,grouped,spelled⟩ | spelled
  · rcases occasionDedupeKey_cases normalizers second year' with ⟨id',grouped',spelled'⟩ | spelled'
    · rw [spelled,spelled',List.append_cancel_left_eq] at same
      obtain ⟨ids,same⟩ := Separated.join_injective (number_plain id rfl) (number_plain id' rfl) same
      obtain ⟨texts,_⟩ := Separated.join_injective (text_plain _) (text_plain _) same
      rw [grouped,grouped',number_injective ids,text_injective texts]
      exact Or.inl rfl
    · rw [spelled,spelled'] at same
      exact absurd same kinds_differ
  · rcases occasionDedupeKey_cases normalizers second year' with ⟨id',grouped',spelled'⟩ | spelled'
    · rw [spelled,spelled'] at same
      exact absurd same.symm kinds_differ
    · rw [spelled,spelled',List.append_cancel_left_eq] at same
      exact Or.inr (number_injective (Separated.join_injective (number_plain _ rfl) (number_plain _ rfl) same).1)

end identity

section claim
variable (characters : Characters) (normalizers : MemoryNormalizers) (items : List DatedMemory) (zone : TimeZone)
  (leadDays : Int) {now wall today : Int} {rows : List Occurrence}

theorem groupDetection_eq (bounded : zone.Bounded) (named : ∀ row ∈ rows, firstDate ≤ row.occurrence ∧ row.occurrence ≤ lastDate) :
    groupDetection rows today zone leadDays =
      match triggerOf rows today leadDays with
      | none => .ok none
      | some trigger =>
        if trigger.occurrence = lastDate then .error .overflowError
        else .ok (some (occasionDetection rows trigger today leadDays (zone.localDayEnd trigger.occurrence))) := by
  unfold groupDetection
  cases found : triggerOf rows today leadDays with
  | none => rfl
  | some trigger =>
    obtain ⟨first,last⟩ := named trigger (triggerOf_triggers found).member
    dsimp only
    rw [checkedLocalDayEnd_eq bounded first last]
    split <;> rfl

/-- The detection that a group comes to, none also when it raises. -/
def announcement (today leadDays : Int) (rows : List Occurrence) : Option Detection :=
  match groupDetection rows today zone leadDays with
  | .ok detection => detection
  | .error _ => none

theorem announcement_eq_some (bounded : zone.Bounded)
    (named : ∀ row ∈ rows, firstDate ≤ row.occurrence ∧ row.occurrence ≤ lastDate) (detection : Detection) :
    announcement zone today leadDays rows = some detection ↔
      ∃ trigger, triggerOf rows today leadDays = some trigger ∧ trigger.occurrence < lastDate ∧
        detection = occasionDetection rows trigger today leadDays (zone.localDayEnd trigger.occurrence) := by
  unfold announcement
  rw [groupDetection_eq zone leadDays bounded named]
  cases found : triggerOf rows today leadDays with
  | none =>
    constructor
    · intro absent
      cases absent
    · rintro ⟨_,absent,_⟩
      cases absent
  | some trigger =>
    have last := (named trigger (triggerOf_triggers found).member).2
    dsimp only
    constructor
    · intro same
      split at same
      · rename_i described
        split at described
        · cases described
        · rename_i earlier
          rw [← Except.ok.inj described,Option.some.injEq] at same
          exact ⟨trigger,rfl,lt_of_le_of_ne last earlier,same.symm⟩
      · cases same
    · rintro ⟨other,same,earlier,rfl⟩
      obtain rfl := Option.some.inj same
      rw [if_neg earlier.ne]

theorem announced_iff (bounded : zone.Bounded)
    (named : ∀ row ∈ rows, firstDate ≤ row.occurrence ∧ row.occurrence ≤ lastDate) :
    (∃ detection, announcement zone today leadDays rows = some detection) ↔
      ∃ row ∈ rows, InWindow today leadDays row ∧ row.occurrence < lastDate := by
  constructor
  · intro ⟨detection,announced⟩
    obtain ⟨trigger,found,earlier,_⟩ := (announcement_eq_some zone leadDays bounded named detection).mp announced
    have triggers := triggerOf_triggers found
    exact ⟨trigger,triggers.member,triggers.inWindow,earlier⟩
  · intro ⟨row,member,within,earlier⟩
    cases found : triggerOf rows today leadDays with
    | none => exact absurd within (triggerOf_none_iff.mp found row member)
    | some trigger =>
      have before : trigger.occurrence < lastDate := by
        rcases (triggerOf_triggers found).earliest row member within with less | ⟨same,_⟩
        · exact less.trans earlier
        · exact same ▸ earlier
      exact ⟨_,(announcement_eq_some zone leadDays bounded named _).mpr ⟨trigger,found,before,rfl⟩⟩

def announcements (today leadDays : Int) : List (OccasionKey × Detection) :=
  (Grouping.group (fun row => groupKey normalizers row.item) (occurrences characters items today)).filterMap
    (fun entry => (announcement zone today leadDays entry.2).map (fun detection => (entry.1,detection)))

theorem localDate_named (named : zone.checkedLocalTime now = .ok wall) :
    wall / day = zone.localDate now ∧ firstDate ≤ zone.localDate now := by
  unfold TimeZone.checkedLocalTime at named
  split at named
  · rename_i inYears
    unfold representable at inYears
    rw [Bool.and_eq_true,decide_eq_true_eq] at inYears
    unfold TimeZone.localDate
    rw [← Except.ok.inj named]
    exact ⟨rfl,Int.le_ediv_of_mul_le (by decide) inYears.1⟩
  · cases named

theorem detectPersonalOccasions_eq (named : zone.checkedLocalTime now = .ok wall) :
    detectPersonalOccasions characters normalizers items now zone leadDays =
      .ok ((announcements characters normalizers items zone (zone.localDate now) leadDays).map Prod.snd) := by
  unfold detectPersonalOccasions announcements
  rw [named,List.map_filterMap,← (localDate_named zone named).1]
  change Except.ok _ = Except.ok _
  congr 2
  funext entry
  rw [Option.map_map]
  exact (congrFun Option.map_id _).symm

variable {characters normalizers items zone leadDays}

theorem rowsOf_named (first : firstDate ≤ today) (key : OccasionKey) :
    ∀ row ∈ rowsOf characters normalizers items today key,
      firstDate ≤ row.occurrence ∧ row.occurrence ≤ lastDate := by
  intro row member
  obtain ⟨_,next,_⟩ := (mem_rowsOf key).mp member
  obtain ⟨later,last⟩ := nextOccurrence_cases next
  exact ⟨first.trans later,last⟩

theorem mem_announcements (entry : OccasionKey × Detection) :
    entry ∈ announcements characters normalizers items zone today leadDays ↔
      announcement zone today leadDays (rowsOf characters normalizers items today entry.1) = some entry.2 := by
  unfold announcements
  rw [List.mem_filterMap]
  constructor
  · rintro ⟨group,grouped,same⟩
    obtain ⟨detection,found,rfl⟩ := Option.map_eq_some_iff.mp same
    have rows : group.2 = rowsOf characters normalizers items today group.1 :=
      ((Grouping.mem_group_iff _ _ _ _).mp grouped).1
    rw [← rows]
    exact found
  · intro found
    refine ⟨(entry.1,rowsOf characters normalizers items today entry.1),?_,?_⟩
    · refine (Grouping.mem_group_iff _ _ _ _).mpr ⟨rfl,fun empty => ?_⟩
      change rowsOf characters normalizers items today entry.1 = [] at empty
      rw [empty] at found
      cases found
    · rw [found,Option.map_some]

theorem announcements_keys_nodup :
    ((announcements characters normalizers items zone today leadDays).map Prod.fst).Nodup := by
  have names := Grouping.group_names_nodup (fun row => groupKey normalizers row.item)
    (occurrences characters items today)
  unfold announcements List.Nodup
  rw [List.pairwise_map,List.pairwise_filterMap]
  refine (List.pairwise_map.mp names).imp ?_
  intro one other apart entry named entry' named'
  obtain ⟨_,_,rfl⟩ := Option.map_eq_some_iff.mp named
  obtain ⟨_,_,rfl⟩ := Option.map_eq_some_iff.mp named'
  exact apart

/-- What is announced of a group is announced of its trigger. -/
theorem announcements_announce (bounded : zone.Bounded) (first : firstDate ≤ today)
    (entry : OccasionKey × Detection) (member : entry ∈ announcements characters normalizers items zone today leadDays) :
    Announces today leadDays zone (rowsOf characters normalizers items today entry.1) entry.2 := by
  obtain ⟨trigger,found,_,described⟩ := (announcement_eq_some zone leadDays bounded
    (rowsOf_named first entry.1) entry.2).mp ((mem_announcements entry).mp member)
  rw [described]
  refine occasionDetection_announces ?_ (triggerOf_triggers found)
  intro row other
  exact nextOccurrence_anchored ((mem_rowsOf entry.1).mp other).2.1

/-- Every detection describes a row of its group. -/
theorem announcements_row {entry : OccasionKey × Detection}
    (member : entry ∈ announcements characters normalizers items zone today leadDays) :
    ∃ trigger ∈ rowsOf characters normalizers items today entry.1, ∃ expiresAt,
      checkedLocalDayEnd zone trigger.occurrence = .ok expiresAt ∧
      entry.2 = occasionDetection (rowsOf characters normalizers items today entry.1) trigger today leadDays expiresAt := by
  have announced := (mem_announcements entry).mp member
  generalize rowsOf characters normalizers items today entry.1 = rows at announced ⊢
  unfold announcement at announced
  split at announced
  · rename_i detection detected
    unfold groupDetection at detected
    split at detected
    · rw [← Except.ok.inj detected] at announced
      cases announced
    · rename_i trigger found
      obtain ⟨expiresAt,ended,described⟩ := (Outcome.bind_ok_iff _ _ _).mp detected
      rw [← Except.ok.inj described] at announced
      exact ⟨trigger,(triggerOf_triggers found).member,expiresAt,ended,(Option.some.inj announced).symm⟩
  · cases announced

theorem announcements_dedupeKeys_nodup (distinct : (items.map DatedMemory.id).Nodup) :
    ((announcements characters normalizers items zone today leadDays).map (fun entry => entry.2.dedupeKey)).Nodup := by
  refine List.pairwise_map.mpr ((List.pairwise_map.mp announcements_keys_nodup).imp_of_mem ?_)
  intro one other member member' apart same
  obtain ⟨trigger,row,_,_,described⟩ := announcements_row member
  obtain ⟨trigger',row',_,_,described'⟩ := announcements_row member'
  obtain ⟨item,_,grouped⟩ := (mem_rowsOf one.1).mp row
  obtain ⟨item',_,grouped'⟩ := (mem_rowsOf other.1).mp row'
  rw [described,described'] at same
  change occasionDedupeKey trigger.item _ = occasionDedupeKey trigger'.item _ at same
  apply apart
  rw [← grouped,← grouped']
  rcases occasionDedupeKey_same normalizers same with group | id
  · exact group
  · rw [List.inj_on_of_nodup_map distinct item item' id]

variable (characters normalizers items zone leadDays)

/-- At most one detection for each group of dated memories, whose dedupe keys differ: a group has
one exactly when a row of it lies within its own lead window, before the last day of the calendar. -/
theorem occasion_groups (distinct : (items.map DatedMemory.id).Nodup) (bounded : zone.Bounded)
    (named : zone.checkedLocalTime now = .ok wall) :
    ∃ announced : List (OccasionKey × Detection),
      detectPersonalOccasions characters normalizers items now zone leadDays = .ok (announced.map Prod.snd) ∧
      (announced.map (fun entry => entry.2.dedupeKey)).Nodup ∧
      (announced.map Prod.fst).Nodup ∧
      (∀ entry ∈ announced, Announces (zone.localDate now) leadDays zone
        (rowsOf characters normalizers items (zone.localDate now) entry.1) entry.2) ∧
      ∀ key, key ∈ announced.map Prod.fst ↔
        ∃ row ∈ rowsOf characters normalizers items (zone.localDate now) key,
          InWindow (zone.localDate now) leadDays row ∧ row.occurrence < lastDate := by
  have first := (localDate_named zone named).2
  refine ⟨announcements characters normalizers items zone (zone.localDate now) leadDays,
    detectPersonalOccasions_eq characters normalizers items zone leadDays named,
    announcements_dedupeKeys_nodup distinct,announcements_keys_nodup,
    announcements_announce bounded first,?_⟩
  intro key
  rw [List.mem_map,← announced_iff zone leadDays bounded (rowsOf_named first key)]
  constructor
  · rintro ⟨entry,member,rfl⟩
    exact ⟨entry.2,(mem_announcements entry).mp member⟩
  · intro ⟨detection,found⟩
    exact ⟨(key,detection),(mem_announcements (key,detection)).mpr found,rfl⟩

theorem utc_bounded : TimeZone.utc.Bounded := by
  have inside : -day < (0 : Int) ∧ (0 : Int) < day := by decide
  exact ⟨fun _ => inside,fun _ => inside⟩

def birthday (id : Nat) (dateAnchor : String) (leadDays : Option Int) : DatedMemory :=
  ⟨id,.fact,some 7,some "Jinu",none,.birthday,"birthday",some dateAnchor,.yearly,leadDays,.manual⟩

theorem occasion_groups_birthday : ∃ announced : List (OccasionKey × Detection),
    detectPersonalOccasions .ascii ⟨id,id,id⟩ [birthday 1 "--07-18" (some 7),birthday 2 "1990-07-20" none]
      (1783760400 * second) .utc defaultLeadDays = .ok (announced.map Prod.snd) ∧
    OccasionKey.entity 7 .birthday ∈ announced.map Prod.fst := by
  have named : TimeZone.utc.checkedLocalTime (1783760400 * second) = .ok (1783760400 * second) := by decide +kernel
  obtain ⟨announced,detected,_,_,_,keys⟩ := occasion_groups .ascii ⟨id,id,id⟩
    [birthday 1 "--07-18" (some 7),birthday 2 "1990-07-20" none] .utc defaultLeadDays (by decide) utc_bounded named
  refine ⟨announced,detected,(keys _).mpr ⟨⟨birthday 1 "--07-18" (some 7),20652⟩,?_,?_,by decide⟩⟩
  · exact (mem_rowsOf _).mpr ⟨List.mem_cons_self,by decide +kernel,rfl⟩
  · unfold InWindow
    decide +kernel

/-- A year before the last day of the calendar, which its own lead window covers. -/
def lastDay : DatedMemory :=
  ⟨99,.fact,none,none,none,.free,"the last day",some "9999-12-31",.none,some 365,.manual⟩

/-- A group whose only row is due is skipped: no `date` names the day after. -/
theorem last_day_unannounced :
    detectPersonalOccasions .ascii ⟨id,id,id⟩ [lastDay] (2932531 * day) .utc defaultLeadDays = .ok [] ∧
      ∃ row ∈ rowsOf .ascii ⟨id,id,id⟩ [lastDay] 2932531 (groupKey ⟨id,id,id⟩ lastDay),
        InWindow 2932531 defaultLeadDays row := by
  refine ⟨by decide +kernel,⟨lastDay,lastDate⟩,?_,?_⟩
  · exact (mem_rowsOf _).mpr ⟨List.mem_cons_self,by decide +kernel,rfl⟩
  · unfold InWindow
    decide +kernel

end claim

end Proactive.Situations
