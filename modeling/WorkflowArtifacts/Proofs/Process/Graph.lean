import Mathlib.Data.List.Nodup
import WorkflowArtifacts.Process.Graph
import WorkflowArtifacts.Proofs.FirstOccurrences

/-!
# What the check of a graph finds

The check counts ids while it goes through the elements, and reads the tally twice: for the ids
that were counted more than once, and for the ids that sequence flows name. Here it is said what it
finds without the counting.

## The tally

After any list of ids the tally is its `census`: the ids in the order in which they first occur,
each with the number of its occurrences. Adding an id to the census of a list gives the census of
the list with the id at its end (`add_census`), and the rest is an induction.

## What follows

The problems are then a matter of how often ids occur, of which ids occur, and of whether there is
a start event (`problems_eq`). From this it is read off when there are none
(`problems_eq_nil_iff`), that the order of the elements plays no part (`problems_perm`), and which
parts of an element are read at all (`problems_map_congr`).
-/

namespace WorkflowArtifacts.Graph

/-! ## The tally -/

namespace Tally

/-- The ids of a list in the order in which they first occur, each with the number of its
occurrences. -/
def census (ids : List String) : Tally := ids.eraseDups.map fun id ↦ (id, ids.count id)

/-- An id that has been seen is counted where it stands. -/
theorem add_map_of_mem {keys : List String} {id : String} (hnodup : keys.Nodup) (h : id ∈ keys)
    (count : String → Nat) :
    add (keys.map fun key ↦ (key, count key)) id
      = keys.map fun key ↦ (key, count key + if key = id then 1 else 0) := by
  induction keys with
  | nil => exact absurd h List.not_mem_nil
  | cons key rest ih =>
    rw [List.nodup_cons] at hnodup
    rw [List.map_cons, List.map_cons, add]
    by_cases hkey : key = id
    · -- it does not stand anywhere else
      have hrest : rest.map (fun other ↦ (other, count other))
          = rest.map fun other ↦ (other, count other + if other = id then 1 else 0) := by
        refine List.map_congr_left fun other hother ↦ ?_
        have hne : other ≠ id := by
          rintro rfl
          exact hnodup.1 (hkey ▸ hother)
        rw [if_neg hne, Nat.add_zero]
      rw [if_pos hkey, if_pos hkey, hrest]
    · have hmem : id ∈ rest := (List.mem_cons.1 h).resolve_left (Ne.symm hkey)
      rw [if_neg hkey, if_neg hkey, ih hnodup.2 hmem, Nat.add_zero]

/-- An id that has not been seen is put at the end. -/
theorem add_map_of_notMem {keys : List String} {id : String} (h : id ∉ keys)
    (count : String → Nat) :
    add (keys.map fun key ↦ (key, count key)) id
      = keys.map (fun key ↦ (key, count key)) ++ [(id, 1)] := by
  induction keys with
  | nil => rfl
  | cons key rest ih =>
    rw [List.mem_cons, not_or] at h
    rw [List.map_cons, add, if_neg (Ne.symm h.1), ih h.2, List.cons_append]

/-- One more id makes the census of one list that of the next. -/
theorem add_census (ids : List String) (id : String) :
    (census ids).add id = census (ids ++ [id]) := by
  have hcount (key : String) :
      (ids ++ [id]).count key = ids.count key + if key = id then 1 else 0 := by
    rw [List.count_append, List.count_singleton]
    by_cases h : key = id
    · simp [h]
    · simp [h, Ne.symm h]
  by_cases h : id ∈ ids
  · rw [census, add_map_of_mem (nodup_eraseDups ids) (List.mem_eraseDups.2 h), census,
      eraseDups_concat_of_mem h]
    simp only [hcount]
  · have hnew : id ∉ ids.eraseDups := fun hid ↦ h (List.mem_eraseDups.1 hid)
    rw [census, add_map_of_notMem hnew, census, eraseDups_concat_of_notMem h, List.map_append]
    congr 1
    · refine List.map_congr_left fun key hkey ↦ ?_
      have hne : key ≠ id := by
        rintro rfl
        exact hnew hkey
      rw [hcount, if_neg hne, Nat.add_zero]
    · rw [List.map_singleton, hcount, if_pos rfl, List.count_eq_zero.2 h]

/-- Counting a list of ids gives its census. -/
theorem ofList_eq_census (ids : List String) : ofList ids = census ids := by
  induction ids using List.reverseRecOn with
  | nil => rfl
  | append_singleton ids id ih =>
    have hstep : ofList (ids ++ [id]) = (ofList ids).add id := by
      rw [ofList, List.foldl_append]
      rfl
    rw [hstep, ih, add_census]

/-- The ids that have been seen are the listed ones. -/
theorem holds_ofList_iff (ids : List String) (id : String) :
    (ofList ids).holds id = true ↔ id ∈ ids := by
  rw [ofList_eq_census, holds, census, List.any_map, List.any_eq_true]
  constructor
  · rintro ⟨key, hkey, heq⟩
    have hid : key = id := by simpa using heq
    exact hid ▸ List.mem_eraseDups.1 hkey
  · intro h
    exact ⟨id, List.mem_eraseDups.2 h, by simp⟩

end Tally

/-! ## What is found -/

/-- The ids that occur more than once, each once, in the order in which they first occur. -/
def repeatedIds (ids : List String) : List String := ids.eraseDups.filter (1 < ids.count ·)

theorem mem_repeatedIds {ids : List String} {id : String} :
    id ∈ repeatedIds ids ↔ 1 < ids.count id := by
  rw [repeatedIds, List.mem_filter, List.mem_eraseDups, decide_eq_true_iff]
  constructor
  · exact And.right
  · intro h
    exact ⟨List.count_pos_iff.1 (by omega), h⟩

theorem pairwise_idxOf_repeatedIds (ids : List String) :
    (repeatedIds ids).Pairwise fun id other ↦ ids.idxOf id < ids.idxOf other :=
  (pairwise_idxOf_eraseDups ids).filter _

theorem repeatedIds_eq_nil_iff {ids : List String} : repeatedIds ids = [] ↔ ids.Nodup := by
  rw [List.eq_nil_iff_forall_not_mem, List.nodup_iff_count_le_one]
  simp only [mem_repeatedIds, Nat.not_lt]

/-- The loose ends of a sequence flow among elements with the given ids, its source first. -/
def danglingEnds (ids : List String) (flow : SequenceFlow) : List Problem :=
  (if flow.sourceRef ∈ ids then [] else [.unknownSource flow.id flow.sourceRef])
    ++ (if flow.targetRef ∈ ids then [] else [.unknownTarget flow.id flow.targetRef])

theorem danglingEnds_eq_nil_iff {ids : List String} {flow : SequenceFlow} :
    danglingEnds ids flow = [] ↔ flow.sourceRef ∈ ids ∧ flow.targetRef ∈ ids := by
  rw [danglingEnds, List.append_eq_nil_iff]
  simp

theorem looseEnds_ofList (ids : List String) :
    looseEnds (Tally.ofList ids) = danglingEnds ids := by
  funext flow
  simp only [looseEnds, danglingEnds, Tally.holds_ofList_iff]

/-- Whether a start event is among some elements. -/
def HasStart (elements : List Element) : Prop := ∃ event, .startEvent event ∈ elements

theorem hasStart_iff {elements : List Element} :
    HasStart elements ↔ ∃ e ∈ elements, e.startEvent?.isSome = true := by
  constructor
  · rintro ⟨event, h⟩
    exact ⟨_, h, rfl⟩
  · rintro ⟨e, h, hsome⟩
    cases e with
    | startEvent event => exact ⟨event, h⟩
    | _ => cases hsome

theorem isEmpty_startEvents_iff {elements : List Element} :
    (startEvents elements).isEmpty = true ↔ ¬ HasStart elements := by
  rw [startEvents, List.isEmpty_iff, List.filterMap_eq_nil_iff, hasStart_iff]
  simp

instance (elements : List Element) : Decidable (HasStart elements) :=
  decidable_of_iff' _ hasStart_iff

theorem repeated_ofList (ids : List String) :
    (Tally.ofList ids).repeated
      = (repeatedIds ids).map fun id ↦ .repeatedId id (ids.count id) := by
  rw [Tally.ofList_eq_census, Tally.repeated, Tally.census, List.filterMap_map, repeatedIds]
  generalize ids.eraseDups = keys
  induction keys with
  | nil => rfl
  | cons key rest ih =>
    rw [List.filterMap_cons, List.filter_cons, ih]
    by_cases h : 1 < ids.count key
    · simp [h]
    · simp [h]

/-- The problems of a graph, said without a tally. -/
theorem problems_eq (elements : List Element) :
    problems elements =
      (repeatedIds (elements.map Element.id)).map
          (fun id ↦ .repeatedId id ((elements.map Element.id).count id))
        ++ (elements.filterMap Element.sequenceFlow?).flatMap
          (danglingEnds (elements.map Element.id))
        ++ if HasStart elements then [] else [.noStartEvent] := by
  rw [problems, repeated_ofList, looseEnds_ofList]
  congr 1
  by_cases h : HasStart elements
  · have hsome : ¬ (startEvents elements).isEmpty = true := by
      rw [isEmpty_startEvents_iff]
      exact not_not_intro h
    rw [if_pos h, if_neg hsome]
  · rw [if_neg h, if_pos (isEmpty_startEvents_iff.2 h)]

theorem mem_filterMap_sequenceFlow? {elements : List Element} {flow : SequenceFlow} :
    flow ∈ elements.filterMap Element.sequenceFlow? ↔ .sequenceFlow flow ∈ elements := by
  rw [List.mem_filterMap]
  constructor
  · rintro ⟨e, he, hflow⟩
    cases e with
    | sequenceFlow found =>
      cases hflow
      exact he
    | _ => cases hflow
  · intro h
    exact ⟨_, h, rfl⟩

/-- There are no problems exactly if ids are unique, sequence flows connect listed elements and
there is a start event. -/
theorem problems_eq_nil_iff {elements : List Element} :
    problems elements = [] ↔ (elements.map Element.id).Nodup ∧
      (∀ flow, .sequenceFlow flow ∈ elements →
        flow.sourceRef ∈ elements.map Element.id ∧ flow.targetRef ∈ elements.map Element.id) ∧
      HasStart elements := by
  rw [problems_eq, List.append_eq_nil_iff, List.append_eq_nil_iff, List.map_eq_nil_iff,
    repeatedIds_eq_nil_iff, List.flatMap_eq_nil_iff, and_assoc]
  simp only [danglingEnds_eq_nil_iff, mem_filterMap_sequenceFlow?]
  simp

/-! ## The order of the elements -/

theorem repeatedIds_perm {ids others : List String} (h : ids.Perm others) :
    (repeatedIds ids).Perm (repeatedIds others) := by
  have hcount : (fun id ↦ decide (1 < ids.count id)) = fun id ↦ decide (1 < others.count id) := by
    funext id
    rw [h.count_eq]
  rw [repeatedIds, repeatedIds, hcount]
  exact (eraseDups_perm h).filter _

theorem hasStart_perm {elements others : List Element} (h : elements.Perm others) :
    HasStart elements ↔ HasStart others := by
  rw [HasStart, HasStart]
  simp only [h.mem_iff]

/-- The same elements in another order have the same problems in another order. -/
theorem problems_perm {elements others : List Element} (h : elements.Perm others) :
    (problems elements).Perm (problems others) := by
  have hids := h.map Element.id
  have hrepeated : (fun id ↦ Problem.repeatedId id ((elements.map Element.id).count id))
      = fun id ↦ .repeatedId id ((others.map Element.id).count id) := by
    funext id
    rw [hids.count_eq]
  have hends : danglingEnds (elements.map Element.id) = danglingEnds (others.map Element.id) := by
    funext flow
    simp only [danglingEnds, hids.mem_iff]
  rw [problems_eq, problems_eq, hrepeated, hends]
  refine (((repeatedIds_perm hids).map _).append ((h.filterMap _).flatMap_right _)).append ?_
  simp only [hasStart_perm h]
  exact .refl _

/-! ## What is read of an element -/

/-- Two lists of elements have the same problems if, one by one, the elements have the same ids,
and both are the same sequence flow or none is one, and both are start events or none is one. -/
theorem problems_map_congr {α : Type} {f g : α → Element} (xs : List α)
    (hid : ∀ x, (f x).id = (g x).id) (hflow : ∀ x, (f x).sequenceFlow? = (g x).sequenceFlow?)
    (hstart : ∀ x, (f x).startEvent?.isSome = (g x).startEvent?.isSome) :
    problems (xs.map f) = problems (xs.map g) := by
  have hids : (xs.map f).map Element.id = (xs.map g).map Element.id := by
    rw [List.map_map, List.map_map]
    exact List.map_congr_left fun x _ ↦ hid x
  have hflows : (xs.map f).filterMap Element.sequenceFlow?
      = (xs.map g).filterMap Element.sequenceFlow? := by
    rw [List.filterMap_map, List.filterMap_map]
    exact List.filterMap_congr fun x _ ↦ hflow x
  have hstarts : HasStart (xs.map f) ↔ HasStart (xs.map g) := by
    rw [hasStart_iff, hasStart_iff]
    simp only [List.mem_map, exists_exists_and_eq_and, hstart]
  rw [problems_eq, problems_eq, hids, hflows]
  simp only [hstarts]

end WorkflowArtifacts.Graph
