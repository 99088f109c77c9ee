import RevAgent.Proof.SessionLanes

/-!
# The pages of a lane

Where the pages of a lane of `n` entries stand is a matter of arithmetic: the pages of one level each
span the same number of entries, 64 for a leaf and 32 times as many with each level above it, and only
the last one may span fewer (`lanePlaces`). The keys of a plan for the lane are the keys of these
places, in this order (`keys_of_build`).
-/

namespace RevAgent.Gateway

open List RevAgent.Library

variable {refs refs' : List SessionHistoryPageRef} {index allowed : Nat} {values : List JsonValue}
  {planned planned' : List PlannedPage} {plan : SessionHistoryPagePlan}

/-- A page of a lane: its level, its number in it, and the numbers of its first and last entries. -/
structure LanePlace where
  height : Nat
  ordinal : Nat
  first : Nat
  last : Nat
  deriving DecidableEq, Repr

def levelPlaces (height span count : Nat) : List LanePlace :=
  (List.range (sliceCount span count)).map fun ordinal =>
    ⟨height, ordinal, ordinal * span, min (ordinal * span + span) count - 1⟩

def branchPlaces : Nat → Nat → Nat → Nat → List LanePlace
  | 0, _, _, _ => []
  | allowed + 1, height, span, count =>
    if sliceCount span count ≤ 1 then []
    else levelPlaces height (span * SESSION_HISTORY_BRANCH_MAX_REFS) count ++
      branchPlaces allowed (height + 1) (span * SESSION_HISTORY_BRANCH_MAX_REFS) count

def lanePlaces (count : Nat) : List LanePlace :=
  levelPlaces 1 SESSION_HISTORY_LEAF_MAX_ENTRIES count ++
    branchPlaces (SESSION_HISTORY_MAX_HEIGHT - 1) 2 SESSION_HISTORY_LEAF_MAX_ENTRIES count

example : lanePlaces 65 = [⟨1, 0, 0, 63⟩, ⟨1, 1, 64, 64⟩, ⟨2, 0, 0, 64⟩] := by decide

def LanePlace.idInput (place : LanePlace) (lane : PagePlanInput) : PageIdInput where
  tenantId := lane.tenantId
  rsid := lane.rsid
  treeKind := lane.treeKind
  height := place.height
  ordinal := place.ordinal
  firstKey := orderedLaneKey place.first
  lastKey := orderedLaneKey place.last

variable [Host]

def LanePlace.key (place : LanePlace) (lane : PagePlanInput) : String := pageKey (place.idInput lane)

variable {lane : PagePlanInput} {height span count : Nat}

def SpansLane (span count : Nat) (refs : List SessionHistoryPageRef) : Prop :=
  refs.map (fun ref => (ref.firstKey, ref.lastKey)) =
    (levelPlaces 1 span count).map fun place =>
      (orderedLaneKey place.first, orderedLaneKey place.last)

omit [Host] in
theorem SpansLane.length (h : SpansLane span count refs) : refs.length = sliceCount span count := by
  have hlength := congrArg List.length h
  rwa [length_map, length_map, levelPlaces, length_map, length_range] at hlength

omit [Host] in
theorem SpansLane.getElem? (h : SpansLane span count refs) (hindex : index < sliceCount span count) :
    ∃ ref, refs[index]? = some ref ∧ ref.firstKey = orderedLaneKey (index * span) ∧
      ref.lastKey = orderedLaneKey (min (index * span + span) count - 1) := by
  have hlt : index < refs.length := by rwa [h.length]
  refine ⟨refs[index], getElem?_eq_getElem hlt, ?_⟩
  have hat := congrArg (fun items => items[index]?) h
  simp only [getElem?_map, getElem?_eq_getElem hlt, levelPlaces, getElem?_range hindex,
    Option.map_some, Option.some.injEq, Prod.mk.injEq] at hat
  exact hat

theorem level_of_plannedAt {bodies : Nat → SessionHistoryPageBody}
    {results : List (PlannedPage × SessionHistoryPageRef)}
    (h : Forall₂ (fun ordinal result =>
      PlannedAt lane height ordinal (bodies ordinal) result.1 result.2)
      (range (sliceCount span count)) results)
    (hfirst : ∀ ordinal < sliceCount span count,
      (bodies ordinal).firstKey = some (orderedLaneKey (ordinal * span)))
    (hlast : ∀ ordinal < sliceCount span count, (bodies ordinal).lastKey =
      some (orderedLaneKey (min (ordinal * span + span) count - 1))) :
    (results.map Prod.fst).map PlannedPage.key =
        (levelPlaces height span count).map (LanePlace.key · lane) ∧
      SpansLane span count (results.map Prod.snd) := by
  have hpages : Forall₂ (fun ordinal (result : PlannedPage × SessionHistoryPageRef) =>
      result.1.key = LanePlace.key
        ⟨height, ordinal, ordinal * span, min (ordinal * span + span) count - 1⟩ lane ∧
      (result.2.firstKey, result.2.lastKey) = (orderedLaneKey (ordinal * span),
        orderedLaneKey (min (ordinal * span + span) count - 1)))
      (range (sliceCount span count)) results := by
    refine forall₂_imp_of_mem h ?_
    intro ordinal hordinal result _ hplanned
    have hlt := mem_range.mp hordinal
    obtain ⟨-, -, -, hfirstKey, hlastKey, -⟩ := pageRef_eq_ok hplanned.reference
    rw [hplanned.value] at hfirstKey hlastKey
    refine ⟨?_, ?_⟩
    · rw [hplanned.key, placeOf, hfirst ordinal hlt, hlast ordinal hlt]
      rfl
    · rw [← Option.some.inj (hfirstKey.symm.trans (hfirst ordinal hlt)),
        ← Option.some.inj (hlastKey.symm.trans (hlast ordinal hlt))]
  rw [levelPlaces, SpansLane, levelPlaces, map_map, map_map, map_map, map_map]
  refine ⟨?_, ?_⟩
  · exact (map_eq_of_forall₂ hpages fun _ _ hpage => hpage.1).symm
  · exact (map_eq_of_forall₂ hpages fun _ _ hpage => hpage.2).symm

omit [Host] in
theorem key_orderedLaneEntries (hindex : index < values.length) :
    ((orderedLaneEntries values)[index]?).map SessionHistoryEntry.key =
      some (orderedLaneKey index) := by
  rw [← getElem?_map, keys_orderedLaneEntries, getElem?_map, getElem?_range hindex]
  rfl

theorem level_of_leaves {leaves : List (PlannedPage × SessionHistoryPageRef)}
    (h : Forall₂ (fun ordinal leaf => planLeaf lane
        (((orderedLaneEntries values).drop (ordinal * SESSION_HISTORY_LEAF_MAX_ENTRIES)).take
          SESSION_HISTORY_LEAF_MAX_ENTRIES, ordinal) = .ok leaf)
      (range (sliceCount SESSION_HISTORY_LEAF_MAX_ENTRIES values.length)) leaves) :
    (leaves.map Prod.fst).map PlannedPage.key =
        (levelPlaces 1 SESSION_HISTORY_LEAF_MAX_ENTRIES values.length).map (LanePlace.key · lane) ∧
      SpansLane SESSION_HISTORY_LEAF_MAX_ENTRIES values.length (leaves.map Prod.snd) := by
  have hsize : 0 < SESSION_HISTORY_LEAF_MAX_ENTRIES := by decide
  let slice (ordinal : Nat) := ((orderedLaneEntries values).drop
    (ordinal * SESSION_HISTORY_LEAF_MAX_ENTRIES)).take SESSION_HISTORY_LEAF_MAX_ENTRIES
  have hproofs : Forall₂ (fun ordinal (leaf : PlannedPage × SessionHistoryPageRef) =>
      PlannedAt lane 1 ordinal (.entries ((slice ordinal).map proofOf)) leaf.1 leaf.2)
      (range (sliceCount SESSION_HISTORY_LEAF_MAX_ENTRIES values.length)) leaves := by
    refine h.imp ?_
    intro ordinal leaf hleaf
    obtain ⟨proofs, hproofs, hplan⟩ := bind_eq_ok.mp hleaf
    obtain rfl := proofs_of_mapM hproofs
    exact plannedAt_of_planPage hplan
  have hstart : ∀ ordinal < sliceCount SESSION_HISTORY_LEAF_MAX_ENTRIES values.length,
      ordinal * SESSION_HISTORY_LEAF_MAX_ENTRIES < values.length :=
    fun ordinal hordinal => (lt_sliceCount_iff hsize _ _).mp hordinal
  refine level_of_plannedAt hproofs ?_ ?_
  · intro ordinal hordinal
    rw [SessionHistoryPageBody.firstKey, head?_map, Option.map_map, head?_slice hsize]
    exact key_orderedLaneEntries (hstart ordinal hordinal)
  · intro ordinal hordinal
    have hlt := hstart ordinal hordinal
    rw [SessionHistoryPageBody.lastKey, getLast?_map, Option.map_map,
      getLast?_slice hsize (by rwa [length_orderedLaneEntries]), length_orderedLaneEntries]
    exact key_orderedLaneEntries (by omega)

omit [Host] in
theorem last_of_slice {size level ordinal : Nat} (hcover : count ≤ level * span)
    (hordinal : ordinal * size < level) (hsize : 0 < size) :
    min ((min (ordinal * size + size) level - 1) * span + span) count =
      min (ordinal * (span * size) + span * size) count := by
  have hend : ordinal * (span * size) + span * size = (ordinal * size + size) * span := by ring
  have hlast : (min (ordinal * size + size) level - 1) * span + span =
      min (ordinal * size + size) level * span := by
    rw [← Nat.succ_mul, Nat.succ_eq_add_one, Nat.sub_add_cancel (by omega)]
  rw [hend, hlast]
  by_cases hfull : ordinal * size + size ≤ level
  · rw [Nat.min_eq_left hfull]
  · have hmore : level * span ≤ (ordinal * size + size) * span :=
      Nat.mul_le_mul_right _ (by omega)
    rw [Nat.min_eq_right (by omega : level ≤ ordinal * size + size), Nat.min_eq_right hcover,
      Nat.min_eq_right (hcover.trans hmore)]

theorem level_of_planBranch (hspan : 0 < span) (hrefs : SpansLane span count refs)
    {next : List (PlannedPage × SessionHistoryPageRef)}
    (hnext : (slices SESSION_HISTORY_BRANCH_MAX_REFS refs).zipIdx.mapM (planBranch lane height) = .ok next) :
    (next.map Prod.fst).map PlannedPage.key =
        (levelPlaces height (span * SESSION_HISTORY_BRANCH_MAX_REFS) count).map
          (LanePlace.key · lane) ∧
      SpansLane (span * SESSION_HISTORY_BRANCH_MAX_REFS) count (next.map Prod.snd) := by
  have hsize : 0 < SESSION_HISTORY_BRANCH_MAX_REFS := by decide
  have hcount : sliceCount SESSION_HISTORY_BRANCH_MAX_REFS refs.length =
      sliceCount (span * SESSION_HISTORY_BRANCH_MAX_REFS) count := by
    rw [hrefs.length, sliceCount_sliceCount hspan hsize]
  have hslots : ∀ ordinal < sliceCount (span * SESSION_HISTORY_BRANCH_MAX_REFS) count,
      ordinal * SESSION_HISTORY_BRANCH_MAX_REFS < sliceCount span count := by
    intro ordinal hordinal
    rw [← sliceCount_sliceCount hspan hsize] at hordinal
    exact (lt_sliceCount_iff hsize _ _).mp hordinal
  have hpages := forall₂_of_mapM_eq_ok hnext
  rw [zipIdx_slices, forall₂_map_left_iff, hcount] at hpages
  refine level_of_plannedAt (hpages.imp fun ordinal branch hbranch => plannedAt_of_planPage hbranch)
    ?_ ?_
  · intro ordinal hordinal
    obtain ⟨ref, href, hfirst, -⟩ := hrefs.getElem? (hslots ordinal hordinal)
    rw [SessionHistoryPageBody.firstKey, head?_slice hsize, href, Option.map_some, hfirst,
      Nat.mul_assoc, Nat.mul_comm SESSION_HISTORY_BRANCH_MAX_REFS]
  · intro ordinal hordinal
    have hslot := hslots ordinal hordinal
    have hlast : min (ordinal * SESSION_HISTORY_BRANCH_MAX_REFS + SESSION_HISTORY_BRANCH_MAX_REFS)
        (sliceCount span count) - 1 < sliceCount span count := by omega
    obtain ⟨ref, href, -, hkey⟩ := hrefs.getElem? hlast
    rw [SessionHistoryPageBody.lastKey, getLast?_slice hsize (by rwa [hrefs.length]), hrefs.length,
      href, Option.map_some, hkey]
    rw [last_of_slice (length_le_sliceCount_mul hspan count) hslot hsize]

theorem keys_of_planBranches (hspan : 0 < span) (hrefs : SpansLane span count refs)
    (h : planBranches lane allowed height refs planned = .ok (refs', planned')) :
    planned'.map PlannedPage.key = planned.map PlannedPage.key ++
      (branchPlaces allowed height span count).map (LanePlace.key · lane) := by
  induction allowed generalizing height span refs planned with
  | zero =>
    obtain ⟨-, -, rfl⟩ | ⟨fewer, next, hallowed, -⟩ := planBranches_cases h
    · rw [branchPlaces, map_nil, append_nil]
    · cases hallowed
  | succ allowed ih =>
    obtain ⟨hlength, -, rfl⟩ | ⟨fewer, next, hallowed, hlength, hnext, hrest⟩ :=
      planBranches_cases h
    · rw [hrefs.length] at hlength
      rw [branchPlaces, if_pos hlength, map_nil, append_nil]
    · obtain rfl := Nat.succ.inj hallowed
      rw [hrefs.length] at hlength
      obtain ⟨hkeys, hspans⟩ := level_of_planBranch hspan hrefs hnext
      rw [ih (Nat.mul_pos hspan (by decide)) hspans hrest, branchPlaces, if_neg hlength,
        map_append, map_append, hkeys, append_assoc]

theorem length_of_planBranches_le
    (h : planBranches lane allowed height refs planned = .ok (refs', planned')) :
    refs.length ≤ SESSION_HISTORY_BRANCH_MAX_REFS ^ allowed := by
  induction allowed generalizing height refs planned with
  | zero =>
    obtain ⟨hlength, -⟩ | ⟨fewer, next, hallowed, -⟩ := planBranches_cases h
    · exact hlength
    · cases hallowed
  | succ allowed ih =>
    have hsize : 0 < SESSION_HISTORY_BRANCH_MAX_REFS := by decide
    obtain ⟨hlength, -⟩ | ⟨fewer, next, hallowed, -, hnext, hrest⟩ := planBranches_cases h
    · exact hlength.trans (Nat.pow_pos hsize)
    · obtain rfl := Nat.succ.inj hallowed
      have hslices := ih hrest
      rw [length_map, ← (forall₂_of_mapM_eq_ok hnext).length_eq, length_zipIdx,
        length_slices] at hslices
      calc refs.length
          _ ≤ sliceCount SESSION_HISTORY_BRANCH_MAX_REFS refs.length *
              SESSION_HISTORY_BRANCH_MAX_REFS := length_le_sliceCount_mul hsize _
          _ ≤ SESSION_HISTORY_BRANCH_MAX_REFS ^ allowed * SESSION_HISTORY_BRANCH_MAX_REFS :=
              Nat.mul_le_mul_right _ hslices
          _ = SESSION_HISTORY_BRANCH_MAX_REFS ^ (allowed + 1) := (Nat.pow_succ ..).symm

variable [Collation]

theorem length_entries_of_build (h : buildSessionHistoryPagePlan lane = .ok plan) :
    lane.entries.length ≤ 64 * 32 ^ 3 := by
  by_cases hne : sortByKey lane.entries = []
  · rw [sortByKey_eq_nil.mp hne]
    exact Nat.zero_le _
  · obtain ⟨leaves, refs, hleaves, hbranches, -⟩ := exists_leaves_of_build h hne
    have hcount := length_of_planBranches_le hbranches
    rw [length_map, ← (forall₂_of_mapM_eq_ok hleaves).length_eq, length_zipIdx,
      length_slices, length_sortByKey] at hcount
    calc lane.entries.length
        _ ≤ sliceCount SESSION_HISTORY_LEAF_MAX_ENTRIES lane.entries.length *
            SESSION_HISTORY_LEAF_MAX_ENTRIES := length_le_sliceCount_mul (by decide) _
        _ ≤ SESSION_HISTORY_BRANCH_MAX_REFS ^ (SESSION_HISTORY_MAX_HEIGHT - 1) *
            SESSION_HISTORY_LEAF_MAX_ENTRIES := Nat.mul_le_mul_right _ hcount
        _ = 64 * 32 ^ 3 := by decide

/-- **The pages of a lane are where its length says.** -/
theorem keys_of_build (hdigits : CollatesDigits)
    (hentries : lane.entries = orderedLaneEntries values)
    (h : buildSessionHistoryPagePlan lane = .ok plan) :
    plan.pages.map PlannedPage.key = (lanePlaces values.length).map (LanePlace.key · lane) := by
  have hlength := length_entries_of_build h
  rw [hentries, length_orderedLaneEntries] at hlength
  have hsorted : sortByKey lane.entries = orderedLaneEntries values := by
    rw [hentries]
    exact sortByKey_orderedLaneEntries hdigits (hlength.trans (by decide))
  by_cases hne : sortByKey lane.entries = []
  · rw [empty_of_build h hne]
    have hempty := length_orderedLaneEntries values
    rw [← hsorted, hne] at hempty
    rw [← hempty]
    rfl
  · obtain ⟨leaves, refs, hleaves, hbranches, -⟩ := exists_leaves_of_build h hne
    have hsize : 0 < SESSION_HISTORY_LEAF_MAX_ENTRIES := by decide
    have hpages := forall₂_of_mapM_eq_ok hleaves
    rw [zipIdx_slices, forall₂_map_left_iff, hsorted, length_orderedLaneEntries] at hpages
    obtain ⟨hkeys, hspans⟩ := level_of_leaves hpages
    rw [keys_of_planBranches hsize hspans hbranches, hkeys, lanePlaces, map_append]

end RevAgent.Gateway
