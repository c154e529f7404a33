import Pyramulator.Memory.DriveLoop
import Pyramulator.Memory.Traffic

namespace Pyramulator

/-! What one drive does when no request of an earlier one is in flight. -/

def CppCallback.isOf {π : Type} (drive : Nat) : CppCallback π → Bool
  | .driven other _ => other == drive
  | _ => false

namespace Drive

variable {π : Type} {engine : Engine (CppCallback π)}

def counted (wire : List (Wire (CppCallback π))) :
    List (Served (CppCallback π)) :=
  (Wire.served wire).filter fun served => served.request.callback.isDriven

@[simp] theorem counted_append (first second : List (Wire (CppCallback π))) :
    counted (first ++ second) = counted first ++ counted second := by
  simp [counted]

section Loops

variable (ledger : engine.Ledger) (start : PyMemorySystem engine)
  (request : Nat → Request (CppCallback π)) (total queueDepth maxCycles : Int)

/-- The invariant of the loops: `segment` passed since the drive began. -/
structure Driving (drive : Drive engine)
    (segment : List (Wire (CppCallback π))) : Prop where
  effect : PyMemorySystem.Effect ledger start drive.sys segment
  ticks : Wire.ticks segment = drive.cycles
  issued : Wire.accepted segment = (List.range drive.issued).map request
  within : drive.issued ≤ total.toNat
  inTime : drive.cycles ≤ maxCycles.toNat
  bounded : ∀ moment, moment <+: segment →
    ((Wire.accepted moment).length : Int) ≤ (counted moment).length + queueDepth

variable {ledger start request total queueDepth maxCycles}
  {drive : Drive engine} {segment : List (Wire (CppCallback π))}

namespace Driving

theorem inFlight_eq
    (driving : Driving ledger start request total queueDepth maxCycles drive segment)
    (zero : start.completedCount = 0) :
    drive.inFlight = drive.issued - (counted segment).length := by
  rw [inFlight, driving.effect.count, zero, counted, List.countP_eq_length_filter]
  omega

theorem extend {after : Drive engine} {passed : Wire (CppCallback π)}
    (driving : Driving ledger start request total queueDepth maxCycles drive segment)
    (effect : PyMemorySystem.Effect ledger drive.sys after.sys [passed])
    (ticks : drive.cycles + Wire.ticks [passed] = after.cycles)
    (issued : (List.range drive.issued).map request ++ Wire.accepted [passed] =
      (List.range after.issued).map request)
    (within : after.issued ≤ total.toNat) (inTime : after.cycles ≤ maxCycles.toNat)
    (bounded : ((Wire.accepted (segment ++ [passed])).length : Int) ≤
      (counted (segment ++ [passed])).length + queueDepth) :
    Driving ledger start request total queueDepth maxCycles after
      (segment ++ [passed]) where
  effect := driving.effect.trans effect
  ticks := by rw [Wire.ticks_append, driving.ticks, ticks]
  issued := by rw [Wire.accepted_append, driving.issued, issued]
  within := within
  inTime := inTime
  bounded := by
    intro moment begun
    rcases List.prefix_concat_iff.mp begun with rfl | earlier
    · exact bounded
    · exact driving.bounded moment earlier

theorem tick
    (driving : Driving ledger start request total queueDepth maxCycles drive segment)
    (time : drive.cycles < maxCycles) :
    Driving ledger start request total queueDepth maxCycles drive.tick
      (segment ++ [.ticked (engine.tick drive.sys.mem).1]) := by
  refine driving.extend (PyMemorySystem.tick_effect ledger drive.sys) rfl
    (by simp [Drive.tick]) driving.within ?_ ?_
  · simp only [Drive.tick]
    omega
  · have bounded := driving.bounded segment (List.prefix_refl _)
    rw [Wire.accepted_append, Wire.accepted_ticked, counted_append]
    simp only [List.append_nil, List.length_append]
    omega

theorem stay
    (driving : Driving ledger start request total queueDepth maxCycles drive segment) :
    ∃ passed, Driving ledger start request total queueDepth maxCycles drive
      (segment ++ passed) :=
  ⟨[], by rwa [List.append_nil]⟩

theorem fill (zero : start.completedCount = 0) (left : Nat)
    (driving : Driving ledger start request total queueDepth maxCycles drive segment)
    (more : drive.issued + left ≤ total.toNat) :
    ∃ passed, Driving ledger start request total queueDepth maxCycles
      (drive.fill request queueDepth left) (segment ++ passed) := by
  induction left generalizing drive segment with
  | zero => exact driving.stay
  | succ left induction =>
      unfold Drive.fill
      split
      · rename_i free
        rw [driving.inFlight_eq zero] at free
        have effect := PyMemorySystem.sendRequest_effect ledger drive.sys
          (request drive.issued)
        have bounded := driving.bounded segment (List.prefix_refl _)
        have length : (Wire.accepted segment).length = drive.issued := by
          simp [driving.issued]
        generalize answered : drive.sys.sendRequest (request drive.issued) =
          answer at effect
        rcases answer with ⟨accepted, sys⟩
        cases accepted with
        | true =>
            have next : Driving ledger start request total queueDepth maxCycles
                { drive with sys, issued := drive.issued + 1 }
                (segment ++ [.sent (request drive.issued) true]) := by
              refine driving.extend effect (by simp) ?_ (by simp only; omega)
                driving.inTime ?_
              · simp [List.range_succ]
              · rw [Wire.accepted_append, counted_append]
                simp [counted] at free ⊢
                omega
            obtain ⟨passed, filled⟩ := induction next (by simp only; omega)
            exact ⟨_, by rw [← List.append_assoc]; exact filled⟩
        | false =>
            refine ⟨[.sent (request drive.issued) false], ?_⟩
            refine driving.extend effect (by simp) (by simp) driving.within
              driving.inTime ?_
            rw [Wire.accepted_append, counted_append]
            simpa [counted] using bounded
      · exact driving.stay

theorem tickBatch (left : Nat)
    (driving : Driving ledger start request total queueDepth maxCycles drive segment) :
    ∃ passed, Driving ledger start request total queueDepth maxCycles
      (drive.tickBatch total maxCycles left) (segment ++ passed) := by
  induction left generalizing drive segment with
  | zero => exact driving.stay
  | succ left induction =>
      unfold Drive.tickBatch
      split
      · rename_i guard
        obtain ⟨passed, batched⟩ := induction (driving.tick guard.2)
        exact ⟨_, by rw [← List.append_assoc]; exact batched⟩
      · exact driving.stay

theorem rounds (zero : start.completedCount = 0) {batch : Int}
    (positive : 1 ≤ batch)
    (driving : Driving ledger start request total queueDepth maxCycles drive segment) :
    ∃ passed, Driving ledger start request total queueDepth maxCycles
      (drive.rounds request total queueDepth batch maxCycles positive)
      (segment ++ passed) := by
  fun_induction Drive.rounds generalizing segment with
  | case1 drive guard induction =>
      obtain ⟨first, filled⟩ := driving.fill zero (total - drive.issued).toNat
        (by have := guard.1; omega)
      obtain ⟨second, batched⟩ := filled.tickBatch batch.toNat
      obtain ⟨passed, ended⟩ := induction batched
      exact ⟨first ++ (second ++ passed), by simpa using ended⟩
  | case2 drive guard => exact driving.stay

theorem rounds_exit {batch : Int} (positive : 1 ≤ batch) :
    ¬ (((drive.rounds request total queueDepth batch maxCycles positive).issued : Int)
        < total ∧
      ((drive.rounds request total queueDepth batch maxCycles positive).cycles : Int)
        < maxCycles) := by
  fun_induction Drive.rounds with
  | case1 drive guard induction => exact induction
  | case2 drive guard => exact guard

theorem drain (left : Nat)
    (driving : Driving ledger start request total queueDepth maxCycles drive segment)
    (time : left ≤ (maxCycles - drive.cycles).toNat) :
    ∃ passed, Driving ledger start request total queueDepth maxCycles
      (drive.drain left) (segment ++ passed) := by
  induction left generalizing drive segment with
  | zero => exact driving.stay
  | succ left induction =>
      unfold Drive.drain
      split
      · obtain ⟨passed, drained⟩ := induction (driving.tick (by omega)) (by
          simp only [Drive.tick]
          omega)
        exact ⟨_, by rw [← List.append_assoc]; exact drained⟩
      · exact driving.stay

end Driving

theorem drain_issued (drive : Drive engine) (left : Nat) :
    (drive.drain left).issued = drive.issued := by
  induction left generalizing drive with
  | zero => rfl
  | succ left induction =>
      unfold drain
      split
      · exact induction drive.tick
      · rfl

theorem drain_cycles_le (drive : Drive engine) (left : Nat) :
    drive.cycles ≤ (drive.drain left).cycles := by
  induction left generalizing drive with
  | zero => exact Nat.le_refl _
  | succ left induction =>
      unfold drain
      split
      · have := induction drive.tick
        simp only [tick] at this ⊢
        omega
      · exact Nat.le_refl _

theorem drain_exit (drive : Drive engine) (left : Nat) :
    (drive.drain left).inFlight ≤ 0 ∨
      (drive.drain left).cycles = drive.cycles + left := by
  induction left generalizing drive with
  | zero => exact .inr rfl
  | succ left induction =>
      unfold drain
      split
      · rcases induction drive.tick with empty | late
        · exact .inl empty
        · refine .inr ?_
          rw [late]
          simp only [tick]
          omega
      · rename_i empty
        exact .inl (by omega)

end Loops

end Drive

namespace PyMemorySystem

variable {π : Type} {engine : Engine (CppCallback π)}

/-- What `drive` promises of a call with `total` addresses: `segment` passed
between the wrapper and the engine, and the completions `events` were handed to
the caller. -/
structure DriveSpec (sys : PyMemorySystem engine) (addr : Nat → Int)
    (total queueDepth maxCycles : Int) (callback : Option π)
    (segment : List (Wire (CppCallback π))) (cycles issued : Nat)
    (events : List (CompletionEvent π)) : Prop where
  ticks : Wire.ticks segment = cycles
  inTime : cycles ≤ max 0 maxCycles
  /-- A prefix of the addresses was issued, in order and each once. -/
  sends : Wire.accepted segment =
    (List.range issued).map (sys.driveRequest addr callback)
  within : issued ≤ total.toNat
  /-- At no moment were more of the drive's requests in flight. -/
  bounded : ∀ moment, moment <+: segment →
    ((Wire.accepted moment).length : Int) ≤
      ((Wire.served moment).filter fun served =>
        served.request.callback.isOf sys.drives).length + queueDepth
  drained : cycles < maxCycles → issued = total.toNat ∧
    (((Wire.served segment).filter fun served =>
      served.request.callback.isOf sys.drives).map Served.request).Perm
        (Wire.accepted segment)
  reported : events =
    sys.completed ++ (Wire.served segment).filterMap Served.recorded
  own : ∀ served ∈ Wire.served segment,
    served.request.callback.isOf sys.drives = true →
      served.request ∈ Wire.accepted segment

section Spec

variable {ledger : engine.Ledger} {sys : PyMemorySystem engine}
  {addr : Nat → Int} {total queueDepth maxCycles : Int} {callback : Option π}
  {drive : Drive engine} {segment : List (Wire (CppCallback π))}

def NoLeftover (ledger : engine.Ledger) (sys : PyMemorySystem engine) : Prop :=
  ∀ request ∈ ledger.reads sys.mem, request.callback.isDriven = false

theorem driving_balance
    (driving : Drive.Driving ledger sys.driveStart.sys
      (sys.driveRequest addr callback) total queueDepth maxCycles drive segment)
    (noLeftover : sys.NoLeftover ledger) :
    (Wire.accepted segment : Multiset (Request (CppCallback π))) =
      ((Drive.counted segment).map Served.request :
        Multiset (Request (CppCallback π))) +
      (ledger.reads drive.sys.mem).filter fun request =>
        request.callback.isDriven := by
  have reads := congrArg (Multiset.filter fun request =>
    request.callback.isDriven = true) driving.effect.reads
  rw [Multiset.filter_add, Multiset.filter_add, Multiset.filter_coe,
    Multiset.filter_coe] at reads
  have before : Multiset.filter (fun request => request.callback.isDriven = true)
      (ledger.reads sys.driveStart.sys.mem) = 0 := by
    refine Multiset.filter_eq_nil.mpr fun request member => ?_
    simp [noLeftover request member]
  have sends : ((Wire.accepted segment).filter fun request =>
      request.type = .read).filter (fun request => request.callback.isDriven) =
        Wire.accepted segment := by
    rw [List.filter_filter, List.filter_eq_self, driving.issued]
    intro request member
    obtain ⟨index, -, rfl⟩ := List.mem_map.mp member
    rfl
  have counted : ((Wire.served segment).map Served.request).filter
      (fun request => request.callback.isDriven) =
        (Drive.counted segment).map Served.request := by
    rw [List.filter_map]
    rfl
  simp only [Bool.decide_eq_true] at reads
  rw [before, zero_add, sends, counted] at reads
  exact reads

theorem counted_issued
    (driving : Drive.Driving ledger sys.driveStart.sys
      (sys.driveRequest addr callback) total queueDepth maxCycles drive segment)
    (noLeftover : sys.NoLeftover ledger) {served : Served (CppCallback π)}
    (member : served ∈ Wire.served segment)
    (driven : served.request.callback.isDriven = true) :
    served.request ∈ Wire.accepted segment := by
  rw [← Multiset.mem_coe, driving_balance driving noLeftover]
  refine Multiset.mem_add.mpr (.inl (Multiset.mem_coe.mpr ?_))
  exact List.mem_map_of_mem (List.mem_filter.mpr ⟨member, driven⟩)

theorem isDriven_of_isOf {callback : CppCallback π} {drive : Nat}
    (own : callback.isOf drive = true) : callback.isDriven = true := by
  cases callback with
  | driven => rfl
  | ignore => cases own
  | record => cases own

theorem counted_own
    (driving : Drive.Driving ledger sys.driveStart.sys
      (sys.driveRequest addr callback) total queueDepth maxCycles drive segment)
    (noLeftover : sys.NoLeftover ledger) {moment : List (Wire (CppCallback π))}
    (begun : moment <+: segment) :
    ((Wire.served moment).filter fun served =>
      served.request.callback.isOf sys.drives) = Drive.counted moment := by
  refine List.filter_congr fun served member => ?_
  rw [Bool.eq_iff_iff]
  constructor
  · exact isDriven_of_isOf
  · intro driven
    obtain ⟨rest, rfl⟩ := begun
    have known := counted_issued driving noLeftover (by
      rw [Wire.served_append]
      exact List.mem_append_left _ member) driven
    rw [driving.issued] at known
    obtain ⟨index, -, same⟩ := List.mem_map.mp known
    rw [← same]
    simp [driveRequest, CppCallback.isOf]

theorem served_perm
    (driving : Drive.Driving ledger sys.driveStart.sys
      (sys.driveRequest addr callback) total queueDepth maxCycles drive segment)
    (noLeftover : sys.NoLeftover ledger) (empty : drive.inFlight ≤ 0) :
    (((Wire.served segment).filter fun served =>
      served.request.callback.isOf sys.drives).map Served.request).Perm
        (Wire.accepted segment) := by
  rw [counted_own driving noLeftover (List.prefix_refl _)]
  have balance := driving_balance driving noLeftover
  have size := congrArg Multiset.card balance
  rw [Multiset.card_add, Multiset.coe_card, Multiset.coe_card, List.length_map,
    driving.issued, List.length_map, List.length_range] at size
  rw [driving.inFlight_eq rfl] at empty
  have noReads : (ledger.reads drive.sys.mem).filter
      (fun request => request.callback.isDriven = true) = 0 :=
    Multiset.card_eq_zero.mp (by omega)
  rw [noReads, add_zero] at balance
  exact (Multiset.coe_eq_coe.mp balance).symm

theorem driveLoop_fresh (ledger : engine.Ledger) (sys : PyMemorySystem engine)
    (addr : Nat → Int) (total : Int) {queueDepth batch : Int} (maxCycles : Int)
    (callback : Option π) (noLeftover : sys.NoLeftover ledger)
    (depth : 1 ≤ queueDepth) (positive : 1 ≤ batch) :
    ∃ segment cycles issued events after,
      sys.driveLoop addr total queueDepth batch maxCycles callback =
        (.ok (cycles, issued, events), after) ∧
      after.wire = sys.wire ++ segment ∧ after.completed = [] ∧
      after.drives = sys.drives + 1 ∧
      sys.DriveSpec addr total queueDepth maxCycles callback segment cycles issued
        events := by
  let drive := sys.driveLoops addr total queueDepth batch maxCycles positive callback
  have begun : Drive.Driving ledger sys.driveStart.sys
      (sys.driveRequest addr callback) total queueDepth maxCycles sys.driveStart [] :=
    { effect := .refl _
      ticks := rfl
      issued := rfl
      within := Nat.zero_le _
      inTime := Nat.zero_le _
      bounded := by
        intro moment begun
        rw [List.prefix_nil.mp begun]
        simp only [Wire.accepted_nil, List.length_nil]
        omega }
  obtain ⟨first, issuing⟩ := begun.rounds rfl positive
  obtain ⟨second, driving⟩ := issuing.drain _ (le_refl _)
  change Drive.Driving _ _ _ _ _ _ drive ([] ++ first ++ second) at driving
  generalize [] ++ first ++ second = segment at driving
  refine ⟨segment, drive.cycles, drive.issued, drive.sys.completed,
    { drive.sys with completed := [] }, ?_, driving.effect.wire, rfl,
    driving.effect.drives, ?_⟩
  · unfold driveLoop
    rw [if_neg (by omega), dif_neg (by omega)]
    rfl
  · exact
      { ticks := driving.ticks
        inTime := by have := driving.inTime; omega
        sends := driving.issued
        within := driving.within
        bounded := by
          intro moment begun
          rw [counted_own driving noLeftover begun]
          exact driving.bounded moment begun
        drained := by
          intro early
          let issuing := sys.driveStart.rounds (sys.driveRequest addr callback) total
            queueDepth batch maxCycles positive
          have same : drive.issued = issuing.issued := Drive.drain_issued _ _
          have later : issuing.cycles ≤ drive.cycles := Drive.drain_cycles_le _ _
          have all : ¬ ((issuing.issued : Int) < total ∧
            (issuing.cycles : Int) < maxCycles) := Drive.Driving.rounds_exit positive
          have within := driving.within
          have exit : drive.inFlight ≤ 0 ∨ drive.cycles = issuing.cycles +
            (maxCycles - issuing.cycles).toNat := Drive.drain_exit _ _
          refine ⟨by omega, served_perm driving noLeftover ?_⟩
          omega
        reported := driving.effect.completed
        own := fun served member named =>
          counted_issued driving noLeftover member (isDriven_of_isOf named) }

theorem driveLoop_idle (sys : PyMemorySystem engine) (addr : Nat → Int)
    {total queueDepth batch maxCycles : Int} (callback : Option π)
    (depth : 1 ≤ queueDepth) (positive : 1 ≤ batch)
    (idle : ¬ (1 ≤ total ∧ 1 ≤ maxCycles)) :
    ∃ segment cycles issued events after,
      sys.driveLoop addr total queueDepth batch maxCycles callback =
        (.ok (cycles, issued, events), after) ∧
      after.wire = sys.wire ++ segment ∧ after.completed = [] ∧
      after.drives = sys.drives + 1 ∧
      sys.DriveSpec addr total queueDepth maxCycles callback segment cycles issued
        events := by
  have rounds : sys.driveStart.rounds (sys.driveRequest addr callback) total
      queueDepth batch maxCycles positive = sys.driveStart := by
    rw [Drive.rounds, dif_neg]
    simp only [driveStart]
    omega
  have drained (left : Nat) : sys.driveStart.drain left = sys.driveStart := by
    cases left with
    | zero => rfl
    | succ left =>
        rw [Drive.drain, if_neg]
        simp [Drive.inFlight, driveStart]
  have loops : sys.driveLoops addr total queueDepth batch maxCycles positive
      callback = sys.driveStart := by
    simp only [driveLoops, rounds, drained]
  refine ⟨[], 0, 0, sys.completed,
    { sys with completed := [], completedCount := 0, drives := sys.drives + 1 },
    ?_, by simp, rfl, rfl, ?_⟩
  · unfold driveLoop
    rw [if_neg (by omega), dif_neg (by omega), loops]
    rfl
  · exact
      { ticks := rfl
        inTime := by simp
        sends := rfl
        within := Nat.zero_le _
        bounded := by
          intro moment begun
          rw [List.prefix_nil.mp begun]
          simp only [Wire.accepted_nil, List.length_nil]
          omega
        drained := fun early => ⟨by omega, by simp⟩
        reported := by simp
        own := by simp }

/-- A drive keeps its promises when no request of an earlier drive is in flight
or it has nothing to do. -/
theorem driveLoop_spec (ledger : engine.Ledger) (sys : PyMemorySystem engine)
    (addr : Nat → Int) {total queueDepth batch maxCycles : Int}
    (callback : Option π)
    (noLeftover : 1 ≤ total → 1 ≤ maxCycles → sys.NoLeftover ledger)
    (depth : 1 ≤ queueDepth) (positive : 1 ≤ batch) :
    ∃ segment cycles issued events after,
      sys.driveLoop addr total queueDepth batch maxCycles callback =
        (.ok (cycles, issued, events), after) ∧
      after.wire = sys.wire ++ segment ∧ after.completed = [] ∧
      after.drives = sys.drives + 1 ∧
      sys.DriveSpec addr total queueDepth maxCycles callback segment cycles issued
        events := by
  by_cases active : 1 ≤ total ∧ 1 ≤ maxCycles
  · exact driveLoop_fresh ledger sys addr total maxCycles callback
      (noLeftover active.1 active.2) depth positive
  · exact driveLoop_idle sys addr callback depth positive active

end Spec

end PyMemorySystem

end Pyramulator
