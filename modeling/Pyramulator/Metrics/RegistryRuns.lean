import Pyramulator.Data.Dict
import Pyramulator.Metrics.Registry

namespace Pyramulator

/-! The shared statistics behave like a store for each memory. -/

namespace StatsOp

/-- The operation is not about the memory. The reset of the module is about the only
memory that is alive. -/
def Elsewhere (number : Nat) : StatsOp → Prop
  | .construct other .. => other ≠ number
  | .destroy other => other ≠ number
  | .work other _ => other ≠ number
  | .resetStats other => other ≠ number
  | .moduleResetStats => False
  | .getStats _ => True
  | .moduleGetStats => True

end StatsOp

namespace StatsStore

variable {reset : Stat → Stat} {store : StatsStore} {number : Nat}
  {own : List RegisteredStat}

theorem lookup_update {other : Nat} (differ : other ≠ number) (change : Nat → Stat → Stat)
    (owned : store.owned.lookup number = some own) :
    (store.update other change).owned.lookup number = some own := by
  rw [← owned]
  change (store.owned.map fun entry =>
    if entry.1 = other then (entry.1, changed change entry.2) else entry).lookup number =
      _
  induction store.owned with
  | nil => rfl
  | cons entry rest induction =>
      rw [List.map_cons, Dict.lookup_cons, Dict.lookup_cons, induction]
      split <;> rename_i here
      · rw [here, if_neg differ.symm, if_neg differ.symm]
      · rfl

theorem lookup_filter {other : Nat} (differ : other ≠ number)
    (owned : store.owned.lookup number = some own) :
    (store.owned.filter fun entry => entry.1 ≠ other).lookup number = some own := by
  rw [← owned]
  induction store.owned with
  | nil => rfl
  | cons entry rest induction =>
      rw [List.filter_cons, Dict.lookup_cons]
      by_cases here : entry.1 = other
      · rw [if_neg (by simp [here]), here, if_neg differ.symm, induction]
      · rw [if_pos (by simp [here]), Dict.lookup_cons, induction]

theorem lookup_exec {op : StatsOp} (elsewhere : op.Elsewhere number)
    (owned : store.owned.lookup number = some own) :
    (store.exec reset op).2.owned.lookup number = some own := by
  cases op with
  | construct other standard registered construction =>
      simp only [exec]
      split
      · cases construction with
        | made =>
            change (store.owned ++ _).lookup number = _
            rw [List.lookup_append, owned, Option.some_or]
        | thrown => exact owned
      · exact owned
  | destroy other => exact lookup_filter elsewhere owned
  | work other change => exact lookup_update elsewhere change owned
  | getStats other =>
      simp only [exec, onLive]
      split <;> exact owned
  | resetStats other => exact lookup_update elsewhere (fun _ => reset) owned
  | moduleGetStats =>
      simp only [exec, onSole]
      split <;> exact owned
  | moduleResetStats => exact elsewhere.elim

theorem lookup_run {ops : List StatsOp} (elsewhere : ∀ op ∈ ops, op.Elsewhere number)
    (owned : store.owned.lookup number = some own) :
    (Transition.run (step reset) store ops).owned.lookup number = some own := by
  induction ops generalizing store with
  | nil => exact owned
  | cons op rest induction =>
      exact induction
        (fun later member => elsewhere later (List.mem_cons_of_mem _ member))
        (lookup_exec (elsewhere op List.mem_cons_self) owned)

end StatsStore

structure StatsEntry where
  number : Nat
  owner : StatsOwner
  own : List RegisteredStat

theorem StatsProcess.resetEach_eq (reset : Stat → Stat) (own : List RegisteredStat)
    {heap : Nat → Option Stat} (nodup : (own.reduceOption.map Prod.fst).Nodup)
    (held : ∀ object ∈ own.reduceOption, heap object.1 = some object.2) :
    resetEach reset (own.map (Option.map Prod.fst)) heap =
      some fun addr => if addr ∈ own.reduceOption.map Prod.fst
        then (heap addr).map reset else heap addr := by
  induction own generalizing heap with
  | nil => rfl
  | cons registered rest induction =>
      cases registered with
      | none => exact induction nodup held
      | some object =>
          rw [List.reduceOption_cons_of_some, List.map_cons, List.nodup_cons] at nodup
          have now := held object (by simp)
          have later := @induction (Function.update heap object.1 (some (reset object.2)))
            nodup.2 fun other member => by
              rw [Function.update_of_ne, held other (by simp [member])]
              rintro same
              exact nodup.1 (same ▸ List.mem_map_of_mem member)
          rw [List.map_cons, Option.map_some, resetEach, now]
          refine later.trans (congrArg some ?_)
          funext addr
          simp only [List.reduceOption_cons_of_some, List.map_cons, List.mem_cons]
          by_cases here : addr = object.1
          · subst here
            rw [if_neg nodup.1, if_pos (.inl rfl), Function.update_self, now]
            rfl
          · simp only [Function.update_of_ne here, here, false_or]

namespace StatsEntry

structure Sound (process : StatsProcess) (entry : StatsEntry) : Prop where
  within : entry.owner.statsRange.2 ≤ process.allStats.length
  slice : process.slice entry.owner.statsRange = entry.own.map (Option.map Prod.fst)
  mem : entry.owner.mem = entry.own.reduceOption.map Prod.fst
  nodup : entry.owner.mem.Nodup
  held : ∀ object ∈ entry.own.reduceOption, process.heap object.1 = some object.2

variable {process after : StatsProcess} {entry : StatsEntry}

theorem Sound.held_of_mem (sound : entry.Sound process) {object : Nat × Stat}
    (member : some object ∈ entry.own) : process.heap object.1 = some object.2 :=
  sound.held object (List.reduceOption_mem_iff.mpr member)

theorem Sound.frame (sound : entry.Sound process)
    (grown : process.allStats <+: after.allStats)
    (same : ∀ addr ∈ entry.owner.mem, after.heap addr = process.heap addr) :
    entry.Sound after where
  within := le_trans sound.within grown.length_le
  slice := by
    obtain ⟨more, grown⟩ := grown
    rw [← sound.slice, StatsProcess.slice, StatsProcess.slice, ← grown]
    have within := sound.within
    rcases Nat.le_total entry.owner.statsRange.1 process.allStats.length with start | past
    · rw [List.drop_append_of_le_length start, List.take_append_of_le_length]
      rw [List.length_drop]
      omega
    · rw [show entry.owner.statsRange.2 - entry.owner.statsRange.1 = 0 by omega,
        List.take_zero, List.take_zero]
  mem := sound.mem
  nodup := sound.nodup
  held object member := by
    rw [same object.1 (by rw [sound.mem]; exact List.mem_map_of_mem member)]
    exact sound.held object member

theorem Sound.getStats (sound : entry.Sound process) :
    process.getStats entry.owner = some (.stats (StatsStore.export_ entry.own)) := by
  have read : ∀ own : List RegisteredStat, (∀ object, some object ∈ own →
      process.heap object.1 = some object.2) →
      (own.map (Option.map Prod.fst)).mapM (StatsProcess.deref process.heap) =
        some (own.map (Option.map Prod.snd)) := by
    intro own
    induction own with
    | nil => exact fun _ => rfl
    | cons registered rest induction =>
        intro held
        have later :=
          induction fun object member => held object (List.mem_cons_of_mem _ member)
        have now : StatsProcess.deref process.heap (registered.map Prod.fst) =
            some (registered.map Prod.snd) := by
          cases registered with
          | none => rfl
          | some object =>
              rw [Option.map_some, StatsProcess.deref, held object List.mem_cons_self]
              rfl
        rw [List.map_cons, List.mapM_cons, now, later]
        rfl
  rw [StatsProcess.getStats, sound.slice, read _ fun object => sound.held_of_mem,
    Option.map_some, List.length_map]
  rfl

theorem Sound.resetStats (sound : entry.Sound process) (reset : Stat → Stat) :
    process.resetStats reset entry.owner =
      some (process.work (fun _ => reset) entry.owner) := by
  have nodup := sound.nodup
  rw [sound.mem] at nodup
  rw [StatsProcess.resetStats, if_pos sound.within, sound.slice,
    StatsProcess.resetEach_eq reset entry.own nodup sound.held,
      Option.map_some, ← sound.mem]
  rfl

theorem Sound.work (sound : entry.Sound process) (change : Nat → Stat → Stat) :
    ({ entry with own := StatsStore.changed change entry.own } : StatsEntry).Sound
      (process.work change entry.owner) := by
  have firsts : (StatsStore.changed change entry.own).map (Option.map Prod.fst) =
      entry.own.map (Option.map Prod.fst) := by
    rw [StatsStore.changed, List.map_map]
    refine List.map_congr_left fun registered _ => ?_
    cases registered <;> rfl
  have reduced : (StatsStore.changed change entry.own).reduceOption =
      entry.own.reduceOption.map fun object => (object.1, change object.1 object.2) :=
    List.reduceOption_map
  exact
    { within := sound.within
      slice := sound.slice.trans firsts.symm
      mem := by
        rw [reduced, List.map_map]
        exact sound.mem
      nodup := sound.nodup
      held := by
        intro object member
        rw [reduced] at member
        obtain ⟨before, old, rfl⟩ := List.mem_map.mp member
        have owned : before.1 ∈ entry.owner.mem := by
          rw [sound.mem]
          exact List.mem_map_of_mem old
        change (if before.1 ∈ entry.owner.mem then (process.heap before.1).map
          (change before.1)
          else process.heap before.1) = _
        rw [if_pos owned, sound.held before old]
        rfl }

end StatsEntry

namespace StatsProcess

/-- The same memories are alive in both, and no two of them share a statistic. -/
structure Linked (process : StatsProcess) (store : StatsStore)
    (entries : List StatsEntry) :
    Prop where
  live : process.live = entries.map fun entry => (entry.number, entry.owner)
  owned : store.owned = entries.map fun entry => (entry.number, entry.own)
  distinct : (entries.map StatsEntry.number).Nodup
  sound : ∀ entry ∈ entries, entry.Sound process
  apart : ∀ entry ∈ entries, ∀ other ∈ entries, entry.number ≠ other.number →
    ∀ addr ∈ entry.owner.mem, addr ∉ other.owner.mem

variable {process : StatsProcess} {store : StatsStore} {entries : List StatsEntry}

theorem lookup_entries (entries : List StatsEntry) (number : Nat) :
    (number ∉ entries.map StatsEntry.number ∧
        (entries.map fun entry => (entry.number, entry.owner)).lookup number = none ∧
        (entries.map fun entry => (entry.number, entry.own)).lookup number = none) ∨
      ∃ entry ∈ entries, entry.number = number ∧
        (entries.map fun entry => (entry.number, entry.owner)).lookup number =
          some entry.owner ∧
        (entries.map fun entry => (entry.number, entry.own)).lookup number =
          some entry.own := by
  induction entries with
  | nil => exact .inl ⟨List.not_mem_nil, rfl, rfl⟩
  | cons first rest induction =>
      by_cases same : number = first.number
      · subst same
        exact .inr ⟨first, List.mem_cons_self, rfl, List.lookup_cons_self,
          List.lookup_cons_self⟩
      · have differs : (number == first.number) = false := beq_eq_false_iff_ne.mpr same
        simp only [List.map_cons, List.lookup_cons, differs]
        rcases induction with ⟨absent, nowhere⟩ | ⟨entry, member, found⟩
        · refine .inl ⟨?_, nowhere⟩
          rw [List.mem_cons]
          rintro (here | later)
          · exact same here
          · exact absent later
        · exact .inr ⟨entry, List.mem_cons_of_mem _ member, found⟩

theorem Linked.work (linked : Linked process store entries) {entry : StatsEntry}
    (member : entry ∈ entries) (change : Nat → Stat → Stat) :
    ∃ entries, Linked (process.work change entry.owner) (store.update entry.number change)
      entries := by
  let worked (other : StatsEntry) : StatsEntry :=
    if other.number = entry.number then
      { other with own := StatsStore.changed change other.own }
    else other
  have number (other : StatsEntry) : (worked other).number = other.number := by
    simp only [worked]
    split <;> rfl
  have owner (other : StatsEntry) : (worked other).owner = other.owner := by
    simp only [worked]
    split <;> rfl
  refine ⟨entries.map worked, ?_, ?_, ?_, ?_, ?_⟩
  · rw [List.map_map]
    refine linked.live.trans (List.map_congr_left fun other _ => ?_)
    rw [Function.comp_apply, number, owner]
  · rw [StatsStore.update, linked.owned, List.map_map, List.map_map]
    refine List.map_congr_left fun other _ => ?_
    simp only [Function.comp_apply, worked]
    split <;> rfl
  · rw [List.map_map]
    refine (List.map_congr_left fun other _ => ?_) ▸ linked.distinct
    exact (number other).symm
  · intro after member_
    obtain ⟨other, found, rfl⟩ := List.mem_map.mp member_
    by_cases same : other.number = entry.number
    · obtain rfl : other = entry :=
        List.inj_on_of_nodup_map linked.distinct found member same
      simp only [worked, if_pos]
      exact (linked.sound other found).work change
    · simp only [worked, if_neg same]
      refine (linked.sound other found).frame (List.prefix_refl _) fun addr its => ?_
      exact if_neg (linked.apart other found entry member same addr its)
  · intro one oneMember two twoMember differ
    obtain ⟨first, firstMember, rfl⟩ := List.mem_map.mp oneMember
    obtain ⟨second, secondMember, rfl⟩ := List.mem_map.mp twoMember
    rw [number, number] at differ
    rw [owner, owner]
    exact linked.apart first firstMember second secondMember differ

theorem Linked.destroy (linked : Linked process store entries) {entry : StatsEntry}
    (member : entry ∈ entries) :
    ∃ entries, Linked (process.destroy entry.number entry.owner)
      { store with owned := store.owned.filter fun other => other.1 ≠ entry.number }
      entries := by
  refine ⟨entries.filter fun other => other.number ≠ entry.number, ?_, ?_, ?_, ?_, ?_⟩
  · change process.live.filter _ = _
    rw [linked.live, List.filter_map]
    rfl
  · change store.owned.filter _ = _
    rw [linked.owned, List.filter_map]
    rfl
  · exact linked.distinct.sublist (List.filter_sublist.map _)
  · intro other found
    obtain ⟨found, differ⟩ := List.mem_filter.mp found
    refine (linked.sound other found).frame (List.prefix_refl _) fun addr its => ?_
    exact if_neg
      (linked.apart other found entry member (of_decide_eq_true differ) addr its)
  · exact fun first found second other =>
      linked.apart first (List.mem_of_mem_filter found) second
        (List.mem_of_mem_filter other)

theorem alloc_of_held {objects : List (Nat × Stat)} {heap : Nat → Option Stat}
    (unused : ∀ object ∈ objects, heap object.1 = none) {addr : Nat} {stat : Stat}
    (held : heap addr = some stat) : addr ∉ objects.map Prod.fst ∧
      alloc objects heap addr = some stat := by
  have absent : addr ∉ objects.map Prod.fst := by
    intro member
    obtain ⟨object, listed, rfl⟩ := List.mem_map.mp member
    rw [unused object listed] at held
    cases held
  refine ⟨absent, ?_⟩
  have nowhere : objects.lookup addr = none := by
    refine List.lookup_eq_none_iff.mpr fun object member => ?_
    rw [bne_iff_ne]
    rintro rfl
    exact absent (List.mem_map_of_mem member)
  rw [alloc, nowhere, Option.none_or, held]

theorem Linked.grown (linked : Linked process store entries) {objects : List (Nat × Stat)}
    (unused : ∀ object ∈ objects, process.heap object.1 = none) {after : StatsProcess}
    (heap : after.heap = alloc objects process.heap)
    (grown : process.allStats <+: after.allStats) :
    ∀ entry ∈ entries, entry.Sound after ∧
      ∀ addr ∈ entry.owner.mem, addr ∉ objects.map Prod.fst := by
  intro entry member
  have sound := linked.sound entry member
  have kept (addr : Nat) (its : addr ∈ entry.owner.mem) :
      addr ∉ objects.map Prod.fst ∧ after.heap addr = process.heap addr := by
    rw [sound.mem] at its
    obtain ⟨object, owned, rfl⟩ := List.mem_map.mp its
    have held := sound.held object owned
    obtain ⟨absent, same⟩ := alloc_of_held unused held
    exact ⟨absent, by rw [heap, same, held]⟩
  exact ⟨sound.frame grown fun addr its => (kept addr its).2, fun addr its =>
    (kept addr its).1⟩

theorem Linked.construct (linked : Linked process store entries) {number : Nat}
    {registered : List RegisteredStat} (fresh : number ∉ process.live.map Prod.fst)
    (nodup : (registered.reduceOption.map Prod.fst).Nodup)
    (unused : ∀ object ∈ registered.reduceOption, process.heap object.1 = none)
    {after : StatsProcess}
    (allStats : after.allStats = process.allStats ++ registered.map (Option.map Prod.fst))
    (heap : after.heap = alloc registered.reduceOption process.heap)
    (live : after.live = process.live ++ [(number, ⟨(process.allStats.length,
      after.allStats.length), registered.reduceOption.map Prod.fst⟩)]) :
    ∃ entries, Linked after { store with owned := store.owned ++ [(number, registered)] }
      entries := by
  have grown := linked.grown unused heap ⟨_, allStats.symm⟩
  have numbers : entries.map StatsEntry.number = process.live.map Prod.fst := by
    rw [linked.live, List.map_map]
    rfl
  let entry : StatsEntry :=
    ⟨number, ⟨(process.allStats.length, after.allStats.length),
      registered.reduceOption.map Prod.fst⟩, registered⟩
  have sound : entry.Sound after :=
    { within := le_refl _
      slice := by
        simp only [entry, slice, allStats, List.drop_left, List.length_append,
          Nat.add_sub_cancel_left, List.take_length]
      mem := rfl
      nodup
      held := by
        intro object member
        have found := Dict.lookup_of_mem nodup member
        rw [heap, alloc, found]
        rfl }
  refine ⟨entries ++ [entry], ?_, ?_, ?_, ?_, ?_⟩
  · rw [live, linked.live, List.map_append]
    rfl
  · change store.owned ++ _ = _
    rw [linked.owned, List.map_append]
    rfl
  · rw [List.map_append, numbers]
    refine List.nodup_append.mpr ⟨numbers ▸ linked.distinct, List.nodup_singleton _, ?_⟩
    intro other member _ same
    obtain rfl := List.mem_singleton.mp same
    rintro rfl
    exact fresh member
  · intro other member
    rcases List.mem_append.mp member with old | new
    · exact (grown other old).1
    · obtain rfl := List.mem_singleton.mp new
      exact sound
  · intro first one second two differ addr its
    rcases List.mem_append.mp one with old | new
    · rcases List.mem_append.mp two with old' | new'
      · exact linked.apart first old second old' differ addr its
      · obtain rfl := List.mem_singleton.mp new'
        exact (grown first old).2 addr its
    · obtain rfl := List.mem_singleton.mp new
      rcases List.mem_append.mp two with old' | new'
      · exact fun theirs => (grown second old').2 addr theirs its
      · obtain rfl := List.mem_singleton.mp new'
        exact absurd rfl differ

section

variable {reset : Stat → Stat}

theorem Linked.onLive (linked : Linked process store entries) {number : Nat}
    {method : StatsOwner → Option StatsAnswer × StatsProcess}
    {abstract_ : StatsAnswer × StatsStore}
    (absent : number ∉ entries.map StatsEntry.number →
      abstract_ = (.done, store))
    (agree : ∀ entry ∈ entries, entry.number = number →
      store.owned.lookup number = some entry.own →
      (method entry.owner).1 = some abstract_.1 ∧
        ∃ entries, Linked (method entry.owner).2 abstract_.2 entries) :
    (process.onLive number method).1 = some abstract_.1 ∧
      ∃ entries, Linked (process.onLive number method).2 abstract_.2 entries := by
  have found := lookup_entries entries number
  rw [← linked.live, ← linked.owned] at found
  rcases found with ⟨nowhere, gone, -⟩ | ⟨entry, member, numbered, live, owned⟩
  · rw [absent nowhere, StatsProcess.onLive, gone]
    exact ⟨rfl, entries, linked⟩
  · rw [StatsProcess.onLive, live]
    exact agree entry member numbered owned

theorem Linked.update_absent (linked : Linked process store entries) {number : Nat}
    (absent : number ∉ entries.map StatsEntry.number) (change : Nat → Stat → Stat) :
    store.update number change = store := by
  have kept : (store.owned.map fun entry =>
      if entry.1 = number then (entry.1, StatsStore.changed change entry.2) else entry) =
      store.owned := by
    rw [linked.owned, List.map_map]
    refine List.map_congr_left fun entry member => if_neg ?_
    rintro rfl
    exact absent (List.mem_map_of_mem member)
  rw [StatsStore.update, kept]

theorem soleLiveInstance_map {α β : Type} (f : α → β) (live : List α) :
    soleLiveInstance (live.map f) = (soleLiveInstance live).map f := by
  rcases live with _ | ⟨first, _ | ⟨second, rest⟩⟩ <;> rfl

theorem mem_of_soleLiveInstance {α : Type} {live : List α} {found : α}
    (sole : soleLiveInstance live = .ok found) : live = [found] := by
  rcases live with _ | ⟨first, _ | ⟨second, rest⟩⟩
  · cases sole
  · cases sole
    rfl
  · cases sole

theorem Linked.onSole (linked : Linked process store entries)
    {method : StatsOwner → Option StatsAnswer × StatsProcess}
    {abstract_ : Nat × List RegisteredStat → StatsAnswer × StatsStore}
    (agree : ∀ entry ∈ entries,
      (method entry.owner).1 = some (abstract_ (entry.number, entry.own)).1 ∧
        ∃ entries, Linked (method entry.owner).2 (abstract_ (entry.number, entry.own)).2
          entries) :
    (process.onSole method).1 = some (store.onSole abstract_).1 ∧
      ∃ entries, Linked (process.onSole method).2 (store.onSole abstract_).2 entries := by
  rw [StatsProcess.onSole, StatsStore.onSole, linked.live, linked.owned,
    soleLiveInstance_map, soleLiveInstance_map]
  cases sole : soleLiveInstance entries with
  | error error => exact ⟨rfl, entries, linked⟩
  | ok entry =>
      refine agree entry ?_
      rw [mem_of_soleLiveInstance sole]
      exact List.mem_cons_self

theorem Linked.exec (linked : Linked process store entries) (reset : Stat → Stat)
    {op : StatsOp} (allocates : process.Allocates op) :
    (process.exec reset op).1 = some (store.exec reset op).1 ∧
      ∃ entries, Linked (process.exec reset op).2 (store.exec reset op).2 entries := by
  cases op with
  | construct number standard registered construction =>
      obtain ⟨fresh, nodup, unused⟩ := allocates
      simp only [StatsProcess.exec, StatsProcess.construct, StatsStore.exec]
      split
      · cases construction with
        | made => exact ⟨rfl, linked.construct fresh nodup unused rfl rfl rfl⟩
        | thrown error leaked =>
            refine ⟨rfl, entries, linked.live, linked.owned, linked.distinct,
              ?_, linked.apart⟩
            exact fun entry member => (linked.grown
              (fun object left => unused object (List.mem_of_mem_filter left)) rfl
              (List.prefix_append _ _) entry member).1
      · exact ⟨rfl, entries, linked⟩
  | destroy number =>
      refine linked.onLive (fun absent => ?_) fun entry member numbered _ => ?_
      · have kept : store.owned.filter (fun entry => entry.1 ≠ number) = store.owned := by
          refine List.filter_eq_self.mpr fun entry member => ?_
          rw [linked.owned] at member
          obtain ⟨other, listed, rfl⟩ := List.mem_map.mp member
          refine decide_eq_true ?_
          rintro rfl
          exact absent (List.mem_map_of_mem listed)
        rw [StatsStore.exec, kept]
      · subst numbered
        exact ⟨rfl, linked.destroy member⟩
  | work number change =>
      refine linked.onLive (fun absent => ?_) fun entry member numbered _ => ?_
      · rw [StatsStore.exec, linked.update_absent absent]
      · subst numbered
        exact ⟨rfl, linked.work member change⟩
  | getStats number =>
      refine linked.onLive (fun absent => ?_) fun entry member numbered owned => ?_
      · have found := lookup_entries entries number
        rw [← linked.owned] at found
        rcases found with ⟨-, -, gone⟩ | ⟨entry, member, rfl, -⟩
        · rw [StatsStore.exec, StatsStore.onLive, gone]
        · exact absurd (List.mem_map_of_mem member) absent
      · rw [StatsStore.exec, StatsStore.onLive, owned]
        exact ⟨(linked.sound entry member).getStats, entries, linked⟩
  | resetStats number =>
      refine linked.onLive (fun absent => ?_) fun entry member numbered _ => ?_
      · rw [StatsStore.exec, linked.update_absent absent]
      · subst numbered
        rw [(linked.sound entry member).resetStats reset]
        exact ⟨rfl, linked.work member fun _ => reset⟩
  | moduleGetStats =>
      exact linked.onSole fun entry member =>
        ⟨(linked.sound entry member).getStats, entries, linked⟩
  | moduleResetStats =>
      refine linked.onSole fun entry member => ?_
      rw [(linked.sound entry member).resetStats reset]
      exact ⟨rfl, linked.work member fun _ => reset⟩

theorem linked_start : Linked start .start [] where
  live := rfl
  owned := rfl
  distinct := List.nodup_nil
  sound _ impossible := by cases impossible
  apart _ impossible := by cases impossible

theorem linked_run {ops : List StatsOp}
    (follows : Transition.Follows (step reset) Allocates start ops) :
    (∃ entries, Linked (Transition.run (step reset) start ops)
        (Transition.run (StatsStore.step reset) .start ops) entries) ∧
      (Transition.run (step reset) start ops).answers =
        (Transition.run (StatsStore.step reset) .start ops).answers.map some := by
  suffices extend : ∀ process store, (∃ entries, Linked process store entries) →
      process.answers = store.answers.map some →
      Transition.Follows (step reset) Allocates process ops →
      (∃ entries, Linked (Transition.run (step reset) process ops)
          (Transition.run (StatsStore.step reset) store ops) entries) ∧
        (Transition.run (step reset) process ops).answers =
          (Transition.run (StatsStore.step reset) store ops).answers.map some from
    extend start .start ⟨[], linked_start⟩ rfl follows
  clear follows
  induction ops with
  | nil => exact fun _ _ linked answers _ => ⟨linked, answers⟩
  | cons op rest induction =>
      rintro process store ⟨entries, linked⟩ answers ⟨allocates, follows⟩
      obtain ⟨answer, after, next⟩ := linked.exec reset allocates
      refine induction (process.step reset op) (store.step reset op)
        ⟨after, next.live, next.owned, next.distinct, ?_, next.apart⟩ ?_ follows
      · exact fun entry member => (next.sound entry member).frame (List.prefix_refl _)
          fun _ _ => rfl
      · change process.answers ++ [(process.exec reset op).1] =
          (store.answers ++ [(store.exec reset op).1]).map some
        rw [answer, answers, List.map_append]
        rfl

/-- Each memory finds its own statistics, none of them freed, whatever the others do and
wherever new ones are put. -/
theorem refines_store (reset : Stat → Stat) (ops : List StatsOp)
    (follows : Transition.Follows (step reset) Allocates start ops) :
    (Transition.run (step reset) start ops).answers =
      (Transition.run (StatsStore.step reset) .start ops).answers.map some :=
  (linked_run follows).2

theorem Linked.exec_getStats (linked : Linked process store entries) {number : Nat}
    {own : List RegisteredStat} (owned : store.owned.lookup number = some own) :
    (process.exec reset (.getStats number)).1 =
      some (.stats (StatsStore.export_ own)) := by
  rw [(@Linked.exec _ _ _ linked reset (.getStats number) trivial).1, StatsStore.exec,
    StatsStore.onLive, owned]

/-- Only what is done to a memory changes its statistics. -/
theorem stats_isolated (reset : Stat → Stat) (number : Nat) (before others : List StatsOp)
    (follows : Transition.Follows (step reset) Allocates start (before ++ others))
    (alive : number ∈ (Transition.run (step reset) start before).live.map Prod.fst)
    (elsewhere : ∀ op ∈ others, op.Elsewhere number) :
    ∃ dict,
      ((Transition.run (step reset) start before).exec reset (.getStats number)).1 =
          some (.stats dict) ∧
        ((Transition.run (step reset) start (before ++ others)).exec reset
          (.getStats number)).1 = some (.stats dict) := by
  obtain ⟨entries, first⟩ := (linked_run (follows.begun (List.prefix_append _ _))).1
  obtain ⟨later, second⟩ := (linked_run follows).1
  have found := lookup_entries entries number
  rw [← first.owned] at found
  rcases found with ⟨absent, -⟩ | ⟨entry, -, -, -, owned⟩
  · rw [first.live, List.map_map] at alive
    exact absurd alive absent
  · refine ⟨StatsStore.export_ entry.own, first.exec_getStats owned,
      second.exec_getStats ?_⟩
    rw [Transition.run_append]
    exact StatsStore.lookup_run elsewhere owned

end

/-! ### A run -/

def counter (value : ℚ) : Stat := ⟨"ramulator.read_requests", .scalar value⟩

def reusedAddress : List StatsOp :=
  [.construct 0 "DDR4" [some (10, counter 0), none] .made, .work 0 fun _ _ => counter 5,
    .destroy 0, .construct 1 "HBM" [some (10, counter 0)] .made,
      .work 1 fun _ _ => counter 7]

def besides : List StatsOp :=
  [.construct 2 "DDR3" [none, some (11, counter 0)] .made, .work 2 fun _ _ => counter 9,
    .moduleGetStats, .resetStats 2, .getStats 1]

theorem besides_follows :
    Transition.Follows (step fun _ => counter 0) Allocates start
      (reusedAddress ++ besides) := by
  refine ⟨⟨?_, ?_, ?_⟩, trivial, trivial, ⟨?_, ?_, ?_⟩, trivial, ⟨?_, ?_, ?_⟩,
    trivial, trivial, trivial, trivial, trivial⟩ <;> decide +kernel

theorem refines_store_besides :
    (Transition.run (step fun _ => counter 0) start (reusedAddress ++ besides)).answers =
      (Transition.run (StatsStore.step fun _ => counter 0) .start
        (reusedAddress ++ besides)).answers.map some :=
  refines_store _ _ besides_follows

theorem stats_isolated_besides :
    ∃ dict,
      ((Transition.run (step fun _ => counter 0) start reusedAddress).exec
        (fun _ => counter 0)
          (.getStats 1)).1 = some (.stats dict) ∧
        ((Transition.run (step fun _ => counter 0) start (reusedAddress ++ besides)).exec
          (fun _ => counter 0) (.getStats 1)).1 = some (.stats dict) := by
  refine stats_isolated _ 1 reusedAddress besides besides_follows (by decide +kernel) ?_
  intro op member
  simp only [besides, List.mem_cons, List.not_mem_nil, or_false] at member
  rcases member with rfl | rfl | rfl | rfl | rfl
  · exact Nat.succ_ne_self 1
  · exact Nat.succ_ne_self 1
  · trivial
  · exact Nat.succ_ne_self 1
  · trivial

end StatsProcess

end Pyramulator
