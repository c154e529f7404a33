import Pyramulator.Memory.Balance

namespace Pyramulator

/-! A session under observation: what is noted of the methods in progress, and of the
calls that ended. -/

/-- What is noted of a frame: the number of invocations before it, and the exceptions
that reached it. -/
structure Note where
  begun : Nat
  raised : List PyError

variable {γ : Type}

/-- A call that ended, with what was invoked while it was in progress, the exceptions
of its callbacks, and what was lost when it ended. -/
structure Finished (engine : Engine (CppCallback (ReadWrap γ))) where
  call : MemoryCall engine
  during : List (γ × RequestInfo)
  raised : List PyError
  result : Except PyError MemoryValue
  lost : List (Answer γ)

structure Watched (engine : Engine (CppCallback (ReadWrap γ))) where
  session : Session engine
  notes : List Note
  finished : List (Finished engine)

variable {engine : Engine (CppCallback (ReadWrap γ))}

namespace Watched

def create (mem : MemorySystem engine) : Watched engine := ⟨.create mem, [], []⟩

def marked (watched : Watched engine) (decision : MemoryDecision γ) : List Note :=
  match watched.session.stack, decision, watched.notes with
  | .user _ _ :: _, .raise error, user :: note :: below =>
      user :: { note with raised := note.raised ++ [error] } :: below
  | _, _, notes => notes

def finish (after : Session engine) (note : Note) (lost : List (Answer γ))
    (entry : Session.Ended engine) : Finished engine :=
  ⟨entry.1, after.invocations.drop note.begun, note.raised, entry.2.2, lost⟩

/-- A step of the session: frames that are gone take their notes with them, and new
ones get new notes. -/
def advance [DecidableEq γ] (watched : Watched engine) (decision : MemoryDecision γ) :
    Watched engine :=
  let before := watched.session
  let after := before.advance decision
  let new : Note := ⟨before.invocations.length, []⟩
  let notes := watched.marked decision
  let gone := before.stack.length - after.stack.length
  let note := (notes.take gone).getLast?.getD new
  { session := after
    notes := List.replicate (after.stack.length - before.stack.length) new ++
      notes.drop gone
    finished := watched.finished ++
      (after.ended.drop before.ended.length).map
        (finish after note (before.lost decision)) }

theorem run_session [DecidableEq γ] (watched : Watched engine)
    (decisions : List (MemoryDecision γ)) :
    (Transition.run advance watched decisions).session =
      Transition.run Session.advance watched.session decisions := by
  induction decisions generalizing watched with
  | nil => rfl
  | cons decision rest induction => exact induction (watched.advance decision)

section

variable [DecidableEq γ] {watched : Watched engine} {decision : MemoryDecision γ}
  {after : Session engine}

theorem advance_pushed (step : watched.session.advance decision = after)
    (length : after.stack.length = watched.session.stack.length + 1)
    (ended : after.ended = watched.session.ended) :
    watched.advance decision =
      ⟨after, ⟨watched.session.invocations.length, []⟩ :: watched.marked decision,
        watched.finished⟩ := by
  simp [advance, step, length, ended]

theorem advance_level (step : watched.session.advance decision = after)
    (length : after.stack.length = watched.session.stack.length)
    (entries : List (Session.Ended engine))
    (ended : after.ended = watched.session.ended ++ entries) :
    watched.advance decision =
      ⟨after, watched.marked decision, watched.finished ++
        entries.map (finish after ⟨watched.session.invocations.length, []⟩
          (watched.session.lost decision))⟩ := by
  simp [advance, step, length, ended]

theorem advance_popped (step : watched.session.advance decision = after)
    (length : watched.session.stack.length = after.stack.length + 1) {note : Note}
    {notes : List Note} (marked : watched.marked decision = note :: notes)
    (entries : List (Session.Ended engine))
    (ended : after.ended = watched.session.ended ++ entries) :
    watched.advance decision =
      ⟨after, notes, watched.finished ++
        entries.map (finish after note (watched.session.lost decision))⟩ := by
  simp [advance, step, length, ended, marked]

theorem advance_thrown (step : watched.session.advance decision = after)
    (length : watched.session.stack.length = after.stack.length + 2) {user note : Note}
    {notes : List Note} (marked : watched.marked decision = user :: note :: notes)
    (entries : List (Session.Ended engine))
    (ended : after.ended = watched.session.ended ++ entries) :
    watched.advance decision =
      ⟨after, notes, watched.finished ++
        entries.map (finish after note (watched.session.lost decision))⟩ := by
  have gone : watched.session.stack.length - after.stack.length = 2 := by omega
  have new : after.stack.length - watched.session.stack.length = 0 := by omega
  simp [advance, step, gone, new, ended, marked]

end

end Watched

/-! ## What holds in every run -/

def writeAnswers (callback : γ) (coreId : Int) (addrs : List Int) : List (Answer γ) :=
  addrs.map fun addr => ⟨callback, addr, .write, coreId⟩

def Note.since (note : Note) (past : Session.Past γ) : Session.Past γ :=
  past.drop note.begun

/-- What a method in progress invoked is noted, and so is the first exception. -/
def MemoryFrame.Noted (past : Session.Past γ) (frame : MemoryFrame engine) (note : Note) :
    Prop :=
  note.begun ≤ past.length ∧
    match frame with
    | .dispatch call sent rest firstExc ending =>
        call.begun = .dispatch (sent ++ rest) ending ∧
          (sent.map Session.invocation).Sublist (note.since past) ∧
            firstExc = note.raised.head?
    | .writes call rest coreId callback value =>
        ∃ done, call.begun = .writes (done ++ rest) coreId callback value ∧
          (writeAnswers callback coreId done).Sublist
            ((note.since past).map Answer.told) ∧
            note.raised = []
    | .user _ _ => True

inductive Notes (past : Session.Past γ) : List (MemoryFrame engine) → List Note → Prop
  | nil : Notes past [] []
  | cons {frame : MemoryFrame engine} {note : Note} {frames : List (MemoryFrame engine)}
      {notes : List Note} (head : frame.Noted past note)
        (tail : Notes past frames notes) :
      Notes past (frame :: frames) (note :: notes)

/-- A call that ended told all that it dispatched while it was in progress, and it
raised the first exception of its callbacks. What was lost are the writes that it has
not told, or, for a call without callbacks of its own, what it left unanswered. -/
structure Finished.Kept (finished : Finished engine) : Prop where
  dispatch : ∀ events ending, finished.call.begun = .dispatch events ending →
    (events.map Session.invocation).Sublist finished.during ∧
      finished.result = finished.raised.head?.elim (.ok ending.result) .error
  writes : ∀ addrs coreId callback value,
    finished.call.begun = .writes addrs coreId callback value →
      ∃ done rest, addrs = done ++ rest ∧
        (writeAnswers callback coreId done).Sublist (finished.during.map Answer.told) ∧
          finished.lost = writeAnswers callback coreId rest ∧
            finished.result = finished.raised.head?.elim (.ok value) .error
  silent : (∀ events ending, finished.call.begun ≠ .dispatch events ending) →
    (∀ addrs coreId callback value,
      finished.call.begun ≠ .writes addrs coreId callback value) →
        finished.lost = finished.call.unanswered

structure Watched.Sound (watched : Watched engine) : Prop where
  notes : Notes watched.session.invocations watched.session.stack watched.notes
  kept : ∀ finished ∈ watched.finished, finished.Kept
  calls : watched.finished.map Finished.call = watched.session.ended.map Prod.fst

namespace Note

theorem since_append {note : Note} {past : Session.Past γ}
    (begun : note.begun ≤ past.length)
    (more : Session.Past γ) : note.since (past ++ more) = note.since past ++ more := by
  rw [since, since, List.drop_append_of_le_length begun]

end Note

theorem MemoryFrame.Noted.later {past : Session.Past γ} {frame : MemoryFrame engine}
    {note : Note} (noted : frame.Noted past note) (more : Session.Past γ) :
    frame.Noted (past ++ more) note := by
  obtain ⟨begun, noted⟩ := noted
  refine ⟨by rw [List.length_append]; omega, ?_⟩
  cases frame with
  | dispatch call sent rest firstExc ending =>
      obtain ⟨shape, told, first⟩ := noted
      refine ⟨shape, ?_, first⟩
      rw [Note.since_append begun]
      exact told.trans (List.sublist_append_left _ _)
  | writes call rest coreId callback value =>
      obtain ⟨done, shape, told, raised⟩ := noted
      refine ⟨done, shape, ?_, raised⟩
      rw [Note.since_append begun, List.map_append]
      exact told.trans (List.sublist_append_left _ _)
  | user callback info => trivial

namespace Notes

variable {past : Session.Past γ} {frames : List (MemoryFrame engine)} {notes : List Note}

theorem later (noted : Notes past frames notes) (more : Session.Past γ) :
    Notes (past ++ more) frames notes := by
  induction noted with
  | nil => exact .nil
  | cons head tail induction => exact .cons (head.later more) induction

theorem top {frame : MemoryFrame engine} (noted : Notes past (frame :: frames) notes) :
    ∃ note rest, notes = note :: rest ∧ frame.Noted past note ∧
      Notes past frames rest := by
  cases noted with
  | cons head tail => exact ⟨_, _, rfl, head, tail⟩

end Notes

inductive Session.Calls [DecidableEq γ] (session : Session engine) (op : MemoryOp γ)
    (after : Session engine) : Prop
  | ended (result : Except PyError MemoryValue)
      (stack : after.stack = session.stack)
        (invocations : after.invocations = session.invocations)
      (ended : after.ended = session.ended ++ [(session.newCall op, [], result)])
      (dispatch : ∀ events ending, (session.newCall op).begun ≠ .dispatch events ending)
      (writes : ∀ addrs coreId callback value,
        (session.newCall op).begun ≠ .writes addrs coreId callback value)
  | begun (frame : MemoryFrame engine) (stack : after.stack = frame :: session.stack)
      (invocations : after.invocations = session.invocations)
      (ended : after.ended = session.ended)
      (noted : frame.Noted session.invocations ⟨session.invocations.length, []⟩)

theorem Session.lost_call [DecidableEq γ] {session : Session engine} {op : MemoryOp γ}
    (asked : session.asked (.call op) = some op) :
    session.lost (.call op) = (session.newCall op).unanswered := by
  unfold lost
  split
  · cases ‹MemoryDecision.call op = .raise _›
  · rw [asked]
    rfl

theorem Session.call_calls [DecidableEq γ] (session : Session engine) (op : MemoryOp γ) :
    session.Calls op (session.call op) := by
  rcases begin_ : op.begin session.mem with ⟨begun, mem⟩
  have known : (session.newCall op).begun = begun := congrArg Prod.fst begin_
  have new : session.newCall op = ⟨op, session.mem.impl, mem.impl, begun⟩ := by
    simp only [newCall, begin_]
  have fresh : session.invocations.length ≤ session.invocations.length := le_refl _
  unfold call
  rw [begin_]
  cases begun with
  | raised error =>
      refine .ended (.error error) rfl (invocations_finish ..) ?_ ?_ ?_
      · rw [new, ended_finish]
        rfl
      · rw [known]
        exact fun _ _ impossible => by cases impossible
      · rw [known]
        exact fun _ _ _ _ impossible => by cases impossible
  | returned value =>
      refine .ended (.ok value) rfl (invocations_finish ..) ?_ ?_ ?_
      · rw [new, ended_finish]
        rfl
      · rw [known]
        exact fun _ _ impossible => by cases impossible
      · rw [known]
        exact fun _ _ _ _ impossible => by cases impossible
  | dispatch events ending =>
      exact .begun _ rfl rfl rfl ⟨fresh, rfl, List.nil_sublist _, rfl⟩
  | writes addrs coreId callback value =>
      exact .begun _ rfl rfl rfl ⟨fresh, [], rfl, List.nil_sublist _, rfl⟩

namespace Watched

variable {watched : Watched engine}

theorem marked_silent {decision : MemoryDecision γ}
    (unraised : ∀ error, decision ≠ .raise error) :
    watched.marked decision = watched.notes := by
  unfold marked
  split
  · exact absurd rfl (unraised _)
  · rfl

theorem marked_raise {callback : γ} {info : RequestInfo}
    {below : List (MemoryFrame engine)}
    (shape : watched.session.stack = .user callback info :: below) {user note : Note}
    {notes : List Note} (noted : watched.notes = user :: note :: notes)
    (error : PyError) :
    watched.marked (.raise error) =
      user :: { note with raised := note.raised ++ [error] } :: notes := by
  simp only [marked, shape, noted]

theorem marked_other {decision : MemoryDecision γ}
    (other : ∀ callback info below, watched.session.stack ≠ .user callback info ::
      below) :
    watched.marked decision = watched.notes := by
  unfold marked
  split
  · exact absurd ‹watched.session.stack = _› (other _ _ _)
  · rfl

namespace Sound

theorem create (mem : MemorySystem engine) : (Watched.create mem).Sound where
  notes := .nil
  kept := by simp [Watched.create]
  calls := rfl

theorem extend (sound : watched.Sound) {after : Session engine} {notes : List Note}
    {note : Note} {lost : List (Answer γ)} {entries : List (Session.Ended engine)}
    (noted : Notes after.invocations after.stack notes)
    (ended : after.ended = watched.session.ended ++ entries)
    (kept : ∀ entry ∈ entries, (finish after note lost entry).Kept) :
    (⟨after, notes, watched.finished ++ entries.map (finish after note lost)⟩ :
      Watched engine).Sound where
  notes := noted
  kept finished member := by
    rcases List.mem_append.mp member with older | newer
    · exact sound.kept finished older
    · obtain ⟨entry, here, rfl⟩ := List.mem_map.mp newer
      exact kept entry here
  calls := by
    simp only [ended, List.map_append, sound.calls, List.map_map]
    rfl

theorem still (sound : watched.Sound) {after : Session engine} {notes : List Note}
    (noted : Notes after.invocations after.stack notes)
    (ended : after.ended = watched.session.ended) :
    (⟨after, notes, watched.finished⟩ : Watched engine).Sound :=
  ⟨noted, sound.kept, sound.calls.trans (by rw [ended])⟩

variable [DecidableEq γ]

theorem call (sound : watched.Sound) (op : MemoryOp γ)
    (step : watched.session.advance (.call op) = watched.session.call op)
    (asked : watched.session.asked (.call op) = some op) :
    (watched.advance (.call op)).Sound := by
  have marked : watched.marked (.call op) = watched.notes := marked_silent (by simp)
  cases watched.session.call_calls op with
  | ended result stack invocations ended dispatch writes =>
      rw [advance_level step (by rw [stack]) _ ended, marked]
      refine sound.extend ?_ ended fun entry member => ?_
      · rw [stack, invocations]
        exact sound.notes
      · obtain rfl := List.mem_singleton.mp member
        exact ⟨fun events ending begun => absurd begun (dispatch events ending),
          fun addrs coreId callback value begun =>
            absurd begun (writes addrs coreId callback value),
          fun _ _ => Session.lost_call asked⟩
  | begun frame stack invocations ended noted =>
      rw [advance_pushed step (by rw [stack]; rfl) ended, marked]
      refine sound.still ?_ ended
      rw [stack, invocations]
      exact .cons noted sound.notes

theorem invoke (sound : watched.Sound) {decision : MemoryDecision γ} {callback : γ}
    {info : RequestInfo} {frame : MemoryFrame engine} {below : List (MemoryFrame engine)}
    {note : Note} {notes : List Note}
    (step : watched.session.advance decision =
      watched.session.invoke callback info (frame :: below))
    (length : (frame :: below).length = watched.session.stack.length)
    (marked : watched.marked decision = note :: notes)
    (noted : frame.Noted (watched.session.invocations ++ [(callback, info)]) note)
    (tail : Notes watched.session.invocations below notes) :
    (watched.advance decision).Sound := by
  rw [advance_pushed step (by rw [← length]; rfl) (Session.ended_invoke ..), marked]
  refine sound.still ?_ (Session.ended_invoke ..)
  rw [Session.invocations_invoke]
  have begun : watched.session.invocations.length ≤
      (watched.session.invocations ++ [(callback, info)]).length := by simp
  exact .cons ⟨begun, trivial⟩ (.cons noted (tail.later _))

theorem finish (sound : watched.Sound) {decision : MemoryDecision γ}
    {session : Session engine}
    (entry : Session.Ended engine) {below : List (MemoryFrame engine)} {note : Note}
    {notes : List Note} (step : watched.session.advance decision = session)
    (stack : session.stack = below)
    (invocations : session.invocations = watched.session.invocations)
    (ended : session.ended = watched.session.ended ++ [entry])
    (length : watched.session.stack.length = below.length + 1)
    (marked : watched.marked decision = note :: notes)
    (tail : Notes watched.session.invocations below notes)
    (kept : (Finished.mk entry.1 (note.since watched.session.invocations) note.raised
      entry.2.2 (watched.session.lost decision)).Kept) :
        (watched.advance decision).Sound := by
  rw [advance_popped step (by rw [stack, length]) marked [entry] ended]
  refine sound.extend ?_ ended fun other member => ?_
  · rw [stack, invocations]
    exact tail
  · obtain rfl := List.mem_singleton.mp member
    rw [Watched.finish, invocations]
    exact kept

theorem pop (sound : watched.Sound) {decision : MemoryDecision γ}
    {session : Session engine}
    {below : List (MemoryFrame engine)} {note : Note} {notes : List Note}
    (step : watched.session.advance decision = session) (stack : session.stack = below)
    (invocations : session.invocations = watched.session.invocations)
    (ended : session.ended = watched.session.ended)
    (length : watched.session.stack.length = below.length + 1)
    (marked : watched.marked decision = note :: notes)
    (tail : Notes watched.session.invocations below notes) :
    (watched.advance decision).Sound := by
  rw [advance_popped step (by rw [stack, length]) marked []
    (by rw [ended, List.append_nil]), List.map_nil, List.append_nil]
  refine sound.still ?_ ended
  rw [stack, invocations]
  exact tail

theorem idle (sound : watched.Sound) {decision : MemoryDecision γ}
    (step : watched.session.advance decision = watched.session)
    (marked : watched.marked decision = watched.notes) :
    (watched.advance decision).Sound := by
  rw [advance_level step rfl [] (by rw [List.append_nil]), List.map_nil,
    List.append_nil, marked]
  exact sound

theorem throw (sound : watched.Sound) {callback : γ} {info : RequestInfo}
    {below : List (MemoryFrame engine)} (error : PyError)
    (shape : watched.session.stack = .user callback info :: below)
    (step : watched.session.advance (.raise error) = watched.session.throw error below) :
    (watched.advance (.raise error)).Sound := by
  have noted := sound.notes
  rw [shape] at noted
  obtain ⟨user, notes, known, -, tail⟩ := noted.top
  have length : watched.session.stack.length = below.length + 1 := by rw [shape]; rfl
  rcases below with _ | ⟨frame, below⟩
  · cases tail
    have marked : watched.marked (.raise error) = [user] := by
      simp only [Watched.marked, shape, known]
    exact sound.pop step rfl rfl rfl length marked .nil
  · obtain ⟨note, rest, rfl, head, lower⟩ := tail.top
    have marked := marked_raise shape known error
    cases frame with
    | dispatch call sent more firstExc ending =>
        obtain ⟨begun, dispatch, told, first⟩ := head
        refine sound.pop step rfl rfl rfl length marked
          (.cons ⟨begun, dispatch, told, ?_⟩ lower)
        rw [first]
        cases note.raised <;> rfl
    | writes call more coreId cb value =>
        obtain ⟨begun, done, writes, told, raised⟩ := head
        have ends : watched.session.advance (.raise error) =
            watched.session.finish call [] (.error error) below := step
        rw [advance_thrown ends (by rw [shape]; rfl) marked [(call, [], .error error)]
          (Session.ended_finish ..)]
        refine sound.extend ?_ (Session.ended_finish ..) fun other member => ?_
        · rw [Session.invocations_finish]
          exact lower
        · obtain rfl := List.mem_singleton.mp member
          refine ⟨fun events ending dispatch => ?_, fun addrs core user val same => ?_,
            fun _ notWrites => absurd writes (notWrites _ _ _ _)⟩
          · change call.begun = _ at dispatch
            rw [writes] at dispatch
            cases dispatch
          · change call.begun = _ at same
            rw [writes] at same
            cases same
            refine ⟨done, more, rfl, ?_, ?_, ?_⟩
            · change List.Sublist _ (List.map _ (List.drop _ _))
              rw [Session.invocations_finish]
              exact told
            · change watched.session.lost (.raise error) = _
              simp only [Session.lost, shape]
              rfl
            · simp [Watched.finish, raised]
    | user cb told =>
        exact sound.pop step rfl rfl rfl length marked (.cons ⟨head.1, trivial⟩ lower)

theorem advance (sound : watched.Sound) (decision : MemoryDecision γ) :
    (watched.advance decision).Sound := by
  have noted := sound.notes
  generalize after : watched.session.advance decision = session
  have step := after
  unfold Session.advance at step
  split at step <;> rename_i shape
  · rename_i call sent event rest firstExc ending below
    rw [shape] at noted
    obtain ⟨note, notes, known, ⟨begun, dispatch, told, first⟩, tail⟩ := noted.top
    have marked : watched.marked decision = note :: notes :=
      (marked_other (by simp [shape])).trans known
    refine sound.invoke (after.trans step.symm) (by rw [shape]; rfl) marked ?_ tail
    refine ⟨by simp; omega, by simpa using dispatch, ?_, first⟩
    rw [Note.since_append begun, List.map_append]
    exact told.append (List.Sublist.refl _)
  · rename_i call sent ending below
    rw [shape] at noted
    obtain ⟨note, notes, known, ⟨begun, dispatch, told, first⟩, tail⟩ := noted.top
    have marked : watched.marked decision = note :: notes :=
      (marked_other (by simp [shape])).trans known
    rw [List.append_nil] at dispatch
    have kept : (Finished.mk call (note.since watched.session.invocations) note.raised
        (.ok ending.result) (watched.session.lost decision)).Kept := by
      refine ⟨fun events other same => ?_, fun addrs core user val same => ?_,
        fun notDispatch _ => absurd dispatch (notDispatch _ _)⟩
      · rw [dispatch] at same
        cases same
        exact ⟨told, by rw [← first]; rfl⟩
      · rw [dispatch] at same
        cases same
    cases ending with
    | tick =>
        refine sound.finish (call, sent, .ok (.count 1)) (after.trans step.symm) rfl
          ?_ ?_ (by rw [shape]; rfl) marked tail kept
        · exact Session.invocations_finish ..
        · exact Session.ended_finish ..
    | value value =>
        exact sound.finish (call, sent, .ok value) (after.trans step.symm) rfl
          (Session.invocations_finish ..) (Session.ended_finish ..) (by rw [shape]; rfl)
          marked tail kept
  · rename_i call sent error ending below
    rw [shape] at noted
    obtain ⟨note, notes, known, ⟨begun, dispatch, told, first⟩, tail⟩ := noted.top
    have marked : watched.marked decision = note :: notes :=
      (marked_other (by simp [shape])).trans known
    rw [List.append_nil] at dispatch
    refine sound.finish (call, sent, .error error) (after.trans step.symm) rfl
      (Session.invocations_finish ..) (Session.ended_finish ..) (by rw [shape]; rfl)
      marked tail ⟨fun events other same => ?_, fun addrs core user val same => ?_,
        fun notDispatch _ => absurd dispatch (notDispatch _ _)⟩
    · rw [dispatch] at same
      cases same
      exact ⟨told, by rw [← first]; rfl⟩
    · rw [dispatch] at same
      cases same
  · rename_i call addr rest coreId callback value below
    rw [shape] at noted
    obtain ⟨note, notes, known, ⟨begun, done, writes, told, raised⟩, tail⟩ := noted.top
    have marked : watched.marked decision = note :: notes :=
      (marked_other (by simp [shape])).trans known
    refine sound.invoke (after.trans step.symm) (by rw [shape]; rfl) marked ?_ tail
    refine ⟨by simp; omega, done ++ [addr], by simpa using writes, ?_, raised⟩
    rw [Note.since_append begun, List.map_append, writeAnswers, List.map_append]
    exact told.append (List.Sublist.refl _)
  · rename_i call coreId callback value below
    rw [shape] at noted
    obtain ⟨note, notes, known, ⟨begun, done, writes, told, raised⟩, tail⟩ := noted.top
    have marked : watched.marked decision = note :: notes :=
      (marked_other (by simp [shape])).trans known
    refine sound.finish (call, [], .ok value) (after.trans step.symm) rfl
      (Session.invocations_finish ..) (Session.ended_finish ..) (by rw [shape]; rfl)
      marked tail ⟨fun events other same => ?_, fun addrs core user val same => ?_,
        fun _ notWrites => absurd writes (notWrites _ _ _ _)⟩
    · rw [writes] at same
      cases same
    · rw [writes] at same
      cases same
      refine ⟨done, [], rfl, told, ?_, by rw [raised]; rfl⟩
      simp [Session.lost, Session.asked, shape, writeAnswers]
  · rename_i callback info below
    cases decision with
    | call op =>
        exact sound.call op (after.trans step.symm) (by simp [Session.asked, shape])
    | return_ =>
        rw [shape] at noted
        obtain ⟨note, notes, known, -, tail⟩ := noted.top
        have marked : watched.marked .return_ = note :: notes :=
          (marked_silent fun _ impossible => by cases impossible).trans known
        exact sound.pop (after.trans step.symm) rfl rfl rfl
          (by rw [shape]; rfl) marked tail
    | raise error => exact sound.throw error shape (after.trans step.symm)
  · cases decision with
    | call op =>
        exact sound.call op (after.trans step.symm) (by simp [Session.asked, shape])
    | return_ => exact sound.idle (after.trans step.symm) (marked_other (by simp [shape]))
    | raise error =>
        exact sound.idle (after.trans step.symm) (marked_other (by simp [shape]))

end Sound

end Watched

end Pyramulator
