import Pyramulator.Memory.Session

namespace Pyramulator.Session

/-! One induction over the runs of a session, for all invariants that speak of
the methods in progress and of the calls that ended, in view of the callbacks
invoked so far. -/

variable {γ : Type} {engine : Engine (CppCallback (ReadWrap γ))}

abbrev Ended (engine : Engine (CppCallback (ReadWrap γ))) :=
  MemoryCall engine × List (CompletionEvent (ReadWrap γ)) ×
    Except PyError MemoryValue

abbrev Past (γ : Type) := List (γ × RequestInfo)

section

variable (F : Past γ → MemoryFrame engine → Prop) (E : Past γ → Ended engine → Prop)

structure Keeps (session : Session engine) : Prop where
  frames : ∀ frame ∈ session.stack, F session.invocations frame
  entries : ∀ entry ∈ session.ended, E session.invocations entry

def Begins (past : Past γ) (call : MemoryCall engine) : Prop :=
  match call.begun with
  | .raised error => E past (call, [], .error error)
  | .returned value => E past (call, [], .ok value)
  | .dispatch events ending => F past (.dispatch call [] events none ending)
  | .writes addrs coreId callback value =>
      F past (.writes call addrs coreId callback value)

structure Rule [DecidableEq γ]
    (allowed : Session engine → MemoryDecision γ → Prop) : Prop where
  laterFrame : ∀ {past} more {frame}, F past frame → F (past ++ more) frame
  laterEntry : ∀ {past} more {entry}, E past entry → E (past ++ more) entry
  call : ∀ session op, session.asked (.call op) = some op →
    allowed session (.call op) → Begins F E session.invocations (session.newCall op)
  user : ∀ past callback info, F past (.user callback info)
  send : ∀ {past call sent event rest firstExc ending},
    F past (.dispatch call sent (event :: rest) firstExc ending) →
      F (past ++ [(event.callback.userCb, event.info)])
        (.dispatch call (sent ++ [event]) rest firstExc ending)
  catch_ : ∀ {past call sent rest firstExc ending} error,
    F past (.dispatch call sent rest firstExc ending) →
      F past (.dispatch call sent rest error ending)
  done : ∀ {past call sent firstExc ending},
    F past (.dispatch call sent [] firstExc ending) →
      E past (call, sent, .ok ending.result) ∧
        ∀ error, E past (call, sent, .error error)
  write : ∀ {past call addr rest coreId callback value},
    F past (.writes call (addr :: rest) coreId callback value) →
      F past (.writes call rest coreId callback value)
  wrote : ∀ {past call rest coreId callback value},
    F past (.writes call rest coreId callback value) →
      E past (call, [], .ok value) ∧ ∀ error, E past (call, [], .error error)

end

variable {F : Past γ → MemoryFrame engine → Prop} {E : Past γ → Ended engine → Prop}

namespace Keeps

variable {session : Session engine}

theorem finish (keeps : Keeps F E session) {call : MemoryCall engine}
    {sent : List (CompletionEvent (ReadWrap γ))}
    {result : Except PyError MemoryValue} {rest : List (MemoryFrame engine)}
    (frames : ∀ frame ∈ rest, F session.invocations frame)
    (entry : E session.invocations (call, sent, result)) :
    Keeps F E (session.finish call sent result rest) where
  frames := by
    rw [invocations_finish]
    exact frames
  entries := by
    rw [invocations_finish, ended_finish]
    intro other member
    rcases List.mem_append.mp member with older | newer
    · exact keeps.entries other older
    · obtain rfl : other = (call, sent, result) := by simpa using newer
      exact entry

variable [DecidableEq γ] {allowed : Session engine → MemoryDecision γ → Prop}

theorem invoke (rule : Rule F E allowed) (keeps : Keeps F E session)
    (callback : γ) (info : RequestInfo) {rest : List (MemoryFrame engine)}
    (frames : ∀ frame ∈ rest, F (session.invocations ++ [(callback, info)]) frame) :
    Keeps F E (session.invoke callback info rest) where
  frames := by
    rw [invocations_invoke]
    intro frame member
    rcases List.mem_cons.mp member with rfl | below
    · exact rule.user _ callback info
    · exact frames frame below
  entries := by
    rw [invocations_invoke, ended_invoke]
    exact fun entry member => rule.laterEntry _ (keeps.entries entry member)

theorem call (rule : Rule F E allowed) (keeps : Keeps F E session)
    (op : MemoryOp γ) (control : session.asked (.call op) = some op)
    (permitted : allowed session (.call op)) :
    Keeps F E (session.call op) := by
  have begins := rule.call session op control permitted
  unfold Begins newCall at begins
  unfold Session.call
  generalize op.begin session.mem = result at begins
  rcases result with ⟨begun, mem⟩
  have moved : Keeps F E { session with mem } := ⟨keeps.frames, keeps.entries⟩
  cases begun with
  | raised error => exact moved.finish keeps.frames begins
  | returned value => exact moved.finish keeps.frames begins
  | dispatch events ending =>
      exact ⟨List.forall_mem_cons.mpr ⟨begins, keeps.frames⟩, keeps.entries⟩
  | writes addrs coreId callback value =>
      exact ⟨List.forall_mem_cons.mpr ⟨begins, keeps.frames⟩, keeps.entries⟩

theorem throw (rule : Rule F E allowed) (keeps : Keeps F E session)
    (error : PyError) {rest : List (MemoryFrame engine)}
    (frames : ∀ frame ∈ rest, F session.invocations frame) :
    Keeps F E (session.throw error rest) := by
  rcases rest with _ | ⟨⟨call, sent, more, firstExc, ending⟩ | _ | _, rest⟩
  · exact ⟨frames, keeps.entries⟩
  · obtain ⟨head, below⟩ := List.forall_mem_cons.mp frames
    exact ⟨List.forall_mem_cons.mpr ⟨rule.catch_ _ head, below⟩, keeps.entries⟩
  · obtain ⟨head, below⟩ := List.forall_mem_cons.mp frames
    exact keeps.finish below ((rule.wrote head).2 error)
  · exact ⟨frames, keeps.entries⟩

theorem advance (rule : Rule F E allowed) (keeps : Keeps F E session)
    (decision : MemoryDecision γ) (permitted : allowed session decision) :
    Keeps F E (session.advance decision) := by
  have frames := keeps.frames
  unfold Session.advance
  split <;> rename_i shape <;> rw [shape] at frames
  · obtain ⟨head, below⟩ := List.forall_mem_cons.mp frames
    refine keeps.invoke rule _ _ (List.forall_mem_cons.mpr ⟨rule.send head, ?_⟩)
    exact fun frame member => rule.laterFrame _ (below frame member)
  · rename_i ending rest
    obtain ⟨head, below⟩ := List.forall_mem_cons.mp frames
    cases ending with
    | tick =>
        have counted : Keeps F E { session with
            mem := { session.mem with clk := session.mem.clk + 1 } } :=
          ⟨keeps.frames, keeps.entries⟩
        exact counted.finish below (rule.done head).1
    | value value => exact keeps.finish below (rule.done head).1
  · obtain ⟨head, below⟩ := List.forall_mem_cons.mp frames
    exact keeps.finish below ((rule.done head).2 _)
  · obtain ⟨head, below⟩ := List.forall_mem_cons.mp frames
    refine keeps.invoke rule _ _ (List.forall_mem_cons.mpr ⟨?_, ?_⟩)
    · exact rule.laterFrame _ (rule.write head)
    · exact fun frame member => rule.laterFrame _ (below frame member)
  · obtain ⟨head, below⟩ := List.forall_mem_cons.mp frames
    exact keeps.finish below (rule.wrote head).1
  · obtain ⟨-, below⟩ := List.forall_mem_cons.mp frames
    cases decision with
    | call op => exact keeps.call rule op (by simp [asked, shape]) permitted
    | return_ => exact ⟨below, keeps.entries⟩
    | raise error => exact keeps.throw rule error below
  · cases decision with
    | call op => exact keeps.call rule op (by simp [asked, shape]) permitted
    | return_ => exact keeps
    | raise error => exact keeps

end Keeps

/-- An invariant of this kind holds after every run from a session in which
nothing has happened. -/
theorem Rule.run [DecidableEq γ]
    {allowed : Session engine → MemoryDecision γ → Prop} (rule : Rule F E allowed)
    (mem : MemorySystem engine) {decisions : List (MemoryDecision γ)}
    (follows : Transition.Follows Session.advance allowed (create mem) decisions) :
    Keeps F E (Transition.run Session.advance (create mem) decisions) := by
  refine follows.reach.invariant (Keeps F E) ?_ ?_
  · exact ⟨by simp [create], by simp [create, ended]⟩
  · exact fun _ decision keeps permitted => keeps.advance rule decision permitted

def invocation (event : CompletionEvent (ReadWrap γ)) : γ × RequestInfo :=
  (event.callback.userCb, event.info)

section

variable (P : MemoryCall engine → Prop)

/-- What was dispatched is the beginning of the completions of the call, and its
callbacks were invoked. -/
def DispatchFrame (past : Past γ) : MemoryFrame engine → Prop
  | .dispatch call sent rest _ ending => P call ∧
      call.begun = .dispatch (sent ++ rest) ending ∧
        (sent.map invocation).Sublist past
  | .writes call _ _ _ value => P call ∧
      ∃ addrs coreId callback, call.begun = .writes addrs coreId callback value
  | .user _ _ => True

def DispatchEntry (past : Past γ) (entry : Ended engine) : Prop :=
  P entry.1 ∧ ∀ events ending, entry.1.begun = .dispatch events ending →
    entry.2.1 = events ∧ (events.map invocation).Sublist past ∧
      ∀ value, entry.2.2 = .ok value → value = ending.result

/-- What holds of every call when it begins holds of the calls recorded, and
their completions are dispatched. -/
theorem dispatch_rule [DecidableEq γ]
    {allowed : Session engine → MemoryDecision γ → Prop}
    (call : ∀ session op, session.asked (.call op) = some op →
      allowed session (.call op) → P (session.newCall op)) :
    Rule (DispatchFrame P) (DispatchEntry P) allowed where
  laterFrame {past} more {frame} kept := by
    cases frame with
    | dispatch => exact ⟨kept.1, kept.2.1, kept.2.2.trans (List.sublist_append_left _ _)⟩
    | writes => exact kept
    | user => trivial
  laterEntry {past} more {entry} kept := by
    refine ⟨kept.1, fun events ending begun => ?_⟩
    obtain ⟨sent, dispatched, result⟩ := kept.2 events ending begun
    exact ⟨sent, dispatched.trans (List.sublist_append_left _ _), result⟩
  call session op control permitted := by
    have holds := call session op control permitted
    unfold Begins
    split <;> rename_i begun
    · exact ⟨holds, fun events ending other => by rw [begun] at other; cases other⟩
    · exact ⟨holds, fun events ending other => by rw [begun] at other; cases other⟩
    · exact ⟨holds, begun, List.nil_sublist _⟩
    · exact ⟨holds, _, _, _, begun⟩
  user _ _ _ := trivial
  send kept := by
    obtain ⟨holds, begun, dispatched⟩ := kept
    refine ⟨holds, by simpa using begun, ?_⟩
    rw [List.map_append]
    exact dispatched.append (List.Sublist.refl _)
  catch_ _ kept := kept
  done {past call sent firstExc ending} kept := by
    obtain ⟨holds, begun, dispatched⟩ := kept
    rw [List.append_nil] at begun
    have same : ∀ events other, call.begun = .dispatch events other →
        sent = events ∧ ending = other := by
      intro events other again
      rw [begun] at again
      cases again
      exact ⟨rfl, rfl⟩
    refine ⟨⟨holds, fun events other again => ?_⟩,
      fun error => ⟨holds, fun events other again => ?_⟩⟩
    · obtain ⟨rfl, rfl⟩ := same events other again
      exact ⟨rfl, dispatched, fun value returned => by cases returned; rfl⟩
    · obtain ⟨rfl, rfl⟩ := same events other again
      exact ⟨rfl, dispatched, fun value impossible => by cases impossible⟩
  write kept := kept
  wrote kept := by
    obtain ⟨holds, addrs, coreId, callback, begun⟩ := kept
    refine ⟨⟨holds, fun events ending other => ?_⟩,
      fun error => ⟨holds, fun events ending other => ?_⟩⟩
    · rw [begun] at other
      cases other
    · rw [begun] at other
      cases other

end

end Pyramulator.Session
