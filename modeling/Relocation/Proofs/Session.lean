import Relocation.System

/-!
# Sessions and their histories

A session is a function of a system and of what happened before. Here each way of
building a session is given its value, so that a concrete session can be followed
call by call. Whatever a session does, the answers in its history are those of the
system: this holds of every single call and is kept when sessions are joined.
-/

namespace Relocation

/-- An event is as the system makes it: the answer of a call is the one that the system gives after
everything that happened before. -/
def Event.Answered (system : System) (past : History) : Event → Prop
  | .called call reply => reply = system.reply past call
  | _ => True

namespace History

/-- Every event of a history that begins after another one is as the system makes it. -/
def Answered (system : System) : History → History → Prop
  | _, [] => True
  | past, event :: rest => event.Answered system past ∧ Answered system (past ++ [event]) rest

/-- Histories that follow one another are answered together. -/
theorem answered_append {system : System} {past first second : History} :
    Answered system past (first ++ second) ↔
      Answered system past first ∧ Answered system (past ++ first) second := by
  induction first generalizing past with
  | nil => simp [Answered]
  | cons event rest ih => simp [Answered, ih, and_assoc]

/-- Where nothing happens no call is made. -/
@[simp] theorem calls_nil : calls [] = [] := rfl

/-- A call is counted among the calls. -/
@[simp] theorem calls_cons_called (call : Call) (reply : call.Reply) (rest : History) :
    calls (.called call reply :: rest) = call :: calls rest := rfl

/-- A record is no call. -/
@[simp] theorem calls_cons_recorded (record : Record) (rest : History) :
    calls (.recorded record :: rest) = calls rest := rfl

/-- The calls of two histories that follow one another. -/
@[simp] theorem calls_append (first second : History) :
    calls (first ++ second) = calls first ++ calls second :=
  List.filterMap_append ..

/-- A call that is answered in a history is one of its calls. -/
theorem mem_calls_of_called {history : History} {call : Call} {reply : call.Reply}
    (h : .called call reply ∈ history) : call ∈ history.calls :=
  List.mem_filterMap.mpr ⟨_, h, rfl⟩

/-- Calls that set no variable leave an environment as it is. -/
theorem foldl_update_of_unset {calls : List Call} (h : ∀ key value, .setVariable key value ∉ calls)
    (environment : Environment.Variables) : calls.foldl Call.update environment = environment := by
  induction calls with
  | nil => rfl
  | cons call rest ih =>
    have hcall : call.update environment = environment := by
      cases call with
      | setVariable key value => exact absurd List.mem_cons_self (h key value)
      | _ => rfl
    rw [List.foldl_cons, hcall]
    exact ih fun key value hmem => h key value (List.mem_cons_of_mem _ hmem)

/-- Nothing becomes of an environment while no variable is set. -/
theorem environment_append {past events : History}
    (h : ∀ key value, .setVariable key value ∉ events.calls)
    (inherited : Environment.Variables) :
    (past ++ events).environment inherited = past.environment inherited := by
  rw [environment, calls_append, List.foldl_append, foldl_update_of_unset h, environment]

/-- Where nothing happens nothing is recorded. -/
@[simp] theorem records_nil : records [] = [] := rfl

/-- A call is no record. -/
@[simp] theorem records_cons_called (call : Call) (reply : call.Reply) (rest : History) :
    records (.called call reply :: rest) = records rest := rfl

/-- A record is counted among the records. -/
@[simp] theorem records_cons_recorded (record : Record) (rest : History) :
    records (.recorded record :: rest) = record :: records rest := rfl

/-- The records of two histories that follow one another. -/
@[simp] theorem records_append (first second : History) :
    records (first ++ second) = records first ++ records second :=
  List.filterMap_append ..

end History

namespace Session

variable {α β : Type} {system : System} {past : History}

/-- A result by itself makes nothing happen. -/
@[simp] theorem pure_apply (a : α) : (pure a : Session α) system past = (.ok a, []) := rfl

/-- A failure by itself makes nothing happen. -/
@[simp] theorem fail_apply (failure : Failure) :
    (fail failure : Session α) system past = (.error failure, []) := rfl

/-- What was found without the system makes nothing happen. -/
@[simp] theorem ofExcept_apply (result : Except Failure α) :
    ofExcept result system past = (result, []) := rfl

/-- A call gives the answer of the system after what happened before. -/
@[simp] theorem call_apply (operation : Call) :
    call operation system past =
      (.ok (system.reply past operation), [.called operation (system.reply past operation)]) := rfl

/-- A call whose answer is known. -/
theorem call_of_reply {operation : Call} {reply : operation.Reply}
    (h : system.reply past operation = reply) :
    call operation system past = (.ok reply, [.called operation reply]) := by
  rw [call_apply, h]

/-- A record cannot fail. -/
@[simp] theorem record_apply (entry : Record) :
    record entry system past = (.ok (), [.recorded entry]) := rfl

/-- The start of logging cannot fail. -/
@[simp] theorem startLogging_apply (filter : Filter) :
    startLogging filter system past = (.ok (), [.logging filter]) := rfl

/-- Asking for memory leaves no trace. -/
@[simp] theorem reserves_apply : reserves system past = (.ok (system.reserves past), []) := rfl

/-- The environment of the launcher is what it inherited and what became of it. -/
@[simp] theorem environment_apply :
    environment system past = (.ok (past.environment system.environment), []) := rfl

/-- A session goes on after a part that does not fail, and its history is that of both parts. -/
theorem bind_of_ok {first : Session α} {a : α} {events : History}
    (h : first system past = (.ok a, events)) (next : α → Session β) :
    (first >>= next) system past =
      ((next a system (past ++ events)).1, events ++ (next a system (past ++ events)).2) := by
  change Session.bind first next system past = _
  simp only [Session.bind, h]

/-- A session ends with the first part that fails, and nothing happens after it. -/
theorem bind_of_error {first : Session α} {failure : Failure} {events : History}
    (h : first system past = (.error failure, events)) (next : α → Session β) :
    (first >>= next) system past = (.error failure, events) := by
  change Session.bind first next system past = _
  simp only [Session.bind, h]

/-- All that joining two sessions can come to: the failure of the first, or what the second makes of
its result. -/
theorem bind_cases (first : Session α) (next : α → Session β) (system : System) (past : History) :
    (∃ failure events, first system past = (.error failure, events) ∧
      (first >>= next) system past = (.error failure, events)) ∨
    (∃ a events, first system past = (.ok a, events) ∧
      (first >>= next) system past =
        ((next a system (past ++ events)).1, events ++ (next a system (past ++ events)).2)) := by
  rcases hfirst : first system past with ⟨failure | a, events⟩
  · exact Or.inl ⟨failure, events, rfl, bind_of_error hfirst next⟩
  · exact Or.inr ⟨a, events, rfl, bind_of_ok hfirst next⟩

/-- The result of joining two sessions does not need their histories if that of the second depends
on nothing but what the first gives. -/
theorem fst_bind {next : α → Session β} {result : α → Except Failure β} (first : Session α)
    (hnext : ∀ a past, (next a system past).1 = result a) :
    ((first >>= next) system past).1 = (first system past).1 >>= result := by
  rcases bind_cases first next system past with
    ⟨failure, events, heq, hbind⟩ | ⟨a, events, heq, hbind⟩
  · rw [hbind, heq]
    rfl
  · rw [hbind, heq]
    exact hnext a (past ++ events)

/-- A session that begins with a call goes on with its answer. -/
@[simp] theorem call_bind_apply (operation : Call) (next : operation.Reply → Session β) :
    (call operation >>= next) system past =
      ((next (system.reply past operation) system
          (past ++ [.called operation (system.reply past operation)])).1,
        .called operation (system.reply past operation) ::
          (next (system.reply past operation) system
            (past ++ [.called operation (system.reply past operation)])).2) :=
  bind_of_ok (call_apply operation) next

/-- Whatever a session does, the answers in its history are those of the system. -/
def Faithful (session : Session α) : Prop :=
  ∀ system past, History.Answered system past (session system past).2

/-- A result has no answers. -/
theorem faithful_pure (a : α) : Faithful (pure a : Session α) := fun _ _ => trivial

/-- A failure has no answers. -/
theorem faithful_fail (failure : Failure) : Faithful (fail failure : Session α) :=
  fun _ _ => trivial

/-- What was found without the system has no answers. -/
theorem faithful_ofExcept (result : Except Failure α) : Faithful (ofExcept result) :=
  fun _ _ => trivial

/-- A single call is answered by the system. -/
theorem faithful_call (operation : Call) : Faithful (call operation) := fun _ _ => ⟨rfl, trivial⟩

/-- A record has no answer. -/
theorem faithful_record (entry : Record) : Faithful (record entry) :=
  fun _ _ => ⟨trivial, trivial⟩

/-- Asking for memory has no answer in the history. -/
theorem faithful_reserves : Faithful reserves := fun _ _ => trivial

/-- The environment of the launcher has no answer in the history. -/
theorem faithful_environment : Faithful environment := fun _ _ => trivial

/-- Joining sessions keeps the answers of the system. -/
theorem Faithful.bind {first : Session α} {next : α → Session β} (hfirst : Faithful first)
    (hnext : ∀ a, Faithful (next a)) : Faithful (first >>= next) := by
  intro system past
  have hanswered := hfirst system past
  rcases bind_cases first next system past with
    ⟨failure, events, heq, hbind⟩ | ⟨a, events, heq, hbind⟩
  · rw [hbind]
    rwa [heq] at hanswered
  · rw [hbind]
    rw [heq] at hanswered
    exact History.answered_append.mpr ⟨hanswered, hnext a system (past ++ events)⟩

end Session

end Relocation
