import Relocation.Invocation
import Relocation.Proofs.Session

/-!
# The course of an invocation

A command line that was read is carried out in the same steps whatever it asks for: the
launcher stops itself, starts logging, makes a request of the texts, and launches it.
The relation `Course` lists the ways in which this can go, each with what has happened
when it is over. Every invocation goes one of these ways.
-/

namespace Relocation.Invocation

open Session

/-- Carry out what a command line asks for. -/
def carryOut (libraries : Libraries) (options : Options) : Session Ending := do
  pause
  return .launched (← follow libraries options)

/-- A run whose arguments can be read carries out what they ask for. -/
theorem session_of_parse {libraries : Libraries} {arguments : List String} {options : Options}
    (h : libraries.parse arguments = .ok options) :
    session libraries arguments = carryOut libraries options := by
  simp only [session, h]
  rfl

/-- The request that a command line makes. -/
def requestOf (options : Options) : Except Failure Request :=
  Request.ofTexts options.target? (options.command?.map Bytes.ofString) options.selection
    options.importsEnvironment

/-- What the launcher says of a request before it launches it. -/
def announcement (request : Request) : Record :=
  if request.selection.isEmpty then .staying
  else .relocating request.selection request.target

section

variable (libraries : Libraries) (options : Options) (system : System) (past : History)

/-- The filter with which logging starts. -/
def startFilter : Filter :=
  libraries.filter (filterText (past.environment system.environment) options.isVerbose)

/-- What has happened when the request is made. -/
def startEvents : History :=
  [.called .pause (.ok ()), .recorded .paused,
    .logging (startFilter libraries options system past)]

/-- What has happened when the request is launched. -/
def readyEvents (request : Request) : History :=
  startEvents libraries options system past ++ [.recorded (announcement request)]

end

/-- Everything that carrying out a command line can come to. -/
inductive Course (libraries : Libraries) (options : Options) (system : System) (past : History) :
    Except Failure Ending → History → Prop where
  | unpaused {error : CallError} (hpause : system.reply past .pause = .error error) :
      Course libraries options system past (.error (.pause error)) [.called .pause (.error error)]
  | refused {failure : Failure} (hpause : system.reply past .pause = .ok ())
      (hrequest : requestOf options = .error failure) :
      Course libraries options system past (.error failure)
        (startEvents libraries options system past)
  | failed {request : Request} {failure : Failure} {events : History}
      (hpause : system.reply past .pause = .ok ()) (hrequest : requestOf options = .ok request)
      (hlaunch : launch request system (past ++ readyEvents libraries options system past request) =
        (.error failure, events)) :
      Course libraries options system past (.error failure)
        (readyEvents libraries options system past request ++ events)
  | launched {request : Request} {status : WaitStatus} {events : History}
      (hpause : system.reply past .pause = .ok ()) (hrequest : requestOf options = .ok request)
      (hlaunch : launch request system (past ++ readyEvents libraries options system past request) =
        (.ok status, events)) :
      Course libraries options system past (.ok (.launched status.exitStatus))
        (readyEvents libraries options system past request ++ events ++
          [.recorded (.exited status.exitStatus)])

section

variable {libraries : Libraries} {options : Options} {system : System} {past : History}
  {failure : Failure} {request : Request} {events : History}

/-- A launcher that cannot stop itself fails. -/
theorem pause_of_error {error : CallError} (h : system.reply past .pause = .error error) :
    pause system past = (.error (.pause error), [.called .pause (.error error)]) := by
  rw [pause, bind_of_ok (call_of_reply h)]
  rfl

/-- A launcher that can stop itself says that it did. -/
theorem pause_of_ok (h : system.reply past .pause = .ok ()) :
    pause system past = (.ok (), [.called .pause (.ok ()), .recorded .paused]) := by
  rw [pause, bind_of_ok (call_of_reply h)]
  rfl

/-- A command line that makes no request is followed as far as the start of logging. -/
theorem follow_of_refused (hrequest : requestOf options = .error failure) :
    follow libraries options system past =
      (.error failure, [.logging (startFilter libraries options system past)]) := by
  rw [follow, ← requestOf, hrequest, bind_of_ok environment_apply,
    bind_of_ok (startLogging_apply _), bind_of_error (ofExcept_apply _)]
  rfl

/-- Launch a request and pass on how the shell ended. -/
def conclude (request : Request) : Session UInt8 := do
  let status ← launch request
  Session.record (.exited status.exitStatus)
  return status.exitStatus

/-- A launch that fails is not concluded otherwise. -/
theorem conclude_of_failed (hlaunch : launch request system past = (.error failure, events)) :
    conclude request system past = (.error failure, events) :=
  bind_of_error hlaunch _

/-- A launch that succeeds is concluded with the exit status for the end of the shell. -/
theorem conclude_of_launched {status : WaitStatus}
    (hlaunch : launch request system past = (.ok status, events)) :
    conclude request system past =
      (.ok status.exitStatus, events ++ [.recorded (.exited status.exitStatus)]) :=
  bind_of_ok hlaunch _

/-- A command line that makes a request is followed to the conclusion of its launch. -/
theorem follow_of_request {before : History} (hrequest : requestOf options = .ok request)
    (hbefore : past ++ [.logging (startFilter libraries options system past),
      .recorded (announcement request)] = before) :
    follow libraries options system past =
      ((conclude request system before).1,
        .logging (startFilter libraries options system past) ::
          .recorded (announcement request) :: (conclude request system before).2) := by
  subst hbefore
  rw [follow, ← requestOf, hrequest, bind_of_ok environment_apply, ← startFilter,
    bind_of_ok (startLogging_apply _), bind_of_ok (ofExcept_apply _), ← announcement,
    bind_of_ok (record_apply _), ← conclude]
  simp

/-- The filter with which logging starts is the same after the launcher has stopped. -/
theorem startFilter_paused :
    startFilter libraries options system
        (past ++ [.called .pause (.ok ()), .recorded .paused]) =
      startFilter libraries options system past := by
  have hinherited := @History.environment_append past [.called .pause (.ok ()), .recorded .paused]
    (by simp) system.environment
  rw [startFilter, hinherited, startFilter]

end

/-- Carrying out a command line goes one of the listed ways. -/
theorem carryOut_course (libraries : Libraries) (options : Options) (system : System)
    (past : History) :
    Course libraries options system past (carryOut libraries options system past).1
      (carryOut libraries options system past).2 := by
  rw [carryOut]
  cases hpause : system.reply past .pause with
  | error error =>
    rw [bind_of_error (pause_of_error hpause)]
    exact .unpaused hpause
  | ok =>
    rw [bind_of_ok (pause_of_ok hpause)]
    cases hrequest : requestOf options with
    | error failure =>
      rw [bind_of_error (follow_of_refused hrequest), startFilter_paused]
      exact .refused hpause hrequest
    | ok request =>
      have hbefore : past ++ [.called .pause (.ok ()), .recorded .paused] ++
          [.logging (startFilter libraries options system past),
            .recorded (announcement request)] =
          past ++ readyEvents libraries options system past request := by
        simp [readyEvents, startEvents]
      rw [← startFilter_paused] at hbefore
      have hfollow := follow_of_request hrequest hbefore
      rw [startFilter_paused] at hfollow
      rcases hlaunch : launch request system
        (past ++ readyEvents libraries options system past request) with
        ⟨failure | status, events⟩
      · rw [conclude_of_failed hlaunch] at hfollow
        rw [bind_of_error hfollow]
        exact .failed hpause hrequest hlaunch
      · rw [conclude_of_launched hlaunch] at hfollow
        rw [bind_of_ok hfollow]
        have hcourse := @Course.launched libraries _ _ _ _ _ _ hpause hrequest hlaunch
        simpa [readyEvents, startEvents] using hcourse

end Relocation.Invocation
