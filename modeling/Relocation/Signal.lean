import Relocation.Text.Decimal

/-!
# Signals

Signals are numbers; those up to 31 have names.
-/

namespace Relocation

/-- The number of a signal. -/
abbrev Signal := Nat

namespace Signal

/-- The named signals, without their customary `SIG`. -/
def table : List (Signal × String) :=
  [(1, "HUP"), (2, "INT"), (3, "QUIT"), (4, "ILL"), (5, "TRAP"), (6, "ABRT"), (7, "BUS"),
    (8, "FPE"), (9, "KILL"), (10, "USR1"), (11, "SEGV"), (12, "USR2"), (13, "PIPE"), (14, "ALRM"),
    (15, "TERM"), (16, "STKFLT"), (17, "CHLD"), (18, "CONT"), (19, "STOP"), (20, "TSTP"),
    (21, "TTIN"), (22, "TTOU"), (23, "URG"), (24, "XCPU"), (25, "XFSZ"), (26, "VTALRM"),
    (27, "PROF"), (28, "WINCH"), (29, "IO"), (30, "PWR"), (31, "SYS")]

/-- The name of a signal, without `SIG`. -/
def name? (signal : Signal) : Option String :=
  (table.find? (·.1 = signal)).map (·.2)

/-- What the signals are about, from the first one on. -/
def titles : List String :=
  ["Hangup", "Interrupt", "Quit", "Illegal instruction", "Trace/breakpoint trap", "Aborted",
    "Bus error", "Floating point exception", "Killed", "User defined signal 1",
    "Segmentation fault", "User defined signal 2", "Broken pipe", "Alarm clock", "Terminated",
    "Stack fault", "Child exited", "Continued", "Stopped (signal)", "Stopped",
    "Stopped (tty input)", "Stopped (tty output)", "Urgent I/O condition",
    "CPU time limit exceeded", "File size limit exceeded", "Virtual timer expired",
    "Profiling timer expired", "Window changed", "I/O possible", "Power failure",
    "Bad system call"]

/-- The first of the signals that mean nothing to the system. -/
def firstRealTime : Signal := 34

/-- What a signal is about. -/
def title (signal : Signal) : String :=
  match titles[signal - 1]? with
  | some title => title
  | none =>
    if signal < firstRealTime then "Unknown signal " ++ Decimal.ofNat signal
    else "Real-time signal " ++ Decimal.ofNat (signal - firstRealTime)

end Signal

end Relocation
