/-!
# Signals

The signals that a process can be sent, by name and by number, and what they do to one that does nothing about them.
-/

namespace GuardedPlan.Shell

namespace Signal

def names : List (String × Nat) :=
  [("HUP", 1), ("INT", 2), ("QUIT", 3), ("ILL", 4), ("TRAP", 5), ("ABRT", 6), ("BUS", 7), ("FPE", 8), ("KILL", 9),
    ("USR1", 10), ("SEGV", 11), ("USR2", 12), ("PIPE", 13), ("ALRM", 14), ("TERM", 15), ("16", 16), ("CHLD", 17),
    ("CONT", 18), ("STOP", 19), ("TSTP", 20), ("TTIN", 21), ("TTOU", 22), ("URG", 23), ("XCPU", 24), ("XFSZ", 25),
    ("VTALRM", 26), ("PROF", 27), ("WINCH", 28), ("IO", 29), ("PWR", 30), ("SYS", 31), ("32", 32), ("33", 33),
    ("RTMIN", 34), ("RTMAX", 64)]

/-- The signal that asks a process to end. -/
def terminate : Nat := 15

/-- The signal of a process whose stack is exhausted. -/
def overflow : Nat := 11

/-- The signal of a process that writes where nobody reads. -/
def brokenPipe : Nat := 13

/-- The signals that leave a process alone. -/
def harmless : List Nat :=
  [0, 17, 18, 23, 28]

def certain : List Nat :=
  [9, 19]

def name? (signal : Nat) : Option String :=
  (names.find? fun (_, number) => number = signal).map Prod.fst

def decimal? (text : String) : Option Nat :=
  if text ≠ "" && text.toList.all Char.isDigit then
    some (text.toList.foldl (fun n c => n * 10 + (c.toNat - '0'.toNat)) 0)
  else none

/-- The signal of a name or number; zero stands for the end of a shell. -/
def of? (text : String) : Option Nat :=
  match decimal? text with
  | some number => if number ≤ 64 then some number else none
  | none =>
    let upper := String.ofList (text.toList.map Char.toUpper)
    if upper = "EXIT" then some 0 else names.lookup upper

/-- What is said of a process that a signal ended. -/
def obituary : Nat → String
  | 1 => "Hangup"
  | 2 => ""
  | 3 => "Quit"
  | 4 => "Illegal instruction"
  | 5 => "Trace/breakpoint trap"
  | 6 => "Aborted"
  | 7 => "Bus error"
  | 8 => "Floating point exception"
  | 9 => "Killed"
  | 10 => "User defined signal 1"
  | 11 => "Segmentation fault"
  | 12 => "User defined signal 2"
  | 13 => ""
  | 14 => "Alarm clock"
  | 15 => "Terminated"
  | signal => "Signal " ++ toString signal

end Signal

end GuardedPlan.Shell
