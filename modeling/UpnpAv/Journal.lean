/-!
# Log lines

Every layer reports what it does as log lines.  A line is a level and a text;
who shows it, and whether, is decided elsewhere.
-/

namespace UpnpAv

/-- How urgent a log line is, from the most talkative level to the gravest. -/
inductive Level where
  | trace
  | debug
  | info
  | warn
  | error
deriving Repr, DecidableEq

namespace Level

/-- The rank of a level: a graver level has a higher rank. -/
def rank : Level -> Nat
  | trace => 0
  | debug => 1
  | info => 2
  | warn => 3
  | error => 4

/-- The name of a level as log lines show it. -/
def name : Level -> String
  | trace => "TRACE"
  | debug => "DEBUG"
  | info => "INFO"
  | warn => "WARN"
  | error => "ERROR"

/-- All levels, the most talkative first. -/
def all : List Level :=
  [trace, debug, info, warn, error]

end Level

/-- One log line. -/
structure Line where
  level : Level
  text : String
deriving Repr, DecidableEq

namespace Line

/-- A line that helps to follow the program. -/
def debug (text : String) : Line :=
  ⟨.debug, text⟩

/-- A line about ordinary progress. -/
def info (text : String) : Line :=
  ⟨.info, text⟩

/-- A line about something that was worked around. -/
def warn (text : String) : Line :=
  ⟨.warn, text⟩

/-- A line about something that failed. -/
def error (text : String) : Line :=
  ⟨.error, text⟩

end Line
end UpnpAv
