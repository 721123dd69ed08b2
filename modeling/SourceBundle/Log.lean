/-! Log records. Each record has a level, the part of the program that wrote it (its target)
and a message; a run gathers its records in the order they were written, and a reader keeps
those up to a chosen level of detail. -/
namespace SourceBundle

inductive Level where
  | error
  | warn
  | info
  | debug
  | trace
  deriving DecidableEq, Repr

namespace Level

def rank : Level → Nat
  | error => 1
  | warn => 2
  | info => 3
  | debug => 4
  | trace => 5

def label : Level → String
  | error => "ERROR"
  | warn => "WARN"
  | info => "INFO"
  | debug => "DEBUG"
  | trace => "TRACE"

end Level

structure Record where
  level : Level
  target : String
  message : String
  deriving DecidableEq, Repr

abbrev Journal := List Record

abbrev Logged := StateM Journal

def say (level : Level) (target message : String) : Logged Unit :=
  modify (· ++ [⟨level, target, message⟩])

def Journal.upTo (j : Journal) (rank : Nat) : Journal := j.filter (·.level.rank ≤ rank)

end SourceBundle
