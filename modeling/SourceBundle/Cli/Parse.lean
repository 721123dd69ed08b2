import SourceBundle.Cli.Options
import SourceBundle.Cli.Similar
import SourceBundle.Text.Escaped
/-! Reading the words of the command line into arguments.

Words are read left to right. `--name` or `--name=value` is a long option, `-abc` a cluster of
short ones (a short option that takes a value takes the rest of its cluster, less a leading `=`,
or else the next words), `--` ends the options, and any other word is a value for the option
before it or, when none is waiting, an unexpected argument. A value-taking option collects its
values until the next option or the end: one for a single value, any number for a list. Its
values are checked when it is complete, so an option with no value is reported as soon as the
next option arrives. Help and version stop the reading where they stand; a single-valued option
or switch given twice, an unknown option or word, a wrong value, and a pair of options that
exclude each other are usage errors. Exclusions are checked last, in the order the options were
first taken. -/
namespace SourceBundle.Cli

structure Args where
  root : Option String := none
  config : Option String := none
  noConfig : Bool := false
  manifest : Option String := none
  exclude : List String := []
  skipUnreadable : Bool := false
  output : Option String := none
  unicode : Bool := false
  completion : Option Shell := none
  verbose : Nat := 0
  quiet : Bool := false
  deriving DecidableEq, Repr

inductive Refusal where
  | unknown (arg : String) (suggestion : Option String) (usage : List String)
  | conflict (arg : String) (others : List String) (usage : List String)
  | repeated (arg : String)
  | emptyValue (arg : String) (choices : List String)
  | invalidValue (arg value : String) (choices : List String) (suggestion : Option String)
  | unneeded (arg value : String) (usage : List String)
  deriving DecidableEq, Repr

inductive Parsed where
  | run (args : Args)
  | help (long : Bool)
  | version
  | refused (r : Refusal)
  deriving DecidableEq, Repr

inductive Halt where
  | help (long : Bool)
  | version
  | refused (r : Refusal)
  deriving DecidableEq, Repr

abbrev Taken := List (String × List String)

structure Reading where
  taken : Taken := []
  pending : Option (Opt × List String) := none
  waiting : Bool := false
  escaped : Bool := false
  deriving Inhabited

def usageOf (ids : List String) : List String :=
  (ids.filterMap fun id => (byId? id).map Opt.spec).foldl
    (fun acc s => if acc.contains s then acc else acc ++ [s]) []

def groupsOf (ids : List String) : List String :=
  (ids.filterMap fun id => (byId? id).bind Opt.group).foldl
    (fun acc g => if acc.contains g then acc else acc ++ [g]) []

def groupSpec (g : String) : String :=
  "<" ++ "|".intercalate ((options.filter (·.group == some g)).map Opt.spec) ++ ">"

def usageWithGroups (ids groups : List String) : List String :=
  usageOf (ids.filter fun id => !groups.any fun g => (byId? id).bind Opt.group == some g) ++
    groups.map groupSpec

def badValue? (o : Opt) (v : String) : Option Halt :=
  if !o.choices.isEmpty then
    if o.choices.contains v then none
    else if v.isEmpty then some (.refused (.emptyValue o.spec o.choices))
    else some (.refused (.invalidValue o.spec v o.choices (closest v o.choices)))
  else if o.hint == .path && v.isEmpty then some (.refused (.emptyValue o.spec []))
  else none

def addValues (taken : Taken) (o : Opt) (vals : List String) : Taken × Option Halt :=
  let good := vals.takeWhile fun v => (badValue? o v).isNone
  let bad := (vals.drop good.length).head?.bind (badValue? o)
  (taken.map fun (id, vs) => if id == o.id then (id, vs ++ good) else (id, vs), bad)

def take (taken : Taken) (o : Opt) (long : Bool) (vals : List String) : Taken × Option Halt :=
  if o.takesValue && vals.isEmpty then (taken, some (.refused (.emptyValue o.spec o.choices)))
  else
    let present := (taken.lookup o.id).isSome
    match o.action with
    | .set =>
      if present then (taken.filter (·.1 != o.id), some (.refused (.repeated o.spec)))
      else addValues (taken ++ [(o.id, [])]) o vals
    | .setTrue =>
      if present then (taken.filter (·.1 != o.id), some (.refused (.repeated o.spec)))
      else (taken ++ [(o.id, ["true"])], none)
    | .append => addValues (if present then taken else taken ++ [(o.id, [])]) o vals
    | .count =>
      let n := ((taken.lookup o.id).getD []).length
      ((taken.filter (·.1 != o.id)) ++ [(o.id, List.replicate (min 255 (n + 1)) "")], none)
    | .help => (taken, some (.help long))
    | .version => (taken, some .version)

def settleLoosely (r : Reading) : Reading × Option Halt :=
  match r.pending with
  | none => (r, none)
  | some (o, vals) =>
    let (taken, e) := take r.taken o true vals
    ({ r with taken, pending := none }, e)

def settle (r : Reading) : Except Halt Reading :=
  match settleLoosely r with
  | (r, none) => .ok r
  | (_, some e) => .error e

def react (r : Reading) (o : Opt) (long : Bool) (vals : List String) : Except Halt Reading := do
  let r ← settle r
  match take r.taken o long vals with
  | (taken, none) => return { r with taken, waiting := false }
  | (_, some e) => throw e

def await (r : Reading) (o : Opt) : Except Halt Reading := do
  let r ← settle r
  return { r with pending := some (o, []), waiting := true }

def unknownLong (r : Reading) (name : String) : Halt :=
  let suggestion := closest name (options.map Opt.long)
  let settled := (settleLoosely r).1
  let ids := settled.taken.map (·.1) ++
    (match suggestion.bind byLong? with
      | some o => if (settled.taken.lookup o.id).isSome then [] else [o.id]
      | none => [])
  .refused (.unknown ("--" ++ name) (suggestion.map ("--" ++ ·)) (usageOf ids))

def readLong (r : Reading) (name : String) (value : Option String) : Except Halt Reading :=
  match byLong? name with
  | none => .error (unknownLong r name)
  | some o =>
    if o.takesValue then
      match value with
      | some v => react r o true [v]
      | none => await r o
    else
      match value with
      | some v =>
        let ids := r.taken.map (·.1)
        .error (.refused (.unneeded o.spec v (usageWithGroups (ids ++ [o.id]) (groupsOf ids))))
      | none => react r o true []

def readShorts (r : Reading) : List Char → Except Halt Reading
  | [] => .ok r
  | c :: rest =>
    match byShort? c with
    | none => .error (.refused (.unknown ("-" ++ c.toString) none []))
    | some o =>
      if o.takesValue then
        let attached := match rest with
          | '=' :: v => some (String.ofList v)
          | [] => none
          | v => some (String.ofList v)
        match attached with
        | some v => react r o false [v]
        | none => await r o
      else do
        let r ← react r o false []
        readShorts r rest

def readWord (r : Reading) (w : String) : Except Halt Reading :=
  let cs := w.toList
  if !r.escaped && w == "--" then .ok { r with escaped := true }
  else if !r.escaped && cs.take 2 == ['-', '-'] then
    let body := cs.drop 2
    let name := String.ofList (body.takeWhile (· != '='))
    let value := if body.contains '=' then some (String.ofList ((body.dropWhile (· != '=')).drop 1))
      else none
    readLong r name value
  else if !r.escaped && cs.head? == some '-' && cs.length > 1 then readShorts r (cs.drop 1)
  else if !r.escaped && r.waiting then
    match r.pending with
    | some (o, vals) =>
      .ok { r with pending := some (o, vals ++ [w]), waiting := o.action == .append }
    | none => .ok r
  else .error (.refused (.unknown w none []))

def exclusion (taken : Taken) : Option Refusal :=
  let ids := taken.map (·.1)
  ids.findSome? fun id =>
    match byId? id with
    | none => none
    | some o =>
      let against := ids.filter fun other =>
        other != id && (o.conflicts.contains other ||
          ((byId? other).map (·.conflicts.contains id)).getD false)
      if against.isEmpty then none
      else
        some (.conflict o.spec (usageOf against) (usageOf (ids.filter (!against.contains ·))))

def argsOf (taken : Taken) : Args :=
  let one (id : String) := (taken.lookup id).bind (·.head?)
  let on (id : String) := (taken.lookup id).isSome
  { root := one "root", config := one "config", noConfig := on "no_config",
    manifest := one "manifest", exclude := (taken.lookup "exclude").getD [],
    skipUnreadable := on "skip_unreadable", output := one "output", unicode := on "unicode",
    completion := (one "completion").bind Shell.ofName?,
    verbose := ((taken.lookup "verbose").getD []).length, quiet := on "quiet" }

def parse (words : List String) : Parsed :=
  let read : Except Halt Reading := do
    let r ← words.foldlM readWord {}
    settle r
  match read with
  | .error (.help long) => .help long
  | .error .version => .version
  | .error (.refused e) => .refused e
  | .ok r =>
    match exclusion r.taken with
    | some e => .refused e
    | none => .run (argsOf r.taken)

end SourceBundle.Cli
