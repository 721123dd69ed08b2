import SourceBundle.Cli.Parse
/-! The help pages, the version line and the texts of usage errors.

The short page (`-h`) puts each option's help beside it, aligned per section; the long page
(`--help`) puts it on the next line, indented, with a blank line between options and the list
of choices set apart. Options without a heading come first under `Options:`, then each heading
in the order it first appears. A usage error names the offending option or word, may suggest a
close one, shows a usage line built from the options given, and points at `--help`. -/
namespace SourceBundle.Cli

def spaces (n : Nat) : String := String.ofList (List.replicate n ' ')

def choicesNote (o : Opt) : String :=
  if o.choices.isEmpty then "" else "[possible values: " ++ ", ".intercalate o.choices ++ "]"

def namesOf (o : Opt) : String :=
  (match o.short with
    | some c => "-" ++ c.toString ++ ", "
    | none => "    ") ++ "--" ++ o.long ++ o.suffix

def widthOf (o : Opt) : Nat := o.spec.length + 4

def shortLine (longest : Nat) (o : Opt) : String :=
  let note := choicesNote o
  "  " ++ namesOf o ++ spaces (longest + 2 - widthOf o) ++ o.help ++
    (if note.isEmpty then "" else " " ++ note)

def longEntry (o : Opt) : String :=
  let note := choicesNote o
  let body := o.fullHelp ++ (if note.isEmpty then "" else "\n\n" ++ note)
  "  " ++ namesOf o ++ "\n" ++ spaces 10 ++ body.replace "\n" ("\n" ++ spaces 10)

def sections : List (String × List Opt) :=
  let headings := options.filterMap (·.heading) |>.foldl
    (fun acc h => if acc.contains h then acc else acc ++ [h]) []
  ("Options", options.filter (·.heading.isNone)) ::
    headings.map fun h => (h, options.filter (·.heading == some h))

def usageLine : String := programName ++ " [OPTIONS]"

def helpPage (long : Bool) : String :=
  let body := sections.map fun (title, opts) =>
    let longest := opts.foldl (fun m o => max m (widthOf o)) 2
    title ++ ":\n" ++
      if long then "\n\n".intercalate (opts.map longEntry)
      else "\n".intercalate (opts.map (shortLine longest))
  (if long then longAbout else about) ++ "\n\nUsage: " ++ usageLine ++ "\n\n" ++
    "\n\n".intercalate body ++ "\n\n" ++ afterHelp ++ "\n"

def versionLine : String := programName ++ " " ++ programVersion ++ "\n"

def usageFor (used : List String) : String :=
  "Usage: " ++ (if used.isEmpty then usageLine else programName ++ " " ++ " ".intercalate used)

def tryHelp : String := "\n\nFor more information, try '--help'.\n"

def choicesLine (choices : List String) : String :=
  if choices.isEmpty then "" else "\n  [possible values: " ++ ", ".intercalate choices ++ "]"

def tipLine (what : String) (suggestion : Option String) : String :=
  match suggestion with
  | some s => "\n\n  tip: a similar " ++ what ++ " exists: '" ++ s ++ "'"
  | none => ""

def Refusal.message : Refusal → String
  | .unknown arg suggestion used =>
    "error: unexpected argument '" ++ arg ++ "' found" ++ tipLine "argument" suggestion ++
      "\n\n" ++ usageFor used ++ tryHelp
  | .conflict arg others used =>
    let against := match others with
      | [o] => " '" ++ o ++ "'"
      | os => ":" ++ String.join (os.map ("\n  " ++ ·))
    "error: the argument '" ++ arg ++ "' cannot be used with" ++ against ++ "\n\n" ++
      usageFor used ++ tryHelp
  | .repeated arg =>
    "error: the argument '" ++ arg ++ "' cannot be used multiple times\n\n" ++ usageFor [] ++
      tryHelp
  | .emptyValue arg choices =>
    "error: a value is required for '" ++ arg ++ "' but none was supplied" ++
      choicesLine choices ++ tryHelp
  | .invalidValue arg value choices suggestion =>
    "error: invalid value '" ++ value ++ "' for '" ++ arg ++ "'" ++ choicesLine choices ++
      tipLine "value" suggestion ++ tryHelp
  | .unneeded arg value used =>
    "error: unexpected value '" ++ value ++ "' for '" ++ arg ++
      "' found; no more were expected\n\n" ++ usageFor used ++ tryHelp

end SourceBundle.Cli
