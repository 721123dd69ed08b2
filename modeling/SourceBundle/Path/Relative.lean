import SourceBundle.Path.Basic
/-! Where a path lies as seen from a base directory, and the key a path is filed under.

The relative route walks both component lists: a shared front is dropped, a `.` of the base
takes the path's component as it is, a `..` of the base cannot be undone, and once the two
differ every remaining component of the base is climbed out of with `..`. Of two paths only one
of which is absolute, an absolute path is its own route and a relative one has none. A key keeps
the names (as lossy text) and `..` parts of a path and joins them with `/`. -/
namespace SourceBundle.OsPath

def route : List Component → List Component → List Component → Option (List Component)
  | [], [], acc => some acc
  | a :: as, [], acc => some (acc ++ a :: as)
  | [], _ :: bs, acc => route [] bs (acc ++ [.parent])
  | a :: as, b :: bs, acc =>
    if acc = [] ∧ a = b then route as bs acc
    else if b = .current then route as bs (acc ++ [a])
    else if b = .parent then none
    else some (acc ++ .parent :: bs.map (fun _ => .parent) ++ a :: as)

def relativeTo (p base : OsPath) : Option (List Component) :=
  if p.isAbsolute != base.isAbsolute then
    if p.isAbsolute then some p.components else none
  else route p.components base.components []

def keyOf (cs : List Component) : String :=
  "/".intercalate (cs.filterMap fun
    | .normal n => some (Utf8.lossy n)
    | .parent => some ".."
    | _ => none)

def key (p : OsPath) : String := keyOf p.components

def keyFrom (p base : OsPath) : String := keyOf ((p.relativeTo base).getD p.components)

end SourceBundle.OsPath
