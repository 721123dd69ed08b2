import Mathlib
import SourceBundle.Gather.Walk
/-! The walk as a traversal of the tree. `Tree.below` lists every entry below a directory in the
order a walk meets them: depth first, the entries of each directory in byte order of their names.
Each entry comes with the entries on the way down to it, so which entries a walk reaches is a
property of that list: every entry on the way is a directory that is not refused and can be
listed. Main statement: the steps of a walk with enough fuel are the steps at the entries it
reaches, in this order (`walkBelowEq`); the fuel a walk from the root is given is enough. -/
namespace SourceBundle
open Utf8 (Bytes)

structure Below where
  above : List (Bytes × Node)
  name : Bytes
  node : Node
  deriving DecidableEq, Repr

namespace Below

def under (b : Below) (a : Bytes × Node) : Below := { b with above := a :: b.above }

def path (b : Below) (base : OsPath) : OsPath :=
  (b.above.foldl (fun p a => p.join ⟨a.1⟩) base).join ⟨b.name⟩

def entry (b : Below) (base : OsPath) (depth : Nat) : WalkEntry :=
  ⟨b.path base, depth + b.above.length, b.node, b.name⟩

def opened (refuse : Bytes → Bool) (b : Below) : Bool := b.above.all fun a => a.2 == .dir && !refuse a.1

@[simp] theorem underAbove (b : Below) (a : Bytes × Node) : (b.under a).above = a :: b.above := rfl
@[simp] theorem underName (b : Below) (a : Bytes × Node) : (b.under a).name = b.name := rfl
@[simp] theorem underNode (b : Below) (a : Bytes × Node) : (b.under a).node = b.node := rfl

theorem pathUnder (b : Below) (a : Bytes × Node) (base : OsPath) :
    (b.under a).path base = b.path (base.join ⟨a.1⟩) := rfl

theorem entryUnder (b : Below) (a : Bytes × Node) (base : OsPath) (depth : Nat) :
    (b.under a).entry base depth = b.entry (base.join ⟨a.1⟩) (depth + 1) := by
  simp only [entry, pathUnder, underAbove, List.length_cons, underNode, underName]
  congr 1
  omega

@[simp] theorem entryChild (a : Bytes × Node) (base : OsPath) (depth : Nat) :
    (⟨[], a.1, a.2⟩ : Below).entry base depth = ⟨base.join ⟨a.1⟩, depth, a.2, a.1⟩ := by
  simp [entry, path]

end Below

namespace Tree

def countBelow (t : Tree) (loc : Location) : Nat :=
  t.entries.countP fun e => decide (loc.length < e.1.length ∧ e.1.take loc.length = loc)

theorem countPLtOfImp {α} {l : List α} {p q : α → Bool} (imp : ∀ x ∈ l, p x → q x) {y : α}
    (mem : y ∈ l) (hq : q y) (hp : ¬p y) : l.countP p < l.countP q := by
  induction l with
  | nil => simp at mem
  | cons x xs ih =>
    have rest := List.countP_mono_left fun z hz => imp z (List.mem_cons_of_mem x hz)
    simp only [List.countP_cons]
    rcases List.mem_cons.mp mem with rfl | inside
    · simp [hq, hp]; omega
    · have := ih (fun z hz => imp z (List.mem_cons_of_mem x hz)) inside
      have := imp x (by simp)
      split <;> split <;> simp_all

theorem memChildren {t : Tree} {loc : Location} {a : Bytes × Node}
    (h : a ∈ t.children loc) : (loc ++ [a.1], a.2) ∈ t.entries := by
  simp only [children, List.mem_mergeSort, List.mem_filterMap] at h
  obtain ⟨⟨l, n⟩, mem, found⟩ := h
  cases last : l.getLast? with
  | none => simp [last] at found
  | some name =>
    cases parent : l.dropLast == loc with
    | false => simp [last, parent] at found
    | true =>
      simp only [last, parent, Option.some.injEq] at found
      subst found
      obtain ⟨front, rfl⟩ := List.getLast?_eq_some_iff.mp last
      simp only [List.dropLast_concat, beq_iff_eq] at parent
      simpa [parent] using mem

theorem countBelowChild {t : Tree} {loc : Location} {a : Bytes × Node}
    (h : a ∈ t.children loc) : t.countBelow (loc ++ [a.1]) < t.countBelow loc := by
  refine countPLtOfImp ?_ (memChildren h) (by simp) (by simp)
  intro e _ inner
  simp only [List.length_append, List.length_singleton, decide_eq_true_eq] at inner ⊢
  obtain ⟨longer, front⟩ := inner
  refine ⟨by omega, ?_⟩
  have := congrArg (List.take loc.length) front
  simpa [List.take_take] using this

def below (t : Tree) (loc : Location) : List Below :=
  (t.children loc).attach.flatMap fun a =>
    ⟨[], a.1.1, a.1.2⟩ :: (t.below (loc ++ [a.1.1])).map (·.under a.1)
termination_by t.countBelow loc
decreasing_by exact countBelowChild a.2

theorem belowEq (t : Tree) (loc : Location) :
    t.below loc = (t.children loc).flatMap fun a =>
      ⟨[], a.1, a.2⟩ :: (t.below (loc ++ [a.1])).map (·.under a) := by
  rw [below]
  have := List.flatMap_map Subtype.val (fun a => (⟨[], a.1, a.2⟩ : Below) ::
    (t.below (loc ++ [a.1])).map (·.under a)) (t.children loc).attach
  rw [List.attach_map_subtype_val] at this
  exact this.symm

variable (t : Tree) (cwd : Location) (refuse : Bytes → Bool)

def enters (base : OsPath) (a : Bytes × Node) : Bool :=
  a.2 == .dir && !refuse a.1 && (t.listError? cwd (base.join ⟨a.1⟩)).isNone

def entersAll : OsPath → List (Bytes × Node) → Bool
  | _, [] => true
  | base, a :: rest => t.enters cwd refuse base a && entersAll (base.join ⟨a.1⟩) rest

def reaches (base : OsPath) (b : Below) : Bool := t.entersAll cwd refuse base b.above

def stepsAt (e : WalkEntry) : List WalkStep :=
  match e.node with
  | .dir =>
    if refuse e.name then [.prune e]
    else .visit e :: match t.listError? cwd e.path with
      | some err => [.fail e.path err]
      | none => []
  | _ => [.visit e]

theorem reachesUnder (base : OsPath) (b : Below) (a : Bytes × Node) :
    t.reaches cwd refuse base (b.under a) =
      (t.enters cwd refuse base a && t.reaches cwd refuse (base.join ⟨a.1⟩) b) := rfl

theorem reachesChild (base : OsPath) (a : Bytes × Node) :
    t.reaches cwd refuse base ⟨[], a.1, a.2⟩ = true := rfl

theorem filterReachesChild (base : OsPath) (a : Bytes × Node) (bs : List Below) :
    ((⟨[], a.1, a.2⟩ : Below) :: bs.map (·.under a)).filter (t.reaches cwd refuse base) =
      ⟨[], a.1, a.2⟩ :: if t.enters cwd refuse base a then
        (bs.filter (t.reaches cwd refuse (base.join ⟨a.1⟩))).map (·.under a) else [] := by
  simp only [List.filter_cons, reachesChild, if_true, List.filter_map, Function.comp_def,
    reachesUnder]
  split <;> simp_all

theorem filterOpenedChild (a : Bytes × Node) (bs : List Below) :
    ((⟨[], a.1, a.2⟩ : Below) :: bs.map (·.under a)).filter (·.opened refuse) =
      ⟨[], a.1, a.2⟩ :: if a.2 == .dir && !refuse a.1 then
        (bs.filter (·.opened refuse)).map (·.under a) else [] := by
  simp only [List.filter_cons, Below.opened, List.all_nil, if_true, List.filter_map,
    Function.comp_def, Below.underAbove, List.all_cons]
  split <;> simp_all

theorem walkBelowSucc (fuel : Nat) (loc : Location) (path : OsPath) (depth : Nat) :
    t.walkBelow cwd refuse (fuel + 1) loc path depth = (t.children loc).flatMap fun a =>
      t.stepsAt cwd refuse ⟨path.join ⟨a.1⟩, depth, a.2, a.1⟩ ++
        if t.enters cwd refuse path a then
          t.walkBelow cwd refuse fuel (loc ++ [a.1]) (path.join ⟨a.1⟩) (depth + 1)
        else [] := by
  simp only [walkBelow]
  congr 1
  funext ⟨name, node⟩
  cases node with
  | dir =>
    simp only [stepsAt, enters, beq_self_eq_true, Bool.true_and]
    by_cases r : refuse name
    · simp [r]
    · cases t.listError? cwd (path.join ⟨name⟩) <;> simp [r]
  | _ => simp [stepsAt, enters]

theorem walkBelowEq : ∀ (fuel : Nat) (loc : Location) (path : OsPath) (depth : Nat),
    t.countBelow loc < fuel → t.walkBelow cwd refuse fuel loc path depth =
      ((t.below loc).filter (t.reaches cwd refuse path)).flatMap
        fun b => t.stepsAt cwd refuse (b.entry path depth)
  | 0, _, _, _, h => absurd h (Nat.not_lt_zero _)
  | fuel + 1, loc, path, depth, h => by
    rw [walkBelowSucc, belowEq, List.filter_flatMap, List.flatMap_assoc]
    apply List.flatMap_congr
    intro a mem
    have inner := walkBelowEq fuel (loc ++ [a.1]) (path.join ⟨a.1⟩) (depth + 1)
      (by have := countBelowChild mem; omega)
    rw [filterReachesChild, List.flatMap_cons, Below.entryChild]
    congr 1
    by_cases go : t.enters cwd refuse path a
    · simp only [go, if_true, List.flatMap_map, Below.entryUnder, inner]
    · simp [go]

theorem countBelowLtFuel (loc : Location) : t.countBelow loc < t.entries.length + 1 :=
  Nat.lt_succ_of_le (List.countP_le_length)

end Tree

end SourceBundle
