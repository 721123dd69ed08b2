import Mathlib
import SourceBundle.Proofs.GatherSteps
import SourceBundle.Proofs.PathLookup
/-! What a collecting run gives. A run first checks the root, then folds the walk below it.
Which entries the walk reaches depends on which directories can be listed; the statements below
are about the entries that are only not under a refused directory or a link (`Below.opened`).
The two differ only below a directory the walk goes into and cannot list: that directory fails
before anything below it is met, and nothing below it can be read, since its path names nothing.

Main statements: a bundle a run returns holds the texts of the opened entries, inserted in walk
order (`gatherCollects`); and under the `abort` policy a run fails exactly when the root check
fails or, otherwise, with the failure of the first opened entry in walk order that fails
(`gatherAbortFailsAt`). -/
namespace SourceBundle
open Utf8 (Bytes)

def Tree.NamesProper (t : Tree) : Prop := ∀ e ∈ t.entries, ∀ n ∈ e.1, OsPath.IsName n

namespace Below

def names (b : Below) : List Bytes := b.above.map (·.1) ++ [b.name]

theorem pathEqJoinAll (b : Below) (base : OsPath) : b.path base = base.joinAll b.names := by
  simp [path, names, OsPath.joinAll, List.foldl_map]

@[simp] theorem namesUnder (b : Below) (a : Bytes × Node) : (b.under a).names = a.1 :: b.names := by
  simp [names]

end Below

theorem findSome?FlatMapCongr {α β γ} {f f' : α → List β} {g : β → Option γ} :
    ∀ {l : List α}, (∀ a ∈ l, (f a).findSome? g = (f' a).findSome? g) →
      (l.flatMap f).findSome? g = (l.flatMap f').findSome? g
  | [], _ => rfl
  | a :: l, same => by
    simp only [List.flatMap_cons, List.findSome?_append, same a List.mem_cons_self]
    rw [findSome?FlatMapCongr fun x hx => same x (List.mem_cons_of_mem a hx)]

namespace Tree
variable {t : Tree}

theorem namesBelow {P : Bytes → Prop} (all : ∀ e ∈ t.entries, ∀ n ∈ e.1, P n) (loc : Location) :
    ∀ b ∈ t.below loc, ∀ n ∈ b.names, P n := by
  intro b mem n hn
  rw [belowEq] at mem
  simp only [List.mem_flatMap, List.mem_cons, List.mem_map] at mem
  obtain ⟨a, child, rfl | ⟨b', inner, rfl⟩⟩ := mem
  · simp only [Below.names, List.map_nil, List.nil_append, List.mem_singleton] at hn
    exact all _ (memChildren child) n (by simp [hn])
  · rcases List.mem_cons.mp (Below.namesUnder b' a ▸ hn) with rfl | deeper
    · exact all _ (memChildren child) a.1 (by simp)
    · exact namesBelow all (loc ++ [a.1]) b' inner n deeper
termination_by t.countBelow loc
decreasing_by exact countBelowChild child

theorem lookupBelowFails (proper : t.NamesProper) {cwd loc : Location} {p : OsPath} (hp : p.Plain)
    (fails : ∀ x, t.lookup cwd p true ≠ .ok x) {b : Below} (mem : b ∈ t.below loc) :
    ∀ x, t.lookup cwd (b.path p) true ≠ .ok x := by
  rw [Below.pathEqJoinAll]
  exact lookupJoinAllFails hp (namesBelow proper loc b mem) fails

theorem entersCases (t : Tree) (cwd : Location) (refuse : Bytes → Bool) (base : OsPath)
    (a : Bytes × Node) :
    (t.enters cwd refuse base a = true ∧ (a.2 == .dir && !refuse a.1) = true) ∨
    ((a.2 == .dir && !refuse a.1) = true ∧ t.enters cwd refuse base a = false ∧
      ∃ err, t.listError? cwd (base.join ⟨a.1⟩) = some err) ∨
    ((a.2 == .dir && !refuse a.1) = false ∧ t.enters cwd refuse base a = false) := by
  unfold enters
  cases (a.2 == .dir && !refuse a.1) <;> cases t.listError? cwd (base.join ⟨a.1⟩) <;> simp

theorem lookupFailsOfListError {cwd : Location} {p : OsPath} {err : OsError}
    (unlisted : t.listError? cwd p = some err) : ∀ x, t.lookup cwd p true ≠ .ok x := by
  intro x found
  simp [listError?, found] at unlisted

end Tree

section Reach
variable (h : Host) (c : CollectConfig) (root : OsPath)

theorem textOfUnreadable {e : WalkEntry} (fails : ∀ x, h.tree.lookup h.cwd e.path true ≠ .ok x) :
    e.text h c root = none := by
  obtain ⟨err, unread⟩ := (Tree.readOfLookupFails fails).1
  simp [WalkEntry.text, unread]

theorem filterMapTextOpened (proper : h.tree.NamesProper) (loc : Location) (base : OsPath)
    (depth : Nat) :
    ((h.tree.below loc).filter (h.tree.reaches h.cwd (refuses c) base)).filterMap
        (fun b => (b.entry base depth).text h c root) =
      ((h.tree.below loc).filter (·.opened (refuses c))).filterMap
        (fun b => (b.entry base depth).text h c root) := by
  rw [Tree.belowEq, List.filter_flatMap, List.filter_flatMap, List.filterMap_flatMap,
    List.filterMap_flatMap]
  apply List.flatMap_congr
  intro a child
  rw [Tree.filterReachesChild, Tree.filterOpenedChild]
  have nameOk : OsPath.IsName a.1 := proper _ (Tree.memChildren child) a.1 (by simp)
  rcases Tree.entersCases h.tree h.cwd (refuses c) base a with
    ⟨go, dirOk⟩ | ⟨dirOk, go, err, unlisted⟩ | ⟨dirOk, go⟩
  · have tails := filterMapTextOpened proper (loc ++ [a.1]) (base.join ⟨a.1⟩) (depth + 1)
    simp only [go, dirOk, if_true, List.filterMap_cons, List.filterMap_map, Function.comp_def,
      Below.entryUnder, tails]
  · -- the walk meets the directory and cannot list it: nothing below it reads
    have nothing : ∀ b ∈ (h.tree.below (loc ++ [a.1])).filter (·.opened (refuses c)),
        ((b.under a).entry base depth).text h c root = none := by
      intro b mem
      rw [Below.entryUnder]
      exact textOfUnreadable h c root (Tree.lookupBelowFails proper
        (OsPath.plainJoin base nameOk) (Tree.lookupFailsOfListError unlisted)
        (List.mem_of_mem_filter mem))
    simp only [go, dirOk, if_true, Bool.false_eq_true, if_false, List.filterMap_cons,
      List.filterMap_map, Function.comp_def, List.filterMap_eq_nil_iff.mpr nothing, List.filterMap_nil]
  · simp [go, dirOk]
termination_by h.tree.countBelow loc
decreasing_by exact Tree.countBelowChild child

theorem findSomeFailureOpened (loc : Location) (base : OsPath) (depth : Nat) :
    ((h.tree.below loc).filter (h.tree.reaches h.cwd (refuses c) base)).findSome?
        (fun b => (b.entry base depth).failure h c) =
      ((h.tree.below loc).filter (·.opened (refuses c))).findSome?
        (fun b => (b.entry base depth).failure h c) := by
  rw [Tree.belowEq, List.filter_flatMap, List.filter_flatMap]
  apply findSome?FlatMapCongr
  intro a child
  rw [Tree.filterReachesChild, Tree.filterOpenedChild]
  rcases Tree.entersCases h.tree h.cwd (refuses c) base a with
    ⟨go, dirOk⟩ | ⟨dirOk, go, err, unlisted⟩ | ⟨dirOk, go⟩
  · have tails := findSomeFailureOpened (loc ++ [a.1]) (base.join ⟨a.1⟩) (depth + 1)
    simp only [go, dirOk, if_true, List.findSome?_cons, List.findSome?_map, Function.comp_def,
      Below.entryUnder, tails]
  · -- the directory's own failure comes first on both sides
    have isDir : a.2 = .dir := by simp_all
    have notRefused : refuses c a.1 = false := by simp_all
    have head : ((⟨[], a.1, a.2⟩ : Below).entry base depth).failure h c =
        some (.walk (base.join ⟨a.1⟩) err) := by
      rw [Below.entryChild]
      simp [WalkEntry.failure, isDir, notRefused, unlisted]
    simp only [List.findSome?_cons, head]
  · simp [go, dirOk]
termination_by h.tree.countBelow loc
decreasing_by exact Tree.countBelowChild child

end Reach

def rootFailure (h : Host) (root : OsPath) : Option Failure :=
  match h.tree.stat h.cwd root with
  | .error e => some (.rootDir root e)
  | .ok .dir =>
    match h.tree.lstat h.cwd root with
    | .error e => some (.rootDir root e)
    | .ok _ => none
  | .ok _ => some (.rootDir root (.other "not a directory"))

theorem rootFailureRootDir {h : Host} {root : OsPath} {f : Failure} (fails : rootFailure h root = some f) :
    ∃ e, f = .rootDir root e := by
  unfold rootFailure at fails
  split at fails
  · exact ⟨_, (Option.some.inj fails).symm⟩
  · split at fails
    · exact ⟨_, (Option.some.inj fails).symm⟩
    · cases fails
  · exact ⟨_, (Option.some.inj fails).symm⟩

section Root
variable (h : Host) (c : CollectConfig) (root : OsPath)

theorem outcomeGatherRootFailure {f : Failure} (fails : rootFailure h root = some f) (j : Journal) :
    outcome (gather h root c) j = .error f := by
  unfold rootFailure at fails
  unfold gather
  cases stat : h.tree.stat h.cwd root with
  | error e => simp only [stat, Option.some.injEq] at fails; subst fails; rfl
  | ok n =>
    cases n with
    | dir =>
      cases lstat : h.tree.lstat h.cwd root with
      | error e =>
        simp only [stat, lstat, Option.some.injEq] at fails
        subst fails
        have unfound : h.tree.lookup h.cwd root false = .error e := by
          cases found : h.tree.lookup h.cwd root false <;> simp_all [Tree.lstat, Except.map]
        have steps : rootSteps h c root = .error e := by simp [rootSteps, unfound]
        rw [outcomeSayBind, outcomeSayBind, steps]
        rfl
      | ok _ => simp [stat, lstat] at fails
    | _ => simp only [stat, Option.some.injEq] at fails; subst fails; rfl

theorem rootFailureNoneOfOk {b : Bundle} {j : Journal} (ok : outcome (gather h root c) j = .ok b) :
    rootFailure h root = none := by
  cases fails : rootFailure h root with
  | none => rfl
  | some f =>
    rw [outcomeGatherRootFailure h c root fails] at ok
    cases ok

theorem foldlMWalkBelow {fuel : Nat} {loc : Location} (enough : h.tree.countBelow loc < fuel)
    (g : Gathered) : (h.tree.walkBelow h.cwd (refuses c) fuel loc root 1).foldlM (Gathered.step h c root) g =
      ((h.tree.below loc).filter (h.tree.reaches h.cwd (refuses c) root)).foldlM
        (fun g b => g.settle h c root (b.entry root 1)) g := by
  rw [Tree.walkBelowEq _ _ _ _ _ _ _ enough, foldlMFlatMap]
  simp only [foldlMStepsAt]

theorem isCandidateRootEntry {node : Node} {loc : Location} (isDir : h.tree.lookup h.cwd root true = .ok (loc, .dir))
    (lfound : ∃ l, h.tree.lookup h.cwd root false = .ok (l, node)) (name : Bytes) :
    isCandidate h ⟨root, 0, node, name⟩ = false := by
  obtain ⟨l, lfound⟩ := lfound
  cases node with
  | file data =>
    have := Tree.lookupFollow lfound (by simp)
    simp [isDir] at this
  | link target => simp [isCandidate, Tree.isDir, Tree.stat, isDir, Except.map]
  | _ => rfl

theorem stepRootEntry {node : Node} {loc : Location} (isDir : h.tree.lookup h.cwd root true = .ok (loc, .dir))
    (lfound : ∃ l, h.tree.lookup h.cwd root false = .ok (l, node)) (g : Gathered) (name : Bytes) :
    g.step h c root (.visit ⟨root, 0, node, name⟩) = .ok g := by
  simp [Gathered.step, isCandidateRootEntry h root isDir lfound name]

theorem rootOfRootFailureNone (fine : rootFailure h root = none) :
    h.tree.stat h.cwd root = .ok .dir ∧ ∃ loc l node, h.tree.lookup h.cwd root true = .ok (loc, .dir) ∧
      h.tree.lookup h.cwd root false = .ok (l, node) := by
  unfold rootFailure at fine
  cases stat : h.tree.stat h.cwd root with
  | error e => simp [stat] at fine
  | ok n =>
    cases n with
    | dir =>
      cases lstat : h.tree.lstat h.cwd root with
      | error e => simp [stat, lstat] at fine
      | ok node =>
        refine ⟨rfl, ?_⟩
        cases found : h.tree.lookup h.cwd root true with
        | error e => simp [Tree.stat, found, Except.map] at stat
        | ok x =>
          cases unfollowed : h.tree.lookup h.cwd root false with
          | error e => simp [Tree.lstat, unfollowed, Except.map] at lstat
          | ok y =>
            obtain ⟨loc, n⟩ := x
            obtain ⟨l, m⟩ := y
            simp_all [Tree.stat, Tree.lstat, Except.map]
    | _ => simp [stat] at fine

theorem rootStepsReached (fine : rootFailure h root = none) :
    ∃ loc steps, h.tree.lookup h.cwd root true = .ok (loc, .dir) ∧ rootSteps h c root = .ok steps ∧
      ∀ g, steps.foldlM (Gathered.step h c root) g = ((h.tree.below loc).filter
        (h.tree.reaches h.cwd (refuses c) root)).foldlM (fun g b => g.settle h c root (b.entry root 1)) g := by
  obtain ⟨-, loc, l, node, isDir, lfound⟩ := rootOfRootFailureNone h root fine
  refine ⟨loc, h.tree.walkFrom h.cwd (refuses c) root node (some loc), isDir,
    by simp [rootSteps, lfound, isDir], fun g => ?_⟩
  simp only [Tree.walkFrom, List.foldlM_cons, stepRootEntry h c root isDir ⟨l, lfound⟩]
  exact foldlMWalkBelow h c root (Tree.countBelowLtFuel _ _) g

theorem outcomeGatherWalk (fine : rootFailure h root = none) :
    ∃ loc, h.tree.lookup h.cwd root true = .ok (loc, .dir) ∧ ∀ j, outcome (gather h root c) j =
      (((h.tree.below loc).filter (h.tree.reaches h.cwd (refuses c) root)).foldlM
        (fun (g : Gathered) b => g.settle h c root (b.entry root 1)) {}).map
          fun g => ⟨g.contracts, c.manifestPath⟩ := by
  obtain ⟨stat, -⟩ := rootOfRootFailureNone h root fine
  obtain ⟨loc, steps, isDir, walk, walked⟩ := rootStepsReached h c root fine
  refine ⟨loc, isDir, fun j => ?_⟩
  unfold gather
  simp only [stat]
  rw [outcomeSayBind, outcomeSayBind, walk]
  simp only [pure_bind]
  rw [@outcomeBind Gathered Bundle _ _ _ (fun g => .ok ⟨g.contracts, c.manifestPath⟩)
    (outcomeGatherSteps h c root _ {})]
  · rw [walked]
    cases ((h.tree.below loc).filter (h.tree.reaches h.cwd (refuses c) root)).foldlM
      (fun (g : Gathered) b => g.settle h c root (b.entry root 1)) {} <;> rfl
  · -- the closing records change nothing
    intro g j
    rw [outcomeSayBind]
    split
    · rw [outcomeSayBind]; rfl
    · rfl

end Root

theorem mapEqError {α β ε} (k : α → β) (x : Except ε α) (e : ε) : x.map k = .error e ↔ x = .error e := by
  cases x <;> simp [Except.map]

theorem gatherCollects (h : Host) (root : OsPath) (c : CollectConfig) (j : Journal) (b : Bundle)
    (proper : h.tree.NamesProper) (ok : outcome (gather h root c) j = .ok b) :
    b.manifestPath = c.manifestPath ∧ ∃ loc, h.tree.lookup h.cwd root true = .ok (loc, .dir) ∧
      b.contracts = Contracts.ofPairs (((h.tree.below loc).filter (·.opened (refuses c))).filterMap
        fun e => (e.entry root 1).text h c root) := by
  cases fine : rootFailure h root with
  | some f => rw [outcomeGatherRootFailure h c root fine] at ok; cases ok
  | none =>
    obtain ⟨loc, isDir, run⟩ := outcomeGatherWalk h c root fine
    rw [run j] at ok
    cases folded : ((h.tree.below loc).filter (h.tree.reaches h.cwd (refuses c) root)).foldlM
        (fun (g : Gathered) b => g.settle h c root (b.entry root 1)) {} with
    | error f => rw [folded] at ok; cases ok
    | ok g =>
      rw [folded] at ok
      cases ok
      refine ⟨rfl, loc, isDir, ?_⟩
      have entries := foldlMSettleContracts h c root _ (List.foldlM_map.trans folded)
      show g.contracts = _
      rw [entries, List.filterMap_map, Function.comp_def,
        filterMapTextOpened h c root proper loc root 1]
      rfl

def oneFileHost : Host := ⟨⟨[([[97, 46, 114, 115]], .file [120])]⟩, [], none, none⟩

theorem collectsOneFile : oneFileHost.tree.NamesProper ∧
    outcome (gather oneFileHost ⟨[47]⟩ {}) [] = .ok ⟨.ofPairs [("a.rs", "x")], "Cargo.toml"⟩ ∧
    "Cargo.toml" = ({} : CollectConfig).manifestPath ∧
    ∃ loc, oneFileHost.tree.lookup oneFileHost.cwd ⟨[47]⟩ true = .ok (loc, .dir) ∧
      Contracts.ofPairs [("a.rs", "x")] = Contracts.ofPairs (((oneFileHost.tree.below loc).filter
        (·.opened (refuses {}))).filterMap fun e => (e.entry ⟨[47]⟩ 1).text oneFileHost {} ⟨[47]⟩) := by
  have proper : oneFileHost.tree.NamesProper := by
    simp [oneFileHost, Tree.NamesProper, OsPath.IsName, OsPath.slash]
  have fine : rootFailure oneFileHost ⟨[47]⟩ = none := by
    simp [rootFailure, oneFileHost, Tree.stat, Tree.lstat, Tree.lookup, Tree.locate, Tree.walk,
      Tree.steps, OsPath.segments, OsPath.slash, Tree.startOf, OsPath.isAbsolute, Except.map,
      pathLimit, linkLimit]
  have top : oneFileHost.tree.lookup oneFileHost.cwd ⟨[47]⟩ true = .ok ([], .dir) := by
    simp [oneFileHost, Tree.lookup, Tree.locate, Tree.walk, Tree.steps, OsPath.segments, OsPath.slash,
      Tree.startOf, OsPath.isAbsolute, pathLimit, linkLimit]
  have below : oneFileHost.tree.below [] = [⟨[], [97, 46, 114, 115], .file [120]⟩] := by
    have inRoot : oneFileHost.tree.children [] = [([97, 46, 114, 115], .file [120])] := by
      simp [oneFileHost, Tree.children]
    have inFile : oneFileHost.tree.children [[97, 46, 114, 115]] = [] := by
      simp [oneFileHost, Tree.children]
    rw [Tree.belowEq, inRoot]
    simp only [List.flatMap_cons, List.flatMap_nil, List.append_nil, List.nil_append]
    rw [Tree.belowEq, inFile]
    rfl
  have read : oneFileHost.tree.read oneFileHost.cwd ⟨[47, 97, 46, 114, 115]⟩ = .ok [120] := by
    simp [oneFileHost, Tree.read, Tree.stat, Tree.lookup, Tree.locate, Tree.walk, Tree.steps,
      Tree.get?, OsPath.segments, OsPath.slash, Tree.startOf, OsPath.isAbsolute, Except.map,
      pathLimit, linkLimit, nameLimit]
  have key : OsPath.keyFrom ⟨[47, 97, 46, 114, 115]⟩ ⟨[47]⟩ = "a.rs" := by
    simp [OsPath.keyFrom, OsPath.relativeTo, OsPath.keyOf, OsPath.components, OsPath.head,
      OsPath.segmentComponent, OsPath.segments, OsPath.route, OsPath.isAbsolute, OsPath.slash,
      OsPath.dot, Utf8.lossy, Utf8.pieces, Utf8.front]
  have ok : outcome (gather oneFileHost ⟨[47]⟩ {}) [] = .ok ⟨.ofPairs [("a.rs", "x")], "Cargo.toml"⟩ := by
    obtain ⟨loc, isDir, run⟩ := outcomeGatherWalk oneFileHost {} ⟨[47]⟩ fine
    rw [top] at isDir
    cases isDir
    rw [run, below]
    simp only [List.filter_cons, List.filter_nil, Tree.reaches, Tree.entersAll, if_true,
      List.foldlM_cons, List.foldlM_nil]
    simp +decide [Gathered.settle, WalkEntry.failure, WalkEntry.text,
      Below.entry, Below.path, OsPath.join, OsPath.isAbsolute, OsPath.slash, isCandidate, read, key,
      Utf8.decode?, Utf8.lossy, Utf8.pieces, Utf8.front, Utf8.Piece.allChars, CollectConfig.keeps,
      Gathered.add, Contracts.insert, Except.map]
  exact ⟨proper, ok, gatherCollects _ _ _ [] _ proper ok⟩

theorem gatherAbortFailsAt (h : Host) (root : OsPath) (c : CollectConfig) (j : Journal)
    (abort : c.policy = .abort) (f : Failure) :
    outcome (gather h root c) j = .error f ↔ rootFailure h root = some f ∨
      (rootFailure h root = none ∧ ∃ loc, h.tree.lookup h.cwd root true = .ok (loc, .dir) ∧
        ((h.tree.below loc).filter (·.opened (refuses c))).findSome?
          (fun e => (e.entry root 1).failure h c) = some f) := by
  cases fine : rootFailure h root with
  | some f' =>
    rw [outcomeGatherRootFailure h c root fine]
    simp
  | none =>
    obtain ⟨loc, isDir, run⟩ := outcomeGatherWalk h c root fine
    have first := foldlMSettleAbort h c root abort f
      (((h.tree.below loc).filter (h.tree.reaches h.cwd (refuses c) root)).map (·.entry root 1)) {}
    rw [List.foldlM_map, List.findSome?_map, Function.comp_def,
      findSomeFailureOpened h c loc root 1] at first
    rw [run j, mapEqError, first]
    constructor
    · intro found
      exact .inr ⟨rfl, loc, isDir, found⟩
    · rintro (nope | ⟨-, loc', isDir', found⟩)
      · cases nope
      · rw [isDir] at isDir'
        cases isDir'
        exact found

theorem abortFailsAtOneFile : ({} : CollectConfig).policy = .abort ∧
    (outcome (gather oneFileHost ⟨[47]⟩ {}) [] = .error (.decode ⟨[47, 97, 46, 114, 115]⟩) ↔
      rootFailure oneFileHost ⟨[47]⟩ = some (.decode ⟨[47, 97, 46, 114, 115]⟩) ∨
        (rootFailure oneFileHost ⟨[47]⟩ = none ∧
          ∃ loc, oneFileHost.tree.lookup oneFileHost.cwd ⟨[47]⟩ true = .ok (loc, .dir) ∧
            ((oneFileHost.tree.below loc).filter (·.opened (refuses {}))).findSome?
              (fun e => (e.entry ⟨[47]⟩ 1).failure oneFileHost {}) =
                some (.decode ⟨[47, 97, 46, 114, 115]⟩))) :=
  ⟨rfl, gatherAbortFailsAt _ _ _ [] rfl _⟩

end SourceBundle
