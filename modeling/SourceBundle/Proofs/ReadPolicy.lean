import Mathlib
import SourceBundle.Proofs.GatherRecords
import SourceBundle.Proofs.GatherOutcome
/-! The two read policies compared on one machine. A step of the walk fails when it reports a
directory that cannot be listed, or reads a kept candidate that cannot be read or is not UTF-8;
these are all per-file failures, so the `skip` policy passes over each and keeps what it has. A step
that does not fail does the same under both policies.

Main statement (`skipPassesOverFailures`): for a root that can be walked the `skip` policy never
fails, and keeps exactly what the `abort` policy keeps over the same walk with its failing steps left
out (a directory that cannot be listed then contributes nothing below it); the only failures of the
`skip` policy are those of the `abort` policy that are not per-file; and when the `abort` policy
succeeds, the `skip` policy gives the same bundle and the same records. -/
namespace SourceBundle
open Utf8 (Bytes)

def WalkStep.fails (h : Host) (c : CollectConfig) (root : OsPath) : WalkStep → Bool
  | .prune _ => false
  | .fail _ _ => true
  | .visit e =>
    isCandidate h e && c.keeps (Utf8.lossy e.name) &&
      match readText h e.path root with
      | .error _ => true
      | .ok _ => false

section Policy
variable (h : Host) (c : CollectConfig) (root : OsPath)

@[simp] theorem keepsWithPolicy (p : ReadPolicy) : ({ c with policy := p } : CollectConfig).keeps = c.keeps := rfl

@[simp] theorem failsWithPolicy (p : ReadPolicy) (s : WalkStep) :
    s.fails h { c with policy := p } root = s.fails h c root := by
  cases s <;> rfl

@[simp] theorem rootStepsWithPolicy (p : ReadPolicy) :
    rootSteps h { c with policy := p } root = rootSteps h c root := rfl

theorem readTextErrorPerFile {path : OsPath} {f : Failure} (bad : readText h path root = .error f) :
    f.perFile = true := by
  unfold readText at bad
  split at bad
  · cases bad; rfl
  · cases bad
  · split at bad
    · cases bad; rfl
    · cases bad

theorem stepPasses {s : WalkStep} (passes : s.fails h c root = false) (p q : ReadPolicy)
    {g₁ g₂ : Gathered} (same : g₁.contracts = g₂.contracts) :
    ∃ g₁' g₂', Gathered.step h { c with policy := p } root g₁ s = .ok g₁' ∧
      Gathered.step h { c with policy := q } root g₂ s = .ok g₂' ∧ g₁'.contracts = g₂'.contracts := by
  cases s with
  | prune e => exact ⟨g₁, g₂, rfl, rfl, same⟩
  | fail _ _ => cases passes
  | visit e =>
    simp only [Gathered.step, keepsWithPolicy]
    by_cases kept : (isCandidate h e && c.keeps (Utf8.lossy e.name)) = true
    · simp only [kept, if_true]
      cases read : readText h e.path root with
      | error f => simp [WalkStep.fails, kept, read] at passes
      | ok text =>
        cases text with
        | none => exact ⟨g₁, g₂, rfl, rfl, same⟩
        | some f => exact ⟨_, _, rfl, rfl, by simp [Gathered.add, same]⟩
    · simp only [kept, Bool.false_eq_true, if_false]
      exact ⟨g₁, g₂, rfl, rfl, same⟩

theorem stepSkipFails {s : WalkStep} (failing : s.fails h c root = true) (g : Gathered) :
    Gathered.step h { c with policy := .skip } root g s = .ok { g with skipped := g.skipped + 1 } := by
  cases s with
  | prune e => cases failing
  | fail p err => simp [Gathered.step, Gathered.absorb, Failure.perFile]
  | visit e =>
    simp only [WalkStep.fails, Bool.and_eq_true] at failing
    obtain ⟨kept, bad⟩ := failing
    cases read : readText h e.path root with
    | ok _ => simp [read] at bad
    | error f =>
      simp [Gathered.step, kept, read, Gathered.absorb, readTextErrorPerFile h root read]

theorem foldlMSkipFilter (steps : List WalkStep) : ∀ {g₁ g₂ : Gathered}, g₁.contracts = g₂.contracts →
    ∃ g₁' g₂', steps.foldlM (Gathered.step h { c with policy := .skip } root) g₁ = .ok g₁' ∧
      (steps.filter fun s => !s.fails h c root).foldlM (Gathered.step h { c with policy := .abort } root) g₂ =
        .ok g₂' ∧ g₁'.contracts = g₂'.contracts := by
  induction steps with
  | nil => intro g₁ g₂ same; exact ⟨g₁, g₂, rfl, rfl, same⟩
  | cons s rest ih =>
    intro g₁ g₂ same
    cases failing : s.fails h c root with
    | true =>
      obtain ⟨g₁', g₂', skipRun, abortRun, texts⟩ := @ih { g₁ with skipped := g₁.skipped + 1 } g₂ same
      refine ⟨g₁', g₂', ?_, ?_, texts⟩
      · rw [List.foldlM_cons, stepSkipFails h c root failing]
        exact skipRun
      · simpa [failing] using abortRun
    | false =>
      obtain ⟨g₁'', g₂'', skipStep, abortStep, texts⟩ := stepPasses h c root failing .skip .abort same
      obtain ⟨g₁', g₂', skipRun, abortRun, texts'⟩ := ih texts
      refine ⟨g₁', g₂', ?_, ?_, texts'⟩
      · rw [List.foldlM_cons, skipStep]
        exact skipRun
      · simp only [List.filter_cons, failing, Bool.not_false, if_true, List.foldlM_cons, abortStep]
        exact abortRun

theorem absorbError {g : Gathered} {f f' : Failure} (failed : g.absorb c f = .error f') : f' = f := by
  unfold Gathered.absorb at failed
  split at failed
  · cases failed
  · cases failed
    rfl

theorem stepErrorPerFile {g : Gathered} {s : WalkStep} {f : Failure}
    (failed : Gathered.step h c root g s = .error f) : f.perFile = true := by
  cases s with
  | prune e => cases failed
  | fail p err =>
    rw [absorbError c failed]
    rfl
  | visit e =>
    simp only [Gathered.step] at failed
    split at failed
    · cases read : readText h e.path root with
      | ok t => rcases t with _ | t <;> simp [read] at failed
      | error f' =>
        simp only [read] at failed
        rw [absorbError c failed]
        exact readTextErrorPerFile h root read
    · cases failed

theorem foldlMStepErrorPerFile (steps : List WalkStep) : ∀ {g : Gathered} {f : Failure},
    steps.foldlM (Gathered.step h c root) g = .error f → f.perFile = true := by
  induction steps with
  | nil => intro g f failed; cases failed
  | cons s rest ih =>
    intro g f failed
    rw [List.foldlM_cons] at failed
    cases stepped : Gathered.step h c root g s with
    | ok g' =>
      rw [stepped] at failed
      exact ih failed
    | error f' =>
      rw [stepped] at failed
      cases failed
      exact stepErrorPerFile h c root stepped

theorem runStepAbortOk (p : ReadPolicy) {g g' : Gathered} {s : WalkStep} {j j' : Journal}
    (ok : (gatherStep h { c with policy := .abort } root g s).run.run j = (.ok g', j')) :
    (gatherStep h { c with policy := p } root g s).run.run j = (.ok g', j') := by
  cases s with
  | prune e =>
    rw [runPrune] at ok ⊢
    exact ok
  | fail q err =>
    rw [runFail, runPassOver] at ok
    simp at ok
    cases ok
  | visit e =>
    rw [runVisit] at ok ⊢
    simp only [keepsWithPolicy] at ok ⊢
    by_cases cand : isCandidate h e
    · by_cases keep : c.keeps (Utf8.lossy e.name)
      · simp only [cand, keep, if_true] at ok ⊢
        cases read : readText h e.path root with
        | ok text =>
          rw [read] at ok
          rcases text with _ | f <;> exact ok
        | error f =>
          simp [read, runPassOver] at ok
          cases ok
      · simp only [cand, keep, Bool.false_eq_true, if_true, if_false] at ok ⊢
        exact ok
    · simp only [cand, Bool.false_eq_true, if_false] at ok ⊢
      exact ok

theorem runStepsAbortOk (p : ReadPolicy) (steps : List WalkStep) : ∀ {g g' : Gathered} {j j' : Journal},
    (gatherSteps h { c with policy := .abort } root g steps).run.run j = (.ok g', j') →
      (gatherSteps h { c with policy := p } root g steps).run.run j = (.ok g', j') := by
  induction steps with
  | nil => intro g g' j j' ok; exact ok
  | cons s rest ih =>
    intro g g' j j' ok
    rw [runGatherStepsCons] at ok ⊢
    rcases stepped : (gatherStep h { c with policy := .abort } root g s).run.run j with ⟨_ | g₁, j₁⟩
    · rw [stepped] at ok
      cases ok
    · rw [stepped] at ok
      rw [runStepAbortOk h c root p stepped]
      exact ih ok

theorem walkOfRootFailureNone (fine : rootFailure h root = none) :
    h.tree.stat h.cwd root = .ok .dir ∧ ∃ steps, rootSteps h c root = .ok steps := by
  obtain ⟨stat, loc, l, node, isDir, lfound⟩ := rootOfRootFailureNone h root fine
  exact ⟨stat, h.tree.walkFrom h.cwd (refuses c) root node (some loc), by simp [rootSteps, lfound, isDir]⟩

theorem outcomeGatherOfSteps {steps : List WalkStep} (isDir : h.tree.stat h.cwd root = .ok .dir)
    (walk : rootSteps h c root = .ok steps) (j : Journal) :
    outcome (gather h root c) j =
      (steps.foldlM (Gathered.step h c root) {}).map fun g => ⟨g.contracts, c.manifestPath⟩ := by
  have loop := outcomeGatherSteps h c root steps {} (j ++ walkingRecords root c)
  unfold outcome at loop ⊢
  rw [runGatherWalk h c root isDir walk, ← loop]
  rcases (gatherSteps h c root {} steps).run.run (j ++ walkingRecords root c) with ⟨_ | g, j'⟩ <;> rfl

theorem rootFailurePerFile {f : Failure} (fails : rootFailure h root = some f) : f.perFile = false := by
  obtain ⟨e, rfl⟩ := rootFailureRootDir fails
  rfl

theorem runGatherAbortOk (p : ReadPolicy) {b : Bundle} {j j' : Journal}
    (ok : (gather h root { c with policy := .abort }).run.run j = (.ok b, j')) :
    (gather h root { c with policy := p }).run.run j = (.ok b, j') := by
  cases fine : rootFailure h root with
  | some f =>
    have failed := outcomeGatherRootFailure h { c with policy := .abort } root fine j
    unfold outcome at failed
    rw [ok] at failed
    cases failed
  | none =>
    obtain ⟨isDir, steps, walk⟩ := walkOfRootFailureNone h c root fine
    rw [runGatherWalk h { c with policy := .abort } root isDir walk] at ok
    rw [runGatherWalk h { c with policy := p } root isDir walk]
    -- the opening records do not mention the policy
    have opening : walkingRecords root { c with policy := p } = walkingRecords root { c with policy := .abort } :=
      rfl
    rcases loop : (gatherSteps h { c with policy := .abort } root {} steps).run.run
        (j ++ walkingRecords root { c with policy := .abort }) with ⟨_ | g, j''⟩
    · rw [loop] at ok
      cases ok
    · rw [loop] at ok
      rw [opening, runStepsAbortOk h c root p steps loop]
      exact ok

end Policy

/-- The `skip` policy against the `abort` policy on one machine. For a root that passes the check,
the `skip` policy succeeds with the texts the `abort` policy collects over the same walk with its
failing steps left out; the `skip` policy fails exactly when the `abort` policy fails with a failure
that is not per-file; and a run the `abort` policy completes is run identically, records included,
by the `skip` policy. -/
theorem skipPassesOverFailures (h : Host) (root : OsPath) (c : CollectConfig) (j : Journal) :
    (rootFailure h root = none → ∃ steps g, rootSteps h c root = .ok steps ∧
      outcome (gatherSteps h { c with policy := .abort } root {}
        (steps.filter fun s => !s.fails h c root)) j = .ok g ∧
      outcome (gather h root { c with policy := .skip }) j = .ok ⟨g.contracts, c.manifestPath⟩) ∧
    (∀ f, outcome (gather h root { c with policy := .skip }) j = .error f ↔
      outcome (gather h root { c with policy := .abort }) j = .error f ∧ f.perFile = false) ∧
    ∀ b j', (gather h root { c with policy := .abort }).run.run j = (.ok b, j') →
      (gather h root { c with policy := .skip }).run.run j = (.ok b, j') := by
  have skipOk : rootFailure h root = none → ∃ steps g, rootSteps h c root = .ok steps ∧
      outcome (gatherSteps h { c with policy := .abort } root {}
        (steps.filter fun s => !s.fails h c root)) j = .ok g ∧
      outcome (gather h root { c with policy := .skip }) j = .ok ⟨g.contracts, c.manifestPath⟩ := by
    intro fine
    obtain ⟨isDir, steps, walk⟩ := walkOfRootFailureNone h c root fine
    obtain ⟨g₁, g₂, skipRun, abortRun, texts⟩ := @foldlMSkipFilter h c root steps {} {} rfl
    refine ⟨steps, g₂, walk, ?_, ?_⟩
    · rw [outcomeGatherSteps]
      exact abortRun
    · rw [outcomeGatherOfSteps h { c with policy := .skip } root isDir walk, skipRun]
      rw [← texts]
      rfl
  refine ⟨skipOk, fun f => ?_, fun b j' ok => runGatherAbortOk h c root .skip ok⟩
  cases fine : rootFailure h root with
  | some f₀ =>
    -- a root that fails the check fails both policies alike, and not per file
    rw [outcomeGatherRootFailure h _ root fine, outcomeGatherRootFailure h _ root fine]
    constructor
    · rintro ⟨⟩
      exact ⟨rfl, rootFailurePerFile h root fine⟩
    · rintro ⟨same, -⟩
      exact same
  | none =>
    -- otherwise the `skip` policy succeeds, and the `abort` policy fails only per file
    obtain ⟨steps, g, -, -, skipRun⟩ := skipOk fine
    rw [skipRun]
    simp only [reduceCtorEq, false_iff, not_and]
    intro failed
    obtain ⟨isDir, steps', walk⟩ := walkOfRootFailureNone h c root fine
    rw [outcomeGatherOfSteps h { c with policy := .abort } root isDir walk, mapEqError] at failed
    simp [foldlMStepErrorPerFile h _ root steps' failed]

def Host.withoutFailures (h : Host) (c : CollectConfig) (root : OsPath) : Host :=
  match h.tree.lookup h.cwd root true with
  | .ok (loc, .dir) =>
    let failing := ((h.tree.below loc).filter (h.tree.reaches h.cwd (refuses c) root)).filter
      fun b => ((b.entry root 1).failure h c).isSome
    let cut (l : Location) (b : Below) : Bool :=
      let here := loc ++ b.names
      if b.node = .dir then here.isPrefixOf l && here != l else l == here
    { h with tree := ⟨h.tree.entries.filter fun e => !failing.any (cut e.1)⟩ }
  | _ => h

section LongRoot
/- A root spelled `r` and 4092 separators is 4093 bytes long, so the system takes it; the path of a
name of three bytes below it is 4096 bytes long, one too many. The directory `DDD` below the root
is empty, so taking the failures out leaves the tree as it is, and the `abort` policy still fails on
it, while the `skip` policy succeeds. -/

def longRoot : OsPath := ⟨114 :: List.replicate 4092 OsPath.slash⟩

def longChild : OsPath := ⟨longRoot.bytes ++ [68, 68, 68]⟩

def longRootHost : Host := ⟨⟨[([[114]], .dir), ([[114], [68, 68, 68]], .dir)]⟩, [], none, none⟩

theorem longRootNoNul : 0 ∉ longRoot.bytes := by
  simp [-List.reduceReplicate, longRoot, List.mem_replicate]
  decide

theorem lookupLongRoot (follow : Bool) :
    longRootHost.tree.lookup longRootHost.cwd longRoot follow = .ok ([[114]], .dir) := by
  have short : longRoot.bytes.length < pathLimit := by simp [-List.reduceReplicate, longRoot, pathLimit]
  have steps : Tree.steps longRoot = [114] :: List.replicate 4092 [] :=
    OsPath.segmentsConsReplicate (by decide) 4092
  unfold Tree.lookup
  rw [Tree.locateShort longRootNoNul (List.cons_ne_nil _ _) short, steps,
    Tree.walkIntoDir (by decide) (by decide) (by decide), Tree.walkEmptySegments]
  rfl

theorem lookupLongChild (follow : Bool) :
    longRootHost.tree.lookup longRootHost.cwd longChild follow = .error .nameTooLong := by
  have noNul : 0 ∉ longChild.bytes := by
    simp only [longChild, List.mem_append]
    rintro (inRoot | inName)
    · exact longRootNoNul inRoot
    · revert inName
      decide
  have long : pathLimit ≤ longChild.bytes.length := by
    simp [-List.reduceReplicate, longChild, longRoot, pathLimit]
  unfold Tree.lookup
  rw [Tree.locateLong noNul long]

theorem longRootJoin : longRoot.join ⟨[68, 68, 68]⟩ = longChild := by
  have last : longRoot.bytes.getLast? = some OsPath.slash := by
    simp [-List.reduceReplicate, longRoot, List.getLast?_cons, List.getLast?_replicate]
  simp only [OsPath.join, OsPath.isAbsolute, last, or_true, if_true, longChild]
  rfl

theorem refusesDefault (p : ReadPolicy) : refuses { policy := p } [68, 68, 68] = false := by
  simp +decide [refuses, Utf8.decode?, Utf8.pieces, Utf8.front, Utf8.Piece.allChars,
    CollectConfig.isExcluded]

theorem childrenLongRoot : longRootHost.tree.children [[114]] = [([68, 68, 68], .dir)] := by
  simp [Tree.children, longRootHost]

theorem belowLongRoot : longRootHost.tree.below [[114]] = [⟨[], [68, 68, 68], .dir⟩] := by
  have empty : longRootHost.tree.below [[114], [68, 68, 68]] = [] := by
    have none : longRootHost.tree.children [[114], [68, 68, 68]] = [] := by
      simp [Tree.children, longRootHost]
    rw [Tree.belowEq, none]
    rfl
  rw [Tree.belowEq, childrenLongRoot]
  simp [empty]

theorem rootStepsLongRoot (p : ReadPolicy) : rootSteps longRootHost { policy := p } longRoot =
    .ok [.visit ⟨longRoot, 0, .dir, (longRoot.fileName).getD longRoot.bytes⟩,
      .visit ⟨longChild, 1, .dir, [68, 68, 68]⟩, .fail longChild .nameTooLong] := by
  simp [rootSteps, lookupLongRoot, Tree.walkFrom, Tree.walkBelow, childrenLongRoot, longRootJoin,
    refusesDefault, Tree.listError?, lookupLongChild]

theorem outcomeLongRoot (p : ReadPolicy) :
    outcome (gather longRootHost longRoot { policy := p }) [] =
      (Gathered.absorb { policy := p } {} (.walk longChild .nameTooLong)).map
        fun g => ⟨g.contracts, "Cargo.toml"⟩ := by
  have isDir : longRootHost.tree.stat longRootHost.cwd longRoot = .ok .dir := by
    simp [Tree.stat, lookupLongRoot, Except.map]
  rw [outcomeGatherOfSteps longRootHost _ longRoot isDir (rootStepsLongRoot p)]
  simp [Gathered.step, isCandidate]
  rfl

theorem withoutFailuresLongRoot : longRootHost.withoutFailures {} longRoot = longRootHost := by
  simp [Host.withoutFailures, lookupLongRoot, belowLongRoot, Tree.reaches, Tree.entersAll, Below.entry,
    Below.path, longRootJoin, WalkEntry.failure, refusesDefault, Tree.listError?, lookupLongChild]
  rfl

/-- The `abort` policy on the tree with the failures taken out does not build what the `skip` policy
builds: the directory that cannot be listed was empty, so nothing was taken out, and it still
cannot be listed. -/
theorem abortFailsOnTreeWithoutFailures :
    rootFailure longRootHost longRoot = none ∧
    longRootHost.tree.listError? longRootHost.cwd longRoot = none ∧
    longRootHost.withoutFailures {} longRoot = longRootHost ∧
    outcome (gather longRootHost longRoot { policy := .skip }) [] = .ok ⟨{}, "Cargo.toml"⟩ ∧
    outcome (gather (longRootHost.withoutFailures {} longRoot) longRoot {}) [] =
      .error (.walk longChild .nameTooLong) := by
  refine ⟨?_, ?_, withoutFailuresLongRoot, ?_, ?_⟩
  · simp [rootFailure, Tree.stat, Tree.lstat, lookupLongRoot, Except.map]
  · simp [Tree.listError?, lookupLongRoot]
  · rw [outcomeLongRoot]
    rfl
  · rw [withoutFailuresLongRoot]
    exact outcomeLongRoot .abort

end LongRoot

end SourceBundle
