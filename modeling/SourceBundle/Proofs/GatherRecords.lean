import Mathlib
import SourceBundle.Proofs.GatherSteps
/-! A collecting run with its records. Each step of the walk, run from any journal, appends records
that depend only on the step: nothing for an entry that is not a candidate (a note for a link to a
directory), a trace or debug record for a file excluded, included or empty, and a warning for a
failure passed over (`runVisit`, `runPassOver`). A whole run writes two records before the walk
and a summary after it (`runGatherWalk`). -/
namespace SourceBundle
open Utf8 (Bytes)

def skipRecord (f : Failure) : Record := ⟨.warn, gatherTarget, s!"Skipping unreadable entry: {f.message}"⟩

def candidateNote (h : Host) (e : WalkEntry) : Journal :=
  match e.node with
  | .link _ =>
    if h.tree.isDir h.cwd e.path then
      [⟨.trace, gatherTarget, s!"Not following directory symlink: {e.path.display}"⟩]
    else []
  | _ => []

def walkingRecords (root : OsPath) (c : CollectConfig) : Journal :=
  [⟨.info, gatherTarget, s!"Walking project directory: {root.display}"⟩,
    ⟨.debug, gatherTarget, s!"Excluded directories: {Escaped.set c.excluded}, extensions: " ++
      s!"{Escaped.list c.extensions}, file names: {Escaped.list c.fileNames}"⟩]

def closingRecords (root : OsPath) (b : Bundle) (skipped : Nat) : Journal :=
  ⟨.info, gatherTarget, s!"Collected {b.fileCount} files ({byteSizeText b.totalBytes}) from {root.display}"⟩ ::
    if skipped > 0 then [⟨.warn, gatherTarget, s!"Skipped {skipped} unreadable entries"⟩] else []

section Steps
variable (h : Host) (c : CollectConfig) (root : OsPath)

theorem runLiftBind {α β} {x : Logged α} {a : α} {j j' : Journal} (hx : x.run j = (a, j'))
    (f : α → Collecting β) : (liftM x >>= f).run.run j = (f a).run.run j' := by
  simp only [ExceptT.run_bind, liftM, monadLift, MonadLift.monadLift, ExceptT.run_lift, StateT.run_bind]
  simp [hx]
  rfl

theorem runBindOk {α β} {x : Collecting α} {a : α} {j j' : Journal} (hx : x.run.run j = (.ok a, j'))
    (f : α → Collecting β) : (x >>= f).run.run j = (f a).run.run j' := by
  simp only [ExceptT.run_bind, StateT.run_bind, hx]
  rfl

theorem runBindError {α β} {x : Collecting α} {e : Failure} {j j' : Journal}
    (hx : x.run.run j = (.error e, j')) (f : α → Collecting β) : (x >>= f).run.run j = (.error e, j') := by
  simp only [ExceptT.run_bind, StateT.run_bind, hx]
  rfl

theorem runSayBind {β} (l : Level) (target message : String) (f : Unit → Collecting β) (j : Journal) :
    (liftM (say l target message) >>= f).run.run j = (f ()).run.run (j ++ [⟨l, target, message⟩]) :=
  runLiftBind rfl f

theorem runPassOver (g : Gathered) (f : Failure) (j : Journal) :
    (passOver c g f).run.run j = if c.policy = .skip ∧ f.perFile = true
      then (.ok { g with skipped := g.skipped + 1 }, j ++ [skipRecord f]) else (.error f, j) := by
  unfold passOver
  split
  · simp [say, skipRecord]
    rfl
  · rfl

theorem runCandidateNote (e : WalkEntry) (j : Journal) :
    (candidate h e).run j = (isCandidate h e, j ++ candidateNote h e) := by
  unfold candidate isCandidate candidateNote
  split <;> (try split) <;> simp_all [say] <;> rfl

theorem runPrune (g : Gathered) (e : WalkEntry) (j : Journal) :
    (gatherStep h c root g (.prune e)).run.run j =
      (.ok g, j ++ [⟨.trace, gatherTarget, s!"Pruning excluded directory: {e.path.display}"⟩]) :=
  runSayBind _ _ _ _ j

theorem runFail (g : Gathered) (p : OsPath) (err : OsError) (j : Journal) :
    (gatherStep h c root g (.fail p err)).run.run j = (passOver c g (.walk p err)).run.run j := rfl

theorem runVisit (g : Gathered) (e : WalkEntry) (j : Journal) :
    (gatherStep h c root g (.visit e)).run.run j =
      if isCandidate h e then
        if c.keeps (Utf8.lossy e.name) then
          match readText h e.path root with
          | .ok (some f) => (.ok { g with contracts := g.contracts.insert f.key f.content },
              j ++ candidateNote h e ++ [⟨.trace, gatherTarget, s!"Including file: {f.key}"⟩])
          | .ok none => (.ok g, j ++ candidateNote h e ++
              [⟨.debug, gatherTarget, s!"Skipping empty file: {e.path.display}"⟩])
          | .error f => (passOver c g f).run.run (j ++ candidateNote h e)
        else (.ok g, j ++ candidateNote h e ++ [⟨.trace, gatherTarget, s!"Excluding file: {e.path.display}"⟩])
      else (.ok g, j ++ candidateNote h e) := by
  simp only [gatherStep]
  rw [runLiftBind (runCandidateNote h e j)]
  cases candidate : isCandidate h e
  · rfl
  · cases keep : c.keeps (Utf8.lossy e.name)
    · simp only [Bool.not_true, Bool.not_false, if_true, if_false, Bool.false_eq_true]
      exact runSayBind _ _ _ _ _
    · simp only [Bool.not_true, Bool.false_eq_true, if_false, if_true]
      rcases readText h e.path root with f | _ | f
      · rfl
      · exact runSayBind _ _ _ _ _
      · exact runSayBind _ _ _ _ _

theorem runGatherStepsCons (g : Gathered) (s : WalkStep) (ss : List WalkStep) (j : Journal) :
    (gatherSteps h c root g (s :: ss)).run.run j =
      match (gatherStep h c root g s).run.run j with
      | (.ok g', j') => (gatherSteps h c root g' ss).run.run j'
      | (.error f, j') => (.error f, j') := by
  simp only [gatherSteps, ExceptT.run_bind, StateT.run_bind]
  rcases (gatherStep h c root g s).run.run j with ⟨_ | _, _⟩ <;> rfl

end Steps

section Run
variable (h : Host) (c : CollectConfig) (root : OsPath)

theorem runGatherWalk {steps : List WalkStep} (isDir : h.tree.stat h.cwd root = .ok .dir)
    (walk : rootSteps h c root = .ok steps) (j : Journal) :
    (gather h root c).run.run j =
      match (gatherSteps h c root {} steps).run.run (j ++ walkingRecords root c) with
      | (.ok g, j') => (.ok ⟨g.contracts, c.manifestPath⟩,
          j' ++ closingRecords root ⟨g.contracts, c.manifestPath⟩ g.skipped)
      | (.error f, j') => (.error f, j') := by
  unfold gather
  simp only [isDir, walk]
  rw [runSayBind, runSayBind, List.append_assoc]
  change (_ : Collecting Bundle).run.run (j ++ walkingRecords root c) = _
  simp only [pure_bind]
  rcases loop : (gatherSteps h c root {} steps).run.run (j ++ walkingRecords root c) with ⟨_ | g, j'⟩
  · exact runBindError loop _
  · rw [runBindOk loop, runSayBind]
    by_cases some : g.skipped > 0
    · simp only [some, if_true]
      rw [runSayBind]
      simp [closingRecords, some]
      rfl
    · simp only [some, if_false]
      simp [closingRecords, some]
      rfl

end Run

end SourceBundle
