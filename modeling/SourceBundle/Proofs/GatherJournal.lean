import Mathlib
import SourceBundle.Proofs.ExcludingMore
import SourceBundle.Proofs.ReadPolicy
/-! The records a collecting run writes. At each entry the walk reaches it notes a group that
depends on the entry alone (`WalkEntry.notes`): a directory pruned, a link to a directory passed
over, a candidate excluded, included under its key or skipped as empty, or a failure passed over.
The steps at an entry write its group when the entry does not end the run, and nothing when it
does (`journalStepsAt`), so a run over entries writes the groups of the entries before the first
one that ends it (`runEntries`). With the order in which the walk meets the entries this gives
every record of a run (`gatherRecordsInWalkOrder`): none when the root is not a directory, then the
two opening records, the root's own note, the groups in walk order and, when the run succeeds, the
summary. The summary counts each included key once (`lengthOfPairs`) and each failure passed over
(`foldlMSettleSkipped`). -/
namespace SourceBundle
open Utf8 (Bytes)

namespace Contracts

theorem lengthOfPairs (l : List (String × String)) :
    (ofPairs l).pairs.length = (l.map Prod.fst).dedup.length := by
  -- the keys are strictly ascending, so once each, and they are the keys of the pairs
  have ascending := List.pairwise_map.mpr (ofPairs l).sorted
  have same : List.Perm ((ofPairs l).pairs.map Prod.fst) (l.map Prod.fst).dedup := by
    rw [List.perm_ext_iff_of_nodup (ascending.imp ne_of_lt) (List.nodup_dedup _)]
    intro k
    rw [List.mem_dedup]
    simpa [ofPairs] using keysFoldlInsert l {} k
  simpa using same.length_eq

end Contracts

theorem lengthDedupLtIff {α} [DecidableEq α] (l : List α) : l.dedup.length < l.length ↔ ¬ l.Nodup := by
  rw [← List.dedup_eq_self]
  constructor
  · intro shorter same
    rw [same] at shorter
    exact lt_irrefl _ shorter
  · intro differs
    exact lt_of_le_of_ne (List.dedup_sublist l).length_le
      fun same => differs ((List.dedup_sublist l).eq_of_length same)

inductive GatherNote where
  | pruned (path : OsPath)
  | linkToDir (path : OsPath)
  | excluded (path : OsPath)
  | included (key : String)
  | empty (path : OsPath)
  | skipped (f : Failure)
  deriving DecidableEq, Repr

namespace GatherNote

def record : GatherNote → Record
  | pruned p => ⟨.trace, gatherTarget, s!"Pruning excluded directory: {p.display}"⟩
  | linkToDir p => ⟨.trace, gatherTarget, s!"Not following directory symlink: {p.display}"⟩
  | excluded p => ⟨.trace, gatherTarget, s!"Excluding file: {p.display}"⟩
  | included k => ⟨.trace, gatherTarget, s!"Including file: {k}"⟩
  | empty p => ⟨.debug, gatherTarget, s!"Skipping empty file: {p.display}"⟩
  | skipped f => skipRecord f

def key? : GatherNote → Option String
  | included k => some k
  | _ => none

def isSkipped : GatherNote → Bool
  | skipped _ => true
  | _ => false

end GatherNote

namespace WalkEntry
variable (h : Host) (c : CollectConfig) (root : OsPath)

def notes (e : WalkEntry) : List GatherNote :=
  match e.node with
  | .dir =>
    if refuses c e.name then [.pruned e.path]
    else ((h.tree.listError? h.cwd e.path).map fun err => .skipped (.walk e.path err)).toList
  | .device => []
  | _ =>
    if isCandidate h e then
      if c.keeps (Utf8.lossy e.name) then
        [match readText h e.path root with
          | .ok (some f) => .included f.key
          | .ok none => .empty e.path
          | .error f => .skipped f]
      else [.excluded e.path]
    else [.linkToDir e.path]

def ends (e : WalkEntry) : Bool := c.policy == .abort && (e.failure h c).isSome

end WalkEntry

def rootNotes (root : OsPath) : Node → List GatherNote
  | .link _ => [.linkToDir root]
  | _ => []

def reachedEntries (h : Host) (c : CollectConfig) (root : OsPath) (loc : Location) : List WalkEntry :=
  ((h.tree.below loc).filter (h.tree.reaches h.cwd (refuses c) root)).map (·.entry root 1)

section Entries
variable (h : Host) (c : CollectConfig) (root : OsPath)

theorem candidateNoteOfCandidate {e : WalkEntry} (cand : isCandidate h e = true) : candidateNote h e = [] := by
  unfold candidateNote
  unfold isCandidate at cand
  split <;> simp_all

theorem failureOfKept {e : WalkEntry} (notDir : e.node ≠ .dir)
    (kept : (isCandidate h e && c.keeps (Utf8.lossy e.name)) = true) :
    e.failure h c = match h.tree.read h.cwd e.path with
      | .ok bytes => if bytes ≠ [] ∧ Utf8.decode? bytes = none then some (.decode e.path) else none
      | .error err => some (.fileRead e.path err) := by
  unfold WalkEntry.failure
  split
  · contradiction
  · exact if_pos kept

theorem failureTextOfKept {e : WalkEntry} (notDir : e.node ≠ .dir)
    (kept : (isCandidate h e && c.keeps (Utf8.lossy e.name)) = true) :
    e.failure h c = (match readText h e.path root with | .error f => some f | _ => none) ∧
      e.text h c root = (match readText h e.path root with | .ok (some f) => some (f.key, f.content) | _ => none) := by
  simp only [failureOfKept h c notDir kept, WalkEntry.text, kept, if_true, readText]
  rcases h.tree.read h.cwd e.path with err | _ | ⟨b, bs⟩
  · simp
  · simp
  · rcases decoded : Utf8.decode? (b :: bs) with _ | text <;> simp [decoded]

theorem notesOfLeaf {e : WalkEntry} (notDir : e.node ≠ .dir) (notDevice : e.node ≠ .device) :
    e.notes h c root = if isCandidate h e then
      if c.keeps (Utf8.lossy e.name) then
        [match readText h e.path root with
          | .ok (some f) => .included f.key
          | .ok none => .empty e.path
          | .error f => .skipped f]
      else [.excluded e.path]
    else [.linkToDir e.path] := by
  unfold WalkEntry.notes
  split <;> simp_all

theorem quietOfNotKept {e : WalkEntry} (notDir : e.node ≠ .dir)
    (passed : (isCandidate h e && c.keeps (Utf8.lossy e.name)) = false) :
    e.failure h c = none ∧ e.text h c root = none := by
  constructor
  · unfold WalkEntry.failure
    split
    · contradiction
    · simp [passed]
  · simp [WalkEntry.text, passed]

theorem notesCases (e : WalkEntry) :
    (∃ f, e.failure h c = some f ∧ e.notes h c root = [.skipped f]) ∨
    (∃ k v, e.failure h c = none ∧ e.text h c root = some (k, v) ∧ e.notes h c root = [.included k]) ∨
    (e.failure h c = none ∧ e.text h c root = none ∧
      ∀ n ∈ e.notes h c root, n.isSkipped = false ∧ n.key? = none) := by
  by_cases isDir : e.node = .dir
  · -- a directory adds no text; it fails when the walk goes into it and cannot list it
    have noText : e.text h c root = none := by simp [WalkEntry.text, isCandidate, isDir]
    by_cases r : refuses c e.name
    · right; right
      simp [WalkEntry.failure, WalkEntry.notes, isDir, r, noText, GatherNote.isSkipped, GatherNote.key?]
    · cases listed : h.tree.listError? h.cwd e.path with
      | none =>
        right; right
        simp [WalkEntry.failure, WalkEntry.notes, isDir, r, listed, noText]
      | some err =>
        left
        simp [WalkEntry.failure, WalkEntry.notes, isDir, r, listed]
  by_cases isDevice : e.node = .device
  · right; right
    have quiet := quietOfNotKept h c root isDir (by simp [isCandidate, isDevice])
    simp [quiet, WalkEntry.notes, isDevice]
  -- a file, or a link: noted as the candidate check and reading give
  rw [notesOfLeaf h c root isDir isDevice]
  by_cases kept : (isCandidate h e && c.keeps (Utf8.lossy e.name)) = true
  · obtain ⟨failure, text⟩ := failureTextOfKept h c root isDir kept
    simp only [Bool.and_eq_true] at kept
    simp only [kept, if_true]
    rcases read : readText h e.path root with f | _ | f
    · left
      simp [failure, read]
    · right; right
      simp [failure, text, read, GatherNote.isSkipped, GatherNote.key?]
    · right; left
      exact ⟨f.key, f.content, by simp [failure, read], by simp [text, read], rfl⟩
  · right; right
    obtain ⟨quiet, noText⟩ := quietOfNotKept h c root isDir (Bool.eq_false_iff.mpr kept)
    refine ⟨quiet, noText, ?_⟩
    split_ifs <;> simp_all [GatherNote.isSkipped, GatherNote.key?]

theorem countPSkippedNotes (e : WalkEntry) :
    (e.notes h c root).countP GatherNote.isSkipped = if (e.failure h c).isSome then 1 else 0 := by
  rcases notesCases h c root e with ⟨f, fails, notes⟩ | ⟨k, v, quiet, -, notes⟩ | ⟨quiet, -, others⟩
  · simp [fails, notes, GatherNote.isSkipped]
  · simp [quiet, notes, GatherNote.isSkipped]
  · simp only [quiet, Option.isSome_none, Bool.false_eq_true, if_false, List.countP_eq_zero]
    exact fun n mem => by simp [(others n mem).1]

theorem keysNotes (e : WalkEntry) :
    (e.notes h c root).filterMap GatherNote.key? = ((e.text h c root).map Prod.fst).toList := by
  rcases notesCases h c root e with ⟨f, fails, notes⟩ | ⟨k, v, -, text, notes⟩ | ⟨-, noText, others⟩
  · simp [textOfFailure h c root fails, notes, GatherNote.key?]
  · simp [text, notes, GatherNote.key?]
  · simp only [noText, Option.map_none, Option.toList_none, List.filterMap_eq_nil_iff]
    exact fun n mem => (others n mem).2

theorem endsIffSettleError (g : Gathered) (e : WalkEntry) :
    e.ends h c = true ↔ ∃ f, g.settle h c root e = .error f := by
  unfold WalkEntry.ends Gathered.settle
  cases fails : e.failure h c with
  | none => simp
  | some f =>
    have perFile := WalkEntry.failurePerFile fails
    cases hp : c.policy <;> simp [Gathered.absorb, hp, perFile]

theorem endsFalseOfSettleOk {g g' : Gathered} {e : WalkEntry} (settled : g.settle h c root e = .ok g') :
    e.ends h c = false := by
  cases ends : e.ends h c
  · rfl
  · obtain ⟨f, failed⟩ := (endsIffSettleError h c root g e).mp ends
    rw [settled] at failed
    cases failed

end Entries

section Journal
variable (h : Host) (c : CollectConfig) (root : OsPath)

theorem runGatherStepsAppend (ss ss' : List WalkStep) : ∀ (g : Gathered) (j : Journal),
    (gatherSteps h c root g (ss ++ ss')).run.run j =
      match (gatherSteps h c root g ss).run.run j with
      | (.ok g', j') => (gatherSteps h c root g' ss').run.run j'
      | (.error f, j') => (.error f, j') := by
  induction ss with
  | nil => intro g j; rfl
  | cons s ss ih =>
    intro g j
    rw [List.cons_append, runGatherStepsCons, runGatherStepsCons]
    rcases (gatherStep h c root g s).run.run j with ⟨_ | g', j'⟩
    · rfl
    · exact ih g' j'

theorem journalGatherStepsSingle (g : Gathered) (s : WalkStep) (j : Journal) :
    ((gatherSteps h c root g [s]).run.run j).2 = ((gatherStep h c root g s).run.run j).2 := by
  rw [runGatherStepsCons]
  rcases (gatherStep h c root g s).run.run j with ⟨_ | _, _⟩ <;> rfl

theorem journalPassOver {f : Failure} (perFile : f.perFile = true) (g : Gathered) (j : Journal) :
    ((passOver c g f).run.run j).2 = j ++ if c.policy == .abort then [] else [skipRecord f] := by
  rw [runPassOver]
  cases c.policy <;> simp [perFile]

theorem journalVisit (g : Gathered) {e : WalkEntry} (notDir : e.node ≠ .dir) (j : Journal) :
    ((gatherStep h c root g (.visit e)).run.run j).2 =
      j ++ if e.ends h c then [] else (e.notes h c root).map GatherNote.record := by
  rw [runVisit]
  by_cases isDevice : e.node = .device
  · have notCandidate : isCandidate h e = false := by simp [isCandidate, isDevice]
    simp [notCandidate, candidateNote, isDevice, WalkEntry.notes]
  rw [notesOfLeaf h c root notDir isDevice]
  by_cases cand : isCandidate h e
  · rw [candidateNoteOfCandidate h cand]
    by_cases keep : c.keeps (Utf8.lossy e.name)
    · have kept : (isCandidate h e && c.keeps (Utf8.lossy e.name)) = true := by simp [cand, keep]
      obtain ⟨failure, -⟩ := failureTextOfKept h c root notDir kept
      simp only [cand, keep, if_true, List.append_nil]
      rcases read : readText h e.path root with f | _ | f
      · -- a failure is passed over with a warning, or ends the run
        have perFile := readTextErrorPerFile h root read
        simp only [journalPassOver c perFile, WalkEntry.ends, failure, read]
        cases c.policy <;> simp [GatherNote.record]
      all_goals simp [WalkEntry.ends, failure, read, GatherNote.record]
    · have quiet := (quietOfNotKept h c root notDir (by simp [cand, keep])).1
      simp [cand, keep, WalkEntry.ends, quiet, GatherNote.record]
  · -- a link that leads to a directory is noted and passed over
    have notCandidate : isCandidate h e = false := by simpa using cand
    have quiet := (quietOfNotKept h c root notDir (by simp [notCandidate])).1
    obtain ⟨target, link⟩ : ∃ target, e.node = .link target := by
      rcases hn : e.node with _ | data | target | _
      · exact absurd hn notDir
      · simp [isCandidate, hn] at cand
      · exact ⟨target, rfl⟩
      · exact absurd hn isDevice
    have toDir : h.tree.isDir h.cwd e.path = true := by simpa [isCandidate, link] using notCandidate
    simp [notCandidate, candidateNote, link, toDir, WalkEntry.ends, quiet, GatherNote.record]

theorem journalStepsAtDir (g : Gathered) {e : WalkEntry} (isDir : e.node = .dir) (j : Journal) :
    ((gatherSteps h c root g (h.tree.stepsAt h.cwd (refuses c) e)).run.run j).2 =
      j ++ if e.ends h c then [] else (e.notes h c root).map GatherNote.record := by
  have notCandidate : isCandidate h e = false := by simp [isCandidate, isDir]
  have unnoted : candidateNote h e = [] := by simp [candidateNote, isDir]
  by_cases r : refuses c e.name
  · have steps : h.tree.stepsAt h.cwd (refuses c) e = [.prune e] := by simp [Tree.stepsAt, isDir, r]
    rw [steps, journalGatherStepsSingle, runPrune]
    simp [WalkEntry.ends, WalkEntry.failure, WalkEntry.notes, isDir, r, GatherNote.record]
  · cases listed : h.tree.listError? h.cwd e.path with
    | none =>
      have steps : h.tree.stepsAt h.cwd (refuses c) e = [.visit e] := by simp [Tree.stepsAt, isDir, r, listed]
      rw [steps, journalGatherStepsSingle, runVisit]
      simp [notCandidate, unnoted, WalkEntry.ends, WalkEntry.failure, WalkEntry.notes, isDir, r, listed]
    | some err =>
      -- the visit writes nothing; the failure to list it is passed over or ends the run
      have steps : h.tree.stepsAt h.cwd (refuses c) e = [.visit e, .fail e.path err] := by
        simp [Tree.stepsAt, isDir, r, listed]
      rw [steps, runGatherStepsCons, runVisit]
      simp only [notCandidate, Bool.false_eq_true, if_false, unnoted, List.append_nil]
      rw [journalGatherStepsSingle, runFail, journalPassOver c rfl]
      cases hp : c.policy <;> simp [hp, WalkEntry.ends, WalkEntry.failure, WalkEntry.notes, isDir, r, listed,
        GatherNote.record]

theorem journalStepsAt (g : Gathered) (e : WalkEntry) (j : Journal) :
    ((gatherSteps h c root g (h.tree.stepsAt h.cwd (refuses c) e)).run.run j).2 =
      j ++ if e.ends h c then [] else (e.notes h c root).map GatherNote.record := by
  by_cases isDir : e.node = .dir
  · exact journalStepsAtDir h c root g isDir j
  · have steps : h.tree.stepsAt h.cwd (refuses c) e = [.visit e] := by
      unfold Tree.stepsAt
      split
      · contradiction
      · rfl
    rw [steps, journalGatherStepsSingle]
    exact journalVisit h c root g isDir j

theorem runStepsAt (g : Gathered) (e : WalkEntry) (j : Journal) :
    (gatherSteps h c root g (h.tree.stepsAt h.cwd (refuses c) e)).run.run j =
      (g.settle h c root e, j ++ if e.ends h c then [] else (e.notes h c root).map GatherNote.record) := by
  have result := outcomeGatherSteps h c root (h.tree.stepsAt h.cwd (refuses c) e) g j
  rw [foldlMStepsAt] at result
  exact Prod.ext result (journalStepsAt h c root g e j)

theorem runEntries (es : List WalkEntry) : ∀ (g : Gathered) (j : Journal),
    (gatherSteps h c root g (es.flatMap (h.tree.stepsAt h.cwd (refuses c)))).run.run j =
      (es.foldlM (Gathered.settle h c root) g,
        j ++ ((es.takeWhile (!·.ends h c)).flatMap (·.notes h c root)).map GatherNote.record) := by
  induction es with
  | nil => intro g j; simp; rfl
  | cons e es ih =>
    intro g j
    rw [List.flatMap_cons, runGatherStepsAppend, runStepsAt, List.foldlM_cons]
    cases settled : g.settle h c root e with
    | error f =>
      have ends : e.ends h c = true := (endsIffSettleError h c root g e).mpr ⟨f, settled⟩
      simp [ends]
      rfl
    | ok g' =>
      have goesOn := endsFalseOfSettleOk h c root settled
      simp only [goesOn, Bool.false_eq_true, if_false, ih, List.takeWhile_cons, Bool.not_false, if_true,
        List.flatMap_cons, List.map_append, List.append_assoc]
      rfl

end Journal

section Summary
variable (h : Host) (c : CollectConfig) (root : OsPath)

theorem foldlMSettleSkipped (es : List WalkEntry) : ∀ {g g' : Gathered},
    es.foldlM (Gathered.settle h c root) g = .ok g' →
      g'.skipped = g.skipped + es.countP fun e => (e.failure h c).isSome := by
  induction es with
  | nil => intro g g' ok; cases ok; rfl
  | cons e es ih =>
    intro g g' ok
    rw [List.foldlM_cons] at ok
    cases settled : g.settle h c root e with
    | error f => rw [settled] at ok; cases ok
    | ok g₁ =>
      rw [settled] at ok
      rw [ih ok, List.countP_cons]
      unfold Gathered.settle at settled
      cases fails : e.failure h c with
      | some f =>
        simp only [fails, Gathered.absorb] at settled
        split at settled
        · cases settled
          simp
          omega
        · cases settled
      | none =>
        simp only [fails, Except.ok.injEq] at settled
        subst settled
        simp [Gathered.addSkipped]

theorem countPSkippedFlatMap (es : List WalkEntry) :
    (es.flatMap (·.notes h c root)).countP GatherNote.isSkipped = es.countP fun e => (e.failure h c).isSome := by
  induction es with
  | nil => rfl
  | cons e es ih =>
    rw [List.flatMap_cons, List.countP_append, ih, countPSkippedNotes, List.countP_cons]
    split <;> omega

theorem keysFlatMap (es : List WalkEntry) :
    (es.flatMap (·.notes h c root)).filterMap GatherNote.key? = (es.filterMap (·.text h c root)).map Prod.fst := by
  induction es with
  | nil => rfl
  | cons e es ih =>
    rw [List.flatMap_cons, List.filterMap_append, ih, keysNotes, List.filterMap_cons]
    cases e.text h c root <;> simp

end Summary

section Run
variable (h : Host) (c : CollectConfig) (root : OsPath)

theorem foldlMSettleErrorIff (es : List WalkEntry) : ∀ g : Gathered,
    (∃ f, es.foldlM (Gathered.settle h c root) g = .error f) ↔ ∃ e ∈ es, e.ends h c = true := by
  induction es with
  | nil =>
    intro g
    constructor
    · rintro ⟨f, failed⟩
      cases failed
    · rintro ⟨e, mem, -⟩
      cases mem
  | cons e es ih =>
    intro g
    rw [List.foldlM_cons]
    cases settled : g.settle h c root e with
    | error f =>
      have ends : e.ends h c = true := (endsIffSettleError h c root g e).mpr ⟨f, settled⟩
      exact ⟨fun _ => ⟨e, List.mem_cons_self, ends⟩, fun _ => ⟨f, rfl⟩⟩
    | ok g' =>
      have goesOn := endsFalseOfSettleOk h c root settled
      rw [show (Except.ok g' >>= fun g => es.foldlM (Gathered.settle h c root) g) =
        es.foldlM (Gathered.settle h c root) g' from rfl, ih g']
      simp [goesOn]

theorem candidateNoteRoot (stat : h.tree.stat h.cwd root = .ok .dir) (node : Node) (name : Bytes) :
    candidateNote h ⟨root, 0, node, name⟩ = (rootNotes root node).map GatherNote.record := by
  cases node <;> simp [candidateNote, rootNotes, Tree.isDir, stat, GatherNote.record]

theorem runGatherNotDir (notDir : h.tree.stat h.cwd root ≠ .ok .dir) (j : Journal) :
    ∃ f, rootFailure h root = some f ∧ (gather h root c).run.run j = (.error f, j) := by
  unfold gather rootFailure
  rcases stat : h.tree.stat h.cwd root with e | n
  · exact ⟨_, rfl, rfl⟩
  · cases n with
    | dir => exact absurd stat notDir
    | _ => exact ⟨_, rfl, rfl⟩

theorem runGatherRootEntryFails {f : Failure} (stat : h.tree.stat h.cwd root = .ok .dir)
    (fails : rootFailure h root = some f) (j : Journal) :
    (gather h root c).run.run j = (.error f, j ++ walkingRecords root c) := by
  unfold rootFailure at fails
  simp only [stat] at fails
  cases lstat : h.tree.lstat h.cwd root with
  | ok _ => simp [lstat] at fails
  | error e =>
    simp only [lstat, Option.some.injEq] at fails
    subst fails
    have unfound : h.tree.lookup h.cwd root false = .error e := by
      cases found : h.tree.lookup h.cwd root false <;> simp_all [Tree.lstat, Except.map]
    have steps : rootSteps h c root = .error e := by simp [rootSteps, unfound]
    unfold gather
    simp only [stat]
    rw [runSayBind, runSayBind, List.append_assoc, steps]
    rfl

theorem runGatherNotes (fine : rootFailure h root = none) (j : Journal) :
    ∃ loc l node, h.tree.lookup h.cwd root true = .ok (loc, .dir) ∧
      h.tree.lookup h.cwd root false = .ok (l, node) ∧
      (gather h root c).run.run j =
        match (reachedEntries h c root loc).foldlM (Gathered.settle h c root) {} with
        | .ok g => (.ok ⟨g.contracts, c.manifestPath⟩, j ++ walkingRecords root c ++
            (rootNotes root node ++ (reachedEntries h c root loc).flatMap (·.notes h c root)).map
              GatherNote.record ++ closingRecords root ⟨g.contracts, c.manifestPath⟩ g.skipped)
        | .error f => (.error f, j ++ walkingRecords root c ++ (rootNotes root node ++
            ((reachedEntries h c root loc).takeWhile (!·.ends h c)).flatMap (·.notes h c root)).map
              GatherNote.record) := by
  obtain ⟨stat, loc, l, node, isDir, lfound⟩ := rootOfRootFailureNone h root fine
  have walk : rootSteps h c root = .ok (h.tree.walkFrom h.cwd (refuses c) root node (some loc)) := by
    simp [rootSteps, lfound, isDir]
  have below : h.tree.walkBelow h.cwd (refuses c) (h.tree.entries.length + 1) loc root 1 =
      (reachedEntries h c root loc).flatMap (h.tree.stepsAt h.cwd (refuses c)) := by
    rw [Tree.walkBelowEq _ _ _ _ _ _ _ (Tree.countBelowLtFuel _ _), reachedEntries, List.flatMap_map]
  -- the root's own visit writes only its note
  have rootVisit (name : Bytes) (j' : Journal) :
      (gatherStep h c root {} (.visit ⟨root, 0, node, name⟩)).run.run j' =
        (.ok {}, j' ++ (rootNotes root node).map GatherNote.record) := by
    rw [runVisit, isCandidateRootEntry h root isDir ⟨l, lfound⟩, candidateNoteRoot h root stat]
    rfl
  refine ⟨loc, l, node, isDir, lfound, ?_⟩
  rw [runGatherWalk h c root stat walk j]
  simp only [Tree.walkFrom, below]
  rw [runGatherStepsCons, rootVisit]
  dsimp only
  rw [runEntries]
  cases folded : (reachedEntries h c root loc).foldlM (Gathered.settle h c root) {} with
  | error f => simp
  | ok g =>
    have noEnd : ¬ ∃ e ∈ reachedEntries h c root loc, e.ends h c = true := by
      rw [← foldlMSettleErrorIff h c root _ {}, folded]
      rintro ⟨f, failed⟩
      cases failed
    have all : (reachedEntries h c root loc).takeWhile (!·.ends h c) = reachedEntries h c root loc := by
      rw [List.takeWhile_eq_self_iff]
      intro e mem
      cases ends : e.ends h c
      · rfl
      · exact absurd ⟨e, mem, ends⟩ noEnd
    simp [all]

end Run

/-- Every record of a collecting run, in order. A root that is not a directory stops the run
with the `RootDir` failure of `rootFailure` before any record, and one whose own entry cannot be looked up stops it after the two opening
records. Otherwise the run writes the opening records, the root's own note, then the group of each
entry the walk reaches, in walk order, up to the first entry that ends the run and, when none does,
the summary. The summary counts each key the groups include once, so it counts fewer files than
inclusions exactly when two inclusions share a key, and it warns of the failures passed over
exactly when the groups hold such warnings. -/
theorem gatherRecordsInWalkOrder (h : Host) (root : OsPath) (c : CollectConfig) (j : Journal) :
    (h.tree.stat h.cwd root ≠ .ok .dir → ∃ f, rootFailure h root = some f ∧ (∃ e, f = .rootDir root e) ∧
      (gather h root c).run.run j = (.error f, j)) ∧
    (∀ f, h.tree.stat h.cwd root = .ok .dir → rootFailure h root = some f →
      (gather h root c).run.run j = (.error f, j ++ walkingRecords root c)) ∧
    (rootFailure h root = none → ∃ loc l node, h.tree.lookup h.cwd root true = .ok (loc, .dir) ∧
      h.tree.lookup h.cwd root false = .ok (l, node) ∧
      let es := reachedEntries h c root loc
      let notes := es.flatMap (·.notes h c root)
      ((gather h root c).run.run j =
        match es.foldlM (Gathered.settle h c root) {} with
        | .ok g => (.ok ⟨g.contracts, c.manifestPath⟩, j ++ walkingRecords root c ++
            (rootNotes root node ++ notes).map GatherNote.record ++
            closingRecords root ⟨g.contracts, c.manifestPath⟩ (notes.countP GatherNote.isSkipped))
        | .error f => (.error f, j ++ walkingRecords root c ++
            (rootNotes root node ++ (es.takeWhile (!·.ends h c)).flatMap (·.notes h c root)).map
              GatherNote.record)) ∧
      ((∃ f, es.foldlM (Gathered.settle h c root) {} = .error f) ↔ ∃ e ∈ es, e.ends h c = true) ∧
      ∀ g, es.foldlM (Gathered.settle h c root) {} = .ok g →
        Bundle.fileCount ⟨g.contracts, c.manifestPath⟩ = (notes.filterMap GatherNote.key?).dedup.length ∧
        (Bundle.fileCount ⟨g.contracts, c.manifestPath⟩ < (notes.filterMap GatherNote.key?).length ↔
          ¬ (notes.filterMap GatherNote.key?).Nodup)) := by
  refine ⟨fun notDir => ?_, fun f stat fails => runGatherRootEntryFails h c root stat fails j, fun fine => ?_⟩
  · obtain ⟨f, atRoot, run⟩ := runGatherNotDir h c root notDir j
    exact ⟨f, atRoot, rootFailureRootDir atRoot, run⟩
  obtain ⟨loc, l, node, isDir, lfound, run⟩ := runGatherNotes h c root fine j
  refine ⟨loc, l, node, isDir, lfound, ?_, foldlMSettleErrorIff h c root _ {}, fun g folded => ?_⟩
  · -- the summary counts the warnings the groups hold
    rw [run]
    cases folded : (reachedEntries h c root loc).foldlM (Gathered.settle h c root) {} with
    | error f => rfl
    | ok g =>
      have skipped := foldlMSettleSkipped h c root _ folded
      rw [countPSkippedFlatMap, ← Nat.zero_add (List.countP _ _), ← skipped]
  · -- the bundle holds one text for each key the groups include
    have count : Bundle.fileCount ⟨g.contracts, c.manifestPath⟩ =
        (((reachedEntries h c root loc).flatMap (·.notes h c root)).filterMap GatherNote.key?).dedup.length := by
      rw [keysFlatMap, Bundle.fileCount, foldlMSettleContracts h c root _ folded]
      exact Contracts.lengthOfPairs _
    exact ⟨count, count ▸ lengthDedupLtIff _⟩

/-- A root that names nothing: the run fails before it writes a single record, the opening ones
included. -/
theorem missingRootWritesNoRecords :
    ∃ f, (gather oneFileHost ⟨[109, 105, 115, 115, 105, 110, 103]⟩ {}).run.run [] = (.error f, []) := by
  have missing : oneFileHost.tree.stat oneFileHost.cwd ⟨[109, 105, 115, 115, 105, 110, 103]⟩ ≠ .ok .dir := by
    simp [oneFileHost, Tree.stat, Tree.lookup, Tree.locate, Tree.walk, Tree.steps, Tree.get?, OsPath.segments,
      OsPath.slash, Tree.startOf, OsPath.isAbsolute, Except.map, pathLimit, linkLimit, nameLimit]
  obtain ⟨f, -, run⟩ := runGatherNotDir oneFileHost {} _ missing []
  exact ⟨f, run⟩

end SourceBundle
