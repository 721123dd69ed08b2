import Mathlib
import SourceBundle.Gather.Collect
import SourceBundle.Proofs.WalkOrder
/-! A collecting run with its records set aside. What it does at one step of the walk depends only
on the entry: the entry either fails (a directory it goes into that cannot be listed, a kept
candidate that cannot be read or is not UTF-8) or adds at most one text (`foldlMStepsAt`). Over a
run of entries the bundle's texts are those of the entries, inserted in order
(`foldlMSettleContracts`), and under the `abort` policy the run fails exactly with the first
entry's failure (`foldlMSettleAbort`). -/
namespace SourceBundle
open Utf8 (Bytes)

def outcome {α} (x : Collecting α) (j : Journal) : Except Failure α := (x.run.run j).run.1

def isCandidate (h : Host) (e : WalkEntry) : Bool :=
  match e.node with
  | .file _ => true
  | .link _ => !h.tree.isDir h.cwd e.path
  | _ => false

namespace WalkEntry
variable (h : Host) (c : CollectConfig) (root : OsPath)

def text (e : WalkEntry) : Option (String × String) :=
  if isCandidate h e && c.keeps (Utf8.lossy e.name) then
    match h.tree.read h.cwd e.path with
    | .ok bytes => if bytes = [] then none else (Utf8.decode? bytes).map ((e.path.keyFrom root, ·))
    | .error _ => none
  else none

def failure (e : WalkEntry) : Option Failure :=
  match e.node with
  | .dir => if refuses c e.name then none else (h.tree.listError? h.cwd e.path).map (.walk e.path)
  | _ =>
    if isCandidate h e && c.keeps (Utf8.lossy e.name) then
      match h.tree.read h.cwd e.path with
      | .ok bytes => if bytes ≠ [] ∧ Utf8.decode? bytes = none then some (.decode e.path) else none
      | .error err => some (.fileRead e.path err)
    else none

end WalkEntry

namespace Gathered

def absorb (c : CollectConfig) (g : Gathered) (f : Failure) : Except Failure Gathered :=
  if c.policy = .skip ∧ f.perFile then .ok { g with skipped := g.skipped + 1 } else .error f

def add (g : Gathered) : Option (String × String) → Gathered
  | some p => { g with contracts := g.contracts.insert p.1 p.2 }
  | none => g

def step (h : Host) (c : CollectConfig) (root : OsPath) (g : Gathered) : WalkStep → Except Failure Gathered
  | .prune _ => .ok g
  | .fail p e => g.absorb c (.walk p e)
  | .visit e =>
    if isCandidate h e && c.keeps (Utf8.lossy e.name) then
      match readText h e.path root with
      | .ok (some f) => .ok (g.add (some (f.key, f.content)))
      | .ok none => .ok g
      | .error f => g.absorb c f
    else .ok g

def settle (h : Host) (c : CollectConfig) (root : OsPath) (g : Gathered) (e : WalkEntry) :
    Except Failure Gathered :=
  match e.failure h c with
  | some f => g.absorb c f
  | none => .ok (g.add (e.text h c root))

theorem absorbContracts {c : CollectConfig} {g g' : Gathered} {f : Failure}
    (ok : g.absorb c f = .ok g') : g'.contracts = g.contracts := by
  unfold absorb at ok
  split at ok
  · cases ok; rfl
  · cases ok

end Gathered

section Run
variable (h : Host) (c : CollectConfig) (root : OsPath)

@[simp] theorem outcomePure {α} (a : α) (j : Journal) : outcome (pure a : Collecting α) j = .ok a := rfl

theorem outcomeLiftBind {α β} {x : Logged α} {a : α} {j j' : Journal} (hx : (x.run j).run = (a, j'))
    (f : α → Collecting β) : outcome (liftM x >>= f) j = outcome (f a) j' := by
  simp only [outcome, ExceptT.run_bind, liftM, monadLift, MonadLift.monadLift, ExceptT.run_lift,
    StateT.run_bind]
  simp [hx]

theorem outcomeSayBind {β} (l : Level) (target message : String) (f : Unit → Collecting β)
    (j : Journal) : outcome (liftM (say l target message) >>= f) j =
      outcome (f ()) (j ++ [⟨l, target, message⟩]) :=
  outcomeLiftBind rfl f

theorem outcomePassOver (g : Gathered) (f : Failure) (j : Journal) :
    outcome (passOver c g f) j = g.absorb c f := by
  unfold passOver Gathered.absorb
  split
  · rw [outcomeSayBind]; rfl
  · rfl

theorem runCandidate (e : WalkEntry) (j : Journal) :
    ∃ j', ((candidate h e).run j).run = (isCandidate h e, j') := by
  unfold candidate isCandidate
  split <;> (try split) <;> simp_all [say]

theorem outcomeGatherStep (g : Gathered) (s : WalkStep) (j : Journal) :
    outcome (gatherStep h c root g s) j = g.step h c root s := by
  cases s with
  | prune e => exact outcomeSayBind _ _ _ _ j
  | fail p e => exact outcomePassOver c g (.walk p e) j
  | visit e =>
    obtain ⟨j', hj⟩ := runCandidate h e j
    simp only [gatherStep, Gathered.step]
    rw [outcomeLiftBind hj]
    by_cases cand : isCandidate h e
    · by_cases keep : c.keeps (Utf8.lossy e.name)
      · simp only [cand, keep, Bool.not_true, Bool.and_self, if_true]
        rcases readText h e.path root with f | _ | f
        · exact outcomePassOver c g f j'
        · exact outcomeSayBind _ _ _ _ j'
        · exact outcomeSayBind _ _ _ _ j'
      · simp only [cand, keep, Bool.not_true, Bool.not_false, Bool.and_false, if_true]
        exact outcomeSayBind _ _ _ _ j'
    · simp [cand]

theorem outcomeBind {α β} {x : Collecting α} {f : α → Collecting β} {y : Except Failure α}
    {k : α → Except Failure β} (hx : ∀ j, outcome x j = y) (hf : ∀ a j, outcome (f a) j = k a)
    (j : Journal) : outcome (x >>= f) j = y >>= k := by
  have first := hx j
  simp only [outcome, ExceptT.run_bind, StateT.run_bind] at first hf ⊢
  generalize x.run.run j = r at first ⊢
  obtain ⟨r, j'⟩ := r
  subst first
  cases r with
  | error e => rfl
  | ok a => exact hf a j'

theorem outcomeGatherSteps (ss : List WalkStep) : ∀ (g : Gathered) (j : Journal),
    outcome (gatherSteps h c root g ss) j = ss.foldlM (Gathered.step h c root) g := by
  induction ss with
  | nil => intro g j; rfl
  | cons s ss ih =>
    intro g j
    rw [List.foldlM_cons]
    exact outcomeBind (outcomeGatherStep h c root g s) ih j

theorem foldlMStepsAt (g : Gathered) (e : WalkEntry) :
    (h.tree.stepsAt h.cwd (refuses c) e).foldlM (Gathered.step h c root) g =
      g.settle h c root e := by
  cases hn : e.node with
  | dir =>
    have notCandidate : isCandidate h e = false := by simp [isCandidate, hn]
    simp only [Tree.stepsAt, Gathered.settle, WalkEntry.failure, WalkEntry.text, hn, notCandidate,
      Bool.false_and]
    by_cases r : refuses c e.name
    · simp [r, Gathered.step, Gathered.add]
    · cases h.tree.listError? h.cwd e.path with
      | none => simp [r, Gathered.step, Gathered.add, notCandidate]
      | some err =>
        simp only [r, Bool.false_eq_true, if_false, Option.map_some, List.foldlM_cons,
          List.foldlM_nil, Gathered.step, notCandidate, Bool.false_and, bind_pure]
        rfl
  | _ =>
    simp only [Tree.stepsAt, Gathered.settle, WalkEntry.failure, WalkEntry.text, hn,
      List.foldlM_cons, List.foldlM_nil, Gathered.step]
    by_cases k : (isCandidate h e && c.keeps (Utf8.lossy e.name)) = true
    · simp only [k, if_true, readText]
      rcases h.tree.read h.cwd e.path with err | _ | ⟨b, bs⟩
      · simp
      · simp [Gathered.add]
      · cases hd : Utf8.decode? (b :: bs) <;> simp [hd, Gathered.add]
    · simp [k, Gathered.add]

theorem foldlMFlatMap {m} [Monad m] [LawfulMonad m] {α β γ} (l : List α) (f : α → List γ)
    (step : β → γ → m β) (b : β) :
    (l.flatMap f).foldlM step b = l.foldlM (fun b a => (f a).foldlM step b) b := by
  induction l generalizing b with
  | nil => rfl
  | cons a l ih => simp [List.flatMap_cons, List.foldlM_append, ih]

theorem textOfFailure {e : WalkEntry} {f : Failure} (fails : e.failure h c = some f) :
    e.text h c root = none := by
  unfold WalkEntry.failure at fails
  unfold WalkEntry.text
  split at fails
  · have : isCandidate h e = false := by simp [isCandidate, *]
    simp [this]
  · split at fails
    · next k =>
      simp only [k, if_true]
      split at fails
      · next bytes _ =>
        split at fails
        · next bad => simp [bad.1, bad.2]
        · cases fails
      · simp_all
    · cases fails

theorem settleContracts {g g' : Gathered} {e : WalkEntry} (ok : g.settle h c root e = .ok g') :
    g'.contracts = (g.add (e.text h c root)).contracts := by
  unfold Gathered.settle at ok
  split at ok
  · next fails => rw [Gathered.absorbContracts ok, textOfFailure h c root fails]; rfl
  · cases ok; rfl

theorem foldlMSettleContracts (es : List WalkEntry) : ∀ {g g' : Gathered},
    es.foldlM (Gathered.settle h c root) g = .ok g' →
      g'.contracts =
        (es.filterMap (·.text h c root)).foldl (fun m p => Contracts.insert p.1 p.2 m) g.contracts := by
  induction es with
  | nil => intro g g' ok; cases ok; rfl
  | cons e es ih =>
    intro g g' ok
    rw [List.foldlM_cons] at ok
    cases settled : g.settle h c root e with
    | error f => rw [settled] at ok; cases ok
    | ok g₁ =>
      rw [settled] at ok
      rw [ih ok, settleContracts h c root settled, List.filterMap_cons]
      cases e.text h c root <;> rfl

theorem absorbAbort (abort : c.policy = .abort) (g : Gathered) (f : Failure) :
    g.absorb c f = .error f := by
  simp [Gathered.absorb, abort]

theorem foldlMSettleAbort (abort : c.policy = .abort) (f : Failure) (es : List WalkEntry) :
    ∀ g : Gathered, es.foldlM (Gathered.settle h c root) g = .error f ↔
      es.findSome? (·.failure h c) = some f := by
  induction es with
  | nil => intro g; exact ⟨fun ok => (nomatch ok), fun none => (nomatch none)⟩
  | cons e es ih =>
    intro g
    rw [List.foldlM_cons, List.findSome?_cons]
    cases fails : e.failure h c with
    | some f' =>
      simp only [Gathered.settle, fails, absorbAbort c abort, Option.some.injEq]
      constructor
      · intro failed
        injection failed
      · rintro rfl
        rfl
    | none => simp only [Gathered.settle, fails]; exact ih _

end Run

end SourceBundle
