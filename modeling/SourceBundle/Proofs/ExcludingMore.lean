import Mathlib
import SourceBundle.Proofs.EntryKeys
import SourceBundle.Proofs.GatherRecords
/-! Excluding more directory names. A directory refused under fewer exclusions is refused under
more, so the walk with more exclusions reaches a sublist of the entries the other reaches
(`reachedSublist`), and an entry that fails with more exclusions fails alike with fewer.

Main statement (`excludingMorePrunesMore`): when a gather succeeds, the gather with the same settings
and more exclusions succeeds too; its keys are among the first bundle's keys, and when the names of
the tree are text each of its pairs is one of the first bundle's; under the `skip` policy it passes
over no more entries than the first. -/
namespace SourceBundle
open Utf8 (Bytes)

namespace Contracts

theorem memKeysInsertPair (k v k' : String) (m : List (String × String)) :
    k' ∈ (insertPair k v m).map Prod.fst ↔ k' = k ∨ k' ∈ m.map Prod.fst := by
  induction m with
  | nil => simp [insertPair]
  | cons p m ih =>
    obtain ⟨k₀, v₀⟩ := p
    unfold insertPair
    split_ifs with before same
    · simp
    · subst same
      simp
    · simp only [List.map_cons, List.mem_cons, ih]
      tauto

theorem keysFoldlInsert (l : List (String × String)) : ∀ (m : Contracts) (k : String),
    k ∈ (l.foldl (fun m p => insert p.1 p.2 m) m).pairs.map Prod.fst ↔
      k ∈ m.pairs.map Prod.fst ∨ k ∈ l.map Prod.fst := by
  induction l with
  | nil => simp
  | cons p l ih =>
    intro m k
    rw [List.foldl_cons, ih, insert, memKeysInsertPair]
    simp only [List.map_cons, List.mem_cons]
    tauto

theorem memFoldlInsert {kv : String × String} (l : List (String × String)) : ∀ m : Contracts,
    kv ∈ (l.foldl (fun m p => insert p.1 p.2 m) m).pairs → kv ∈ m.pairs ∨ kv ∈ l := by
  induction l with
  | nil => intro m inside; exact .inl inside
  | cons p l ih =>
    intro m inside
    rcases ih _ inside with earlier | later
    · rcases memInsertPair earlier with rfl | kept
      · exact .inr List.mem_cons_self
      · exact .inl kept
    · exact .inr (List.mem_cons_of_mem _ later)

theorem memOfPairs {l : List (String × String)} {kv : String × String} (h : kv ∈ (ofPairs l).pairs) :
    kv ∈ l :=
  (memFoldlInsert l {} h).resolve_left List.not_mem_nil

theorem keyMemOfPairs {l : List (String × String)} {k v : String} (h : (k, v) ∈ l) :
    ∃ w, (k, w) ∈ (ofPairs l).pairs := by
  have key : k ∈ (ofPairs l).pairs.map Prod.fst := (keysFoldlInsert l {} k).mpr (.inr (List.mem_map_of_mem h))
  obtain ⟨⟨k', w⟩, inside, rfl⟩ := List.mem_map.mp key
  exact ⟨w, inside⟩

end Contracts

theorem Gathered.addSkipped (g : Gathered) (t : Option (String × String)) : (g.add t).skipped = g.skipped := by
  cases t <;> rfl

theorem WalkEntry.failurePerFile {h : Host} {c : CollectConfig} {e : WalkEntry} {f : Failure}
    (fails : e.failure h c = some f) : f.perFile = true := by
  unfold WalkEntry.failure at fails
  split at fails
  · split at fails
    · cases fails
    · obtain ⟨err, -, rfl⟩ := Option.map_eq_some_iff.mp fails
      rfl
  · split at fails
    · split at fails
      · split at fails
        · cases fails; rfl
        · cases fails
      · cases fails; rfl
    · cases fails

theorem WalkEntry.textEqSome {h : Host} {c : CollectConfig} {root : OsPath} {e : WalkEntry} {k v : String}
    (t : e.text h c root = some (k, v)) :
    ∃ bytes, h.tree.read h.cwd e.path = .ok bytes ∧ Utf8.decode? bytes = some v ∧ k = e.path.keyFrom root := by
  unfold WalkEntry.text at t
  split at t
  · split at t
    · next bytes read =>
      split at t
      · cases t
      · obtain ⟨text, decoded, same⟩ := Option.map_eq_some_iff.mp t
        cases same
        exact ⟨bytes, read, decoded, rfl⟩
    · cases t
  · cases t

section Run
variable (h : Host) (c : CollectConfig) (root : OsPath)

theorem foldlMSettleSkip (skip : c.policy = .skip) (es : List WalkEntry) : ∀ g : Gathered,
    ∃ g', es.foldlM (Gathered.settle h c root) g = .ok g' ∧
      g'.skipped = g.skipped + es.countP fun e => (e.failure h c).isSome := by
  induction es with
  | nil => intro g; exact ⟨g, rfl, rfl⟩
  | cons e es ih =>
    intro g
    cases fails : e.failure h c with
    | some f =>
      obtain ⟨g', run, count⟩ := ih { g with skipped := g.skipped + 1 }
      refine ⟨g', ?_, ?_⟩
      · simp only [List.foldlM_cons, Gathered.settle, fails, Gathered.absorb, skip,
          WalkEntry.failurePerFile fails, and_self, if_true]
        exact run
      · simp [count, fails]
        omega
    | none =>
      obtain ⟨g', run, count⟩ := ih (g.add (e.text h c root))
      refine ⟨g', ?_, ?_⟩
      · simp only [List.foldlM_cons, Gathered.settle, fails]
        exact run
      · simp [count, fails, Gathered.addSkipped]

theorem foldlMSettleOk (es : List WalkEntry) (none : ∀ e ∈ es, e.failure h c = none) :
    ∀ g : Gathered, ∃ g', es.foldlM (Gathered.settle h c root) g = .ok g' := by
  induction es with
  | nil => intro g; exact ⟨g, rfl⟩
  | cons e es ih =>
    intro g
    obtain ⟨g', run⟩ := ih (fun e' mem => none e' (List.mem_cons_of_mem _ mem)) (g.add (e.text h c root))
    refine ⟨g', ?_⟩
    simp only [List.foldlM_cons, Gathered.settle, none e List.mem_cons_self]
    exact run

theorem runGatherReached (fine : rootFailure h root = none) (j : Journal) :
    ∃ loc j', h.tree.lookup h.cwd root true = .ok (loc, .dir) ∧
      (gather h root c).run.run j =
        match ((h.tree.below loc).filter (h.tree.reaches h.cwd (refuses c) root)).foldlM
          (fun (g : Gathered) b => g.settle h c root (b.entry root 1)) {} with
        | .ok g => (.ok ⟨g.contracts, c.manifestPath⟩,
            j' ++ closingRecords root ⟨g.contracts, c.manifestPath⟩ g.skipped)
        | .error f => (.error f, j') := by
  obtain ⟨stat, -⟩ := rootOfRootFailureNone h root fine
  obtain ⟨loc, steps, isDir, walk, walked⟩ := rootStepsReached h c root fine
  rcases run : (gatherSteps h c root {} steps).run.run (j ++ walkingRecords root c) with ⟨r, j'⟩
  have folded : r = steps.foldlM (Gathered.step h c root) {} := by
    have := outcomeGatherSteps h c root steps {} (j ++ walkingRecords root c)
    unfold outcome at this
    rw [run] at this
    exact this
  refine ⟨loc, j', isDir, ?_⟩
  rw [runGatherWalk h c root stat walk j, run, ← walked, ← folded]
  cases r <;> rfl

end Run

section Excluding
variable (h : Host) (root : OsPath) {c₁ c₂ : CollectConfig}

theorem refusesMono (more : ∀ x ∈ c₁.excluded, x ∈ c₂.excluded) {n : Bytes} (r : refuses c₁ n = true) :
    refuses c₂ n = true := by
  unfold refuses at r ⊢
  split at r
  · simp_all [CollectConfig.isExcluded]
  · cases r

theorem entersAllMono {refuse₁ refuse₂ : Bytes → Bool} (mono : ∀ n, refuse₁ n = true → refuse₂ n = true) :
    ∀ (base : OsPath) (above : List (Bytes × Node)), h.tree.entersAll h.cwd refuse₂ base above = true →
      h.tree.entersAll h.cwd refuse₁ base above = true := by
  intro base above
  induction above generalizing base with
  | nil => intro _; rfl
  | cons a above ih =>
    simp only [Tree.entersAll, Tree.enters, Bool.and_eq_true, Bool.not_eq_true'] at ih ⊢
    rintro ⟨⟨⟨isDir, kept⟩, listed⟩, deeper⟩
    have kept₁ : refuse₁ a.1 = false := by
      cases r : refuse₁ a.1
      · rfl
      · rw [mono _ r] at kept
        cases kept
    exact ⟨⟨⟨isDir, kept₁⟩, listed⟩, ih _ deeper⟩

theorem reachedSublist (more : ∀ x ∈ c₁.excluded, x ∈ c₂.excluded) (loc : Location) :
    ((h.tree.below loc).filter (h.tree.reaches h.cwd (refuses c₂) root)).Sublist
      ((h.tree.below loc).filter (h.tree.reaches h.cwd (refuses c₁) root)) :=
  List.monotone_filter_right _ fun b reached =>
    entersAllMono h (fun _ r => refusesMono more r) root b.above reached

theorem failureOfMore (keeps : c₂.keeps = c₁.keeps) (more : ∀ x ∈ c₁.excluded, x ∈ c₂.excluded)
    {e : WalkEntry} {f : Failure} (fails : e.failure h c₂ = some f) : e.failure h c₁ = some f := by
  cases node : e.node with
  | dir =>
    simp only [WalkEntry.failure, node] at fails ⊢
    by_cases r₂ : refuses c₂ e.name = true
    · simp [r₂] at fails
    · have r₁ : refuses c₁ e.name = false := by
        cases r : refuses c₁ e.name
        · rfl
        · exact absurd (refusesMono more r) r₂
      simpa [r₁, r₂] using fails
  | _ => simpa [WalkEntry.failure, node, keeps] using fails

theorem textOfKeeps (keeps : c₂.keeps = c₁.keeps) (e : WalkEntry) : e.text h c₂ root = e.text h c₁ root := by
  simp [WalkEntry.text, keeps]

theorem textValueEq (texts : h.tree.NamesText) {c : CollectConfig} {loc : Location}
    {b b' : Below} (mem : b ∈ h.tree.below loc) (mem' : b' ∈ h.tree.below loc) {k v v' : String}
    (t : (b.entry root 1).text h c root = some (k, v)) (t' : (b'.entry root 1).text h c root = some (k, v')) :
    v = v' := by
  obtain ⟨bytes, read, decoded, key⟩ := WalkEntry.textEqSome t
  obtain ⟨bytes', read', decoded', key'⟩ := WalkEntry.textEqSome t'
  have path : b.path root = b'.path root := Below.pathEqOfKeyFrom texts mem mem' (key.symm.trans key')
  have same : bytes = bytes' := by
    simp only [Below.entry, path] at read read'
    rw [read] at read'
    cases read'
    rfl
  rw [same, decoded'] at decoded
  exact (Option.some.inj decoded).symm

theorem contractsOfFolds (keeps : c₂.keeps = c₁.keeps) {es₁ es₂ : List WalkEntry} {g₁ g₂ : Gathered}
    (fold₁ : es₁.foldlM (Gathered.settle h c₁ root) {} = .ok g₁)
    (fold₂ : es₂.foldlM (Gathered.settle h c₂ root) {} = .ok g₂) :
    g₁.contracts = Contracts.ofPairs (es₁.filterMap (·.text h c₁ root)) ∧
      g₂.contracts = Contracts.ofPairs (es₂.filterMap (·.text h c₁ root)) := by
  refine ⟨foldlMSettleContracts h c₁ root es₁ fold₁, ?_⟩
  rw [foldlMSettleContracts h c₂ root es₂ fold₂]
  simp only [textOfKeeps h root keeps]
  rfl

section Sublist
variable (keeps : c₂.keeps = c₁.keeps) {es₁ es₂ : List WalkEntry} (sub : es₂.Sublist es₁)
include keeps sub

theorem settleSublistOk (more : ∀ x ∈ c₁.excluded, x ∈ c₂.excluded) (policy : c₂.policy = c₁.policy)
    {g₁ : Gathered}
    (fold₁ : es₁.foldlM (Gathered.settle h c₁ root) {} = .ok g₁) :
    ∃ g₂, es₂.foldlM (Gathered.settle h c₂ root) {} = .ok g₂ := by
  cases hp : c₁.policy with
  | skip =>
    obtain ⟨g₂, run, -⟩ := foldlMSettleSkip h c₂ root (policy.trans hp) es₂ {}
    exact ⟨g₂, run⟩
  | abort =>
    have none₁ : ∀ e ∈ es₁, e.failure h c₁ = none := by
      cases first : es₁.findSome? (·.failure h c₁) with
      | none => exact List.findSome?_eq_none_iff.mp first
      | some f =>
        have failed := (foldlMSettleAbort h c₁ root hp f es₁ {}).mpr first
        rw [fold₁] at failed
        cases failed
    refine foldlMSettleOk h c₂ root es₂ (fun e mem => ?_) {}
    cases fails : e.failure h c₂ with
    | none => rfl
    | some f =>
      have := failureOfMore h keeps more fails
      rw [none₁ e (sub.subset mem)] at this
      cases this

theorem keysSublist {g₁ g₂ : Gathered} (fold₁ : es₁.foldlM (Gathered.settle h c₁ root) {} = .ok g₁)
    (fold₂ : es₂.foldlM (Gathered.settle h c₂ root) {} = .ok g₂) :
    ∀ k ∈ g₂.contracts.pairs.map Prod.fst, k ∈ g₁.contracts.pairs.map Prod.fst := by
  obtain ⟨contracts₁, contracts₂⟩ := contractsOfFolds h root keeps fold₁ fold₂
  intro k mem
  obtain ⟨⟨k', v⟩, inside, rfl⟩ := List.mem_map.mp mem
  rw [contracts₂] at inside
  have first := (sub.filterMap (·.text h c₁ root)).subset (Contracts.memOfPairs inside)
  obtain ⟨w, found⟩ := Contracts.keyMemOfPairs first
  exact List.mem_map.mpr ⟨(k', w), contracts₁ ▸ found, rfl⟩

theorem pairsSublist {g₁ g₂ : Gathered} (fold₁ : es₁.foldlM (Gathered.settle h c₁ root) {} = .ok g₁)
    (fold₂ : es₂.foldlM (Gathered.settle h c₂ root) {} = .ok g₂)
    (oneText : ∀ e ∈ es₁, ∀ e' ∈ es₁, ∀ k v v', e.text h c₁ root = some (k, v) →
      e'.text h c₁ root = some (k, v') → v = v') :
    ∀ kv ∈ g₂.contracts.pairs, kv ∈ g₁.contracts.pairs := by
  obtain ⟨contracts₁, contracts₂⟩ := contractsOfFolds h root keeps fold₁ fold₂
  rintro ⟨k, v⟩ inside
  rw [contracts₂] at inside
  have first := (sub.filterMap (·.text h c₁ root)).subset (Contracts.memOfPairs inside)
  obtain ⟨w, found⟩ := Contracts.keyMemOfPairs first
  obtain ⟨e, eMem, et⟩ := List.mem_filterMap.mp first
  obtain ⟨e', eMem', et'⟩ := List.mem_filterMap.mp (Contracts.memOfPairs found)
  rw [contracts₁, oneText e eMem e' eMem' k v w et et']
  exact found

theorem skippedSublist (more : ∀ x ∈ c₁.excluded, x ∈ c₂.excluded) (skip : c₁.policy = .skip)
    (policy : c₂.policy = c₁.policy) {g₁ g₂ : Gathered}
    (fold₁ : es₁.foldlM (Gathered.settle h c₁ root) {} = .ok g₁)
    (fold₂ : es₂.foldlM (Gathered.settle h c₂ root) {} = .ok g₂) : g₂.skipped ≤ g₁.skipped := by
  obtain ⟨g₁', run₁, count₁⟩ := foldlMSettleSkip h c₁ root skip es₁ {}
  obtain ⟨g₂', run₂, count₂⟩ := foldlMSettleSkip h c₂ root (policy.trans skip) es₂ {}
  obtain rfl := Except.ok.inj (fold₁.symm.trans run₁)
  obtain rfl := Except.ok.inj (fold₂.symm.trans run₂)
  calc g₂.skipped = es₂.countP (fun e => (e.failure h c₂).isSome) := by simpa using count₂
    _ ≤ es₂.countP (fun e => (e.failure h c₁).isSome) :=
      List.countP_mono_left fun e _ fails => by
        obtain ⟨f, found⟩ := Option.isSome_iff_exists.mp fails
        simp [failureOfMore h keeps more found]
    _ ≤ es₁.countP (fun e => (e.failure h c₁).isSome) := sub.countP_le
    _ = g₁.skipped := by simpa using count₁.symm

end Sublist

end Excluding

theorem excludingMorePrunesMore (h : Host) (root : OsPath) (c₁ c₂ : CollectConfig) (j : Journal)
    (same : { c₁ with excluded := c₂.excluded } = c₂) (more : ∀ x ∈ c₁.excluded, x ∈ c₂.excluded)
    (b₁ : Bundle) (ok₁ : outcome (gather h root c₁) j = .ok b₁) :
    ∃ b₂, outcome (gather h root c₂) j = .ok b₂ ∧
      (∀ k ∈ b₂.contracts.pairs.map Prod.fst, k ∈ b₁.contracts.pairs.map Prod.fst) ∧
      (h.tree.NamesText → ∀ kv ∈ b₂.contracts.pairs, kv ∈ b₁.contracts.pairs) ∧
      (c₁.policy = .skip → ∃ n₁ n₂ j₁ j₂,
        (gather h root c₁).run.run j = (.ok b₁, j₁ ++ closingRecords root b₁ n₁) ∧
        (gather h root c₂).run.run j = (.ok b₂, j₂ ++ closingRecords root b₂ n₂) ∧ n₂ ≤ n₁) := by
  have keeps : c₂.keeps = c₁.keeps := by
    rw [← same]
    rfl
  have policy : c₂.policy = c₁.policy := by rw [← same]
  have fine := rootFailureNoneOfOk h c₁ root ok₁
  obtain ⟨loc, isDir, run₁⟩ := outcomeGatherWalk h c₁ root fine
  obtain ⟨loc₂, isDir₂, run₂⟩ := outcomeGatherWalk h c₂ root fine
  rw [isDir] at isDir₂
  cases isDir₂
  -- the entries each run settles, those of the second among those of the first
  have sub := (reachedSublist h root more loc).map (·.entry root 1)
  rw [← List.foldlM_map] at run₁ run₂
  generalize hes₁ : ((h.tree.below loc).filter (h.tree.reaches h.cwd (refuses c₁) root)).map
    (·.entry root 1) = es₁ at run₁ sub
  generalize hes₂ : ((h.tree.below loc).filter (h.tree.reaches h.cwd (refuses c₂) root)).map
    (·.entry root 1) = es₂ at run₂ sub
  rw [run₁ j] at ok₁
  cases fold₁ : es₁.foldlM (Gathered.settle h c₁ root) {} with
  | error f =>
    rw [fold₁] at ok₁
    cases ok₁
  | ok g₁ =>
  rw [fold₁] at ok₁
  obtain rfl : (⟨g₁.contracts, c₁.manifestPath⟩ : Bundle) = b₁ := Except.ok.inj ok₁
  obtain ⟨g₂, fold₂⟩ := settleSublistOk h root keeps sub more policy fold₁
  refine ⟨⟨g₂.contracts, c₂.manifestPath⟩, by rw [run₂ j, fold₂]; rfl,
    keysSublist h root keeps sub fold₁ fold₂, fun names => ?_, fun skip => ?_⟩
  · -- entries below the root with text names give one text per key
    refine pairsSublist h root keeps sub fold₁ fold₂ fun e eMem e' eMem' k v v' t t' => ?_
    rw [← hes₁] at eMem eMem'
    obtain ⟨b, reached, rfl⟩ := List.mem_map.mp eMem
    obtain ⟨b', reached', rfl⟩ := List.mem_map.mp eMem'
    exact textValueEq h root names (List.mem_of_mem_filter reached)
      (List.mem_of_mem_filter reached') t t'
  · obtain ⟨loc₁, j₁, isDir₁, journal₁⟩ := runGatherReached h c₁ root fine j
    obtain ⟨loc₂, j₂, isDir₂, journal₂⟩ := runGatherReached h c₂ root fine j
    rw [isDir] at isDir₁ isDir₂
    cases isDir₁
    cases isDir₂
    rw [← List.foldlM_map, hes₁, fold₁] at journal₁
    rw [← List.foldlM_map, hes₂, fold₂] at journal₂
    exact ⟨g₁.skipped, g₂.skipped, j₁, j₂, journal₁, journal₂,
      skippedSublist h root keeps sub more skip policy fold₁ fold₂⟩

section Vendor

def vendorHost : Host :=
  ⟨⟨[([[97, 46, 114, 115]], .file [97]), ([[118, 101, 110, 100, 111, 114]], .dir),
    ([[118, 101, 110, 100, 111, 114], [120, 46, 114, 115]], .file [118])]⟩, [], none, none⟩

theorem outcomeVendorHost : outcome (gather vendorHost ⟨[47]⟩ {}) [] =
    .ok ⟨.ofPairs [("a.rs", "a"), ("vendor/x.rs", "v")], "Cargo.toml"⟩ := by
  have fine : rootFailure vendorHost ⟨[47]⟩ = none := by
    simp [rootFailure, vendorHost, Tree.stat, Tree.lstat, Tree.lookup, Tree.locate, Tree.walk,
      Tree.steps, OsPath.segments, OsPath.slash, Tree.startOf, OsPath.isAbsolute, Except.map,
      pathLimit, linkLimit]
  have top : vendorHost.tree.lookup vendorHost.cwd ⟨[47]⟩ true = .ok ([], .dir) := by
    simp [vendorHost, Tree.lookup, Tree.locate, Tree.walk, Tree.steps, OsPath.segments,
      OsPath.slash, Tree.startOf, OsPath.isAbsolute, pathLimit, linkLimit]
  have inRoot : vendorHost.tree.children [] =
      [([97, 46, 114, 115], .file [97]), ([118, 101, 110, 100, 111, 114], .dir)] := by
    simp only [vendorHost, Tree.children]
    apply List.mergeSort_of_pairwise
    decide
  have inVendor : vendorHost.tree.children [[118, 101, 110, 100, 111, 114]] =
      [([120, 46, 114, 115], .file [118])] := by
    simp [vendorHost, Tree.children]
  have inA : vendorHost.tree.children [[97, 46, 114, 115]] = [] := by
    simp [vendorHost, Tree.children]
  have inX : vendorHost.tree.children [[118, 101, 110, 100, 111, 114], [120, 46, 114, 115]] = [] := by
    simp [vendorHost, Tree.children]
  have belowA : vendorHost.tree.below [[97, 46, 114, 115]] = [] := by
    rw [Tree.belowEq, inA]
    rfl
  have belowVendor : vendorHost.tree.below [[118, 101, 110, 100, 111, 114]] =
      [⟨[], [120, 46, 114, 115], .file [118]⟩] := by
    have belowX : vendorHost.tree.below [[118, 101, 110, 100, 111, 114], [120, 46, 114, 115]] = [] := by
      rw [Tree.belowEq, inX]
      rfl
    rw [Tree.belowEq, inVendor]
    simp [belowX]
  have below : vendorHost.tree.below [] = [⟨[], [97, 46, 114, 115], .file [97]⟩,
      ⟨[], [118, 101, 110, 100, 111, 114], .dir⟩,
      ⟨[([118, 101, 110, 100, 111, 114], .dir)], [120, 46, 114, 115], .file [118]⟩] := by
    rw [Tree.belowEq, inRoot]
    simp [belowA, belowVendor]
    rfl
  obtain ⟨loc, isDir, run⟩ := outcomeGatherWalk vendorHost {} ⟨[47]⟩ fine
  rw [top] at isDir
  cases isDir
  rw [run, below]
  have keepVendor : refuses {} [118, 101, 110, 100, 111, 114] = false := by
    simp +decide [refuses, Utf8.decode?, Utf8.pieces, Utf8.front, CollectConfig.isExcluded]
  have listVendor : vendorHost.tree.listError? vendorHost.cwd ⟨[47, 118, 101, 110, 100, 111, 114]⟩ =
      none := by
    simp [Tree.listError?, vendorHost, Tree.lookup, Tree.locate, Tree.walk, Tree.steps, OsPath.segments,
      OsPath.slash, Tree.startOf, OsPath.isAbsolute, Tree.get?, pathLimit, linkLimit, nameLimit]
  have intoVendor : vendorHost.tree.enters vendorHost.cwd (refuses {}) ⟨[47]⟩
      ([118, 101, 110, 100, 111, 114], .dir) = true := by
    simp [Tree.enters, keepVendor, OsPath.join, OsPath.isAbsolute, OsPath.slash, listVendor]
  have readA : vendorHost.tree.read vendorHost.cwd ⟨[47, 97, 46, 114, 115]⟩ = .ok [97] := by
    simp [vendorHost, Tree.read, Tree.stat, Tree.lookup, Tree.locate, Tree.walk, Tree.steps,
      Tree.get?, OsPath.segments, OsPath.slash, Tree.startOf, OsPath.isAbsolute, Except.map,
      pathLimit, linkLimit, nameLimit]
  have readX : vendorHost.tree.read vendorHost.cwd
      ⟨[47, 118, 101, 110, 100, 111, 114, 47, 120, 46, 114, 115]⟩ = .ok [118] := by
    simp [vendorHost, Tree.read, Tree.stat, Tree.lookup, Tree.locate, Tree.walk, Tree.steps,
      Tree.get?, OsPath.segments, OsPath.slash, Tree.startOf, OsPath.isAbsolute, Except.map,
      pathLimit, linkLimit, nameLimit]
  have keyA : OsPath.keyFrom ⟨[47, 97, 46, 114, 115]⟩ ⟨[47]⟩ = "a.rs" := by
    simp [OsPath.keyFrom, OsPath.relativeTo, OsPath.keyOf, OsPath.components, OsPath.head,
      OsPath.segmentComponent, OsPath.segments, OsPath.route, OsPath.isAbsolute, OsPath.slash,
      OsPath.dot, Utf8.lossy, Utf8.pieces, Utf8.front]
  have keyX : OsPath.keyFrom ⟨[47, 118, 101, 110, 100, 111, 114, 47, 120, 46, 114, 115]⟩ ⟨[47]⟩ =
      "vendor/x.rs" := by
    simp [OsPath.keyFrom, OsPath.relativeTo, OsPath.keyOf, OsPath.components, OsPath.head,
      OsPath.segmentComponent, OsPath.segments, OsPath.route, OsPath.isAbsolute, OsPath.slash,
      OsPath.dot, Utf8.lossy, Utf8.pieces, Utf8.front]
  simp only [List.filter_cons, List.filter_nil, Tree.reaches, Tree.entersAll, intoVendor,
    Bool.and_true, if_true, List.foldlM_cons, List.foldlM_nil]
  simp +decide [Gathered.settle, WalkEntry.failure, WalkEntry.text,
      Below.entry, Below.path, OsPath.join, OsPath.isAbsolute, OsPath.slash, isCandidate, readA, readX,
      keyA, keyX, keepVendor, listVendor, Utf8.decode?, Utf8.lossy, Utf8.pieces, Utf8.front, Utf8.Piece.allChars,
      CollectConfig.keeps,
      Gathered.add, Contracts.insert, Except.map]

theorem excludingVendorKeepsKnownKeys :
    outcome (gather vendorHost ⟨[47]⟩ {}) [] = .ok ⟨.ofPairs [("a.rs", "a"), ("vendor/x.rs", "v")], "Cargo.toml"⟩ ∧
    ∃ b, outcome (gather vendorHost ⟨[47]⟩ { excluded := [".git", ".idea", "target", "vendor"] }) [] = .ok b ∧
      ∀ k ∈ b.contracts.pairs.map Prod.fst, k ∈ ["a.rs", "vendor/x.rs"] := by
  obtain ⟨b, ok, keys, -, -⟩ := excludingMorePrunesMore vendorHost ⟨[47]⟩ {}
    { excluded := [".git", ".idea", "target", "vendor"] } [] rfl (by decide) _ outcomeVendorHost
  exact ⟨outcomeVendorHost, b, ok, keys⟩

end Vendor

end SourceBundle
