import Mathlib
import SourceBundle.Proofs.ExcludingMore
import SourceBundle.Proofs.ExcludedNames
import SourceBundle.Cli.Run
/-! A packing run from its command line to its exit code. Each step of a run either ends with a value
or stops it with a trouble, writes events and may change the machine; `Yields` records, from the
machine a step starts on, what it ends with, the text it puts on the output stream and the machine it
leaves, so that steps compose by `Yields.seq`. Only delivering the document writes on the output
stream or changes the machine.

Main statement (`runExitCodes`): a packing run either exits with 0, having gathered the sources
under its project root with the rules laid from the configuration file and the command line
(`Layered`) and written the document once, to the output stream or to the file given with `-o`; or it
exits with the code of the step where it stops (`Stops`), writing nothing on the output stream and
leaving the machine as it was, but for the directories made above the file given with `-o` when that
file cannot be written. A configuration file that cannot be read or is not UTF-8 stops the
run with 2, like every failure other than a missing configuration file or invalid settings TOML;
`nonUtf8ConfigExitsWithTwo` is such a run. -/
namespace SourceBundle.Cli

def stdoutOf (evs : List Event) : String :=
  String.join (evs.filterMap fun e => match e with
    | .stdout s => some s
    | _ => none)

@[simp] theorem stdoutOfNil : stdoutOf [] = "" := rfl

@[simp] theorem stdoutOfAppend (w w' : List Event) : stdoutOf (w ++ w') = stdoutOf w ++ stdoutOf w' := by
  simp [stdoutOf, String.join_append]

@[simp] theorem stdoutOfLog (r : Record) (w : List Event) : stdoutOf (.log r :: w) = stdoutOf w := rfl

@[simp] theorem stdoutOfStderr (s : String) (w : List Event) : stdoutOf (.stderr s :: w) = stdoutOf w := rfl

@[simp] theorem stdoutOfStdout (s : String) (w : List Event) : stdoutOf (.stdout s :: w) = s ++ stdoutOf w := by
  simp [stdoutOf, String.join_cons]

def Yields {α} (x : Console α) (m : Host) (r : Except Trouble α) (out : String) (m' : Host) : Prop :=
  ∀ evs, ∃ w, stdoutOf w = out ∧ x.run.run ⟨evs, m⟩ = (r, ⟨evs ++ w, m'⟩)

theorem runGet {ε σ} (s : σ) : (get : ExceptT ε (StateM σ) σ).run.run s = Pure.pure (.ok s, s) := rfl

namespace Yields

theorem silent {α} {x : Console α} {m m' : Host} {r : Except Trouble α}
    (ran : ∀ evs, x.run.run ⟨evs, m⟩ = (r, ⟨evs, m'⟩)) : Yields x m r "" m' :=
  fun evs => ⟨[], rfl, by rw [List.append_nil]; exact ran evs⟩

theorem pure {α} (a : α) (m : Host) : Yields (Pure.pure a : Console α) m (.ok a) "" m :=
  silent fun _ => rfl

theorem throw {α} (t : Trouble) (m : Host) : Yields (MonadExcept.throw t : Console α) m (.error t) "" m :=
  silent fun _ => rfl

theorem emit (e : Event) (m : Host) : Yields (Cli.emit e) m (.ok ()) (stdoutOf [e]) m :=
  fun _ => ⟨[e], rfl, rfl⟩

theorem machine (m : Host) : Yields Cli.machine m (.ok m) "" m :=
  silent fun _ => rfl

theorem onMachine {α} (x : ExceptT Failure (StateM Host) α) (m : Host) :
    Yields (Cli.onMachine x) m ((x.run.run m).1.mapError fun f => ⟨[], f⟩) "" (x.run.run m).2 := by
  refine silent fun evs => ?_
  simp only [Cli.onMachine, ExceptT.run_bind, StateT.run_bind, runGet, pure_bind]
  rcases x.run.run m with ⟨_ | a, m'⟩ <;> rfl

theorem bind {α β} {x : Console α} {f : α → Console β} {m m₁ m₂ : Host} {a : α} {r : Except Trouble β}
    {out out' : String} (first : Yields x m (.ok a) out m₁) (rest : Yields (f a) m₁ r out' m₂) :
    Yields (x >>= f) m r (out ++ out') m₂ := by
  intro evs
  obtain ⟨w, said, run⟩ := first evs
  obtain ⟨w', said', run'⟩ := rest (evs ++ w)
  refine ⟨w ++ w', by rw [stdoutOfAppend, said, said'], ?_⟩
  simp only [ExceptT.run_bind, StateT.run_bind, run]
  rw [← List.append_assoc]
  exact run'

theorem seq {α β} {x : Console α} {f : α → Console β} {m m₁ m₂ : Host} {a : α} {r : Except Trouble β}
    {out : String} (first : Yields x m (.ok a) "" m₁) (rest : Yields (f a) m₁ r out m₂) :
    Yields (x >>= f) m r out m₂ := by
  simpa using bind first rest

theorem congrOut {α} {x : Console α} {m m' : Host} {r : Except Trouble α} {out out' : String}
    (same : out = out') (ran : Yields x m r out m') : Yields x m r out' m' :=
  same ▸ ran

theorem bindError {α β} {x : Console α} {m m' : Host} {t : Trouble} {out : String}
    (first : Yields x m (.error t) out m') (f : α → Console β) : Yields (x >>= f) m (.error t) out m' := by
  intro evs
  obtain ⟨w, said, run⟩ := first evs
  refine ⟨w, said, ?_⟩
  simp only [ExceptT.run_bind, StateT.run_bind, run]
  rfl

theorem note (level : Level) (target message : String) (m : Host) :
    Yields (Cli.note level target message) m (.ok ()) "" m :=
  emit _ m

theorem forMLog (j : Journal) (m : Host) : Yields (j.forM fun r => Cli.emit (.log r)) m (.ok ()) "" m := by
  induction j with
  | nil => exact pure () m
  | cons r j ih => exact seq (emit (.log r) m) ih

theorem logged {α} (x : Logged α) (m : Host) : Yields (Cli.logged x) m (.ok (x.run []).1) "" m :=
  seq (forMLog (x.run []).2 m) (pure _ m)

theorem attempt {α} (x : Collecting α) (m : Host) :
    Yields (Cli.attempt x) m ((outcome x []).mapError fun f => ⟨[], f⟩) "" m := by
  unfold Cli.attempt
  have same : (x.run.run []).1 = outcome x [] := rfl
  refine seq (logged x.run m) ?_
  cases o : outcome x [] with
  | ok a =>
    simp only [same, o]
    exact pure a m
  | error f =>
    simp only [same, o]
    exact throw _ m

theorem context {α} {x : Console α} {m m' : Host} {r : Except Trouble α} {out : String} (what : String)
    (ran : Yields x m r out m') :
    Yields (Cli.context what x) m (r.mapError fun t => { t with contexts := what :: t.contexts }) out m' := by
  intro evs
  obtain ⟨w, said, run⟩ := ran evs
  refine ⟨w, said, ?_⟩
  unfold Cli.context
  rw [ExceptT.run_tryCatch]
  cases r <;> simp [run] <;> rfl

end Yields

structure Layered (a : Args) (file : FileConfig) (c : CollectConfig) (style : Json.Style) : Prop where
  excludes : Excludes (file.exclude ++ a.exclude) c
  manifest : c.manifestPath = a.manifest.getD (file.manifest.getD "Cargo.toml")
  policy : c.policy = if a.skipUnreadable then .skip else file.onReadError.getD .abort
  escape : style.escapeNonAscii = if a.unicode then false else file.escapeUnicode.getD true

theorem ofFileRun (file : FileConfig) : ∃ S, ((CollectConfig.ofFile file).run []).1 =
    { manifestPath := file.manifest.getD "Cargo.toml", excluded := S,
      policy := file.onReadError.getD .abort } ∧
    Excludes file.exclude { manifestPath := file.manifest.getD "Cargo.toml", excluded := S } := by
  obtain ⟨S, w, ran, inv, -⟩ := addExcludesSpec file.exclude []
    (excludesManifest (file.manifest.getD "Cargo.toml"))
  refine ⟨S, ?_, by simpa using inv⟩
  rw [ofFileEqMake]
  simp only [CollectConfig.make, StateT.run_map, ran]
  rfl

theorem layeredAddExcludes (a : Args) (file : FileConfig) {c : CollectConfig}
    (inv : Excludes file.exclude c) (manifest : c.manifestPath = a.manifest.getD (file.manifest.getD "Cargo.toml"))
    (policy : c.policy = file.onReadError.getD .abort) :
    Layered a file
      (if a.skipUnreadable then { ((c.addExcludes a.exclude).run []).1 with policy := .skip }
        else ((c.addExcludes a.exclude).run []).1)
      ⟨if a.unicode then false else file.escapeUnicode.getD true⟩ := by
  obtain ⟨S, w, ran, inv', -⟩ := addExcludesSpec a.exclude [] inv
  rw [ran]
  refine ⟨?_, ?_, ?_, rfl⟩
  · split <;> exact ⟨inv'.sorted, inv'.memIff, inv'.extensions, inv'.fileNames⟩
  · split <;> exact manifest
  · split
    · rfl
    · simp [policy]

theorem overlayYields (a : Args) (file : FileConfig) (m : Host) :
    ∃ c style, Layered a file c style ∧ Yields (overlay a file) m (.ok (c, style)) "" m := by
  obtain ⟨S, read, inv⟩ := ofFileRun file
  unfold overlay
  apply Exists.intro
  apply Exists.intro
  constructor
  on_goal 2 =>
    exact Yields.seq (Yields.note _ _ _ m) (Yields.seq (Yields.logged _ m)
      (Yields.seq (Yields.logged _ m) (Yields.seq (Yields.note _ _ _ m) (Yields.pure _ m))))
  apply layeredAddExcludes
  · cases a.manifest <;> rw [read] <;> exact ⟨inv.sorted, inv.memIff, inv.extensions, inv.fileNames⟩
  · cases a.manifest <;> simp [read]
  · cases a.manifest <;> simp [read]


def configFile? (h : Host) (root : OsPath) (a : Args) : Except Failure (Option OsPath) :=
  outcome (h.configPath? root (a.config.map OsPath.ofString) a.noConfig) []

theorem outcomeMapSay {α} (g : Unit → α) (l : Level) (target message : String) (j : Journal) :
    outcome (g <$> liftM (say l target message) : Collecting α) j = .ok (g ()) := rfl

theorem configFileError {h : Host} {root : OsPath} {a : Args} {f : Failure}
    (fails : configFile? h root a = .error f) : ∃ s, f = .config s := by
  unfold configFile? Host.configPath? at fails
  split at fails
  · simp [outcomeMapSay] at fails
  · split at fails
    · dsimp only at fails
      split at fails
      · exact ⟨_, (Except.error.inj fails).symm⟩
      · simp [outcomeMapSay] at fails
    · dsimp only at fails
      split at fails <;> simp [outcomeMapSay] at fails

theorem outcomeLoadFileConfig (h : Host) (p : OsPath) (j : Journal) : outcome (h.loadFileConfig p) j =
    match h.tree.read h.cwd p with
    | .error e => .error (.fileRead p e)
    | .ok bytes =>
      match Utf8.decode? bytes with
      | none => .error (.fileRead p (.other "stream did not contain valid UTF-8"))
      | some text => (Toml.parseSettings text).mapError fun e => .configSyntax
          s!"Error parsing config file '{p.display}': {e}. Check TOML syntax and structure." := by
  unfold Host.loadFileConfig
  rw [outcomeSayBind]
  cases h.tree.read h.cwd p with
  | error e => rfl
  | ok bytes =>
    dsimp only
    cases decoded : Utf8.decode? bytes with
    | none => simp only [pure_bind, decoded]; rfl
    | some text =>
      simp only [pure_bind, decoded]
      cases Toml.parseSettings text <;> rfl


inductive Loads (h : Host) (root : OsPath) (a : Args) : FileConfig → Prop
  | none (found : configFile? h root a = .ok none) : Loads h root a {}
  | file {p : OsPath} {bytes : Utf8.Bytes} {text : String} {file : FileConfig}
      (found : configFile? h root a = .ok (some p)) (read : h.tree.read h.cwd p = .ok bytes)
      (decoded : Utf8.decode? bytes = some text) (parsed : Toml.parseSettings text = .ok file) :
      Loads h root a file

inductive ConfigStops (h : Host) (root : OsPath) (a : Args) : Nat → Prop
  | missing {f : Failure} (fails : configFile? h root a = .error f) : ConfigStops h root a 1
  | unreadable {p : OsPath} {e : OsError} (found : configFile? h root a = .ok (some p))
      (read : h.tree.read h.cwd p = .error e) : ConfigStops h root a 2
  | notText {p : OsPath} {bytes : Utf8.Bytes} (found : configFile? h root a = .ok (some p))
      (read : h.tree.read h.cwd p = .ok bytes) (undecoded : Utf8.decode? bytes = none) :
      ConfigStops h root a 2
  | invalid {p : OsPath} {bytes : Utf8.Bytes} {text : String} {complaint : String}
      (found : configFile? h root a = .ok (some p)) (read : h.tree.read h.cwd p = .ok bytes)
      (decoded : Utf8.decode? bytes = some text) (parsed : Toml.parseSettings text = .error complaint) :
      ConfigStops h root a 1

theorem fileSettingsYields (h : Host) (root : OsPath) (a : Args) (m : Host) :
    (∃ file, Loads h root a file ∧ Yields (fileSettings h root a) m (.ok file) "" m) ∨
    (∃ t : Trouble, ConfigStops h root a t.code ∧ Yields (fileSettings h root a) m (.error t) "" m) := by
  have choose := Yields.context "Failed to resolve configuration path"
    (Yields.attempt (h.configPath? root (a.config.map OsPath.ofString) a.noConfig) m)
  have same : outcome (h.configPath? root (a.config.map OsPath.ofString) a.noConfig) [] =
    configFile? h root a := rfl
  rw [same] at choose
  unfold fileSettings
  cases found : configFile? h root a with
  | error f =>
    obtain ⟨s, rfl⟩ := configFileError found
    rw [found] at choose
    refine .inr ⟨_, ?_, Yields.bindError choose _⟩
    exact .missing found
  | ok path =>
    rw [found] at choose
    cases path with
    | none => exact .inl ⟨{}, .none found, Yields.seq choose (Yields.pure _ m)⟩
    | some p =>
      have load := Yields.context s!"Failed to load config from {p.display}" (Yields.attempt (h.loadFileConfig p) m)
      rw [outcomeLoadFileConfig] at load
      cases read : h.tree.read h.cwd p with
      | error e =>
        simp only [read] at load
        refine .inr ⟨_, ?_, Yields.seq choose load⟩
        exact .unreadable found read
      | ok bytes =>
        simp only [read] at load
        cases decoded : Utf8.decode? bytes with
        | none =>
          simp only [decoded] at load
          refine .inr ⟨_, ?_, Yields.seq choose load⟩
          exact .notText found read decoded
        | some text =>
          simp only [decoded] at load
          cases parsed : Toml.parseSettings text with
          | error complaint =>
            simp only [parsed] at load
            refine .inr ⟨_, ?_, Yields.seq choose load⟩
            exact .invalid found read decoded parsed
          | ok file =>
            simp only [parsed] at load
            exact .inl ⟨file, .file found read decoded parsed, Yields.seq choose load⟩


theorem outcomeLiftExcept {α} (x : Except Failure α) (j : Journal) : outcome (liftM x : Collecting α) j = x := by
  cases x <;> rfl

theorem projectRootError {h : Host} {given : Option String} {f : Failure}
    (fails : h.projectRoot? given = .error f) : ∃ p e, f = .rootDir p e := by
  unfold Host.projectRoot? Host.rootAt at fails
  dsimp only at fails
  split at fails
  · exact ⟨_, _, (Except.error.inj fails).symm⟩
  · split at fails
    · cases fails
    · exact ⟨_, _, (Except.error.inj fails).symm⟩

theorem mapErrorEqError {α ε ε'} {x : Except ε α} {g : ε → ε'} {e : ε'} (fails : x.mapError g = .error e) :
    ∃ e', e = g e' := by
  cases x with
  | error e' => exact ⟨e', (Except.error.inj fails).symm⟩
  | ok a => cases fails

theorem runBindErrorCases {ε σ α β} {x : ExceptT ε (StateM σ) α} {g : α → ExceptT ε (StateM σ) β} {s s' : σ}
    {e : ε} (fails : (x >>= g).run.run s = (.error e, s')) :
    x.run.run s = (.error e, s') ∨ ∃ a s₁, x.run.run s = (.ok a, s₁) ∧ (g a).run.run s₁ = (.error e, s') := by
  simp only [ExceptT.run_bind, StateT.run_bind] at fails
  rcases ran : x.run.run s with ⟨_ | a, s₁⟩
  · rw [ran] at fails
    -- the second step never ran: the failure and the state are the first step's
    have same : (Except.error _, s₁) = ((Except.error e, s') : Except ε β × σ) := fails
    simp only [Prod.mk.injEq, Except.error.injEq] at same
    rw [same.1, same.2]
    exact .inl rfl
  · rw [ran] at fails
    exact .inr ⟨a, s₁, rfl, fails⟩

theorem makeParentsError {path : OsPath} {h h' : Host} {f : Failure}
    (fails : (makeParents path).run.run h = (.error f, h')) : ∃ p e, f = .fileWrite p e := by
  unfold makeParents at fails
  split at fails
  · rename_i parent _
    obtain ⟨e, rfl⟩ := mapErrorEqError (congrArg Prod.fst fails)
    exact ⟨parent, e, rfl⟩
  · cases fails

theorem writeTextError {path : OsPath} {text : String} {h h' : Host} {f : Failure}
    (fails : (writeText path text).run.run h = (.error f, h')) : ∃ e, f = .fileWrite path e := by
  cases written : h.tree.writeFile h.cwd path (Utf8.encode text) with
  | ok t =>
    simp only [writeText, ExceptT.run_mk, StateT.run, written] at fails
    cases fails
  | error e =>
    simp only [writeText, ExceptT.run_mk, StateT.run, written] at fails
    exact ⟨e, (Except.error.inj (congrArg Prod.fst fails)).symm⟩

theorem saveTextError {path : OsPath} {text : String} {h h' : Host} {f : Failure}
    (fails : (saveText path text).run.run h = (.error f, h')) : ∃ p e, f = .fileWrite p e := by
  rcases runBindErrorCases fails with made | ⟨_, h₁, -, wrote⟩
  · exact makeParentsError made
  · obtain ⟨e, rfl⟩ := writeTextError wrote
    exact ⟨path, e, rfl⟩

theorem gatherError {h : Host} {root : OsPath} {c : CollectConfig} {j : Journal} {f : Failure}
    (fails : outcome (gather h root c) j = .error f) : (∃ e, f = .rootDir root e) ∨ f.perFile = true := by
  cases atRoot : rootFailure h root with
  | some f' =>
    rw [outcomeGatherRootFailure h c root atRoot, Except.error.injEq] at fails
    subst fails
    exact .inl (rootFailureRootDir atRoot)
  | none =>
    obtain ⟨loc, -, run⟩ := outcomeGatherWalk h c root atRoot
    rw [run, mapEqError, ← List.foldlM_map] at fails
    cases policy : c.policy with
    | skip =>
      obtain ⟨g, ok, -⟩ := foldlMSettleSkip h c root policy _ {}
      rw [ok] at fails
      cases fails
    | abort =>
      obtain ⟨e, -, failed⟩ := List.exists_of_findSome?_eq_some
        ((foldlMSettleAbort h c root policy f _ {}).mp fails)
      exact .inr (WalkEntry.failurePerFile failed)

theorem toJsonEndsWith (b : Bundle) (style : Json.Style) : (b.toJson style).endsWith "\n" = true := by
  rw [Bundle.toJson, String.endsWith_eq_endsWith_toSlice, String.Slice.endsWith_string_iff]
  simp

def Delivers (h : Host) (a : Args) (text : String) (h' : Host) (out : String) : Prop :=
  match a.output with
  | none => out = text ∧ h' = h
  | some path => out = "" ∧ (saveText (OsPath.ofString path) text).run.run h = (.ok (), h')

theorem deliverYields (h : Host) (a : Args) {text : String} (ends : text.endsWith "\n" = true) :
    (∃ h' out, Delivers h a text h' out ∧ Yields (deliver a text) h (.ok ()) out h') ∨
    (∃ path f h', a.output = some path ∧ (saveText (OsPath.ofString path) text).run.run h = (.error f, h') ∧
      Yields (deliver a text) h (.error ⟨[], f⟩) "" h') := by
  unfold deliver Delivers
  cases given : a.output with
  | none =>
    refine .inl ⟨h, text, ⟨rfl, rfl⟩, Yields.congrOut ?_ (Yields.emit _ h)⟩
    simp [ends]
  | some path =>
    dsimp only
    have saving := Yields.onMachine (saveText (OsPath.ofString path) text) h
    rcases saved : (saveText (OsPath.ofString path) text).run.run h with ⟨_ | _, h'⟩
    · rw [saved] at saving
      exact .inr ⟨path, _, h', rfl, saved, Yields.bindError saving _⟩
    · rw [saved] at saving
      refine .inl ⟨h', "", ⟨rfl, rfl⟩, Yields.seq saving (Yields.seq (Yields.note _ _ _ h') ?_)⟩
      split
      · exact Yields.emit (.stderr _) h'
      · exact Yields.pure () h'

inductive Stops (h : Host) (a : Args) : Nat → Host → Prop
  | root {f : Failure} (fails : h.projectRoot? a.root = .error f) : Stops h a 2 h
  | config {root : OsPath} {code : Nat} (found : h.projectRoot? a.root = .ok root)
      (stops : ConfigStops h root a code) : Stops h a code h
  | collect {root : OsPath} {file : FileConfig} {c : CollectConfig} {style : Json.Style} {f : Failure}
      (found : h.projectRoot? a.root = .ok root) (loads : Loads h root a file) (layered : Layered a file c style)
      (fails : outcome (gather h root c) [] = .error f) : Stops h a 2 h
  | save {root : OsPath} {file : FileConfig} {c : CollectConfig} {style : Json.Style} {b : Bundle}
      {path : String} {f : Failure} {h' : Host} (found : h.projectRoot? a.root = .ok root)
      (loads : Loads h root a file) (layered : Layered a file c style)
      (collected : outcome (gather h root c) [] = .ok b) (given : a.output = some path)
      (fails : (saveText (OsPath.ofString path) (b.toJson style)).run.run h = (.error f, h')) :
      Stops h a 2 h'

theorem codeOfGatherError {root : OsPath} {f : Failure} (cs : List String)
    (kind : (∃ e, f = .rootDir root e) ∨ f.perFile = true) : (⟨cs, f⟩ : Trouble).code = 2 := by
  rcases kind with ⟨e, rfl⟩ | perFile
  · rfl
  · cases f <;> simp_all [Trouble.code, Failure.perFile]

theorem packYields (h : Host) (a : Args) :
    (∃ root file c style b h' out, h.projectRoot? a.root = .ok root ∧ Loads h root a file ∧
      Layered a file c style ∧ outcome (gather h root c) [] = .ok b ∧ Delivers h a (b.toJson style) h' out ∧
      Yields (pack a) h (.ok ()) out h') ∨
    (∃ (t : Trouble) (h' : Host), Stops h a t.code h' ∧ Yields (pack a) h (.error t) "" h') := by
  unfold pack
  have rooted := Yields.context "Failed to determine project root"
    (Yields.attempt (liftM (h.projectRoot? a.root) : Collecting OsPath) h)
  -- the root is looked up on the machine the run starts on; only the step's result is rewritten
  cases found : h.projectRoot? a.root with
  | error f =>
    obtain ⟨p, e, rfl⟩ := projectRootError found
    rw [(outcomeLiftExcept _ []).trans found] at rooted
    refine .inr ⟨_, h, ?_, Yields.seq (Yields.machine h) (Yields.bindError rooted _)⟩
    exact .root found
  | ok root =>
    rw [(outcomeLiftExcept _ []).trans found] at rooted
    rcases fileSettingsYields h root a h with ⟨file, loads, read⟩ | ⟨t, stops, read⟩
    · obtain ⟨c, style, layered, laid⟩ := overlayYields a file h
      have set : Yields (settings h root a) h (.ok (c, style)) "" h := Yields.seq read laid
      have collecting := Yields.context s!"Failed to collect sources under {root.display}"
        (Yields.attempt (gather h root c) h)
      cases collected : outcome (gather h root c) [] with
      | error f =>
        rw [collected] at collecting
        refine .inr ⟨_, h, ?_, Yields.seq (Yields.machine h) (Yields.seq rooted
          (Yields.seq (Yields.note _ _ _ h) (Yields.seq (Yields.context _ set) (Yields.bindError collecting _))))⟩
        rw [codeOfGatherError _ (gatherError collected)]
        exact .collect found loads layered collected
      | ok b =>
        rw [collected] at collecting
        rcases deliverYields h a (toJsonEndsWith b style) with ⟨h', out, delivers, wrote⟩ |
          ⟨path, f, h', given, fails, wrote⟩
        · exact .inl ⟨root, file, c, style, b, h', out, rfl, loads, layered, collected, delivers,
            Yields.seq (Yields.machine h) (Yields.seq rooted (Yields.seq (Yields.note _ _ _ h)
              (Yields.seq (Yields.context _ set) (Yields.seq collecting wrote))))⟩
        · refine .inr ⟨_, h', ?_, Yields.seq (Yields.machine h) (Yields.seq rooted (Yields.seq (Yields.note _ _ _ h)
            (Yields.seq (Yields.context _ set) (Yields.seq collecting wrote))))⟩
          obtain ⟨p, e, rfl⟩ := saveTextError fails
          exact .save found loads layered collected given fails
    · refine .inr ⟨_, h, ?_, Yields.seq (Yields.machine h) (Yields.seq rooted
        (Yields.seq (Yields.note _ _ _ h) (Yields.bindError (Yields.context _ (Yields.bindError read _)) _)))⟩
      exact .config found stops

theorem runSessionOk {h h' : Host} {words : List String} {a : Args} {w : List Event}
    (parsed : parse words = .run a) (ran : (session a).run.run ⟨[], h⟩ = (.ok (), ⟨w, h'⟩)) :
    (run h words).code = 0 ∧ (run h words).stdout = stdoutOf w ∧ (run h words).host = h' := by
  simp only [run, parsed, ran, true_and, and_true]
  show stdoutOf (w ++ [_] ++ [_]) = stdoutOf w
  simp

theorem runSessionError {h h' : Host} {words : List String} {a : Args} {t : Trouble} {w : List Event}
    (parsed : parse words = .run a) (ran : (session a).run.run ⟨[], h⟩ = (.error t, ⟨w, h'⟩)) :
    (run h words).code = t.code ∧ (run h words).stdout = stdoutOf w ∧ (run h words).host = h' := by
  simp only [run, parsed, ran, true_and, and_true]
  show stdoutOf (w ++ [_] ++ [_]) = stdoutOf w
  simp

section Unique
variable {h : Host} {root : OsPath} {a : Args}

theorem Loads.unique {file file' : FileConfig} (l : Loads h root a file) (l' : Loads h root a file') :
    file = file' := by
  cases l <;> cases l' <;> simp_all

theorem ConfigStops.unique {n m : Nat} (s : ConfigStops h root a n) (s' : ConfigStops h root a m) : n = m := by
  cases s <;> cases s' <;> simp_all

theorem Loads.notConfigStops {file : FileConfig} {n : Nat} (l : Loads h root a file)
    (s : ConfigStops h root a n) : False := by
  cases l <;> cases s <;> simp_all

theorem Layered.unique {file : FileConfig} {c c' : CollectConfig} {style style' : Json.Style}
    (l : Layered a file c style) (l' : Layered a file c' style') : c = c' ∧ style = style' := by
  have excluded : c'.excluded = c.excluded := (l.excludes.excludedEqIff l'.excludes).mpr fun _ => Iff.rfl
  obtain ⟨inv, manifest, policy, escape⟩ := l
  obtain ⟨inv', manifest', policy', escape'⟩ := l'
  constructor
  · cases c
    cases c'
    simp only [CollectConfig.mk.injEq]
    exact ⟨manifest.trans manifest'.symm, excluded.symm, inv.extensions.trans inv'.extensions.symm,
      inv.fileNames.trans inv'.fileNames.symm, policy.trans policy'.symm⟩
  · cases style
    cases style'
    simp only [Json.Style.mk.injEq]
    exact escape.trans escape'.symm

theorem Stops.unique {n n' : Nat} {m m' : Host} (s : Stops h a n m) (s' : Stops h a n' m') : n = n' ∧ m = m' := by
  cases s with
  | root fails => cases s' <;> simp_all
  | config found stops =>
    cases s' with
    | config found' stops' =>
      obtain rfl := Except.ok.inj (found.symm.trans found')
      exact ⟨stops.unique stops', rfl⟩
    | root fails => simp_all
    | collect found' loads =>
      obtain rfl := Except.ok.inj (found.symm.trans found')
      exact (loads.notConfigStops stops).elim
    | save found' loads =>
      obtain rfl := Except.ok.inj (found.symm.trans found')
      exact (loads.notConfigStops stops).elim
  | collect found loads layered fails =>
    cases s' with
    | root fails' => simp_all
    | config found' stops' =>
      obtain rfl := Except.ok.inj (found.symm.trans found')
      exact (loads.notConfigStops stops').elim
    | collect => exact ⟨rfl, rfl⟩
    | save found' loads' layered' collected =>
      obtain rfl := Except.ok.inj (found.symm.trans found')
      obtain rfl := loads.unique loads'
      obtain ⟨rfl, rfl⟩ := layered.unique layered'
      simp_all
  | save found loads layered collected given fails =>
    cases s' with
    | root fails' => simp_all
    | config found' stops' =>
      obtain rfl := Except.ok.inj (found.symm.trans found')
      exact (loads.notConfigStops stops').elim
    | collect found' loads' layered' fails' =>
      obtain rfl := Except.ok.inj (found.symm.trans found')
      obtain rfl := loads.unique loads'
      obtain ⟨rfl, rfl⟩ := layered.unique layered'
      simp_all
    | save found' loads' layered' collected' given' fails' =>
      -- the same document goes to the same file, so the failed save leaves the same machine
      obtain rfl := Except.ok.inj (found.symm.trans found')
      obtain rfl := loads.unique loads'
      obtain ⟨rfl, rfl⟩ := layered.unique layered'
      obtain rfl := Except.ok.inj (collected.symm.trans collected')
      obtain rfl := Option.some.inj (given.symm.trans given')
      exact ⟨rfl, (Prod.mk.inj (fails.symm.trans fails')).2⟩

end Unique

theorem sessionOfPack {h h' : Host} {a : Args} {r : Except Trouble Unit} {out : String}
    (packing : a.completion = none) (ran : Yields (pack a) h r out h') : Yields (session a) h r out h' := by
  unfold session
  rw [packing]
  exact Yields.seq (Yields.note _ _ _ h) (Yields.seq (Yields.note _ _ _ h) (Yields.seq (Yields.note _ _ _ h) ran))

/-- A packing run either succeeds with exit code 0, having gathered the sources under the project
root with the rules laid from the configuration file and the command line, and written the document
once, to the output stream or to the file given with `-o`; or it stops with the exit code of the step
where it stops, writing nothing on the output stream and leaving the machine as that step leaves it. -/
theorem runExitCodes (h : Host) (words : List String) (a : Args) (parsed : parse words = .run a)
    (packing : a.completion = none) :
    (∃ root file c style b, h.projectRoot? a.root = .ok root ∧ Loads h root a file ∧ Layered a file c style ∧
      outcome (gather h root c) [] = .ok b ∧ (run h words).code = 0 ∧
      Delivers h a (b.toJson style) (run h words).host (run h words).stdout) ∨
    (Stops h a (run h words).code (run h words).host ∧ (run h words).stdout = "") := by
  rcases packYields h a with ⟨root, file, c, style, b, h', out, found, loads, layered, collected, delivers, ran⟩ |
    ⟨t, h', stops, ran⟩
  · obtain ⟨w, said, session⟩ := sessionOfPack packing ran []
    obtain ⟨code, stdout, host⟩ := runSessionOk parsed session
    rw [List.nil_append] at stdout
    rw [← said, ← stdout, ← host] at delivers
    exact .inl ⟨root, file, c, style, b, found, loads, layered, collected, code, delivers⟩
  · obtain ⟨w, said, session⟩ := sessionOfPack packing ran []
    obtain ⟨code, stdout, host⟩ := runSessionError parsed session
    rw [List.nil_append] at stdout
    rw [code, host]
    exact .inr ⟨stops, stdout.trans said⟩

section Witness

def badConfigHost : Host :=
  ⟨⟨[([[115, 114, 99, 112, 97, 99, 107, 46, 116, 111, 109, 108]], .file [255]),
    ([[97, 46, 114, 115]], .file [120])]⟩, [], none, none⟩

def badConfigPath : OsPath := ⟨[47, 115, 114, 99, 112, 97, 99, 107, 46, 116, 111, 109, 108]⟩

theorem projectRootBadConfigHost : badConfigHost.projectRoot? none = .ok ⟨[47]⟩ := by
  simp [badConfigHost, Host.projectRoot?, Host.rootAt, Host.cwdPath, Tree.canonicalize, Tree.walk, Tree.steps,
    OsPath.segments, OsPath.slash, Tree.startOf, OsPath.isAbsolute, linkLimit, Tree.isDir, Tree.stat,
    Tree.lookup, Tree.locate, pathLimit, Except.map, Tree.pathOf, OsPath.joinSegments]
  rfl

theorem configFileBadConfigHost : configFile? badConfigHost ⟨[47]⟩ {} = .ok (some badConfigPath) := by
  have joined : (⟨[47]⟩ : OsPath).join (OsPath.ofString configFileName) = badConfigPath := by decide
  have found : badConfigHost.tree.isFile badConfigHost.cwd badConfigPath = true := by
    simp [badConfigHost, badConfigPath, Tree.isFile, Tree.stat, Tree.lookup, Tree.locate, Tree.walk, Tree.steps,
      OsPath.segments, OsPath.slash, Tree.startOf, OsPath.isAbsolute, linkLimit, pathLimit, nameLimit,
      Tree.get?, Except.map]
  simp only [configFile?, Host.configPath?, joined, found]
  rfl

theorem readBadConfigPath : badConfigHost.tree.read badConfigHost.cwd badConfigPath = .ok [255] := by
  simp [badConfigHost, badConfigPath, Tree.read, Tree.stat, Tree.lookup, Tree.locate, Tree.walk, Tree.steps,
      Tree.get?, OsPath.segments, OsPath.slash, Tree.startOf, OsPath.isAbsolute, Except.map,
      pathLimit, linkLimit, nameLimit]

theorem decodeFf : Utf8.decode? [255] = none := by
  simp +decide [Utf8.decode?, Utf8.pieces, Utf8.front, Utf8.Piece.allChars]

theorem nonUtf8ConfigExitsWithTwo :
    parse [] = .run {} ∧ (run badConfigHost []).code = 2 ∧ (run badConfigHost []).stdout = "" := by
  have parsed : parse [] = .run {} := by decide
  have stops : Stops badConfigHost {} 2 badConfigHost := .config projectRootBadConfigHost
    (.notText configFileBadConfigHost readBadConfigPath decodeFf)
  rcases runExitCodes badConfigHost [] {} parsed rfl with
    ⟨root, file, -, -, -, found, loads, -⟩ | ⟨stopped, stdout⟩
  · obtain rfl := Except.ok.inj (projectRootBadConfigHost.symm.trans found)
    exact (loads.notConfigStops (.notText configFileBadConfigHost readBadConfigPath decodeFf)).elim
  · exact ⟨parsed, (stopped.unique stops).1, stdout⟩

end Witness

end SourceBundle.Cli
