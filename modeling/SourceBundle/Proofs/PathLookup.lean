import Mathlib
import SourceBundle.Host.Resolve
/-! Looking up longer paths. A path that names nothing cannot be made to name something by adding
proper names to it: whatever stopped its walk stops the walk of the longer path at the same place
(`lookupJoinAllFails`). And the entry a path names when its last link is not followed is the
entry it names when links are followed, unless that entry is a link (`walkFollow`). Repeated
separators make empty segments, which a walk passes over, but they count towards the length of
the path, which is checked before any walk (`locateLong`). -/
namespace SourceBundle
open Utf8 (Bytes)

namespace OsPath

def IsName (n : Bytes) : Prop := n ≠ [] ∧ slash ∉ n

def Plain (p : OsPath) : Prop := p.bytes ≠ [] ∧ p.bytes.getLast? ≠ some slash

def joinAll (p : OsPath) (names : List Bytes) : OsPath := names.foldl (fun q n => q.join ⟨n⟩) p

theorem segmentsNeNil : ∀ b : Bytes, segments b ≠ []
  | [] => by simp [segments]
  | b :: rest => by
    simp only [segments]
    split
    · simp
    · split <;> simp

theorem segmentsAppendSlash (a b : Bytes) : segments (a ++ slash :: b) = segments a ++ segments b := by
  induction a with
  | nil => simp [segments]
  | cons x a ih =>
    obtain ⟨s, ss, hs⟩ := List.exists_cons_of_ne_nil (segmentsNeNil a)
    by_cases hx : x = slash
    · simp [segments, hx, ih]
    · simp [segments, hx, ih, hs]

theorem segmentsName {n : Bytes} (h : slash ∉ n) : segments n = [n] := by
  induction n with
  | nil => rfl
  | cons x n ih =>
    simp only [List.mem_cons, not_or] at h
    simp [segments, Ne.symm h.1, ih h.2]

theorem segmentsReplicateSlash (n : Nat) : segments (List.replicate n slash) = List.replicate (n + 1) [] := by
  induction n with
  | zero => rfl
  | succ n ih => simp [-List.reduceReplicate, List.replicate_succ, segments, ih]

theorem segmentsConsReplicate {b : UInt8} (hb : b ≠ slash) (n : Nat) :
    segments (b :: List.replicate n slash) = [b] :: List.replicate n [] := by
  rw [segments, if_neg hb, segmentsReplicateSlash, List.replicate_succ]

theorem joinName {p : OsPath} {n : Bytes} (hp : p.Plain) (hn : IsName n) :
    p.join ⟨n⟩ = ⟨p.bytes ++ slash :: n⟩ := by
  obtain ⟨x, rest, rfl⟩ := List.exists_cons_of_ne_nil hn.1
  have hx : x ≠ slash := fun e => hn.2 (e ▸ List.mem_cons_self)
  simp [join, isAbsolute, hx, hp.1, hp.2]

theorem plainJoin (p : OsPath) {n : Bytes} (hn : IsName n) : (p.join ⟨n⟩).Plain := by
  obtain ⟨x, rest, rfl⟩ := List.exists_cons_of_ne_nil hn.1
  have hx : x ≠ slash := fun e => hn.2 (e ▸ List.mem_cons_self)
  have last : (x :: rest).getLast? ≠ some slash := by
    intro e
    exact hn.2 (List.mem_of_getLast? e)
  unfold join isAbsolute
  split_ifs <;> simp_all [Plain, List.getLast?_append]

theorem isAbsoluteJoin {p : OsPath} {n : Bytes} (hn : IsName n) :
    (p.join ⟨n⟩).isAbsolute = p.isAbsolute := by
  obtain ⟨x, rest, rfl⟩ := List.exists_cons_of_ne_nil hn.1
  have hx : x ≠ slash := fun e => hn.2 (e ▸ List.mem_cons_self)
  unfold join isAbsolute
  rcases p with ⟨_ | ⟨b, bytes⟩⟩
  · simp [hx]
  · split_ifs <;> simp_all

end OsPath

namespace Tree

variable {t : Tree} {follow byName : Bool}

theorem stepsJoin {p : OsPath} {n : Bytes} (hp : p.Plain) (hn : OsPath.IsName n) :
    steps (p.join ⟨n⟩) = steps p ++ [n] := by
  simp [steps, OsPath.joinName hp hn, OsPath.segmentsAppendSlash, OsPath.segmentsName hn.2]

theorem walkAppend (links : Nat) (loc : Location) (segs more : List Bytes)
    (stops : ∀ l n, t.walk follow byName links loc segs ≠ .ok (.entry l n)) :
    ∀ l n, t.walk follow byName links loc (segs ++ more) ≠ .ok (.entry l n) := by
  induction links, loc, segs using Tree.walk.induct t follow byName with
  | case1 links loc => simp [walk] at stops
  | case2 links loc s rest skip ih =>
    rw [walk] at stops
    rw [List.cons_append, walk]
    simp only [skip, if_true] at stops ⊢
    exact ih stops
  | case3 links loc rest notSkip ih =>
    rw [walk] at stops
    rw [List.cons_append, walk]
    simp only [notSkip, if_false, if_true] at stops ⊢
    exact ih stops
  | case4 links loc s rest notSkip notUp long =>
    rw [List.cons_append, walk]
    simp [notSkip, notUp, long]
  | case5 links loc s rest notSkip notUp fits tooFar =>
    rw [List.cons_append, walk]
    simp [notSkip, notUp, fits, tooFar]
  | case6 links loc s rest notSkip notUp fits near child missing =>
    have none' : t.get? (loc ++ [s]) = none := missing
    rw [List.cons_append, walk]
    simp only [notSkip, notUp, fits, near, none', if_false]
    split <;> simp
  | case7 links loc s rest notSkip notUp fits near child missing notEmpty =>
    have none' : t.get? (loc ++ [s]) = none := missing
    rw [List.cons_append, walk]
    simp only [notSkip, notUp, fits, near, none', if_false, List.all_append, notEmpty,
      Bool.false_and]
    simp
  | case8 links loc s rest notSkip notUp fits near child isDir ih =>
    have dir' : t.get? (loc ++ [s]) = some .dir := isDir
    rw [walk] at stops
    rw [List.cons_append, walk]
    simp only [notSkip, notUp, fits, near, dir', if_false] at stops ⊢
    exact ih stops
  | case9 links loc s rest notSkip notUp fits near child target isLink stop =>
    have link' : t.get? (loc ++ [s]) = some (.link target) := isLink
    rw [walk] at stops
    simp only [notSkip, notUp, fits, near, link', if_false, if_pos stop] at stops
    exact absurd rfl (stops _ _)
  | case10 loc s rest notSkip notUp fits near child target isLink goOn =>
    have link' : t.get? (loc ++ [s]) = some (.link target) := isLink
    have goOn' : ¬((rest ++ more).isEmpty = true ∧ (!follow) = true) :=
      fun h => goOn ⟨by simp_all, h.2⟩
    rw [List.cons_append, walk]
    simp only [notSkip, notUp, fits, near, link', if_false, if_neg goOn']
    simp
  | case11 loc s rest notSkip notUp fits near child target isLink goOn links start ih =>
    have link' : t.get? (loc ++ [s]) = some (.link target) := isLink
    have goOn' : ¬((rest ++ more).isEmpty = true ∧ (!follow) = true) :=
      fun h => goOn ⟨by simp_all, h.2⟩
    rw [walk] at stops
    rw [List.cons_append, walk]
    simp only [notSkip, notUp, fits, near, link', if_false, if_neg goOn, if_neg goOn'] at stops ⊢
    rw [← List.append_assoc]
    exact ih stops
  | case12 links loc s rest notSkip notUp fits near child n notDir notLink found isEmpty =>
    have found' : t.get? (loc ++ [s]) = some n := found
    rw [walk] at stops
    simp only [notSkip, notUp, fits, near, found', if_false] at stops
    split at stops <;> simp_all
  | case13 links loc s rest notSkip notUp fits near child n notDir notLink found notEmpty =>
    have found' : t.get? (loc ++ [s]) = some n := found
    have notEmpty' : (rest ++ more).isEmpty = false := by simp_all
    rw [List.cons_append, walk]
    simp only [notSkip, notUp, fits, near, found', if_false]
    split <;> simp_all

theorem walkFollow (links : Nat) (loc : Location) (segs : List Bytes) {l : Location} {n : Node}
    (ends : t.walk false byName links loc segs = .ok (.entry l n))
    (notLink : ∀ target, n ≠ .link target) : t.walk true byName links loc segs = .ok (.entry l n) := by
  induction links, loc, segs using Tree.walk.induct t false byName with
  | case1 links loc => simpa [walk] using ends
  | case2 links loc s rest skip ih =>
    rw [walk] at ends ⊢
    simp only [skip, if_true] at ends ⊢
    exact ih ends
  | case3 links loc rest notSkip ih =>
    rw [walk] at ends ⊢
    simp only [notSkip, if_false, if_true] at ends ⊢
    exact ih ends
  | case4 links loc s rest notSkip notUp long =>
    rw [walk] at ends
    simp [notSkip, notUp, long] at ends
  | case5 links loc s rest notSkip notUp fits tooFar =>
    rw [walk] at ends
    simp [notSkip, notUp, fits, tooFar] at ends
  | case6 links loc s rest notSkip notUp fits near child missing =>
    have none' : t.get? (loc ++ [s]) = none := missing
    rw [walk] at ends
    simp only [notSkip, notUp, fits, near, none', if_false] at ends
    split at ends <;> simp at ends
  | case7 links loc s rest notSkip notUp fits near child missing notEmpty =>
    have none' : t.get? (loc ++ [s]) = none := missing
    rw [walk] at ends
    simp only [notSkip, notUp, fits, near, none', if_false, if_neg notEmpty] at ends
    simp at ends
  | case8 links loc s rest notSkip notUp fits near child isDir ih =>
    have dir' : t.get? (loc ++ [s]) = some .dir := isDir
    rw [walk] at ends ⊢
    simp only [notSkip, notUp, fits, near, dir', if_false] at ends ⊢
    exact ih ends
  | case9 links loc s rest notSkip notUp fits near child target isLink stop =>
    have link' : t.get? (loc ++ [s]) = some (.link target) := isLink
    rw [walk] at ends
    simp only [notSkip, notUp, fits, near, link', if_false, if_pos stop, Except.ok.injEq,
      Found.entry.injEq] at ends
    exact absurd ends.2.symm (notLink target)
  | case10 loc s rest notSkip notUp fits near child target isLink goOn =>
    have link' : t.get? (loc ++ [s]) = some (.link target) := isLink
    rw [walk] at ends
    simp only [notSkip, notUp, fits, near, link', if_false, if_neg goOn] at ends
    simp at ends
  | case11 loc s rest notSkip notUp fits near child target isLink goOn links start ih =>
    have link' : t.get? (loc ++ [s]) = some (.link target) := isLink
    rw [walk] at ends ⊢
    simp only [notSkip, notUp, fits, near, link', if_false, if_neg goOn, Bool.not_true,
      Bool.false_eq_true, and_false] at ends ⊢
    exact ih ends
  | case12 links loc s rest notSkip notUp fits near child m notDir notLink' found isEmpty =>
    have found' : t.get? (loc ++ [s]) = some m := found
    rw [walk] at ends ⊢
    simp only [notSkip, notUp, fits, near, found', if_false] at ends ⊢
    split at ends <;> simp_all
  | case13 links loc s rest notSkip notUp fits near child m notDir notLink' found notEmpty =>
    have found' : t.get? (loc ++ [s]) = some m := found
    rw [walk] at ends
    simp only [notSkip, notUp, fits, near, found', if_false] at ends
    split at ends <;> simp_all

theorem walkEmptySegments (links : Nat) (loc : Location) (n : Nat) :
    t.walk follow byName links loc (List.replicate n []) = .ok (.entry loc .dir) := by
  induction n with
  | zero => rw [List.replicate_zero, walk]
  | succ n ih => rw [List.replicate_succ, walk, if_pos (Or.inl rfl), ih]

theorem walkIntoDir {links : Nat} {loc : Location} {s : Bytes} {rest : List Bytes}
    (plain : s ≠ [] ∧ s ≠ [OsPath.dot] ∧ s ≠ [OsPath.dot, OsPath.dot]) (fits : s.length ≤ nameLimit)
    (isDir : t.get? (loc ++ [s]) = some .dir) :
    t.walk follow false links loc (s :: rest) = t.walk follow false links (loc ++ [s]) rest := by
  rw [walk, if_neg (by simp [plain.1, plain.2.1]), if_neg plain.2.2, if_neg (Nat.not_lt.mpr fits)]
  simp [isDir]

theorem locateShort {cwd : Location} {p : OsPath} (noNul : 0 ∉ p.bytes) (ne : p.bytes ≠ [])
    (short : p.bytes.length < pathLimit) :
    t.locate cwd p follow = t.walk follow false linkLimit (startOf cwd p) (steps p) := by
  simp [locate, noNul, ne, Nat.not_le.mpr short]

theorem locateLong {cwd : Location} {p : OsPath} (noNul : 0 ∉ p.bytes) (long : pathLimit ≤ p.bytes.length) :
    t.locate cwd p follow = .error .nameTooLong := by
  have ne : p.bytes ≠ [] := by
    intro e
    simp [e, pathLimit] at long
  simp [locate, noNul, ne, long]

theorem lookupEqOk {cwd : Location} {p : OsPath} {follow : Bool} {l : Location} {n : Node} :
    t.lookup cwd p follow = .ok (l, n) ↔ t.locate cwd p follow = .ok (.entry l n) := by
  unfold lookup
  split <;> simp_all

theorem lookupFollow {cwd : Location} {p : OsPath} {l : Location} {n : Node}
    (found : t.lookup cwd p false = .ok (l, n)) (notLink : ∀ target, n ≠ .link target) :
    t.lookup cwd p true = .ok (l, n) := by
  rw [lookupEqOk] at found ⊢
  unfold locate at found ⊢
  split_ifs at found ⊢
  exact walkFollow _ _ _ found notLink

theorem lookupJoinFails {cwd : Location} {p : OsPath} {n : Bytes} (hp : p.Plain)
    (hn : OsPath.IsName n) (fails : ∀ x, t.lookup cwd p true ≠ .ok x) :
    ∀ x, t.lookup cwd (p.join ⟨n⟩) true ≠ .ok x := by
  rintro ⟨l, m⟩ found
  rw [lookupEqOk] at found
  have start : startOf cwd (p.join ⟨n⟩) = startOf cwd p := by
    simp [startOf, OsPath.isAbsoluteJoin hn]
  simp only [locate] at found
  rw [stepsJoin hp hn, start, OsPath.joinName hp hn] at found
  split_ifs at found with nul empty long
  simp only [List.contains_append, Bool.or_eq_true, not_or] at nul
  simp only [List.length_append] at long
  have walked : t.locate cwd p true = t.walk true false linkLimit (startOf cwd p) (steps p) := by
    simp only [locate, if_neg nul.1, if_neg hp.1]
    rw [if_neg (by omega)]
  have stops : ∀ l m, t.walk true false linkLimit (startOf cwd p) (steps p) ≠ .ok (.entry l m) :=
    fun l m e => fails (l, m) (lookupEqOk.mpr (walked.trans e))
  exact walkAppend _ _ _ [n] stops l m found

theorem lookupJoinAllFails {cwd : Location} : ∀ {p : OsPath} {names : List Bytes}, p.Plain →
    (∀ n ∈ names, OsPath.IsName n) → (∀ x, t.lookup cwd p true ≠ .ok x) →
    ∀ x, t.lookup cwd (p.joinAll names) true ≠ .ok x
  | _, [], _, _, fails => fails
  | p, n :: names, hp, hn, fails =>
    lookupJoinAllFails (p := p.join ⟨n⟩) (OsPath.plainJoin p (hn n (by simp)))
      (fun m hm => hn m (by simp [hm])) (lookupJoinFails hp (hn n (by simp)) fails)

theorem readOfLookupFails {cwd : Location} {p : OsPath} (fails : ∀ x, t.lookup cwd p true ≠ .ok x) :
    (∃ e, t.read cwd p = .error e) ∧ t.isDir cwd p = false := by
  cases h : t.lookup cwd p true with
  | ok x => exact absurd h (fails x)
  | error e => simp [read, isDir, stat, h, Except.map]

end Tree

end SourceBundle
