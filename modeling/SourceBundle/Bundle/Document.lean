import SourceBundle.Json.Format
/-! A bundle: the text of every collected file under its key, and the manifest path. Keys are
kept sorted (by code point, which is UTF-8 byte order) and unique, a later insertion under a key
replacing the earlier text. As JSON a bundle is the object `{"contracts": …, "manifest-path": …}`
in the indented layout, followed by a line break. -/
namespace SourceBundle

namespace Contracts

def insertPair (k v : String) : List (String × String) → List (String × String)
  | [] => [(k, v)]
  | (k', v') :: rest =>
    if k < k' then (k, v) :: (k', v') :: rest
    else if k = k' then (k, v) :: rest
    else (k', v') :: insertPair k v rest

theorem memInsertPair {k v : String} :
    ∀ {m : List (String × String)} {kv : String × String}, kv ∈ insertPair k v m → kv = (k, v) ∨ kv ∈ m
  | [], _, mem => by simp_all [insertPair]
  | (k', v') :: rest, kv, mem => by
    unfold insertPair at mem
    by_cases before : k < k'
    · rw [if_pos before] at mem
      exact (List.mem_cons.mp mem).imp id id
    · rw [if_neg before] at mem
      by_cases same : k = k'
      · rw [if_pos same] at mem
        exact (List.mem_cons.mp mem).imp id (List.mem_cons_of_mem _)
      · rw [if_neg same] at mem
        rcases List.mem_cons.mp mem with rfl | later
        · exact .inr List.mem_cons_self
        · exact (memInsertPair later).imp id (List.mem_cons_of_mem _)

theorem insertPairSorted (k v : String) :
    ∀ {m : List (String × String)}, m.Pairwise (fun p q => p.1 < q.1) →
      (insertPair k v m).Pairwise (fun p q => p.1 < q.1)
  | [], _ => by simp [insertPair]
  | (k', v') :: rest, sorted => by
    rw [List.pairwise_cons] at sorted
    unfold insertPair
    by_cases before : k < k'
    · rw [if_pos before]
      refine List.Pairwise.cons (fun q mem => ?_) (List.Pairwise.cons sorted.1 sorted.2)
      rcases List.mem_cons.mp mem with rfl | later
      · exact before
      · exact String.lt_trans before (sorted.1 q later)
    · rw [if_neg before]
      by_cases same : k = k'
      · rw [if_pos same]
        subst same
        exact List.Pairwise.cons sorted.1 sorted.2
      · rw [if_neg same]
        -- the new key is above `k'`, so `k'` stays in front
        have above : k' < k := Std.lt_of_le_of_ne (String.not_lt.mp before) (Ne.symm same)
        refine List.Pairwise.cons (fun q mem => ?_) (insertPairSorted k v sorted.2)
        rcases memInsertPair mem with rfl | old
        · exact above
        · exact sorted.1 q old

end Contracts

@[ext] structure Contracts where
  pairs : List (String × String)
  sorted : pairs.Pairwise (fun p q => p.1 < q.1)
  deriving DecidableEq, Repr

namespace Contracts

instance : EmptyCollection Contracts := ⟨⟨[], .nil⟩⟩

@[simp] theorem pairsEmpty : (∅ : Contracts).pairs = [] := rfl

def insert (k v : String) (m : Contracts) : Contracts := ⟨insertPair k v m.pairs, insertPairSorted k v m.sorted⟩

def ofPairs (pairs : List (String × String)) : Contracts :=
  pairs.foldl (fun m p => m.insert p.1 p.2) {}

end Contracts

structure Bundle where
  contracts : Contracts
  manifestPath : String
  deriving DecidableEq, Repr

namespace Bundle

def fileCount (b : Bundle) : Nat := b.contracts.pairs.length

def totalBytes (b : Bundle) : Nat := (b.contracts.pairs.map fun p => p.2.utf8ByteSize).foldl (· + ·) 0

def toValue (b : Bundle) : Json.Value :=
  .object [("contracts", .object (b.contracts.pairs.map fun p => (p.1, .string p.2))),
    ("manifest-path", .string b.manifestPath)]

def toJson (b : Bundle) (style : Json.Style) : String := b.toValue.render style ++ "\n"

end Bundle

end SourceBundle
