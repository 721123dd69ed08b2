import Mathlib
import SourceBundle.Json.Read
import SourceBundle.Proofs.FormatterLayout
/-! Reading a bundle back. Every character a string's layout writes reads back as that character,
whichever style wrote it: a two-letter escape, a `\u` escape of one unit (never a surrogate, since
a character is not one), a surrogate pair for a character past U+FFFF, or the character itself.
So the text of a bundle whose keys are sorted and distinct reads back as its value, in either
style, and two bundles with the same text are equal.

Main statement: `bundleReadsBack`. -/
namespace SourceBundle.Json

theorem hexOfHexDigit : ∀ n, n < 16 → hexOf? (hexDigit n) = some n := by decide

theorem toNatValid (c : Char) : c.toNat < 0xD800 ∨ (0xDFFF < c.toNat ∧ c.toNat < 0x110000) := c.valid

theorem hexValueUnitEscape {u : Nat} (small : u < 0x10000) :
    hexValue? (hexDigit (u / 4096 % 16)) (hexDigit (u / 256 % 16)) (hexDigit (u / 16 % 16))
      (hexDigit (u % 16)) = some u := by
  simp only [hexValue?, hexOfHexDigit _ (Nat.mod_lt _ (by decide))]
  congr 1
  omega

section Strings
variable (acc rest : List Char)

theorem stringCharsUnitEscape {u : Nat} (small : u < 0x10000) (notLow : isLowSurrogate u = false)
    (notHigh : isHighSurrogate u = false) :
    stringChars acc (unitEscape u ++ rest) = stringChars (Char.ofNat u :: acc) rest := by
  simp [unitEscape, stringChars, hexValueUnitEscape small, notLow, notHigh]

theorem stringCharsRaw {c : Char} (notQuote : c ≠ '"') (notBackslash : c ≠ '\\')
    (printable : 0x20 ≤ c.toNat) : stringChars acc (c :: rest) = stringChars (c :: acc) rest := by
  rw [stringChars.eq_def]
  split <;> simp_all

theorem stringCharsUnits (c : Char) :
    stringChars acc ((utf16Units c).flatMap unitEscape ++ rest) = stringChars (c :: acc) rest := by
  have valid := toNatValid c
  unfold utf16Units
  split
  · next bmp =>
    have notLow : isLowSurrogate c.toNat = false := by simp [isLowSurrogate]; omega
    have notHigh : isHighSurrogate c.toNat = false := by simp [isHighSurrogate]; omega
    simp only [List.flatMap_cons, List.flatMap_nil, List.append_nil]
    rw [stringCharsUnitEscape acc rest bmp notLow notHigh, Char.ofNat_toNat]
  · next astral =>
    -- a surrogate pair: the high unit carries the upper ten bits past U+FFFF, the low one the rest
    have hiSmall : 0xD800 + (c.toNat - 0x10000) / 1024 < 0x10000 := by omega
    have loSmall : 0xDC00 + (c.toNat - 0x10000) % 1024 < 0x10000 := by omega
    have high : 0xD800 + (c.toNat - 0x10000) / 1024 < 0xDC00 := by omega
    have notLow : ¬(0xDC00 ≤ 0xD800 + (c.toNat - 0x10000) / 1024 ∧
        0xD800 + (c.toNat - 0x10000) / 1024 < 0xE000) := by omega
    have low : 0xDC00 + (c.toNat - 0x10000) % 1024 < 0xE000 := by omega
    have code : 0x10000 + (c.toNat - 0x10000) / 1024 * 1024 + (c.toNat - 0x10000) % 1024 = c.toNat := by
      omega
    simp [unitEscape, stringChars, hexValueUnitEscape hiSmall, hexValueUnitEscape loSmall,
      isLowSurrogate, isHighSurrogate, high, notLow, low, code]

theorem stringCharsEscapeChar (style : Style) (c : Char) :
    stringChars acc (escapeChar style c ++ rest) = stringChars (c :: acc) rest := by
  unfold escapeChar
  split_ifs with quote backslash backspace formFeed newline carriage tab control outside
  all_goals try (subst_vars; simp [stringChars, escapeOf?]; done)
  · have notLow : isLowSurrogate c.toNat = false := by simp [isLowSurrogate]; omega
    have notHigh : isHighSurrogate c.toNat = false := by simp [isHighSurrogate]; omega
    rw [stringCharsUnitEscape acc rest (by omega) notLow notHigh, Char.ofNat_toNat]
  · exact stringCharsUnits acc rest c
  · exact stringCharsRaw acc rest quote backslash (by omega)

theorem stringCharsQuoted (style : Style) (cs : List Char) : ∀ acc : List Char,
    stringChars acc (cs.flatMap (escapeChar style) ++ '"' :: rest) = .ok (acc.reverse ++ cs, rest) := by
  induction cs with
  | nil => intro acc; simp [stringChars]
  | cons c cs ih =>
    intro acc
    rw [List.flatMap_cons, List.append_assoc, stringCharsEscapeChar, ih]
    simp

end Strings

theorem skipSpaceIndent (level : Nat) (cs : List Char) : skipSpace (indent level ++ cs) = skipSpace cs := by
  induction level with
  | zero => rfl
  | succ level ih =>
    rw [indent, List.replicate_succ, List.flatMap_cons, ← indent, List.append_assoc]
    simpa [skipSpace, isSpace] using ih

theorem skipSpaceLine (level : Nat) (cs : List Char) :
    skipSpace ('\n' :: (indent level ++ cs)) = skipSpace cs := by
  rw [← skipSpaceIndent level cs]
  rfl

theorem skipSpaceCons {c : Char} (notSpace : isSpace c = false) (cs : List Char) :
    skipSpace (c :: cs) = c :: cs := by
  simp [skipSpace, notSpace]

theorem layoutMembersLater (style : Style) (level : Nat) (m : String × Value) (ms : List (String × Value)) :
    layoutMembers style level false (m :: ms) = ',' :: layoutMembers style level true (m :: ms) := by
  simp [layoutMembers, itemStart]

theorem readValueString (style : Style) (s : String) (fuel room : Nat) (rest : List Char) :
    readValue (fuel + 1) room (quote style s ++ rest) = .ok (.string s, rest) := by
  simp [readValue, quote, skipSpace, isSpace, stringCharsQuoted, String.ofList_toList]

theorem insertSortedLast {k : String} {v : Value} :
    ∀ {acc : List (String × Value)}, (∀ p ∈ acc, p.1 < k) → insertSorted k v acc = acc ++ [(k, v)]
  | [], _ => rfl
  | (k', v') :: acc, below => by
    have before : k' < k := below (k', v') List.mem_cons_self
    rw [insertSorted, if_neg (String.lt_asymm before), if_neg (ne_of_gt before),
      insertSortedLast fun p mem => below p (List.mem_cons_of_mem _ mem)]
    rfl

theorem layoutMembersFirst (style : Style) (level : Nat) (k : String) (v : Value)
    (ms : List (String × Value)) (cs : List Char) :
    layoutMembers style level true ((k, v) :: ms) ++ cs = '\n' :: (indent level ++ ('"' ::
      (k.toList.flatMap (escapeChar style) ++ '"' :: ':' :: (v.layout style level ++
        (layoutMembers style level false ms ++ cs))))) := by
  simp [layoutMembers, itemStart, quote]

theorem readMembersLayout (style : Style) (level closing room need : Nat) :
    ∀ (ms acc : List (String × Value)) (fuel : Nat) (rest : List Char), ms ≠ [] →
    (acc ++ ms).Pairwise (fun a b => a.1 < b.1) →
    (∀ m ∈ ms, ∀ fuel' rest', need ≤ fuel' →
      readValue fuel' room (m.2.layout style level ++ rest') = .ok (m.2, rest')) →
    ms.length + need ≤ fuel →
    readMembers fuel room acc (layoutMembers style level true ms ++ '\n' :: (indent closing ++ '}' :: rest)) =
      .ok (.object (acc ++ ms), rest)
  | [], _, _, _, nonempty, _, _, _ => absurd rfl nonempty
  | (k, v) :: ms, acc, fuel + 1, rest, _, sorted, reads, enough => by
    have keyAbove : ∀ p ∈ acc, p.1 < k := fun p mem =>
      (List.pairwise_append.mp sorted).2.2 p mem (k, v) List.mem_cons_self
    have value := reads (k, v) List.mem_cons_self fuel
      (layoutMembers style level false ms ++ '\n' :: (indent closing ++ '}' :: rest))
      (by simp at enough; omega)
    rw [layoutMembersFirst, readMembers, skipSpaceLine, skipSpaceCons rfl]
    simp only [stringCharsQuoted, List.reverse_nil, List.nil_append, bind, Except.bind]
    rw [skipSpaceCons rfl]
    simp only [value, String.ofList_toList, insertSortedLast keyAbove]
    cases ms with
    | nil =>
      simp [layoutMembers, skipSpaceLine, skipSpaceCons (c := '}') rfl]
    | cons m ms =>
      obtain ⟨k', v'⟩ := m
      obtain ⟨tail, next⟩ : ∃ tail, skipSpace (layoutMembers style level true ((k', v') :: ms) ++
          '\n' :: (indent closing ++ '}' :: rest)) = '"' :: tail := by
        rw [layoutMembersFirst, skipSpaceLine, skipSpaceCons rfl]
        exact ⟨_, rfl⟩
      rw [layoutMembersLater, List.cons_append, skipSpaceCons rfl]
      simp only [next]
      rw [readMembersLayout style level closing room need ((k', v') :: ms) (acc ++ [(k, v)]) fuel rest
        (List.cons_ne_nil _ _) (by simpa using sorted)
        (fun m mem => reads m (List.mem_cons_of_mem _ mem)) (by simp at enough ⊢; omega)]
      simp
  | _ :: _, _, 0, _, _, _, _, enough => by simp at enough

theorem readValueObject (style : Style) (level room need : Nat) (ms : List (String × Value))
    (fuel : Nat) (rest : List Char) (open_ : 0 < room) (sorted : ms.Pairwise (fun a b => a.1 < b.1))
    (reads : ∀ m ∈ ms, ∀ fuel' rest', need ≤ fuel' →
      readValue fuel' (room - 1) (m.2.layout style (level + 1) ++ rest') = .ok (m.2, rest'))
    (enough : ms.length + need < fuel) :
    readValue fuel room ((Value.object ms).layout style level ++ rest) = .ok (.object ms, rest) := by
  obtain ⟨fuel, rfl⟩ : ∃ f, fuel = f + 1 := ⟨fuel - 1, by omega⟩
  have shut : room ≠ 0 := by omega
  cases ms with
  | nil => simp [Value.layout, readValue, skipSpaceCons (c := '{') rfl, skipSpaceCons (c := '}') rfl, shut]
  | cons m ms =>
    obtain ⟨k, v⟩ := m
    obtain ⟨tail, first⟩ : ∃ tail, skipSpace (layoutMembers style (level + 1) true ((k, v) :: ms) ++
        '\n' :: (indent level ++ '}' :: rest)) = '"' :: tail := by
      rw [layoutMembersFirst, skipSpaceLine, skipSpaceCons rfl]
      exact ⟨_, rfl⟩
    have members := readMembersLayout style (level + 1) level (room - 1) need ((k, v) :: ms) [] fuel rest
      (List.cons_ne_nil _ _) (by simpa using sorted) reads (by omega)
    simp only [Value.layout, List.cons_append, List.append_assoc, readValue, skipSpaceCons (c := '{') rfl,
      shut, if_false, first, List.nil_append] at members ⊢
    exact members

theorem lengthLayoutMembers (style : Style) (level : Nat) :
    ∀ (first : Bool) (ms : List (String × Value)), ms.length ≤ (layoutMembers style level first ms).length
  | _, [] => by simp
  | first, (k, v) :: ms => by
    have := lengthLayoutMembers style level false ms
    cases first <;> simp [layoutMembers, itemStart] <;> omega

theorem lengthLayoutObject (style : Style) (level : Nat) (ms : List (String × Value)) :
    ms.length ≤ ((Value.object ms).layout style level).length := by
  cases ms with
  | nil => simp
  | cons m ms =>
    have := lengthLayoutMembers style (level + 1) true (m :: ms)
    simp only [Value.layout, List.length_cons, List.length_append] at this ⊢
    omega

end SourceBundle.Json

namespace SourceBundle
open Json

theorem toJsonToList (b : Bundle) (style : Style) :
    (b.toJson style).toList = b.toValue.layout style 0 ++ ['\n'] := by
  simp [Bundle.toJson, renderEqLayout]

theorem parseToJson (b : Bundle) (style : Style) :
    Value.parse? (b.toJson style) = .ok b.toValue := by
  have long : b.contracts.pairs.length + 4 ≤ (b.toJson style).length := by
    have := lengthLayoutObject style 1 (b.contracts.pairs.map fun p => (p.1, .string p.2))
    simp only [List.length_map] at this
    have shape : b.toValue.layout style 0 = '{' :: (itemStart 1 true ++ quote style "contracts" ++
        ':' :: (Value.object (b.contracts.pairs.map fun p => (p.1, .string p.2))).layout style 1 ++
        (itemStart 1 false ++ quote style "manifest-path" ++ ':' :: quote style b.manifestPath ++ [])) ++
        '\n' :: indent 0 ++ ['}'] := rfl
    rw [← String.length_toList, toJsonToList, shape]
    simp only [List.length_cons, List.length_append]
    omega
  have strings : ∀ m ∈ b.contracts.pairs.map (fun p => (p.1, Value.string p.2)), ∀ fuel rest, 1 ≤ fuel →
      readValue fuel 125 (m.2.layout style 2 ++ rest) = .ok (m.2, rest) := by
    intro m mem fuel rest enough
    obtain ⟨p, -, rfl⟩ := List.mem_map.mp mem
    obtain ⟨fuel, rfl⟩ : ∃ f, fuel = f + 1 := ⟨fuel - 1, by omega⟩
    exact readValueString style p.2 fuel 125 rest
  have members : ∀ m ∈ [("contracts", Value.object (b.contracts.pairs.map fun p => (p.1, .string p.2))),
      ("manifest-path", Value.string b.manifestPath)], ∀ fuel rest, b.contracts.pairs.length + 2 ≤ fuel →
      readValue fuel 126 (m.2.layout style 1 ++ rest) = .ok (m.2, rest) := by
    intro m mem fuel rest enough
    simp only [List.mem_cons, List.not_mem_nil, or_false] at mem
    rcases mem with rfl | rfl
    · exact readValueObject style 1 126 1 _ fuel rest (by decide)
        (List.pairwise_map.mpr b.contracts.sorted) strings (by simp; omega)
    · obtain ⟨fuel, rfl⟩ : ∃ f, fuel = f + 1 := ⟨fuel - 1, by omega⟩
      exact readValueString style _ fuel 126 rest
  have keys : "contracts" < "manifest-path" := by
    rw [String.lt_iff_toList_lt]
    decide
  have whole : readValue ((b.toJson style).length + 1) 127 (b.toValue.layout style 0 ++ ['\n']) =
      .ok (b.toValue, ['\n']) :=
    readValueObject style 0 127 (b.contracts.pairs.length + 2) _ _ ['\n'] (by decide) (by simpa using keys)
      members (by simp; omega)
  simp only [Value.parse?, toJsonToList, whole, bind, Except.bind]
  rfl

theorem toValueInjective {b b' : Bundle} (same : b'.toValue = b.toValue) : b' = b := by
  obtain ⟨contracts, path⟩ := b
  obtain ⟨contracts', path'⟩ := b'
  have pairs : Function.Injective fun p : String × String => (p.1, Value.string p.2) := by
    rintro ⟨k, v⟩ ⟨k', v'⟩ eq
    simpa using eq
  simp only [Bundle.toValue, Value.object.injEq, List.cons.injEq, Prod.mk.injEq, Value.string.injEq,
    true_and, and_true] at same
  rw [Contracts.ext (List.map_injective_iff.mpr pairs same.1), same.2]

theorem bundleReadsBack (b : Bundle) (style : Style) :
    Value.parse? (b.toJson style) = .ok b.toValue ∧
      ∀ (b' : Bundle) (style' : Style), b'.toJson style' = b.toJson style → b' = b := by
  refine ⟨parseToJson b style, fun b' style' same => toValueInjective ?_⟩
  have both := parseToJson b' style'
  rw [same, parseToJson b style] at both
  injection both with values
  exact values.symm

theorem readsBackOneContract :
    Value.parse? (Bundle.toJson ⟨.ofPairs [("src/lib.rs", "\"é\u2028😀\n")], "Cargo.toml"⟩ {}) =
        .ok (Bundle.toValue ⟨.ofPairs [("src/lib.rs", "\"é\u2028😀\n")], "Cargo.toml"⟩) ∧
      ∀ (b' : Bundle) (style' : Style),
        b'.toJson style' = Bundle.toJson ⟨.ofPairs [("src/lib.rs", "\"é\u2028😀\n")], "Cargo.toml"⟩ {} →
          b' = ⟨.ofPairs [("src/lib.rs", "\"é\u2028😀\n")], "Cargo.toml"⟩ :=
  bundleReadsBack _ {}

end SourceBundle
