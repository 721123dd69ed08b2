import Mathlib
import SourceBundle.Text.Utf8
/-! Well-formed UTF-8 has one spelling. The bytes of a character follow the standard's table
(`Spells`): one byte below 0x80, and two to four bytes for the values above, whose lead and second
bytes are narrowed so that no value has an overlong form and no surrogate is spelled. The lengths
then cover ranges of values that are apart, and within a length each byte is read back from the
value, so a character has one spelling (`spellsInj`). Reading takes each character's spelling
off the front (`frontChar`), so two byte strings that read as the same text are the same bytes
(`decodeInj`, `lossyInj`). -/
namespace SourceBundle.Utf8

theorem toNatOfNatValid {n : Nat} (h : n < 0xD800 ∨ (0xDFFF < n ∧ n < 0x110000)) :
    (Char.ofNat n).toNat = n := by
  have valid : n.isValidChar := h
  rw [Char.ofNat, dif_pos valid]
  simp [Char.ofNatAux, Char.toNat]

def Spells (c : Char) : Bytes → Prop
  | [b0] => b0.toNat < 0x80 ∧ c.toNat = b0.toNat
  | [b0, b1] => 0xC2 ≤ b0.toNat ∧ b0.toNat ≤ 0xDF ∧ 0x80 ≤ b1.toNat ∧ b1.toNat ≤ 0xBF ∧
      c.toNat = (b0.toNat - 0xC0) * 64 + (b1.toNat - 0x80)
  | [b0, b1, b2] => 0xE0 ≤ b0.toNat ∧ b0.toNat ≤ 0xEF ∧ 0x80 ≤ b1.toNat ∧ b1.toNat ≤ 0xBF ∧
      0x80 ≤ b2.toNat ∧ b2.toNat ≤ 0xBF ∧ 0x800 ≤ c.toNat ∧
      c.toNat = (b0.toNat - 0xE0) * 4096 + (b1.toNat - 0x80) * 64 + (b2.toNat - 0x80)
  | [b0, b1, b2, b3] => 0xF0 ≤ b0.toNat ∧ b0.toNat ≤ 0xF4 ∧ 0x80 ≤ b1.toNat ∧ b1.toNat ≤ 0xBF ∧
      0x80 ≤ b2.toNat ∧ b2.toNat ≤ 0xBF ∧ 0x80 ≤ b3.toNat ∧ b3.toNat ≤ 0xBF ∧ 0x10000 ≤ c.toNat ∧
      c.toNat = (b0.toNat - 0xF0) * 262144 + (b1.toNat - 0x80) * 4096 + (b2.toNat - 0x80) * 64 +
        (b3.toNat - 0x80)
  | _ => False

theorem secondOkRange {b0 b1 : UInt8} (ok : secondOk b0 b1 = true) :
    0x80 ≤ b1.toNat ∧ b1.toNat ≤ 0xBF ∧ (b0.toNat = 0xE0 → 0xA0 ≤ b1.toNat) ∧
      (b0.toNat = 0xED → b1.toNat ≤ 0x9F) ∧ (b0.toNat = 0xF0 → 0x90 ≤ b1.toNat) ∧
      (b0.toNat = 0xF4 → b1.toNat ≤ 0x8F) := by
  unfold secondOk isCont at ok
  simp only [← UInt8.toNat_inj, UInt8.reduceToNat, UInt8.le_iff_toNat_le] at ok
  split_ifs at ok <;> simp only [Bool.and_eq_true, decide_eq_true_eq] at ok <;> omega

theorem char2ToNat {b0 b1 : UInt8} (lead : 0xC2 ≤ b0.toNat ∧ b0.toNat ≤ 0xDF)
    (cont : 0x80 ≤ b1.toNat ∧ b1.toNat ≤ 0xBF) :
    (char2 b0 b1).toNat = (b0.toNat - 0xC0) * 64 + (b1.toNat - 0x80) := by
  have spelled : char2 b0 b1 = Char.ofNat ((b0.toNat % 32) * 64 + b1.toNat % 64) := rfl
  rw [spelled, toNatOfNatValid (by omega)]
  omega

theorem char3ToNat {b0 b1 b2 : UInt8} (lead : 0xE0 ≤ b0.toNat ∧ b0.toNat ≤ 0xEF)
    (second : secondOk b0 b1 = true) (cont : 0x80 ≤ b2.toNat ∧ b2.toNat ≤ 0xBF) :
    0x800 ≤ (char3 b0 b1 b2).toNat ∧
      (char3 b0 b1 b2).toNat = (b0.toNat - 0xE0) * 4096 + (b1.toNat - 0x80) * 64 + (b2.toNat - 0x80) := by
  have spelled : char3 b0 b1 b2 =
      Char.ofNat ((b0.toNat % 16) * 4096 + b1.toNat % 64 * 64 + b2.toNat % 64) := rfl
  have range := secondOkRange second
  -- no overlong form (the lead 0xE0 wants a second byte from 0xA0) and no surrogate (0xED wants
  -- one up to 0x9F)
  have e0 : b0.toNat = 0xE0 → 0xA0 ≤ b1.toNat := range.2.2.1
  have ed : b0.toNat = 0xED → b1.toNat ≤ 0x9F := range.2.2.2.1
  rw [spelled, toNatOfNatValid (by omega)]
  omega

theorem char4ToNat {b0 b1 b2 b3 : UInt8} (lead : 0xF0 ≤ b0.toNat ∧ b0.toNat ≤ 0xF4)
    (second : secondOk b0 b1 = true) (cont2 : 0x80 ≤ b2.toNat ∧ b2.toNat ≤ 0xBF)
    (cont3 : 0x80 ≤ b3.toNat ∧ b3.toNat ≤ 0xBF) :
    0x10000 ≤ (char4 b0 b1 b2 b3).toNat ∧
      (char4 b0 b1 b2 b3).toNat = (b0.toNat - 0xF0) * 262144 + (b1.toNat - 0x80) * 4096 +
        (b2.toNat - 0x80) * 64 + (b3.toNat - 0x80) := by
  have spelled : char4 b0 b1 b2 b3 =
      Char.ofNat ((b0.toNat % 8) * 262144 + b1.toNat % 64 * 4096 + b2.toNat % 64 * 64 + b3.toNat % 64) :=
    rfl
  have range := secondOkRange second
  -- no overlong form (0xF0 wants a second byte from 0x90) and nothing past U+10FFFF (0xF4 wants
  -- one up to 0x8F)
  have f0 : b0.toNat = 0xF0 → 0x90 ≤ b1.toNat := range.2.2.2.2.1
  have f4 : b0.toNat = 0xF4 → b1.toNat ≤ 0x8F := range.2.2.2.2.2
  rw [spelled, toNatOfNatValid (by omega)]
  omega

theorem isContRange {b : UInt8} (cont : isCont b = true) : 0x80 ≤ b.toNat ∧ b.toNat ≤ 0xBF := by
  simpa [isCont, UInt8.le_iff_toNat_le] using cont

theorem frontChar {b0 : UInt8} {rest : Bytes} {c : Char} {n : Nat}
    (h : front b0 rest = (.char c, n)) : Spells c ((b0 :: rest).take n) := by
  unfold front at h
  simp only [UInt8.lt_iff_toNat_lt, UInt8.le_iff_toNat_le, UInt8.reduceToNat, Bool.and_eq_true,
    decide_eq_true_eq] at h
  split_ifs at h with one two three four
  · obtain ⟨rfl, rfl⟩ := h
    exact ⟨one, toNatOfNatValid (by omega)⟩
  · rcases rest with _ | ⟨b1, t⟩
    · cases h
    · simp only at h
      split_ifs at h with cont
      · obtain ⟨rfl, rfl⟩ := h
        have c1 := isContRange cont
        exact ⟨two.1, two.2, c1.1, c1.2, char2ToNat two c1⟩
      · cases h
  · rcases rest with _ | ⟨b1, _ | ⟨b2, t⟩⟩
    · cases h
    · simp only at h
      split_ifs at h <;> cases h
    · simp only at h
      split_ifs at h with second cont
      · obtain ⟨rfl, rfl⟩ := h
        have c1 := secondOkRange second
        have c2 := isContRange cont
        have value := char3ToNat three second c2
        exact ⟨three.1, three.2, c1.1, c1.2.1, c2.1, c2.2, value⟩
      all_goals cases h
  · rcases rest with _ | ⟨b1, _ | ⟨b2, _ | ⟨b3, t⟩⟩⟩
    · cases h
    · simp only at h
      split_ifs at h <;> cases h
    · simp only at h
      split_ifs at h <;> cases h
    · simp only at h
      split_ifs at h with second cont2 cont3
      · obtain ⟨rfl, rfl⟩ := h
        have c1 := secondOkRange second
        have c2 := isContRange cont2
        have c3 := isContRange cont3
        have value := char4ToNat four second c2 c3
        exact ⟨four.1, four.2, c1.1, c1.2.1, c2.1, c2.2, c3.1, c3.2, value⟩
      all_goals cases h
  · cases h

theorem spellsInj {c : Char} {bs bs' : Bytes} (h : Spells c bs) (h' : Spells c bs') : bs = bs' := by
  rcases bs with _ | ⟨a0, _ | ⟨a1, _ | ⟨a2, _ | ⟨a3, _ | ⟨a4, t⟩⟩⟩⟩⟩ <;>
    rcases bs' with _ | ⟨b0, _ | ⟨b1, _ | ⟨b2, _ | ⟨b3, _ | ⟨b4, t'⟩⟩⟩⟩⟩ <;>
    simp only [Spells] at h h' <;>
    simp only [List.cons.injEq, ← UInt8.toNat_inj, and_true] <;>
    omega

theorem spellsAscii {c : Char} {bs : Bytes} (h : Spells c bs) (ascii : c.toNat < 0x80) :
    ∃ b, bs = [b] ∧ b.toNat = c.toNat := by
  rcases bs with _ | ⟨b0, _ | ⟨b1, _ | ⟨b2, _ | ⟨b3, _ | ⟨b4, t⟩⟩⟩⟩⟩ <;> simp only [Spells] at h
  · exact ⟨b0, rfl, h.2.symm⟩
  all_goals omega

theorem spellsAsciiMem {c : Char} {bs : Bytes} {b : UInt8} (h : Spells c bs) (mem : b ∈ bs)
    (ascii : b.toNat < 0x80) : c.toNat = b.toNat := by
  -- the bytes of a spelling longer than one are all from 0x80
  rcases bs with _ | ⟨b0, _ | ⟨b1, _ | ⟨b2, _ | ⟨b3, _ | ⟨b4, t⟩⟩⟩⟩⟩ <;> simp only [Spells] at h <;>
    simp only [List.mem_cons, List.not_mem_nil, or_false] at mem
  · exact mem ▸ h.2
  all_goals rcases mem with rfl | rfl | rfl | rfl <;> omega

theorem piecesCons (b0 : UInt8) (rest : Bytes) :
    pieces (b0 :: rest) = (front b0 rest).1 :: pieces ((b0 :: rest).drop (front b0 rest).2) := by
  rw [pieces]

theorem piecesEqCharCons {bs : Bytes} {c : Char} {cs : List Char}
    (h : pieces bs = .char c :: cs.map .char) :
    ∃ n, Spells c (bs.take n) ∧ pieces (bs.drop n) = cs.map .char := by
  rcases bs with _ | ⟨b0, rest⟩
  · simp [pieces] at h
  · rw [piecesCons, List.cons.injEq] at h
    obtain ⟨first, after⟩ := h
    have read : front b0 rest = (.char c, (front b0 rest).2) := by rw [← first]
    exact ⟨_, frontChar read, after⟩

theorem piecesInj (cs : List Char) : ∀ {a b : Bytes},
    pieces a = cs.map .char → pieces b = cs.map .char → a = b := by
  induction cs with
  | nil =>
    intro a b ha hb
    rcases a with _ | ⟨a0, ar⟩ <;> rcases b with _ | ⟨b0, br⟩ <;> simp_all [piecesCons]
  | cons c cs ih =>
    intro a b ha hb
    obtain ⟨n, spellA, restA⟩ := piecesEqCharCons ha
    obtain ⟨m, spellB, restB⟩ := piecesEqCharCons hb
    calc a = a.take n ++ a.drop n := (List.take_append_drop n a).symm
      _ = b.take m ++ b.drop m := by rw [spellsInj spellA spellB, ih restA restB]
      _ = b := List.take_append_drop m b

theorem allCharsEqSome {ps : List Piece} {cs : List Char} (h : Piece.allChars ps = some cs) :
    ps = cs.map .char := by
  induction ps generalizing cs with
  | nil => simp_all [Piece.allChars]
  | cons p ps ih =>
    cases p with
    | bad => simp [Piece.allChars] at h
    | char c =>
      simp only [Piece.allChars, Option.map_eq_some_iff] at h
      obtain ⟨rest, found, rfl⟩ := h
      simp [ih found]

theorem piecesOfDecode {bs : Bytes} {s : String} (h : decode? bs = some s) :
    pieces bs = s.toList.map .char := by
  simp only [decode?, Option.map_eq_some_iff] at h
  obtain ⟨cs, found, rfl⟩ := h
  rw [allCharsEqSome found, String.toList_ofList]

theorem lossyOfDecode {bs : Bytes} {s : String} (h : decode? bs = some s) : lossy bs = s := by
  simp [lossy, piecesOfDecode h, Function.comp_def]

theorem decodeInj {a b : Bytes} {s : String} (ha : decode? a = some s) (hb : decode? b = some s) :
    a = b :=
  piecesInj s.toList (piecesOfDecode ha) (piecesOfDecode hb)

theorem lossyInj {a b : Bytes} (ha : (decode? a).isSome) (hb : (decode? b).isSome)
    (same : lossy a = lossy b) : a = b := by
  obtain ⟨s, hs⟩ := Option.isSome_iff_exists.mp ha
  obtain ⟨t, ht⟩ := Option.isSome_iff_exists.mp hb
  rw [lossyOfDecode hs, lossyOfDecode ht] at same
  subst same
  exact decodeInj hs ht

theorem memPiecesAscii {c : Char} (ascii : c.toNat < 0x80) :
    ∀ bs : Bytes, .char c ∈ pieces bs → ∃ b ∈ bs, b.toNat = c.toNat := by
  intro bs
  induction bs using pieces.induct with
  | case1 => simp [pieces]
  | case2 b0 rest ih =>
    rw [piecesCons]
    intro mem
    rcases List.mem_cons.mp mem with first | later
    · have read : front b0 rest = (.char c, (front b0 rest).2) := by rw [first]
      obtain ⟨b, single, same⟩ := spellsAscii (frontChar read) ascii
      exact ⟨b, List.mem_of_mem_take (single ▸ List.mem_singleton_self b), same⟩
    · obtain ⟨b, inside, same⟩ := ih later
      exact ⟨b, List.mem_of_mem_drop inside, same⟩

theorem memLossyAscii {bs : Bytes} {c : Char} (mem : c ∈ (lossy bs).toList) (ascii : c.toNat < 0x80) :
    ∃ b ∈ bs, b.toNat = c.toNat := by
  simp only [lossy, String.toList_ofList, List.mem_map] at mem
  obtain ⟨p, inPieces, rfl⟩ := mem
  cases p with
  | char c => exact memPiecesAscii ascii bs inPieces
  | bad => simp at ascii

theorem allCharsIsSome : ∀ {ps : List Piece}, Piece.bad ∉ ps → (Piece.allChars ps).isSome
  | [], _ => rfl
  | .bad :: _, noBad => absurd List.mem_cons_self noBad
  | .char _ :: ps, noBad => by
    simp only [Piece.allChars, Option.isSome_map]
    exact allCharsIsSome fun mem => noBad (List.mem_cons_of_mem _ mem)

theorem decodeIsSomeOfClean {bs : Bytes} (clean : '�' ∉ (lossy bs).toList) : (decode? bs).isSome := by
  have noBad : Piece.bad ∉ pieces bs := fun bad =>
    clean (by simpa [lossy] using ⟨.bad, bad, rfl⟩)
  simpa [decode?] using allCharsIsSome noBad

theorem eqOfLossyClean {a b : Bytes} (hb : (decode? b).isSome) (clean : '�' ∉ (lossy b).toList)
    (same : lossy a = lossy b) : a = b :=
  lossyInj (decodeIsSomeOfClean (same ▸ clean)) hb same

theorem lossyNeEmpty {bs : Bytes} (ne : bs ≠ []) : lossy bs ≠ "" := by
  obtain ⟨b0, rest, rfl⟩ := List.exists_cons_of_ne_nil ne
  rw [lossy, piecesCons]
  simp

theorem charRange (c : Char) : c.toNat < 0xD800 ∨ (0xDFFF < c.toNat ∧ c.toNat < 0x110000) := by
  have valid := c.valid
  unfold UInt32.isValidChar Nat.isValidChar at valid
  exact valid

theorem spellsUtf8EncodeChar (c : Char) : Spells c (String.utf8EncodeChar c) := by
  have valid := charRange c
  unfold String.utf8EncodeChar
  simp only [Char.toNat] at valid ⊢
  split_ifs <;> simp only [Spells, UInt8.toNat_ofNat', Nat.reducePow, Char.toNat] at valid ⊢ <;> omega

theorem isContOfRange {b : UInt8} (lo : 0x80 ≤ b.toNat) (hi : b.toNat ≤ 0xBF) : isCont b = true := by
  simp only [isCont, UInt8.le_iff_toNat_le, UInt8.reduceToNat, Bool.and_eq_true, decide_eq_true_eq]
  exact ⟨lo, hi⟩

theorem secondOkOfRange {b0 b1 : UInt8} (lo : 0x80 ≤ b1.toNat) (hi : b1.toNat ≤ 0xBF)
    (e0 : b0.toNat = 0xE0 → 0xA0 ≤ b1.toNat) (ed : b0.toNat = 0xED → b1.toNat ≤ 0x9F)
    (f0 : b0.toNat = 0xF0 → 0x90 ≤ b1.toNat) (f4 : b0.toNat = 0xF4 → b1.toNat ≤ 0x8F) :
    secondOk b0 b1 = true := by
  simp only [secondOk, isCont, ← UInt8.toNat_inj, UInt8.le_iff_toNat_le, UInt8.reduceToNat]
  split_ifs <;> simp <;> omega

theorem frontOfSpells {c : Char} {b0 : UInt8} {t : Bytes} (h : Spells c (b0 :: t)) (rest : Bytes) :
    front b0 (t ++ rest) = (.char c, t.length + 1) := by
  -- the value's range rules out the overlong forms and surrogates that `secondOk` refuses
  have valid := charRange c
  rcases t with _ | ⟨b1, _ | ⟨b2, _ | ⟨b3, _ | ⟨b4, t⟩⟩⟩⟩
  · obtain ⟨ascii, value⟩ := h
    have lt : b0 < 0x80 := UInt8.lt_iff_toNat_lt.mpr ascii
    simp [front, lt, ← value]
  · obtain ⟨l1, l2, c1, c2, value⟩ := h
    have char : char2 b0 b1 = c := Char.toNat_inj.mp (by rw [char2ToNat ⟨l1, l2⟩ ⟨c1, c2⟩, value])
    simp only [front, UInt8.lt_iff_toNat_lt, UInt8.le_iff_toNat_le, UInt8.reduceToNat, Bool.and_eq_true,
      decide_eq_true_eq, List.cons_append, List.nil_append, isContOfRange c1 c2, char, if_true]
    rw [if_neg (by omega), if_pos ⟨l1, l2⟩]
    rfl
  · obtain ⟨l1, l2, c1, c2, c3, c4, low, value⟩ := h
    have second : secondOk b0 b1 = true := secondOkOfRange c1 c2 (by omega) (by omega) (by omega) (by omega)
    have char : char3 b0 b1 b2 = c :=
      Char.toNat_inj.mp (by rw [(char3ToNat ⟨l1, l2⟩ second ⟨c3, c4⟩).2, value])
    simp only [front, UInt8.lt_iff_toNat_lt, UInt8.le_iff_toNat_le, UInt8.reduceToNat, Bool.and_eq_true,
      decide_eq_true_eq, List.cons_append, List.nil_append, second, isContOfRange c3 c4, char, if_true]
    rw [if_neg (by omega), if_neg (by omega), if_pos ⟨l1, l2⟩]
    rfl
  · obtain ⟨l1, l2, c1, c2, c3, c4, c5, c6, low, value⟩ := h
    have second : secondOk b0 b1 = true := secondOkOfRange c1 c2 (by omega) (by omega) (by omega) (by omega)
    have char : char4 b0 b1 b2 b3 = c :=
      Char.toNat_inj.mp (by rw [(char4ToNat ⟨l1, l2⟩ second ⟨c3, c4⟩ ⟨c5, c6⟩).2, value])
    simp only [front, UInt8.lt_iff_toNat_lt, UInt8.le_iff_toNat_le, UInt8.reduceToNat, Bool.and_eq_true,
      decide_eq_true_eq, List.cons_append, List.nil_append, second, isContOfRange c3 c4,
      isContOfRange c5 c6, char, if_true]
    rw [if_neg (by omega), if_neg (by omega), if_neg (by omega), if_pos ⟨l1, l2⟩]
    rfl
  · exact absurd h id

theorem piecesUtf8EncodeCharAppend (c : Char) (rest : Bytes) :
    pieces (String.utf8EncodeChar c ++ rest) = .char c :: pieces rest := by
  obtain ⟨b0, t, split⟩ := List.exists_cons_of_ne_nil (String.utf8EncodeChar_ne_nil (c := c))
  have spelled := spellsUtf8EncodeChar c
  rw [split] at spelled
  rw [split, List.cons_append, piecesCons, frontOfSpells spelled rest]
  simp

theorem piecesEncode (s : String) : pieces (encode s) = s.toList.map .char := by
  unfold encode
  induction s.toList with
  | nil => simp [pieces]
  | cons c cs ih => rw [List.flatMap_cons, piecesUtf8EncodeCharAppend, ih, List.map_cons]

theorem allCharsMapChar (cs : List Char) : Piece.allChars (cs.map .char) = some cs := by
  induction cs with
  | nil => rfl
  | cons c cs ih => simp [Piece.allChars, ih]

theorem decodeEncode (s : String) : decode? (encode s) = some s := by
  simp [decode?, piecesEncode, allCharsMapChar]

theorem encodeLossyEqIff (bs : Bytes) : encode (lossy bs) = bs ↔ (decode? bs).isSome := by
  constructor
  · intro spelled
    rw [← spelled, decodeEncode]
    rfl
  · intro wellFormed
    obtain ⟨s, hs⟩ := Option.isSome_iff_exists.mp wellFormed
    rw [lossyOfDecode hs]
    exact decodeInj (decodeEncode s) hs

theorem memEncodeAscii {s : String} {b : UInt8} (mem : b ∈ encode s) (ascii : b.toNat < 0x80) :
    ∃ c ∈ s.toList, c.toNat = b.toNat := by
  obtain ⟨c, inText, inSpelling⟩ := List.mem_flatMap.mp mem
  exact ⟨c, inText, spellsAsciiMem (spellsUtf8EncodeChar c) inSpelling ascii⟩

theorem encodeInj {s t : String} (same : encode s = encode t) : s = t := by
  have read := decodeEncode s
  rw [same, decodeEncode] at read
  exact (Option.some.inj read).symm

theorem encodeAppend (s t : String) : encode (s ++ t) = encode s ++ encode t := by
  simp [encode, String.toList_append, List.flatMap_append]

theorem lossyAsciiCons {b : UInt8} (ascii : b.toNat < 0x80) (rest : Bytes) :
    (lossy (b :: rest)).toList = Char.ofNat b.toNat :: (lossy rest).toList := by
  have lt : b < 0x80 := UInt8.lt_iff_toNat_lt.mpr ascii
  simp [lossy, piecesCons, front, lt]

theorem lossyEqAsciiCons {bs : Bytes} {c : Char} {cs : List Char} (h : (lossy bs).toList = c :: cs)
    (ascii : c.toNat < 0x80) : ∃ rest, bs = UInt8.ofNat c.toNat :: rest ∧ (lossy rest).toList = cs := by
  rcases bs with _ | ⟨b0, rest⟩
  · simp [lossy, pieces] at h
  simp only [lossy, String.toList_ofList, piecesCons, List.map_cons, List.cons.injEq] at h
  obtain ⟨first, after⟩ := h
  generalize read : front b0 rest = fr at first after
  obtain ⟨piece, n⟩ := fr
  cases piece with
  | bad => simp only at first; subst first; simp at ascii
  | char d =>
    simp only at first
    subst first
    obtain ⟨b, single, same⟩ := spellsAscii (frontChar read) ascii
    -- the spelling is one byte, so the reading goes on right after `b0`
    obtain ⟨k, rfl⟩ : ∃ k, n = k + 1 := Nat.exists_eq_add_one.mpr (by simpa [read] using frontPos b0 rest)
    simp only [List.take_succ_cons, List.cons.injEq, List.take_eq_nil_iff] at single
    obtain ⟨rfl, none⟩ := single
    have dropped : (b0 :: rest).drop (k + 1) = rest := by
      rcases none with rfl | rfl <;> simp
    refine ⟨rest, ?_, ?_⟩
    · rw [← same, UInt8.ofNat_toNat]
    · simpa [lossy, dropped] using after

end SourceBundle.Utf8
