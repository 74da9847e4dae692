import Mathlib.Data.List.DropRight
import PredictiveScaling.Json.Record
import PredictiveScaling.Proofs.Json.Numeral

/-!
# Documents are read back

A document is written without blanks and without control characters. What is read of its text is a
tree of the same shape (`Json.Document.tree`), provided that what is written of each of its doubles
is read as that double, whatever follows (`Json.Document.readValue?_chars`).
-/
namespace PredictiveScaling.Json

variable {fuel : Nat} {rest : List UInt8} {x : Float}

/-! ## Doubles -/

/-- What is written of a double is read as that double. This is so of finite doubles only, and not
of all of them, since a numeral is rounded twice where it is read. -/
def ReadsBack (x : Float) : Prop := (ofText? (floatText x)).bind float? = some x

instance (x : Float) : Decidable (ReadsBack x) := inferInstanceAs (Decidable (_ = _))

example : ReadsBack 0.1 ∧ ¬ ReadsBack 31.245270191439438 := by decide +kernel

/-- A text without blanks and control characters. -/
def Visible (s : String) : Prop := ∀ c ∈ s.toList, 0x20 < c.toNat

instance (s : String) : Decidable (Visible s) :=
  List.decidableBAll (fun c : Char => 0x20 < c.toNat) s.toList

theorem Visible.append {s t : String} (hs : Visible s) (ht : Visible t) : Visible (s ++ t) := by
  intro c hc
  rw [String.toList_append, List.mem_append] at hc
  exact hc.elim (hs c) (ht c)

theorem visible_ite {c : Prop} [Decidable c] {s t : String} (hs : Visible s) (ht : Visible t) :
    Visible (if c then s else t) := by
  split
  · exact hs
  · exact ht

theorem visible_digitText (ds : List Nat) : Visible (Decimal.digitText ds) := by
  have digit : ∀ n : Nat, 0x20 < n.digitChar.toNat := by
    intro n
    by_cases h : n < 16
    · revert n
      decide
    · have hstar : n.digitChar = '*' := by
        rw [Nat.digitChar]
        repeat rw [if_neg (by omega)]
      rw [hstar]
      decide
  intro c hc
  rw [Decimal.digitText, String.toList_ofList, List.mem_map] at hc
  obtain ⟨n, -, rfl⟩ := hc
  exact digit n

theorem visible_repr (n : Nat) : Visible (toString n) := by
  intro c hc
  rw [Nat.toString_eq_repr, Nat.toList_repr] at hc
  have hdigit := Char.isDigit_iff_toNat.1 (Nat.isDigit_of_mem_toDigits (by decide) (by decide) hc)
  exact Nat.lt_of_lt_of_le (by decide) hdigit.1

theorem visible_int (i : Int) : Visible (toString i) := by
  cases i with
  | ofNat n => exact visible_repr n
  | negSucc m => exact .append (t := (m + 1).repr) (by decide) (visible_repr (m + 1))

theorem visible_positionalText (ds : List Nat) (magnitude : Int) {ending : String}
    (h : Visible ending) : Visible (Decimal.positionalText ds magnitude ending) := by
  rw [Decimal.positionalText]
  refine visible_ite (.append (by decide) (visible_digitText _)) (visible_ite ?_ ?_)
  · exact (visible_digitText _).append h
  · exact ((visible_digitText _).append (by decide)).append (visible_digitText _)

theorem visible_exponentText (ds : List Nat) (magnitude : Int) :
    Visible (Decimal.exponentText ds magnitude) := by
  have part : Visible (if ds.length ≤ 1 then "" else "." ++ Decimal.digitText (ds.drop 1)) :=
    visible_ite (by decide) (.append (by decide) (visible_digitText _))
  have sign : Visible (if magnitude < 0 then "-" else "+") :=
    visible_ite (by decide) (by decide)
  exact ((((visible_digitText _).append part).append (by decide)).append sign).append
    (visible_repr _)

/-- What is written of a double has no blanks. -/
theorem visible_floatText (x : Float) : Visible (floatText x) := by
  rw [floatText]
  refine visible_ite ?_ (by decide)
  rw [Decimal.Layout.render]
  split
  · decide
  · exact visible_ite (by decide) (by decide)
  · refine .append (visible_ite (by decide) (by decide)) (visible_ite (by decide) ?_)
    simp only [Decimal.Layout.magnitudeText, Decimal.Layout.json]
    exact visible_ite (visible_positionalText _ _ (by decide)) (visible_exponentText _ _)

theorem ite_ne_nil {c : Prop} [Decidable c] {s t : String} (hs : s.toList ≠ [])
    (ht : t.toList ≠ []) : (if c then s else t).toList ≠ [] := by
  split
  · exact hs
  · exact ht

theorem positionalText_ne_nil (ds : List Nat) (magnitude : Int) {ending : String}
    (h : ending.toList ≠ []) : (Decimal.positionalText ds magnitude ending).toList ≠ [] := by
  rw [Decimal.positionalText]
  refine ite_ne_nil (by simp) (ite_ne_nil ?_ (by simp))
  simp [h]

theorem exponentText_ne_nil (ds : List Nat) (magnitude : Int) :
    (Decimal.exponentText ds magnitude).toList ≠ [] := by
  simp [Decimal.exponentText]

/-- And it is not empty. -/
theorem floatText_ne_nil (x : Float) : (floatText x).toList ≠ [] := by
  rw [floatText]
  refine ite_ne_nil ?_ (by decide)
  rw [Decimal.Layout.render]
  split
  · decide
  · exact ite_ne_nil (by decide) (by decide)
  · rw [String.toList_append]
    refine List.append_ne_nil_of_right_ne_nil _ (ite_ne_nil (by decide) ?_)
    simp only [Decimal.Layout.magnitudeText, Decimal.Layout.json]
    exact ite_ne_nil (positionalText_ne_nil _ _ (by decide)) (exponentText_ne_nil _ _)

/-! ## Blanks -/

theorem isBlankByte_of_lt {b : UInt8} (h : 0x20 < b.toNat) : isBlankByte b = false := by
  have other : ∀ b' : UInt8, b'.toNat ≤ 0x20 → (b == b') = false := by
    intro b' hb'
    rw [beq_eq_false_iff_ne]
    rintro rfl
    omega
  simp only [isBlankByte, other 0x20 (by decide), other 0x09 (by decide), other 0x0a (by decide),
    other 0x0d (by decide), Bool.or_self]

theorem skipBlanks_cons {b : UInt8} (h : isBlankByte b = false) (bs : List UInt8) :
    skipBlanks (b :: bs) = b :: bs :=
  List.dropWhile_cons_of_neg (by simp [h])

theorem skipBlanks_of_forall {bs : List UInt8} (h : ∀ b ∈ bs, isBlankByte b = false) :
    skipBlanks bs = bs := by
  cases bs with
  | nil => rfl
  | cons b bs => exact skipBlanks_cons (h b List.mem_cons_self) bs

theorem skipBlanks_idem (bs : List UInt8) : skipBlanks (skipBlanks bs) = skipBlanks bs :=
  List.dropWhile_idempotent _ bs

/-! ## Rules of reading -/

variable {bs r : List UInt8} {n : Numeral} {j : Json} {js : List Json} {name : Option String}
  {ms : List (Option String × Json)}

theorem readValue?_skipBlanks (fuel : Nat) (bs : List UInt8) :
    readValue? fuel (skipBlanks bs) = readValue? fuel bs := by
  cases fuel with
  | zero => rfl
  | succ fuel => simp only [readValue?, skipBlanks_idem]

theorem readElements?_skipBlanks (fuel : Nat) (bs : List UInt8) :
    readElements? fuel (skipBlanks bs) = readElements? fuel bs := by
  cases fuel with
  | zero => rfl
  | succ fuel => simp only [readElements?, readValue?_skipBlanks]

/-- A numeral begins with a minus sign or a digit. -/
theorem head_of_readNumeral? {b : UInt8} (h : readNumeral? (b :: bs) = some (n, r)) :
    b = 0x2d ∨ isDigitByte b = true := by
  by_cases minus : b = 0x2d
  · exact .inl minus
  · right
    rw [readNumeral?_cons, if_neg minus, readUnsigned?] at h
    obtain ⟨⟨whole, r'⟩, hwhole, -⟩ := Option.bind_eq_some_iff.1 h
    by_contra hdigit
    have hspan : spanDigits (b :: bs) = ([], b :: bs) := by
      rw [spanDigits, List.takeWhile_cons_of_neg hdigit, List.dropWhile_cons_of_neg hdigit]
      rfl
    rw [readWhole?, hspan] at hwhole
    cases hwhole

/-- A numeral is read as a number. -/
theorem readValue?_numeral (h : readNumeral? bs = some (n, r)) (fuel : Nat) :
    readValue? (fuel + 1) bs = some (.number n, r) := by
  cases bs with
  | nil => cases h
  | cons b bs =>
    have range : 0x2d ≤ b.toNat ∧ b.toNat ≤ 0x39 := by
      obtain rfl | hdigit := head_of_readNumeral? h
      · decide
      · simp only [isDigitByte, Bool.and_eq_true, decide_eq_true_eq, UInt8.le_iff_toNat_le]
          at hdigit
        exact ⟨Nat.le_trans (by decide) hdigit.1, hdigit.2⟩
    have other : ∀ b' : UInt8, b'.toNat < 0x2d ∨ 0x39 < b'.toNat → b ≠ b' := by
      rintro b' hb' rfl
      omega
    have blank : isBlankByte b = false := isBlankByte_of_lt (by omega)
    simp only [readValue?, skipBlanks_cons blank, if_neg (other 0x22 (by decide)),
      if_neg (other 0x7b (by decide)), if_neg (other 0x5b (by decide)),
      if_neg (other 0x6e (by decide)), if_neg (other 0x74 (by decide)),
      if_neg (other 0x66 (by decide)), h, Option.map_some]

/-- And only numerals are. -/
theorem readNumeral?_of_readValue? (h : readValue? fuel bs = some (.number n, r)) :
    readNumeral? (skipBlanks bs) = some (n, r) := by
  cases fuel with
  | zero => cases h
  | succ fuel =>
    rw [readValue?] at h
    split at h
    · cases h
    · next b t hskip =>
      rw [hskip]
      split at h
      · obtain ⟨_, -, heq⟩ := Option.map_eq_some_iff.1 h
        cases heq
      split at h
      · split at h
        · cases h
        · obtain ⟨_, -, heq⟩ := Option.map_eq_some_iff.1 h
          cases heq
      split at h
      · split at h
        · cases h
        · obtain ⟨_, -, heq⟩ := Option.map_eq_some_iff.1 h
          cases heq
      split at h
      · obtain ⟨_, -, heq⟩ := Option.map_eq_some_iff.1 h
        cases heq
      split at h
      · obtain ⟨_, -, heq⟩ := Option.map_eq_some_iff.1 h
        cases heq
      split at h
      · obtain ⟨_, -, heq⟩ := Option.map_eq_some_iff.1 h
        cases heq
      · obtain ⟨_, hnumeral, heq⟩ := Option.map_eq_some_iff.1 h
        cases heq
        exact hnumeral

/-- Elements between brackets are read as an array. -/
theorem readValue?_array (h : readElements? fuel bs = some (js, r)) :
    readValue? (fuel + 1) (0x5b :: bs) = some (.array js, r) := by
  have other : ∀ t, skipBlanks bs ≠ 0x5d :: t := by
    intro t hskip
    cases fuel with
    | zero => cases h
    | succ fuel =>
      have hnone : readValue? fuel bs = none := by
        rw [← readValue?_skipBlanks, hskip]
        cases fuel with
        | zero => rfl
        | succ fuel => rfl
      rw [readElements?, hnone] at h
      cases h
  rw [readValue?, skipBlanks_cons rfl]
  dsimp only
  rw [if_neg (by decide), if_neg (by decide), if_pos rfl]
  split
  · next t hskip => exact absurd hskip (other t)
  · rw [readElements?_skipBlanks, h]
    rfl

theorem readElements?_last (h : readValue? fuel bs = some (j, 0x5d :: r)) :
    readElements? (fuel + 1) bs = some ([j], r) := by
  rw [readElements?, h]
  rfl

theorem readElements?_cons (h : readValue? fuel bs = some (j, 0x2c :: r))
    (hjs : readElements? fuel r = some (js, rest)) :
    readElements? (fuel + 1) bs = some (j :: js, rest) := by
  rw [readElements?, h]
  change (readElements? fuel r).map _ = _
  rw [hjs]
  rfl

/-- Members between braces are read as an object. -/
theorem readValue?_object (h : readMembers? fuel (0x22 :: bs) = some (ms, r)) :
    readValue? (fuel + 1) (0x7b :: 0x22 :: bs) = some (.object ms, r) := by
  rw [readValue?]
  change (readMembers? fuel (0x22 :: bs)).map _ = _
  rw [h]
  rfl

theorem readMembers?_last {t : List UInt8} (hname : readLiteral? bs = some (name, 0x3a :: t))
    (h : readValue? fuel t = some (j, 0x7d :: r)) :
    readMembers? (fuel + 1) (0x22 :: bs) = some ([(name, j)], r) := by
  have quote : skipBlanks (0x22 :: bs) = 0x22 :: bs := skipBlanks_cons rfl bs
  have colon : skipBlanks (0x3a :: t) = 0x3a :: t := skipBlanks_cons rfl t
  have brace : skipBlanks (0x7d :: r) = 0x7d :: r := skipBlanks_cons rfl r
  simp only [readMembers?, quote, hname, colon, h, brace]

theorem readMembers?_cons {t : List UInt8} (hname : readLiteral? bs = some (name, 0x3a :: t))
    (h : readValue? fuel t = some (j, 0x2c :: r)) (hms : readMembers? fuel r = some (ms, rest)) :
    readMembers? (fuel + 1) (0x22 :: bs) = some ((name, j) :: ms, rest) := by
  have quote : skipBlanks (0x22 :: bs) = 0x22 :: bs := skipBlanks_cons rfl bs
  have colon : skipBlanks (0x3a :: t) = 0x3a :: t := skipBlanks_cons rfl t
  have comma : skipBlanks (0x2c :: r) = 0x2c :: r := skipBlanks_cons rfl r
  simp only [readMembers?, quote, hname, colon, h, comma, hms, Option.map_some]

/-! ## Doubles in documents -/

/-- What is written of a double that is read back is one numeral, whose value it is. -/
theorem ReadsBack.exists_numeral (h : ReadsBack x) :
    ∃ n, ofText? (floatText x) = some (.number n) ∧
      readNumeral? (encode (floatText x).toList) = some (n, []) := by
  obtain ⟨j, hj, hx⟩ := Option.bind_eq_some_iff.1 h
  cases j with
  | number n =>
    refine ⟨n, hj, ?_⟩
    have visible : ∀ b ∈ encode (floatText x).toList, isBlankByte b = false := fun b hb =>
      isBlankByte_of_lt (lt_toNat_of_mem_encode (by decide) (visible_floatText x) hb)
    rw [ofText?, toList_toUTF8, parse?] at hj
    split at hj
    · next j r hread =>
      split at hj
      · next blanks =>
        cases hj
        have hnumeral := readNumeral?_of_readValue? hread
        rw [skipBlanks_of_forall visible] at hnumeral
        have suffix := (local_readNumeral? _ _ _ hnumeral).1
        rw [skipBlanks_of_forall fun b hb => visible b (suffix.subset hb),
          List.isEmpty_iff] at blanks
        rwa [blanks] at hnumeral
      · cases hj
    · cases hj
  | null => cases hx
  | bool b => cases hx
  | string t => cases hx
  | array xs => cases hx
  | object ms => cases hx

/-! ## Trees of documents -/

namespace Document

mutual

/-- The tree that is read of the text of a document. -/
def tree : Document → Json
  | .null => .null
  | .bool b => .bool b
  | .int i => .number (intNumeral i)
  | .float x => (ofText? (floatText x)).getD .null
  | .string s => .string (some s)
  | .array xs => .array (elementTrees xs)
  | .object ms => .object (memberTrees ms)

def elementTrees : List Document → List Json
  | [] => []
  | x :: xs => x.tree :: elementTrees xs

def memberTrees : List (String × Document) → List (Option String × Json)
  | [] => []
  | (k, x) :: ms => (some k, x.tree) :: memberTrees ms

end

mutual

/-- The doubles in a document. -/
def floats : Document → List Float
  | .float x => [x]
  | .array xs => elementFloats xs
  | .object ms => memberFloats ms
  | _ => []

def elementFloats : List Document → List Float
  | [] => []
  | x :: xs => x.floats ++ elementFloats xs

def memberFloats : List (String × Document) → List Float
  | [] => []
  | (_, x) :: ms => x.floats ++ memberFloats ms

end

theorem encode_array (cs : List Char) (rest : List UInt8) :
    encode ('[' :: (cs ++ [']'])) ++ rest = 0x5b :: (encode cs ++ 0x5d :: rest) := by
  rw [encode_cons, encode_append, List.append_assoc, List.append_assoc]
  rfl

theorem encode_object (cs : List Char) (rest : List UInt8) :
    encode ('\x7b' :: (cs ++ ['\x7d'])) ++ rest = 0x7b :: (encode cs ++ 0x7d :: rest) := by
  rw [encode_cons, encode_append, List.append_assoc, List.append_assoc]
  rfl

theorem encode_literalChars (s : String) (rest : List UInt8) : encode (literalChars s) ++ rest =
    0x22 :: (encode (s.toList.flatMap escapeChar) ++ 0x22 :: rest) := by
  rw [literalChars, encode_cons, encode_append, List.append_assoc, List.append_assoc]
  rfl

/-- A document is not written as nothing. -/
theorem chars_ne_nil (d : Document) : d.chars ≠ [] := by
  cases d with
  | null => exact nofun
  | bool b => cases b <;> exact nofun
  | int i =>
    intro h
    have hread := readNumeral?_int i stops_nil
    rw [chars] at h
    rw [h] at hread
    cases hread
  | float x => exact floatText_ne_nil x
  | string s => exact nofun
  | array xs => exact nofun
  | object ms => exact nofun

theorem encode_elementChars_cons (x y : Document) (xs : List Document) (rest : List UInt8) :
    encode (elementChars (x :: y :: xs)) ++ rest =
      encode x.chars ++ 0x2c :: (encode (elementChars (y :: xs)) ++ rest) := by
  rw [elementChars, encode_append, encode_cons, List.append_assoc, List.append_assoc]
  · rfl
  · exact nofun

theorem encode_memberChars_singleton (k : String) (x : Document) (rest : List UInt8) :
    encode (memberChars [(k, x)]) ++ rest =
      0x22 :: (encode (k.toList.flatMap escapeChar) ++ 0x22 :: 0x3a ::
        (encode x.chars ++ rest)) := by
  rw [memberChars, encode_append, List.append_assoc, encode_literalChars]
  rfl

theorem encode_memberChars_cons (k : String) (x : Document) (m : String × Document)
    (ms : List (String × Document)) (rest : List UInt8) :
    encode (memberChars ((k, x) :: m :: ms)) ++ rest =
      0x22 :: (encode (k.toList.flatMap escapeChar) ++ 0x22 :: 0x3a ::
        (encode x.chars ++ 0x2c :: (encode (memberChars (m :: ms)) ++ rest))) := by
  rw [memberChars, encode_append, List.append_assoc, encode_literalChars, encode_cons,
    encode_append, encode_cons, List.append_assoc, List.append_assoc, List.append_assoc]
  · rfl
  · exact nofun

/-- Members begin with the quote before a name. -/
theorem exists_encode_memberChars (m : String × Document) (ms : List (String × Document))
    (rest : List UInt8) : ∃ bs, encode (memberChars (m :: ms)) ++ rest = 0x22 :: bs := by
  cases ms with
  | nil => exact ⟨_, encode_memberChars_singleton m.1 m.2 rest⟩
  | cons m' ms => exact ⟨_, encode_memberChars_cons m.1 m.2 m' ms rest⟩

-- Reading goes one level down for every value and one for every element or member of a list. Each
-- of them is at least one byte long, which is why two units of fuel for a byte are enough.
mutual

/-- What is written of a document is read as its tree, whatever follows with which no numeral goes
on. -/
theorem readValue?_chars : (d : Document) → (∀ x ∈ d.floats, ReadsBack x) → (fuel : Nat) →
    2 * (encode d.chars).length ≤ fuel → (rest : List UInt8) → Stops rest →
      readValue? fuel (encode d.chars ++ rest) = some (d.tree, rest)
  | .null, _, fuel + 1, _, rest, _ => rfl
  | .bool true, _, fuel + 1, _, rest, _ => rfl
  | .bool false, _, fuel + 1, _, rest, _ => rfl
  | .int i, _, fuel + 1, _, rest, stops => readValue?_numeral (readNumeral?_int i stops) fuel
  | .float x, legible, fuel + 1, _, rest, stops => by
    obtain ⟨n, hn, hnumeral⟩ := (legible x (List.mem_singleton.2 rfl)).exists_numeral
    have hread := (local_readNumeral? _ _ _ hnumeral).2 rest stops
    rw [chars, tree, hn]
    exact readValue?_numeral hread fuel
  | .string s, _, fuel + 1, _, rest, _ => by
    rw [chars, encode_literalChars]
    change (readLiteral? _).map _ = _
    rw [readLiteral?_literal]
    rfl
  | .array [], _, fuel + 1, _, rest, _ => rfl
  | .array (x :: xs), legible, fuel + 1, room, rest, _ => by
    have hroom : 2 * (encode (elementChars (x :: xs))).length < fuel := by
      have hlength := congrArg List.length (encode_array (elementChars (x :: xs)) [])
      rw [chars] at room
      simp only [List.length_append, List.length_cons, List.length_nil] at hlength
      omega
    rw [chars, encode_array]
    exact readValue?_array
      (readElements?_chars (x :: xs) (List.cons_ne_nil _ _) legible fuel hroom rest)
  | .object [], _, fuel + 1, _, rest, _ => rfl
  | .object (m :: ms), legible, fuel + 1, room, rest, _ => by
    have hroom : 2 * (encode (memberChars (m :: ms))).length < fuel := by
      have hlength := congrArg List.length (encode_object (memberChars (m :: ms)) [])
      rw [chars] at room
      simp only [List.length_append, List.length_cons, List.length_nil] at hlength
      omega
    have hread := readMembers?_chars (m :: ms) (List.cons_ne_nil _ _) legible fuel hroom rest
    rw [chars, encode_object]
    obtain ⟨bs, hbs⟩ := exists_encode_memberChars m ms (0x7d :: rest)
    rw [hbs] at hread ⊢
    exact readValue?_object hread
  | d, _, 0, room, rest, _ =>
    absurd (encode_eq_nil.1 (List.length_eq_zero_iff.1 (by omega))) d.chars_ne_nil

theorem readElements?_chars : (xs : List Document) → xs ≠ [] →
    (∀ x ∈ elementFloats xs, ReadsBack x) → (fuel : Nat) →
    2 * (encode (elementChars xs)).length < fuel → (rest : List UInt8) →
      readElements? fuel (encode (elementChars xs) ++ 0x5d :: rest) = some (elementTrees xs, rest)
  | [x], _, legible, fuel + 1, room, rest =>
    readElements?_last (readValue?_chars x (fun y hy => legible y (List.mem_append_left _ hy)) fuel
      (Nat.le_of_lt_succ room) _ (stops_cons.2 (by decide)))
  | x :: y :: xs, _, legible, fuel + 1, room, rest => by
    have hlength := congrArg List.length (encode_elementChars_cons x y xs [])
    simp only [List.length_append, List.length_cons, List.length_nil] at hlength
    rw [encode_elementChars_cons]
    exact readElements?_cons
      (readValue?_chars x (fun z hz => legible z (List.mem_append_left _ hz)) fuel (by omega) _
        (stops_cons.2 (by decide)))
      (readElements?_chars (y :: xs) (List.cons_ne_nil _ _)
        (fun z hz => legible z (List.mem_append_right _ hz)) fuel (by omega) rest)

theorem readMembers?_chars : (ms : List (String × Document)) → ms ≠ [] →
    (∀ x ∈ memberFloats ms, ReadsBack x) → (fuel : Nat) →
    2 * (encode (memberChars ms)).length < fuel → (rest : List UInt8) →
      readMembers? fuel (encode (memberChars ms) ++ 0x7d :: rest) = some (memberTrees ms, rest)
  | [(k, x)], _, legible, fuel + 1, room, rest => by
    have hlength := congrArg List.length (encode_memberChars_singleton k x [])
    simp only [List.length_append, List.length_cons, List.length_nil] at hlength
    rw [encode_memberChars_singleton]
    exact readMembers?_last (readLiteral?_literal k _)
      (readValue?_chars x (fun y hy => legible y (List.mem_append_left _ hy)) fuel (by omega) _
        (stops_cons.2 (by decide)))
  | (k, x) :: m :: ms, _, legible, fuel + 1, room, rest => by
    have hlength := congrArg List.length (encode_memberChars_cons k x m ms [])
    simp only [List.length_append, List.length_cons, List.length_nil] at hlength
    rw [encode_memberChars_cons]
    exact readMembers?_cons (readLiteral?_literal k _)
      (readValue?_chars x (fun y hy => legible y (List.mem_append_left _ hy)) fuel (by omega) _
        (stops_cons.2 (by decide)))
      (readMembers?_chars (m :: ms) (List.cons_ne_nil _ _)
        (fun y hy => legible y (List.mem_append_right _ hy)) fuel (by omega) rest)

end

/-- The text of a document, with blanks behind it, is read as its tree. -/
theorem parse?_chars (d : Document) (legible : ∀ x ∈ d.floats, ReadsBack x) {bs : List UInt8}
    (blanks : ∀ b ∈ bs, isBlankByte b = true) : parse? (encode d.chars ++ bs) = some d.tree := by
  have stops : Stops bs := by
    intro b hb
    have hblank := blanks b (List.mem_of_mem_head? hb)
    simp only [isBlankByte, Bool.or_eq_true, beq_iff_eq] at hblank
    obtain ((rfl | rfl) | rfl) | rfl := hblank <;> decide
  have hskip : skipBlanks bs = [] := List.dropWhile_eq_nil_iff.2 blanks
  rw [parse?, readValue?_chars d legible _ (by rw [List.length_append]; omega) bs stops]
  simp only [hskip, List.isEmpty_nil, if_true]

/-! ## No control characters -/

mutual

/-- A document is written without control characters. -/
theorem le_toNat_of_mem_chars : (d : Document) → ∀ c ∈ d.chars, 0x20 ≤ c.toNat
  | .null => fun c hc => Nat.le_of_lt ((by decide : Visible "null") c hc)
  | .bool true => fun c hc => Nat.le_of_lt ((by decide : Visible "true") c hc)
  | .bool false => fun c hc => Nat.le_of_lt ((by decide : Visible "false") c hc)
  | .int i => fun c hc => Nat.le_of_lt (visible_int i c hc)
  | .float x => fun c hc => Nat.le_of_lt (visible_floatText x c hc)
  | .string s => fun c hc => le_toNat_of_mem_literalChars hc
  | .array xs => by
    rw [chars, List.forall_mem_cons, List.forall_mem_append, List.forall_mem_singleton]
    exact ⟨by decide, le_toNat_of_mem_elementChars xs, by decide⟩
  | .object ms => by
    rw [chars, List.forall_mem_cons, List.forall_mem_append, List.forall_mem_singleton]
    exact ⟨by decide, le_toNat_of_mem_memberChars ms, by decide⟩

theorem le_toNat_of_mem_elementChars : (xs : List Document) →
    ∀ c ∈ elementChars xs, 0x20 ≤ c.toNat
  | [] => nofun
  | [x] => le_toNat_of_mem_chars x
  | x :: y :: xs => by
    rw [elementChars, List.forall_mem_append, List.forall_mem_cons]
    · exact ⟨le_toNat_of_mem_chars x, by decide, le_toNat_of_mem_elementChars (y :: xs)⟩
    · exact nofun

theorem le_toNat_of_mem_memberChars : (ms : List (String × Document)) →
    ∀ c ∈ memberChars ms, 0x20 ≤ c.toNat
  | [] => nofun
  | [(k, x)] => by
    rw [memberChars, List.forall_mem_append, List.forall_mem_cons]
    exact ⟨fun c hc => le_toNat_of_mem_literalChars hc, by decide, le_toNat_of_mem_chars x⟩
  | (k, x) :: m :: ms => by
    rw [memberChars, List.forall_mem_append, List.forall_mem_cons, List.forall_mem_append,
      List.forall_mem_cons]
    · exact ⟨fun c hc => le_toNat_of_mem_literalChars hc, by decide, le_toNat_of_mem_chars x,
        by decide, le_toNat_of_mem_memberChars (m :: ms)⟩
    · exact nofun

end

/-- So no line ends in it. -/
theorem lineFeed_not_mem_chars (d : Document) : 0x0a ∉ encode d.chars := by
  intro h
  have hlt := lt_toNat_of_mem_encode (n := 0x1f) (by decide) (le_toNat_of_mem_chars d) h
  revert hlt
  decide

end Document

end PredictiveScaling.Json
