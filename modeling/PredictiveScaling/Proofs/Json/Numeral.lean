import PredictiveScaling.Proofs.Json.Literal

/-!
# Numerals are read back

A numeral ends where no further digit, point or exponent follows. What is read of it depends on
nothing behind that (`Json.local_readNumeral?`). The decimal digits of an integer are read as the
same digits, and they are its value as long as that is not too large (`Json.value?_intNumeral`).
-/
namespace PredictiveScaling.Json

variable {α β : Type} {bs rest : List UInt8}

/-! ## Readers that look no further -/

/-- No numeral goes on here. -/
def Stops (bs : List UInt8) : Prop :=
  ∀ b ∈ bs.head?, isDigitByte b = false ∧ b ≠ 0x2e ∧ b ≠ 0x65 ∧ b ≠ 0x45


/-- What is read from the start leaves an end of the text, and is the same if more follows with
which no numeral goes on. -/
def Local (f : List UInt8 → Option (α × List UInt8)) : Prop :=
  ∀ bs x r, f bs = some (x, r) →
    r <:+ bs ∧ ∀ rest, Stops rest → f (bs ++ rest) = some (x, r ++ rest)

theorem stops_nil : Stops [] := nofun

theorem stops_cons {b : UInt8} :
    Stops (b :: bs) ↔ isDigitByte b = false ∧ b ≠ 0x2e ∧ b ≠ 0x65 ∧ b ≠ 0x45 := by
  simp [Stops]

theorem Local.bind {f : List UInt8 → Option (α × List UInt8)}
    {g : α → List UInt8 → Option (β × List UInt8)} (hf : Local f) (hg : ∀ x, Local (g x)) :
    Local fun bs => (f bs).bind fun p => g p.1 p.2 := by
  intro bs y r h
  obtain ⟨⟨x, r'⟩, hx, hy⟩ := Option.bind_eq_some_iff.1 h
  obtain ⟨suffix, extend⟩ := hf bs x r' hx
  obtain ⟨suffix', extend'⟩ := hg x r' y r hy
  refine ⟨suffix'.trans suffix, fun rest stops => ?_⟩
  simp only [extend rest stops, Option.bind_some]
  exact extend' rest stops

theorem Local.map {f : List UInt8 → Option (α × List UInt8)} (hf : Local f) (g : α → β) :
    Local fun bs => (f bs).map fun p => (g p.1, p.2) := by
  intro bs y r h
  obtain ⟨⟨x, r'⟩, hx, hy⟩ := Option.map_eq_some_iff.1 h
  cases hy
  obtain ⟨suffix, extend⟩ := hf bs x r' hx
  refine ⟨suffix, fun rest stops => ?_⟩
  simp only [extend rest stops, Option.map_some]

theorem Local.filter {f : List UInt8 → Option (α × List UInt8)} (hf : Local f)
    (accept : α → Bool) : Local fun bs => (f bs).filter fun p => accept p.1 := by
  intro bs x r h
  obtain ⟨hx, haccept⟩ := Option.filter_eq_some_iff.1 h
  obtain ⟨suffix, extend⟩ := hf bs x r hx
  refine ⟨suffix, fun rest stops => ?_⟩
  simp only [extend rest stops]
  exact Option.filter_eq_some_iff.2 ⟨rfl, haccept⟩

theorem spanDigits_append (stops : Stops rest) (bs : List UInt8) :
    spanDigits (bs ++ rest) = ((spanDigits bs).1, (spanDigits bs).2 ++ rest) := by
  induction bs with
  | nil =>
    cases rest with
    | nil => rfl
    | cons b rest =>
      have hb : isDigitByte b = false := (stops_cons.1 stops).1
      simp [spanDigits, hb]
  | cons b bs ih =>
    simp only [spanDigits, Prod.mk.injEq] at ih
    by_cases hb : isDigitByte b = true
    · simp [spanDigits, hb, ih]
    · simp [spanDigits, hb]

theorem local_spanDigits : Local fun bs => some (spanDigits bs) := by
  intro bs ds r h
  have hspan : spanDigits bs = (ds, r) := Option.some.inj h
  have hsuffix : (spanDigits bs).2 <:+ bs := List.dropWhile_suffix _
  rw [hspan] at hsuffix
  refine ⟨hsuffix, fun rest stops => ?_⟩
  simp only [spanDigits_append stops, hspan]

/-- Digits of which there has to be at least one. -/
def someDigits? (bs : List UInt8) : Option (List Nat × List UInt8) :=
  (some (spanDigits bs)).filter fun p => p.1 ≠ []

theorem local_someDigits? : Local someDigits? := local_spanDigits.filter fun ds => ds ≠ []

/-- Whether no zero stands in front of other digits. -/
def plainDigits (ds : List Nat) : Bool := ds.head? ≠ some 0 || ds.length = 1

theorem readWhole?_eq (bs : List UInt8) :
    readWhole? bs = (someDigits? bs).filter fun p => plainDigits p.1 := by
  rw [readWhole?, someDigits?]
  rcases spanDigits bs with ⟨_ | ⟨d, _ | ⟨d', ds⟩⟩, r⟩
  · rfl
  · cases d <;> rfl
  · cases d <;> rfl

theorem local_readWhole? : Local readWhole? := by
  rw [funext readWhole?_eq]
  exact local_someDigits?.filter plainDigits

theorem readPart?_point (bs : List UInt8) :
    readPart? (0x2e :: bs) = (someDigits? bs).map fun p => (some p.1, p.2) := by
  rw [readPart?, someDigits?]
  rcases spanDigits bs with ⟨_ | ⟨d, ds⟩, r⟩ <;> rfl

theorem readPart?_of_ne {b : UInt8} (h : b ≠ 0x2e) (bs : List UInt8) :
    readPart? (b :: bs) = some (none, b :: bs) := by
  rw [readPart?.eq_def]
  split
  · next hb => exact absurd (List.cons.inj hb).1 h
  · rfl

theorem readPart?_of_stops (stops : Stops rest) : readPart? rest = some (none, rest) := by
  cases rest with
  | nil => rfl
  | cons b rest => exact readPart?_of_ne (stops_cons.1 stops).2.1 rest

theorem local_readPart? : Local readPart? := by
  intro bs part r h
  cases bs with
  | nil =>
    cases h
    exact ⟨List.suffix_refl _, fun rest stops => readPart?_of_stops stops⟩
  | cons b bs =>
    by_cases hb : b = 0x2e
    · subst hb
      rw [readPart?_point] at h
      obtain ⟨suffix, extend⟩ := local_someDigits?.map some bs part r h
      refine ⟨suffix.trans (List.suffix_cons _ _), fun rest stops => ?_⟩
      rw [List.cons_append, readPart?_point]
      exact extend rest stops
    · rw [readPart?_of_ne hb] at h
      cases h
      exact ⟨List.suffix_refl _, fun rest _ => readPart?_of_ne hb (bs ++ rest)⟩

/-- The sign of an exponent, and what is behind it. -/
def readSign : List UInt8 → Bool × List UInt8
  | 0x2d :: r => (true, r)
  | 0x2b :: r => (false, r)
  | r => (false, r)

theorem readSign_cons (b : UInt8) (bs : List UInt8) : readSign (b :: bs) =
    if b = 0x2d then (true, bs) else if b = 0x2b then (false, bs) else (false, b :: bs) := by
  rw [readSign.eq_def]
  split
  · next h =>
    obtain ⟨rfl, rfl⟩ := List.cons.inj h
    rfl
  · next h =>
    obtain ⟨rfl, rfl⟩ := List.cons.inj h
    rfl
  · next hminus hplus =>
    rw [if_neg, if_neg]
    · rintro rfl
      exact hplus bs rfl
    · rintro rfl
      exact hminus bs rfl

theorem readSign_cons_append (b : UInt8) (bs rest : List UInt8) :
    readSign (b :: bs ++ rest) = ((readSign (b :: bs)).1, (readSign (b :: bs)).2 ++ rest) := by
  rw [List.cons_append, readSign_cons, readSign_cons]
  split
  · rfl
  · split <;> rfl

theorem suffix_readSign (b : UInt8) (bs : List UInt8) : (readSign (b :: bs)).2 <:+ b :: bs := by
  rw [readSign_cons]
  split
  · exact List.suffix_cons _ _
  · split
    · exact List.suffix_cons _ _
    · exact List.suffix_refl _

theorem readExponent?_letter {b : UInt8} (h : b = 0x65 ∨ b = 0x45) (bs : List UInt8) :
    readExponent? (b :: bs) = (someDigits? (readSign bs).2).map fun p =>
      (some ((readSign bs).1, p.1), p.2) := by
  simp only [readExponent?, if_pos h, someDigits?, readSign]
  generalize spanDigits _ = span
  rcases span with ⟨_ | ⟨d, ds⟩, r⟩ <;> rfl

theorem readExponent?_of_ne {b : UInt8} (h : ¬ (b = 0x65 ∨ b = 0x45)) (bs : List UInt8) :
    readExponent? (b :: bs) = some (none, b :: bs) := by
  simp only [readExponent?, if_neg h]

theorem readExponent?_of_stops (stops : Stops rest) :
    readExponent? rest = some (none, rest) := by
  cases rest with
  | nil => rfl
  | cons b rest => exact readExponent?_of_ne (not_or.2 (stops_cons.1 stops).2.2) rest

theorem local_readExponent? : Local readExponent? := by
  intro bs exponent r h
  cases bs with
  | nil =>
    cases h
    exact ⟨List.suffix_refl _, fun rest stops => readExponent?_of_stops stops⟩
  | cons b bs =>
    by_cases hb : b = 0x65 ∨ b = 0x45
    · rw [readExponent?_letter hb] at h
      cases bs with
      | nil => cases h
      | cons b' bs =>
        obtain ⟨suffix, extend⟩ := local_someDigits?.map
          (fun ds => some ((readSign (b' :: bs)).1, ds)) _ exponent r h
        refine ⟨(suffix.trans (suffix_readSign b' bs)).trans (List.suffix_cons _ _),
          fun rest stops => ?_⟩
        rw [List.cons_append, readExponent?_letter hb, readSign_cons_append]
        exact extend rest stops
    · rw [readExponent?_of_ne hb] at h
      cases h
      exact ⟨List.suffix_refl _, fun rest _ => readExponent?_of_ne hb (bs ++ rest)⟩

/-! ## Numerals -/

/-- What follows the sign of a numeral. -/
def readUnsigned? (negative : Bool) (bs : List UInt8) : Option (Numeral × List UInt8) :=
  (readWhole? bs).bind fun whole => (readPart? whole.2).bind fun part =>
    (readExponent? part.2).map fun exponent =>
      (⟨negative, whole.1, part.1, exponent.1⟩, exponent.2)

theorem local_readUnsigned? (negative : Bool) : Local (readUnsigned? negative) := by
  have exponents : ∀ whole part, Local fun bs => (readExponent? bs).map fun p =>
      ((⟨negative, whole, part, p.1⟩ : Numeral), p.2) :=
    fun whole part => local_readExponent?.map _
  have parts : ∀ whole, Local fun bs => (readPart? bs).bind fun p =>
      (readExponent? p.2).map fun q => ((⟨negative, whole, p.1, q.1⟩ : Numeral), q.2) :=
    fun whole => local_readPart?.bind (exponents whole)
  exact local_readWhole?.bind parts

/-- Before the digits of a numeral there may be a minus sign. -/
theorem readNumeral?_cons (b : UInt8) (bs : List UInt8) : readNumeral? (b :: bs) =
    if b = 0x2d then readUnsigned? true bs else readUnsigned? false (b :: bs) := by
  by_cases hb : b = 0x2d
  · subst hb
    rw [if_pos rfl]
    simp only [readNumeral?, readUnsigned?, Option.bind_eq_bind]
    refine Option.bind_congr fun whole _ => Option.bind_congr fun part _ => ?_
    cases readExponent? part.2 <;> rfl
  · have other : ∀ r, b :: bs = 0x2d :: r → False := fun r h => hb (List.cons.inj h).1
    rw [if_neg hb]
    simp only [readNumeral?, readUnsigned?, Option.bind_eq_bind]
    refine Option.bind_congr fun whole _ => Option.bind_congr fun part _ => ?_
    cases readExponent? part.2 <;> rfl

theorem local_readNumeral? : Local readNumeral? := by
  intro bs n r h
  cases bs with
  | nil => cases h
  | cons b bs =>
    simp only [List.cons_append, readNumeral?_cons] at h ⊢
    split at h
    · next minus =>
      obtain ⟨suffix, extend⟩ := local_readUnsigned? true bs n r h
      refine ⟨suffix.trans (List.suffix_cons _ _), fun rest stops => ?_⟩
      rw [if_pos minus]
      exact extend rest stops
    · next unsigned =>
      obtain ⟨suffix, extend⟩ := local_readUnsigned? false _ n r h
      refine ⟨suffix, fun rest stops => ?_⟩
      rw [if_neg unsigned]
      exact extend rest stops

/-! ## Integers -/

/-- The decimal digits of a number. -/
def digitValues (n : Nat) : List Nat := (Nat.toDigits 10 n).map fun c => c.toNat - 0x30

/-- The numeral that is written of an integer. -/
def intNumeral (i : Int) : Numeral := ⟨decide (i < 0), digitValues i.natAbs, none, none⟩

theorem spanDigits_encode {cs : List Char} (digits : ∀ c ∈ cs, c.isDigit = true) :
    spanDigits (encode cs) = (cs.map fun c => c.toNat - 0x30, []) := by
  induction cs with
  | nil => rfl
  | cons c cs ih =>
    obtain ⟨hc, hcs⟩ := List.forall_mem_cons.1 digits
    have hbounds : 0x30 ≤ c.toNat ∧ c.toNat ≤ 0x39 := Char.isDigit_iff_toNat.1 hc
    have hbyte : (UInt8.ofNat c.toNat).toNat = c.toNat := by
      rw [UInt8.toNat_ofNat', Nat.mod_eq_of_lt (by omega)]
    have hdigit : isDigitByte (UInt8.ofNat c.toNat) = true := by
      simp only [isDigitByte, Bool.and_eq_true, decide_eq_true_eq, UInt8.le_iff_toNat_le, hbyte]
      exact hbounds
    have hrest := ih hcs
    simp only [spanDigits, Prod.mk.injEq] at hrest ⊢
    rw [encode_cons, utf8EncodeChar_of_lt (by omega), List.singleton_append,
      List.takeWhile_cons_of_pos hdigit, List.dropWhile_cons_of_pos hdigit, List.map_cons,
      List.map_cons, hrest.1, hbyte]
    exact ⟨rfl, hrest.2⟩

/-- Only zero begins with a zero. -/
theorem digitValues_cases (n : Nat) :
    digitValues n = [n] ∨ ∃ d d' ds, digitValues n = (d + 1) :: d' :: ds := by
  induction n using Nat.strongRecOn with
  | ind n ih =>
    by_cases h : n < 10
    · left
      rw [digitValues, Nat.toDigits_of_lt_base h]
      exact congrArg (· :: []) (Nat.toNat_digitChar_sub_48_of_lt_ten h)
    · right
      have hsplit : digitValues n = digitValues (n / 10) ++ [(n % 10).digitChar.toNat - 0x30] := by
        rw [digitValues, Nat.toDigits_of_base_le (by decide) (Nat.not_lt.1 h), List.map_append]
        rfl
      obtain hone | ⟨d, d', ds, hmany⟩ := ih (n / 10) (by omega)
      · obtain ⟨d, hd⟩ : ∃ d, n / 10 = d + 1 := ⟨n / 10 - 1, by omega⟩
        exact ⟨d, _, [], by rw [hsplit, hone, hd]; rfl⟩
      · exact ⟨d, d', _, by rw [hsplit, hmany]; rfl⟩

/-- Digits alone are read as a numeral. -/
theorem readUnsigned?_digits (negative : Bool) (n : Nat) (stops : Stops rest) :
    readUnsigned? negative (encode (Nat.toDigits 10 n) ++ rest) =
      some (⟨negative, digitValues n, none, none⟩, rest) := by
  have hspan : spanDigits (encode (Nat.toDigits 10 n) ++ rest) = (digitValues n, rest) := by
    rw [spanDigits_append stops, spanDigits_encode fun c =>
      Nat.isDigit_of_mem_toDigits (by decide) (by decide)]
    rfl
  have hwhole : readWhole? (encode (Nat.toDigits 10 n) ++ rest) = some (digitValues n, rest) := by
    rw [readWhole?, hspan]
    obtain hone | ⟨d, d', ds, hmany⟩ := digitValues_cases n
    · rw [hone]
      cases n <;> rfl
    · rw [hmany]
      rfl
  simp only [readUnsigned?, hwhole, Option.bind_some, readPart?_of_stops stops,
    readExponent?_of_stops stops, Option.map_some]

/-- What is written of an integer is read as its numeral. -/
theorem readNumeral?_int (i : Int) (stops : Stops rest) :
    readNumeral? (encode (toString i).toList ++ rest) = some (intNumeral i, rest) := by
  cases i with
  | ofNat n =>
    have htext : (toString (Int.ofNat n)).toList = Nat.toDigits 10 n := Nat.toList_repr
    have hread := readUnsigned?_digits false n stops
    rw [htext]
    cases hdigits : Nat.toDigits 10 n with
    | nil => exact absurd hdigits Nat.toDigits_ne_nil
    | cons c cs =>
      have hc : c.isDigit = true :=
        Nat.isDigit_of_mem_toDigits (by decide) (by decide) (hdigits ▸ List.mem_cons_self)
      have hbounds : 0x30 ≤ c.toNat ∧ c.toNat ≤ 0x39 := Char.isDigit_iff_toNat.1 hc
      have hminus : UInt8.ofNat c.toNat ≠ 0x2d := by
        intro h
        have hnat := congrArg UInt8.toNat h
        rw [UInt8.toNat_ofNat', Nat.mod_eq_of_lt (by omega)] at hnat
        have hvalue : (0x2d : UInt8).toNat = 0x2d := rfl
        omega
      have hbytes : encode (c :: cs) = UInt8.ofNat c.toNat :: encode cs := by
        rw [encode_cons, utf8EncodeChar_of_lt (by omega)]
        rfl
      rw [hdigits, hbytes, List.cons_append] at hread
      rw [hbytes, List.cons_append, readNumeral?_cons, if_neg hminus, hread, intNumeral]
      rfl
  | negSucc m =>
    have htext : (toString (Int.negSucc m)).toList = '-' :: Nat.toDigits 10 (m + 1) := by
      have happend : toString (Int.negSucc m) = "-" ++ (m + 1).repr := rfl
      rw [happend, String.toList_append, Nat.toList_repr]
      rfl
    have hbytes : encode ('-' :: Nat.toDigits 10 (m + 1)) =
        0x2d :: encode (Nat.toDigits 10 (m + 1)) := rfl
    rw [htext, hbytes, List.cons_append, readNumeral?_cons, if_pos rfl,
      readUnsigned?_digits true (m + 1) stops, intNumeral,
      decide_eq_true (Int.negSucc_lt_zero m)]
    rfl

/-! ## Values -/

theorem le_ofDigitChars (cs : List Char) (n : Nat) : n ≤ Nat.ofDigitChars 10 cs n := by
  rw [Nat.ofDigitChars_eq_ofDigitChars_zero]
  have hpos : 0 < 10 ^ cs.length := Nat.pow_pos (by decide)
  have hle : n ≤ 10 ^ cs.length * n := Nat.le_mul_of_pos_left n hpos
  omega

/-- Digits of a number that is not too large are all taken into the significand. -/
theorem takeWhole_map {cs : List Char} {n : Nat}
    (fits : Nat.ofDigitChars 10 cs n ≤ maxSignificand) :
    takeWhole n (cs.map fun c => c.toNat - 0x30) = (Nat.ofDigitChars 10 cs n, 0) := by
  induction cs generalizing n with
  | nil => rw [Nat.ofDigitChars_nil]; rfl
  | cons c cs ih =>
    rw [Nat.ofDigitChars_cons] at fits ⊢
    have hle := Nat.le_trans (le_ofDigitChars cs _) fits
    rw [List.map_cons, takeWhole]
    exact (if_pos hle).trans (ih fits)

theorem takeWhole_digitValues {n : Nat} (fits : n ≤ maxSignificand) :
    takeWhole 0 (digitValues n) = (n, 0) := by
  have hfits : Nat.ofDigitChars 10 (Nat.toDigits 10 n) 0 ≤ maxSignificand := by
    rwa [Nat.ofDigitChars_ten_toDigits]
  rw [digitValues, takeWhole_map hfits, Nat.ofDigitChars_ten_toDigits]

/-- A natural number that is not too large is the value of its numeral. -/
theorem value?_intNumeral {n : Nat} (fits : n ≤ maxSignificand) :
    (intNumeral n).value? = some (.nat n) := by
  have hsign : decide ((n : Int) < 0) = false := decide_eq_false (by omega)
  simp only [intNumeral, Numeral.value?, Int.natAbs_natCast, takeWhole_digitValues fits, hsign]
  rfl

/-- The same of a number below zero, as far as 64-bit integers go. -/
theorem value?_intNumeral_neg {n : Nat} (pos : 0 < n) (fits : n ≤ Decimal.twoTo 63) :
    (intNumeral (-n)).value? = some (.negative n) := by
  have htake := takeWhole_digitValues (Nat.le_trans fits (by decide))
  have hsign : decide (-(n : Int) < 0) = true := decide_eq_true (by omega)
  simp only [intNumeral, Numeral.value?, Int.natAbs_neg, Int.natAbs_natCast, htake, hsign]
  simp [pos, fits]

/-- An integer of 64 bits is read of its numeral. -/
theorem toInt?_intNumeral {i : Int} (lower : -(Decimal.twoTo 63 : Int) ≤ i)
    (upper : i ≤ maxSignificand) : (intNumeral i).value?.bind Number.toInt? = some i := by
  cases i with
  | ofNat n =>
    have hvalue := value?_intNumeral (Int.ofNat_le.1 upper)
    rw [Int.ofNat_eq_natCast, hvalue]
    rfl
  | negSucc n =>
    have hvalue := value?_intNumeral_neg (Nat.succ_pos n)
      (show n + 1 ≤ Decimal.twoTo 63 by simp only [Int.negSucc_eq] at lower; omega)
    rw [Int.negSucc_eq]
    exact (congrArg (Option.bind · _) hvalue).trans rfl

end PredictiveScaling.Json
