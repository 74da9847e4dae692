import PredictiveScaling.Json.Document
import PredictiveScaling.Json.Reader

/-!
# String literals are read back

What is written of a string is a literal without control characters, in which only quotes and
backslashes stand for themselves behind a backslash. Reading takes it apart into bytes and escaped
units, one character after the other (`Json.Escapes.scanLiteral_append`), and puts the same bytes
together again (`Json.readLiteral?_literal`).
-/
namespace PredictiveScaling.Json

/-! ## Bytes of characters -/

/-- The bytes of characters, one after the other. -/
def encode (cs : List Char) : List UInt8 := cs.flatMap String.utf8EncodeChar

variable {c : Char} {cs : List Char} {s : String} {rest : List UInt8}

@[simp] theorem encode_nil : encode [] = [] := rfl

@[simp] theorem encode_cons (c : Char) (cs : List Char) :
    encode (c :: cs) = String.utf8EncodeChar c ++ encode cs := rfl

@[simp] theorem encode_append (cs ds : List Char) : encode (cs ++ ds) = encode cs ++ encode ds :=
  List.flatMap_append

theorem encode_eq_nil : encode cs = [] ↔ cs = [] := by
  cases cs with
  | nil => simp
  | cons c cs => simp [String.utf8EncodeChar_ne_nil]

theorem toList_loop (a : ByteArray) (i : Nat) (acc : List UInt8) :
    ByteArray.toList.loop a i acc = acc.reverse ++ a.data.toList.drop i := by
  fun_induction ByteArray.toList.loop a i acc with
  | case1 i acc h ih =>
    have hi : i < a.data.toList.length := h
    rw [ih, List.drop_eq_getElem_cons hi, List.reverse_cons, List.append_assoc]
    simp [ByteArray.get!, h]
  | case2 i acc h =>
    have hi : a.data.toList.length ≤ i := Nat.not_lt.1 h
    rw [List.drop_eq_nil_of_le hi, List.append_nil]

theorem toList_toUTF8 (s : String) : s.toUTF8.toList = encode s.toList := by
  rw [ByteArray.toList, toList_loop, String.toUTF8_eq_toByteArray, ← String.utf8Encode_toList]
  simp [List.utf8Encode, encode]

theorem fromUTF8?_encode (s : String) :
    String.fromUTF8? ⟨(encode s.toList).toArray⟩ = some s := by
  have hbytes : (⟨(encode s.toList).toArray⟩ : ByteArray) = s.toByteArray := by
    rw [← String.utf8Encode_toList, List.utf8Encode]
    ext1
    rw [List.data_toByteArray]
    rfl
  rw [hbytes, String.fromUTF8?, dif_pos s.isValidUTF8]
  rfl

/-- A character up to 127 is one byte, and all bytes of the others are greater. -/
theorem utf8EncodeChar_of_lt (h : c.toNat < 128) :
    String.utf8EncodeChar c = [UInt8.ofNat c.toNat] := by
  have hle : c.val.toNat ≤ 0x7f := Nat.le_of_lt_succ h
  rw [String.utf8EncodeChar, if_pos hle]
  rfl

theorem le_of_mem_utf8EncodeChar (h : 128 ≤ c.toNat) {b : UInt8}
    (hb : b ∈ String.utf8EncodeChar c) : 128 ≤ b := by
  have hnot : ¬ c.val.toNat ≤ 0x7f := Nat.not_le.2 h
  have high : ∀ n, 128 ≤ n → n < 256 → 128 ≤ UInt8.ofNat n := by
    intro n hle hlt
    rw [UInt8.le_iff_toNat_le, UInt8.toNat_ofNat', Nat.mod_eq_of_lt hlt]
    exact hle
  rw [String.utf8EncodeChar, if_neg hnot] at hb
  split at hb
  · simp only [List.mem_cons, List.not_mem_nil, or_false] at hb
    rcases hb with rfl | rfl <;> exact high _ (by omega) (by omega)
  · split at hb
    · simp only [List.mem_cons, List.not_mem_nil, or_false] at hb
      rcases hb with rfl | rfl | rfl <;> exact high _ (by omega) (by omega)
    · simp only [List.mem_cons, List.not_mem_nil, or_false] at hb
      rcases hb with rfl | rfl | rfl | rfl <;> exact high _ (by omega) (by omega)

/-- Characters above an ASCII character have bytes above it. -/
theorem lt_toNat_of_mem_encode {n : Nat} (ascii : n < 128) (above : ∀ c ∈ cs, n < c.toNat)
    {b : UInt8} (hb : b ∈ encode cs) : n < b.toNat := by
  obtain ⟨c, hc, hbc⟩ := List.mem_flatMap.1 hb
  by_cases h : c.toNat < 128
  · rw [utf8EncodeChar_of_lt h, List.mem_singleton] at hbc
    rw [hbc, UInt8.toNat_ofNat', Nat.mod_eq_of_lt (by omega)]
    exact above c hc
  · have high := le_of_mem_utf8EncodeChar (Nat.not_lt.1 h) hbc
    exact Nat.lt_of_lt_of_le ascii (UInt8.le_iff_toNat_le.1 high)

/-! ## Pieces -/

/-- The pieces that an escaped character is taken apart into. -/
def pieces (c : Char) : List Piece :=
  if c.toNat < 0x20 ∧ c.toNat ∉ [0x08, 0x09, 0x0a, 0x0c, 0x0d] then [.unit c.toNat]
  else (String.utf8EncodeChar c).map .byte

/-- Bytes that need no escape are taken as they are. -/
theorem scanLiteral_bytes {bs : List UInt8} (plain : ∀ b ∈ bs, 0x20 ≤ b ∧ b ≠ 0x22 ∧ b ≠ 0x5c)
    (rest : List UInt8) : scanLiteral (bs ++ rest) =
      (scanLiteral rest).map fun p => (bs.map .byte ++ p.1, p.2) := by
  induction bs with
  | nil => simp
  | cons b bs ih =>
    obtain ⟨⟨hcontrol, hquote, hslash⟩, hbs⟩ := List.forall_mem_cons.1 plain
    have hstep : scanLiteral (b :: (bs ++ rest)) =
        (scanLiteral (bs ++ rest)).map fun p => (.byte b :: p.1, p.2) := by
      rw [scanLiteral.eq_def]
      split
      · next h => cases h
      · next h => exact absurd (List.cons.inj h).1 hquote
      · next h => exact absurd (List.cons.inj h).1 hslash
      · next h => exact absurd (List.cons.inj h).1 hslash
      · next h =>
        obtain ⟨rfl, rfl⟩ := List.cons.inj h
        rw [if_neg]
        exact not_or.2 ⟨UInt8.not_lt.2 hcontrol, hslash⟩
    rw [List.cons_append, hstep, ih hbs, Option.map_map]
    rfl

/-- An escape of one letter. -/
theorem scanLiteral_letter {e b : UInt8} (h : escaped? e = some b) (rest : List UInt8) :
    scanLiteral (0x5c :: e :: rest) =
      (scanLiteral rest).map fun p => (.byte b :: p.1, p.2) := by
  have hu : e ≠ 0x75 := by
    rintro rfl
    cases h
  rw [scanLiteral.eq_def]
  split
  · next h' => cases h'
  · next h' => cases h'
  · next h' => exact absurd (List.cons.inj (List.cons.inj h').2).1 hu
  · next h' =>
    obtain ⟨rfl, rfl⟩ := List.cons.inj (List.cons.inj h').2
    rw [h]
    cases scanLiteral rest <;> rfl
  · next hother h' =>
    obtain ⟨rfl, rfl⟩ := List.cons.inj h'
    exact absurd rfl (hother e rest rfl)

theorem hexValue?_hexDigit {d : Nat} (h : d < 16) :
    ∃ b, String.utf8EncodeChar (hexDigit d) = [b] ∧ hexValue? b = some d := by
  have hall : ∀ d < 16, (hexDigit d).toNat < 128 ∧
      hexValue? (UInt8.ofNat (hexDigit d).toNat) = some d := by decide
  exact ⟨_, utf8EncodeChar_of_lt (hall d h).1, (hall d h).2⟩

/-- A control character that has no letter of its own. -/
theorem scanLiteral_control {n : Nat} (h : n < 0x20) (rest : List UInt8) :
    scanLiteral (encode ['\\', 'u', '0', '0', hexDigit (n / 16), hexDigit (n % 16)] ++ rest) =
      (scanLiteral rest).map fun p => (.unit n :: p.1, p.2) := by
  obtain ⟨a, ha, hx⟩ := hexValue?_hexDigit (d := n / 16) (by omega)
  obtain ⟨b, hb, hy⟩ := hexValue?_hexDigit (d := n % 16) (by omega)
  have hbytes : encode ['\\', 'u', '0', '0', hexDigit (n / 16), hexDigit (n % 16)] =
      [0x5c, 0x75, 0x30, 0x30, a, b] := by
    simp only [encode_cons, ha, hb]
    rfl
  rw [hbytes]
  have hn : n / 16 * 16 + n % 16 = n := by omega
  have hzero : hexValue? 0x30 = some 0 := by decide
  simp only [List.cons_append, List.nil_append, scanLiteral, hzero, hx, hy]
  cases scanLiteral rest with
  | none => rfl
  | some p => simp [hn]

/-- The bytes of a character that needs no escape. -/
theorem plain_of_mem_utf8EncodeChar (control : ¬ c.toNat < 0x20) (quote : c ≠ '"')
    (slash : c ≠ '\\') {b : UInt8} (hb : b ∈ String.utf8EncodeChar c) :
    0x20 ≤ b ∧ b ≠ 0x22 ∧ b ≠ 0x5c := by
  by_cases hc : c.toNat < 128
  · rw [utf8EncodeChar_of_lt hc, List.mem_singleton] at hb
    have of_byte : ∀ d : Char, d.toNat < 128 → b = UInt8.ofNat d.toNat → c = d := by
      intro d hd h
      rw [hb] at h
      have hnat := congrArg UInt8.toNat h
      rw [UInt8.toNat_ofNat', UInt8.toNat_ofNat', Nat.mod_eq_of_lt (by omega),
        Nat.mod_eq_of_lt (by omega)] at hnat
      exact Char.toNat_inj.1 hnat
    refine ⟨?_, fun h => quote (of_byte '"' (by decide) h),
      fun h => slash (of_byte '\\' (by decide) h)⟩
    rw [hb, UInt8.le_iff_toNat_le, UInt8.toNat_ofNat', Nat.mod_eq_of_lt (by omega)]
    exact Nat.not_lt.1 control
  · have high : 128 ≤ b := le_of_mem_utf8EncodeChar (Nat.not_lt.1 hc) hb
    rw [UInt8.le_iff_toNat_le] at high ⊢
    refine ⟨Nat.le_trans (by decide) high, ?_, ?_⟩ <;>
    · rintro rfl
      revert high
      decide

/-- The ways in which a character is written, and the pieces that this is taken apart into. -/
inductive Escapes (c : Char) : List Char → List Piece → Prop
  | letter (e : Char) {b : UInt8} (printable : 0x20 ≤ e.toNat ∧ e.toNat < 128)
      (stands : escaped? (UInt8.ofNat e.toNat) = some b) : Escapes c ['\\', e] [.byte b]
  | control (h : c.toNat < 0x20) :
      Escapes c ['\\', 'u', '0', '0', hexDigit (c.toNat / 16), hexDigit (c.toNat % 16)]
        [.unit c.toNat]
  | plain (control : ¬ c.toNat < 0x20) (quote : c ≠ '"') (slash : c ≠ '\\') :
      Escapes c [c] ((String.utf8EncodeChar c).map .byte)

theorem escapes (c : Char) : Escapes c (escapeChar c) (pieces c) := by
  have of_toNat : ∀ n, c.toNat = n → c = Char.ofNat n := by
    rintro _ rfl
    exact (Char.ofNat_toNat c).symm
  rw [escapeChar]
  split
  · next quote =>
    subst quote
    exact .letter '"' (by decide) (by decide)
  split
  · next slash =>
    subst slash
    exact .letter '\\' (by decide) (by decide)
  split
  · next backspace =>
    obtain rfl := of_toNat _ backspace
    exact .letter 'b' (by decide) (by decide)
  split
  · next formFeed =>
    obtain rfl := of_toNat _ formFeed
    exact .letter 'f' (by decide) (by decide)
  split
  · next lineFeed =>
    obtain rfl := of_toNat _ lineFeed
    exact .letter 'n' (by decide) (by decide)
  split
  · next carriageReturn =>
    obtain rfl := of_toNat _ carriageReturn
    exact .letter 'r' (by decide) (by decide)
  split
  · next tab =>
    obtain rfl := of_toNat _ tab
    exact .letter 't' (by decide) (by decide)
  split
  · next control =>
    have hpieces : pieces c = [.unit c.toNat] := by
      rw [pieces, if_pos]
      simp only [List.mem_cons, List.not_mem_nil, or_false, not_or]
      exact ⟨control, by assumption, by assumption, by assumption, by assumption, by assumption⟩
    rw [hpieces]
    exact .control control
  · next quote slash _ _ _ _ _ control =>
    have hpieces : pieces c = (String.utf8EncodeChar c).map .byte := by
      rw [pieces, if_neg fun h => control h.1]
    rw [hpieces]
    exact .plain control quote slash

namespace Escapes

variable {ps : List Piece}

/-- A written character is taken apart into its pieces. -/
theorem scanLiteral_append (h : Escapes c cs ps) (rest : List UInt8) :
    scanLiteral (encode cs ++ rest) = (scanLiteral rest).map fun p => (ps ++ p.1, p.2) := by
  cases h with
  | letter e printable stands =>
    have hbytes : encode ['\\', e] = [0x5c, UInt8.ofNat e.toNat] := by
      rw [encode_cons, encode_cons, utf8EncodeChar_of_lt printable.2]
      rfl
    rw [hbytes]
    exact scanLiteral_letter stands rest
  | control h => exact scanLiteral_control h rest
  | plain control quote slash =>
    rw [encode_cons, encode_nil, List.append_nil]
    exact scanLiteral_bytes (fun b => plain_of_mem_utf8EncodeChar control quote slash) rest

/-- No control character is left in it. -/
theorem le_toNat (h : Escapes c cs ps) : ∀ d ∈ cs, 0x20 ≤ d.toNat := by
  have hex : ∀ n < 16, 0x20 ≤ (hexDigit n).toNat := by decide
  cases h with
  | letter e printable stands =>
    simp only [List.forall_mem_cons, List.not_mem_nil, false_imp_iff, implies_true, and_true]
    exact ⟨by decide, printable.1⟩
  | control h =>
    simp only [List.forall_mem_cons, List.not_mem_nil, false_imp_iff, implies_true, and_true]
    exact ⟨by decide, by decide, by decide, by decide, hex _ (by omega), hex _ (by omega)⟩
  | plain control quote slash =>
    rw [List.forall_mem_singleton]
    exact Nat.not_lt.1 control

end Escapes

/-! ## Literals -/

/-- The pieces of a character stand for its bytes. -/
theorem literalBytes?_pieces (c : Char) (ps : List Piece) :
    literalBytes? (pieces c ++ ps) = (literalBytes? ps).map (String.utf8EncodeChar c ++ ·) := by
  have bytes : ∀ bs : List UInt8, literalBytes? (bs.map .byte ++ ps) =
      (literalBytes? ps).map (bs ++ ·) := by
    intro bs
    induction bs with
    | nil => simp
    | cons b bs ih =>
      rw [List.map_cons, List.cons_append, literalBytes?, ih, Option.map_map]
      rfl
  rw [pieces]
  split
  · next control =>
    have high : isHighSurrogate c.toNat = false := by
      simp [isHighSurrogate]
      omega
    have low : isLowSurrogate c.toNat = false := by
      simp [isLowSurrogate]
      omega
    rw [List.singleton_append, literalBytes?.eq_def]
    split
    · next h => cases h
    · next h => cases h
    · next h =>
      obtain ⟨hunit, rfl⟩ := List.cons.inj h
      obtain rfl := Piece.unit.inj hunit
      rw [high, low, if_neg Bool.false_ne_true, if_neg Bool.false_ne_true, Char.ofNat_toNat]
    · next h =>
      obtain ⟨hunit, rfl⟩ := List.cons.inj h
      obtain rfl := Piece.unit.inj hunit
      rw [high, low, if_neg (by decide), Char.ofNat_toNat]
  · exact bytes _

theorem scanLiteral_literal (cs : List Char) (rest : List UInt8) :
    scanLiteral (encode (cs.flatMap escapeChar) ++ 0x22 :: rest) =
      some (cs.flatMap pieces, rest) := by
  induction cs with
  | nil => rfl
  | cons c cs ih =>
    rw [List.flatMap_cons, encode_append, List.append_assoc,
      (escapes c).scanLiteral_append, ih]
    rfl

theorem literalBytes?_flatMap_pieces (cs : List Char) :
    literalBytes? (cs.flatMap pieces) = some (encode cs) := by
  induction cs with
  | nil => rfl
  | cons c cs ih =>
    rw [List.flatMap_cons, literalBytes?_pieces, ih]
    rfl

/-- What is written of a string is read as that string. -/
theorem readLiteral?_literal (s : String) (rest : List UInt8) :
    readLiteral? (encode (s.toList.flatMap escapeChar) ++ 0x22 :: rest) =
      some (some s, rest) := by
  have htext : literalText? (s.toList.flatMap pieces) = some s := by
    rw [literalText?, literalBytes?_flatMap_pieces, Option.bind_some, fromUTF8?_encode]
  simp only [readLiteral?, scanLiteral_literal, Option.map_some, htext]

/-- A literal has no control characters. -/
theorem le_toNat_of_mem_literalChars {d : Char} (h : d ∈ literalChars s) : 0x20 ≤ d.toNat := by
  rw [literalChars, List.mem_cons, List.mem_append, List.mem_flatMap, List.mem_singleton] at h
  obtain rfl | ⟨c, -, hd⟩ | rfl := h
  · decide
  · exact (escapes c).le_toNat d hd
  · decide

end PredictiveScaling.Json
