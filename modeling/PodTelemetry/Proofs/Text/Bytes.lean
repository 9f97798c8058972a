import PodTelemetry.Text.Pieces

/-!
# The order of texts and of their bytes

Texts are ordered by the code points of their characters.  Their bytes in
UTF-8 are ordered in the same way: a character that takes more bytes begins
with a larger one, and characters of one length are told apart by their
digits to base 64, the highest first.
-/

namespace PodTelemetry.Text

/-! ## Codes of numbers -/

/-- The code puts numbers below the bound in their order, whatever follows
them, and its first byte is at least `low` and below `high`. -/
structure OrderedCode
    (low high bound : Nat) (code : Nat → List UInt8) : Prop where
  isByte : high ≤ 256
  ordered :
    ∀ m n, m < n → n < bound →
      ∀ front back, code m ++ front < code n ++ back
  leading :
    ∀ n, n < bound →
      ∃ lead rest,
        code n = UInt8.ofNat lead :: rest ∧ low ≤ lead ∧ lead < high

theorem ofNat_cons_lt
    {low high : Nat} (smaller : low < high) (isByte : high < 256)
    (front back : List UInt8) :
    UInt8.ofNat low :: front < UInt8.ofNat high :: back := by
  refine List.cons_lt_cons_iff.2 (Or.inl ?_)
  rw [UInt8.lt_iff_toNat_lt, UInt8.toNat_ofNat_of_lt' isByte,
    UInt8.toNat_ofNat_of_lt' (Nat.lt_trans smaller isByte)]
  exact smaller

theorem orderedCode_byte
    {low high bound : Nat} {byte : Nat → Nat} (isByte : high ≤ 256)
    (ordered : ∀ m n, m < n → n < bound → byte m < byte n)
    (between : ∀ n, n < bound → low ≤ byte n ∧ byte n < high) :
    OrderedCode low high bound fun n => [UInt8.ofNat (byte n)] where
  isByte := isByte
  ordered m n smaller bounded front back :=
    ofNat_cons_lt (ordered m n smaller bounded)
      (Nat.lt_of_lt_of_le (between n bounded).2 isByte) front back
  leading n bounded := ⟨byte n, [], rfl, between n bounded⟩

/-- The last digit to base 64 goes behind the code of the others. -/
theorem OrderedCode.digit
    {low high bound : Nat} {code : Nat → List UInt8}
    (coded : OrderedCode low high bound code) :
    OrderedCode low high (64 * bound) fun n =>
      code (n / 64) ++ [UInt8.ofNat (n % 64 + 0x80)] where
  isByte := coded.isByte
  ordered m n smaller bounded front back := by
    have digits :
        m / 64 < n / 64 ∨ m / 64 = n / 64 ∧ m % 64 < n % 64 := by
      omega
    rw [List.append_assoc, List.append_assoc]
    rcases digits with higher | ⟨same, lower⟩
    · exact coded.ordered _ _ higher (by omega) _ _
    · rw [same]
      refine List.append_left_lt ?_
      exact ofNat_cons_lt (by omega) (by omega) front back
  leading n bounded := by
    obtain ⟨lead, rest, whole, between⟩ :=
      coded.leading (n / 64) (by omega)
    exact ⟨lead, rest ++ [_], by rw [whole, List.cons_append], between⟩

/-- Numbers above the limit have a code of their own, and its first bytes are
larger. -/
theorem OrderedCode.splice
    {low middle next high bound : Nat} {lower upper : Nat → List UInt8}
    (limit : Nat) (below : OrderedCode low middle (limit + 1) lower)
    (above : OrderedCode next high bound upper) (apart : middle ≤ next) :
    OrderedCode low high bound fun n =>
      if n ≤ limit then lower n else upper n where
  isByte := above.isByte
  ordered m n smaller bounded front back := by
    have isByte := above.isByte
    by_cases small : n ≤ limit
    · have smallToo : m ≤ limit := by omega
      simp only [if_pos small, if_pos smallToo]
      exact below.ordered m n smaller (by omega) front back
    · by_cases smallToo : m ≤ limit
      · obtain ⟨first, rest, isFirst, _, inLower⟩ :=
          below.leading m (by omega)
        obtain ⟨second, others, isSecond, inUpper, _⟩ :=
          above.leading n bounded
        simp only [if_neg small, if_pos smallToo, isFirst, isSecond,
          List.cons_append]
        exact ofNat_cons_lt (by omega) (by omega) _ _
      · simp only [if_neg small, if_neg smallToo]
        exact above.ordered m n smaller bounded front back
  leading n bounded := by
    obtain ⟨first, rest, isFirst, inLower⟩ := below.leading 0 (by omega)
    obtain ⟨second, others, isSecond, inUpper⟩ := above.leading n bounded
    by_cases small : n ≤ limit
    · obtain ⟨lead, back, whole, between⟩ := below.leading n (by omega)
      exact ⟨lead, back, by rw [if_pos small, whole], by omega⟩
    · exact ⟨second, others, by rw [if_neg small, isSecond], by omega⟩

/-! ## Bytes of characters -/

theorem orderedCode_twoBytes :
    OrderedCode 0xc0 0xe0 0x800 fun n =>
      [UInt8.ofNat (n / 64 % 0x20 + 0xc0), UInt8.ofNat (n % 64 + 0x80)] :=
  (orderedCode_byte (by omega) (by omega) (by omega) :
    OrderedCode 0xc0 0xe0 0x20 fun n =>
      [UInt8.ofNat (n % 0x20 + 0xc0)]).digit

theorem orderedCode_threeBytes :
    OrderedCode 0xe0 0xf0 0x10000 fun n =>
      [UInt8.ofNat (n / 64 / 64 % 0x10 + 0xe0),
        UInt8.ofNat (n / 64 % 64 + 0x80), UInt8.ofNat (n % 64 + 0x80)] :=
  (orderedCode_byte (by omega) (by omega) (by omega) :
    OrderedCode 0xe0 0xf0 0x10 fun n =>
      [UInt8.ofNat (n % 0x10 + 0xe0)]).digit.digit

theorem orderedCode_fourBytes :
    OrderedCode 0xf0 0xf8 0x200000 fun n =>
      [UInt8.ofNat (n / 64 / 64 / 64 % 0x08 + 0xf0),
        UInt8.ofNat (n / 64 / 64 % 64 + 0x80),
        UInt8.ofNat (n / 64 % 64 + 0x80), UInt8.ofNat (n % 64 + 0x80)] :=
  (orderedCode_byte (by omega) (by omega) (by omega) :
    OrderedCode 0xf0 0xf8 0x08 fun n =>
      [UInt8.ofNat (n % 0x08 + 0xf0)]).digit.digit.digit

theorem utf8EncodeChar_append_lt
    {c d : Char} (smaller : c < d) (front back : List UInt8) :
    String.utf8EncodeChar c ++ front < String.utf8EncodeChar d ++ back := by
  -- Every length has the next first bytes: below 0x80, then from 0xc0, from
  -- 0xe0 and from 0xf0.
  have oneByte : OrderedCode 0 0x80 0x80 fun n => [UInt8.ofNat n] :=
    orderedCode_byte (by omega) (by omega) (by omega)
  have coded :=
    oneByte.splice 0x7f
      (orderedCode_twoBytes.splice 0x7ff
        (orderedCode_threeBytes.splice 0xffff orderedCode_fourBytes
          (by omega)) (by omega)) (by omega)
  have bounded : d.val.toNat < 0x200000 := by
    have valid := d.valid
    simp only [UInt32.isValidChar, Nat.isValidChar] at valid
    omega
  have ordered :=
    coded.ordered c.val.toNat d.val.toNat smaller bounded front back
  simpa only [String.utf8EncodeChar, Nat.div_div_eq_div_mul,
    Nat.reduceMul] using ordered

theorem flatMap_utf8EncodeChar_lt
    {left right : List Char} (smaller : left < right) :
    left.flatMap String.utf8EncodeChar <
      right.flatMap String.utf8EncodeChar := by
  induction smaller with
  | @nil c rest =>
      rw [List.flatMap_cons]
      cases isCode : String.utf8EncodeChar c with
      | nil => exact absurd isCode String.utf8EncodeChar_ne_nil
      | cons byte others => exact List.nil_lt_cons byte _
  | rel first =>
      rw [List.flatMap_cons, List.flatMap_cons]
      exact utf8EncodeChar_append_lt first _ _
  | cons _ inductionHypothesis =>
      rw [List.flatMap_cons, List.flatMap_cons]
      exact List.append_left_lt inductionHypothesis

/-! ## Bytes of texts -/

/-- The bytes of a text in UTF-8. -/
def bytes (text : String) : List UInt8 := text.toUTF8.data.toList

theorem bytes_eq_flatMap (text : String) :
    bytes text = text.toList.flatMap String.utf8EncodeChar := by
  unfold bytes
  rw [String.toUTF8_eq_toByteArray, ← String.utf8Encode_toList,
    List.utf8Encode, List.data_toByteArray]

/-- Bytes ascend with code points. -/
theorem bytes_lt_bytes {left right : String} (smaller : left < right) :
    bytes left < bytes right := by
  rw [bytes_eq_flatMap, bytes_eq_flatMap]
  exact flatMap_utf8EncodeChar_lt smaller

end PodTelemetry.Text
