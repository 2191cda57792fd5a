import Mathlib.Tactic.SplitIfs
import RefreshRate.Text.Utf8

namespace RefreshRate.Text.Utf8

/-!
# Decoding is the inverse of encoding

Bytes are decoded exactly if they are the UTF-8 encoding of some characters, and then they
are decoded to these characters.
-/

variable
  {index code : Nat}
  {bytes rest : List UInt8}
  {cs : List Char}
  {part : Unfinished}

/-- A byte that is not the first one of a character. -/
def IsTail (byte : UInt8) : Prop :=
  0x80 ≤ byte.toNat ∧ byte.toNat ≤ 0xBF

/-- Bytes are the encoding of a code point, and no shorter encoding exists. -/
inductive Encodes : List UInt8 → Nat → Prop where
  | one
      {a : UInt8}
      (isLead : a.toNat < 0x80) :
      Encodes [a] a.toNat
  | two
      {a b : UInt8}
      (isLead : 0xC2 ≤ a.toNat ∧ a.toNat < 0xE0)
      (isTail : IsTail b) :
      Encodes [a, b] ((a.toNat - 0xC0) * 64 + (b.toNat - 0x80))
  | three
      {a b c : UInt8}
      (isLead : 0xE0 ≤ a.toNat ∧ a.toNat < 0xF0)
      (isTail : IsTail b)
      (notShorter : a.toNat = 0xE0 → 0xA0 ≤ b.toNat)
      (notSurrogate : a.toNat = 0xED → b.toNat ≤ 0x9F)
      (isLast : IsTail c) :
      Encodes [a, b, c]
        (((a.toNat - 0xE0) * 64 + (b.toNat - 0x80)) * 64 + (c.toNat - 0x80))
  | four
      {a b c d : UInt8}
      (isLead : 0xF0 ≤ a.toNat ∧ a.toNat < 0xF5)
      (isTail : IsTail b)
      (notShorter : a.toNat = 0xF0 → 0x90 ≤ b.toNat)
      (notBeyond : a.toNat = 0xF4 → b.toNat ≤ 0x8F)
      (isThird : IsTail c)
      (isLast : IsTail d) :
      Encodes [a, b, c, d]
        ((((a.toNat - 0xF0) * 64 + (b.toNat - 0x80)) * 64 + (c.toNat - 0x80)) * 64 +
          (d.toNat - 0x80))

theorem Encodes.ne_nil (encodes : Encodes bytes code) : bytes ≠ [] := by
  cases encodes with
  | one | two | three | four =>
      exact List.cons_ne_nil _ _

/-- The code point of an encoding belongs to a character. -/
theorem Encodes.toNat_ofNat (encodes : Encodes bytes code) : (Char.ofNat code).toNat = code := by
  have isValid : code.isValidChar := by
    unfold Nat.isValidChar
    cases encodes with
    | one isLead =>
        omega
    | two isLead isTail =>
        unfold IsTail at isTail
        omega
    | three isLead isTail notShorter notSurrogate isLast =>
        unfold IsTail at isTail isLast
        omega
    | four isLead isTail notShorter notBeyond isThird isLast =>
        unfold IsTail at isTail isThird isLast
        omega
  rw [Char.ofNat, dif_pos isValid]
  rfl

theorem Encodes.utf8EncodeChar_eq
    (encodes : Encodes bytes code) :
    String.utf8EncodeChar (Char.ofNat code) = bytes := by
  have codeIs : (Char.ofNat code).val.toNat = code := encodes.toNat_ofNat
  rw [String.utf8EncodeChar.eq_1, codeIs]
  cases encodes with
  | one isLead =>
      rw [if_pos (by omega)]
      simp
  | two isLead isTail =>
      unfold IsTail at isTail
      rw [if_neg (by omega), if_pos (by omega)]
      simp only [List.cons.injEq, and_true, ← UInt8.toNat_inj, UInt8.toNat_ofNat']
      omega
  | three isLead isTail notShorter notSurrogate isLast =>
      unfold IsTail at isTail isLast
      rw [if_neg (by omega), if_neg (by omega), if_pos (by omega)]
      simp only [List.cons.injEq, and_true, ← UInt8.toNat_inj, UInt8.toNat_ofNat']
      omega
  | four isLead isTail notShorter notBeyond isThird isLast =>
      unfold IsTail at isTail isThird isLast
      rw [if_neg (by omega), if_neg (by omega), if_neg (by omega)]
      simp only [List.cons.injEq, and_true, ← UInt8.toNat_inj, UInt8.toNat_ofNat']
      omega

theorem exists_byte
    {value : Nat}
    (isByte : value < 0x100) :
    ∃ byte : UInt8, byte.toNat = value :=
  ⟨UInt8.ofNat value, UInt8.toNat_ofNat_of_lt' isByte⟩

/-- Every character has an encoding. -/
theorem exists_encodes (c : Char) : ∃ bytes, Encodes bytes c.toNat := by
  have isValid : c.toNat < 0xD800 ∨ 0xDFFF < c.toNat ∧ c.toNat < 0x110000 := c.valid
  generalize c.toNat = code at isValid
  by_cases isOne : code < 0x80
  · obtain ⟨a, rfl⟩ := exists_byte (show code < 0x100 by omega)
    exact ⟨[a], .one isOne⟩
  · by_cases isTwo : code < 0x800
    · obtain ⟨a, aIs⟩ := exists_byte (show 0xC0 + code / 64 < 0x100 by omega)
      obtain ⟨b, bIs⟩ := exists_byte (show 0x80 + code % 64 < 0x100 by omega)
      have codeIs : (a.toNat - 0xC0) * 64 + (b.toNat - 0x80) = code := by
        omega
      have isTail : IsTail b := ⟨by omega, by omega⟩
      exact ⟨[a, b], codeIs ▸ .two (by omega) isTail⟩
    · by_cases isThree : code < 0x10000
      · obtain ⟨a, aIs⟩ := exists_byte (show 0xE0 + code / 4096 < 0x100 by omega)
        obtain ⟨b, bIs⟩ := exists_byte (show 0x80 + code / 64 % 64 < 0x100 by omega)
        obtain ⟨c, cIs⟩ := exists_byte (show 0x80 + code % 64 < 0x100 by omega)
        have codeIs :
            ((a.toNat - 0xE0) * 64 + (b.toNat - 0x80)) * 64 + (c.toNat - 0x80) = code := by
          omega
        have isTail : IsTail b := ⟨by omega, by omega⟩
        have isLast : IsTail c := ⟨by omega, by omega⟩
        exact ⟨[a, b, c], codeIs ▸ .three (by omega) isTail (by omega) (by omega) isLast⟩
      · obtain ⟨a, aIs⟩ := exists_byte (show 0xF0 + code / 262144 < 0x100 by omega)
        obtain ⟨b, bIs⟩ := exists_byte (show 0x80 + code / 4096 % 64 < 0x100 by omega)
        obtain ⟨c, cIs⟩ := exists_byte (show 0x80 + code / 64 % 64 < 0x100 by omega)
        obtain ⟨d, dIs⟩ := exists_byte (show 0x80 + code % 64 < 0x100 by omega)
        have codeIs :
            (((a.toNat - 0xF0) * 64 + (b.toNat - 0x80)) * 64 + (c.toNat - 0x80)) * 64 +
                (d.toNat - 0x80) =
              code := by
          omega
        have isTail : IsTail b := ⟨by omega, by omega⟩
        have isThird : IsTail c := ⟨by omega, by omega⟩
        have isLast : IsTail d := ⟨by omega, by omega⟩
        exact
          ⟨[a, b, c, d],
            codeIs ▸ .four (by omega) isTail (by omega) (by omega) isThird isLast⟩

theorem encodes_utf8EncodeChar (c : Char) : Encodes (String.utf8EncodeChar c) c.toNat := by
  obtain ⟨bytes, encodes⟩ := exists_encodes c
  have bytesAre := encodes.utf8EncodeChar_eq
  rw [Char.ofNat_toNat] at bytesAre
  rwa [bytesAre]

theorem ofLead?_of_two
    {lead : Nat}
    (isLead : 0xC2 ≤ lead ∧ lead < 0xE0) :
    Unfinished.ofLead? lead = some ⟨1, 0, lead - 0xC0, 0x80, 0xBF⟩ := by
  rw [Unfinished.ofLead?, if_neg (by omega), if_pos isLead.2]

theorem ofLead?_of_three
    {lead : Nat}
    (isLead : 0xE0 ≤ lead ∧ lead < 0xF0) :
    Unfinished.ofLead? lead =
      some
        ⟨1, 1, lead - 0xE0, if lead = 0xE0 then 0xA0 else 0x80,
          if lead = 0xED then 0x9F else 0xBF⟩ := by
  rw [Unfinished.ofLead?, if_neg (by omega), if_neg (by omega), if_pos isLead.2]

theorem ofLead?_of_four
    {lead : Nat}
    (isLead : 0xF0 ≤ lead ∧ lead < 0xF5) :
    Unfinished.ofLead? lead =
      some
        ⟨1, 2, lead - 0xF0, if lead = 0xF0 then 0x90 else 0x80,
          if lead = 0xF4 then 0x8F else 0xBF⟩ := by
  rw [Unfinished.ofLead?, if_neg (by omega), if_neg (by omega), if_neg (by omega),
    if_pos isLead.2]

theorem accepts_iff
    {byte : Nat} :
    part.accepts byte = true ↔ part.low ≤ byte ∧ byte ≤ part.high := by
  simp [Unfinished.accepts]

/-- What is read after the first byte of a character. -/
theorem decodeFrom_none_cons
    {a : UInt8}
    (notOne : ¬a.toNat < 0x80) :
    decodeFrom index none (a :: rest) =
      match Unfinished.ofLead? a.toNat with
      | none =>
          .error ⟨index, some 1⟩
      | some part =>
          decodeFrom index (some part) rest :=
  if_neg notOne

/-- What is read at the next byte of a character, if it is accepted. -/
theorem decodeFrom_some_cons
    {b : UInt8}
    (accepted : part.accepts b.toNat = true) :
    decodeFrom index (some part) (b :: rest) =
      match part.following with
      | 0 =>
          (decodeFrom (index + part.taken + 1) none rest).map
            (Char.ofNat (part.extendValue b.toNat) :: ·)
      | following + 1 =>
          decodeFrom index
            (some ⟨part.taken + 1, following, part.extendValue b.toNat, 0x80, 0xBF⟩) rest :=
  if_pos accepted

/-- Reading the next byte of a character succeeds only if there is one and it is accepted. -/
theorem exists_accepts_of_decodeFrom_eq_ok
    (decoded : decodeFrom index (some part) bytes = .ok cs) :
    ∃ b rest, bytes = b :: rest ∧ part.accepts b.toNat = true := by
  cases bytes with
  | nil =>
      cases decoded
  | cons b rest =>
      rw [decodeFrom] at decoded
      split_ifs at decoded with accepted
      exact ⟨b, rest, rfl, accepted⟩

/-- The range of a second byte is narrower after the least and the greatest first byte. -/
theorem secondInRange_iff
    {b : UInt8}
    {least greatest low high lead : Nat}
    (lowIsTail : 0x80 ≤ low)
    (highIsTail : high ≤ 0xBF) :
    ((if lead = least then low else 0x80) ≤ b.toNat ∧
        b.toNat ≤ if lead = greatest then high else 0xBF) ↔
      IsTail b ∧ (lead = least → low ≤ b.toNat) ∧ (lead = greatest → b.toNat ≤ high) := by
  unfold IsTail
  split_ifs with isLeast isGreatest isGreatest
  all_goals omega

theorem Encodes.decodeFrom_append
    (encodes : Encodes bytes code)
    (index : Nat)
    (rest : List UInt8) :
    decodeFrom index none (bytes ++ rest) =
      (decodeFrom (index + bytes.length) none rest).map (Char.ofNat code :: ·) := by
  cases encodes with
  | one isLead =>
      simp [decodeFrom, isLead]
  | two isLead isTail =>
      rw [List.cons_append, decodeFrom_none_cons (by omega), ofLead?_of_two isLead]
      simp only [List.cons_append]
      rw [decodeFrom_some_cons]
      · rfl
      · exact accepts_iff.mpr isTail
  | three isLead isTail notShorter notSurrogate isLast =>
      rw [List.cons_append, decodeFrom_none_cons (by omega), ofLead?_of_three isLead]
      simp only [List.cons_append]
      rw [decodeFrom_some_cons]
      · simp only
        rw [decodeFrom_some_cons]
        · rfl
        · exact accepts_iff.mpr isLast
      · exact
          accepts_iff.mpr
            ((secondInRange_iff (by decide) (by decide)).mpr ⟨isTail, notShorter, notSurrogate⟩)
  | four isLead isTail notShorter notBeyond isThird isLast =>
      rw [List.cons_append, decodeFrom_none_cons (by omega), ofLead?_of_four isLead]
      simp only [List.cons_append]
      rw [decodeFrom_some_cons]
      · simp only
        rw [decodeFrom_some_cons]
        · simp only
          rw [decodeFrom_some_cons]
          · rfl
          · exact accepts_iff.mpr isLast
        · exact accepts_iff.mpr isThird
      · exact
          accepts_iff.mpr
            ((secondInRange_iff (by decide) (by decide)).mpr ⟨isTail, notShorter, notBeyond⟩)

/-- What can be decoded is empty or starts with the encoding of a character. -/
theorem exists_encodes_of_decodeFrom_eq_ok
    (decoded : decodeFrom index none bytes = .ok cs) :
    bytes = [] ∨ ∃ front code rest, bytes = front ++ rest ∧ Encodes front code := by
  cases bytes with
  | nil =>
      exact .inl rfl
  | cons a rest =>
      right
      by_cases isOne : a.toNat < 0x80
      · exact ⟨[a], a.toNat, rest, rfl, .one isOne⟩
      · rw [decodeFrom_none_cons isOne] at decoded
        by_cases isTwo : 0xC2 ≤ a.toNat ∧ a.toNat < 0xE0
        · simp only [ofLead?_of_two isTwo] at decoded
          obtain ⟨b, rest, rfl, accepted⟩ := exists_accepts_of_decodeFrom_eq_ok decoded
          exact ⟨[a, b], _, rest, rfl, .two isTwo (accepts_iff.mp accepted)⟩
        · by_cases isThree : 0xE0 ≤ a.toNat ∧ a.toNat < 0xF0
          · simp only [ofLead?_of_three isThree] at decoded
            obtain ⟨b, rest, rfl, accepted⟩ := exists_accepts_of_decodeFrom_eq_ok decoded
            rw [decodeFrom_some_cons accepted] at decoded
            obtain ⟨c, rest, rfl, isLast⟩ := exists_accepts_of_decodeFrom_eq_ok decoded
            obtain ⟨isTail, notShorter, notSurrogate⟩ :=
              (secondInRange_iff (by decide) (by decide)).mp (accepts_iff.mp accepted)
            exact
              ⟨[a, b, c], _, rest, rfl,
                .three isThree isTail notShorter notSurrogate (accepts_iff.mp isLast)⟩
          · by_cases isFour : 0xF0 ≤ a.toNat ∧ a.toNat < 0xF5
            · simp only [ofLead?_of_four isFour] at decoded
              obtain ⟨b, rest, rfl, accepted⟩ := exists_accepts_of_decodeFrom_eq_ok decoded
              rw [decodeFrom_some_cons accepted] at decoded
              simp only at decoded
              obtain ⟨c, rest, rfl, isThird⟩ := exists_accepts_of_decodeFrom_eq_ok decoded
              rw [decodeFrom_some_cons isThird] at decoded
              obtain ⟨d, rest, rfl, isLast⟩ := exists_accepts_of_decodeFrom_eq_ok decoded
              obtain ⟨isTail, notShorter, notBeyond⟩ :=
                (secondInRange_iff (by decide) (by decide)).mp (accepts_iff.mp accepted)
              exact
                ⟨[a, b, c, d], _, rest, rfl,
                  .four isFour isTail notShorter notBeyond (accepts_iff.mp isThird)
                    (accepts_iff.mp isLast)⟩
            · have isNoLead : Unfinished.ofLead? a.toNat = none := by
                unfold Unfinished.ofLead?
                split_ifs
                · rfl
                · omega
                · omega
                · omega
                · rfl
              rw [isNoLead] at decoded
              cases decoded

/-- What has been decoded is the encoding of the characters that it was decoded to. -/
theorem eq_flatMap_of_decodeFrom_eq_ok
    {index : Nat}
    {bytes : List UInt8}
    {cs : List Char}
    (decoded : decodeFrom index none bytes = .ok cs) :
    bytes = cs.flatMap String.utf8EncodeChar := by
  rcases exists_encodes_of_decodeFrom_eq_ok decoded with rfl | ⟨front, code, rest, rfl, encodes⟩
  · cases decoded
    rfl
  · have shorter : rest.length < (front ++ rest).length := by
      have := List.length_pos_iff.mpr encodes.ne_nil
      simp only [List.length_append]
      omega
    rw [encodes.decodeFrom_append] at decoded
    cases restDecoded : decodeFrom (index + front.length) none rest with
    | error fault =>
        rw [restDecoded] at decoded
        cases decoded
    | ok others =>
        rw [restDecoded] at decoded
        cases decoded
        rw [List.flatMap_cons, encodes.utf8EncodeChar_eq,
          ← eq_flatMap_of_decodeFrom_eq_ok restDecoded]
termination_by bytes.length

theorem decodeFrom_flatMap
    (index : Nat)
    (cs : List Char) :
    decodeFrom index none (cs.flatMap String.utf8EncodeChar) = .ok cs := by
  induction cs generalizing index with
  | nil =>
      rfl
  | cons c cs inductionHypothesis =>
      rw [List.flatMap_cons, (encodes_utf8EncodeChar c).decodeFrom_append, inductionHypothesis,
        Char.ofNat_toNat]
      rfl

/-- Bytes are decoded to the characters whose encoding they are. -/
theorem decode_eq_ok_iff : decode bytes = .ok cs ↔ bytes = cs.flatMap String.utf8EncodeChar := by
  constructor
  · exact eq_flatMap_of_decodeFrom_eq_ok
  · rintro rfl
    exact decodeFrom_flatMap 0 cs

/-- The bytes of a string. -/
def encode (text : String) : List UInt8 :=
  text.toByteArray.data.toList

theorem encode_eq_flatMap (text : String) :
    encode text = text.toList.flatMap String.utf8EncodeChar := by
  rw [encode, ← String.utf8Encode_toList]
  simp [List.utf8Encode]

theorem decode_encode (text : String) : decode (encode text) = .ok text.toList :=
  decode_eq_ok_iff.mpr (encode_eq_flatMap text)

/-- Bytes that cannot be decoded are the bytes of no string. -/
theorem exists_decode_eq_error
    (isNoText : ∀ text, bytes ≠ encode text) :
    ∃ fault, decode bytes = .error fault := by
  cases decoded : decode bytes with
  | error fault =>
      exact ⟨fault, rfl⟩
  | ok cs =>
      refine absurd ?_ (isNoText (String.ofList cs))
      rw [encode_eq_flatMap, String.toList_ofList]
      exact decode_eq_ok_iff.mp decoded

end RefreshRate.Text.Utf8
