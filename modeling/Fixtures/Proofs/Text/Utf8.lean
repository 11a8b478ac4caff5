import Fixtures.Text.Utf8

/-!
# Text and its bytes

Decoding the bytes of a text gives the text back. A byte below 128 stands for itself alone and is
never part of another character, so such a byte can be found without decoding. In the other
direction, bytes without an ill-formed part are the bytes of the text they decode to, so that each
text is spelt in one way.
-/

namespace Fixtures.Utf8

/-- A byte after the first, as it is encoded. -/
theorem isTail_ofNat (n : Nat) : isTail (UInt8.ofNat (n % 64 + 0x80)) = true := by
  simp [isTail, UInt8.le_iff_toNat_le]
  omega

/-- The bits of a byte after the first, as it is encoded. -/
theorem payload_ofNat (n : Nat) : payload (UInt8.ofNat (n % 64 + 0x80)) = n % 64 := by
  simp [payload]
  omega

/-- Decoding a byte below 128. -/
theorem decode_one {lead : UInt8} (h : lead.toNat < 0x80) (rest : Bytes) :
    decode (lead :: rest) = some (Char.ofNat lead.toNat) :: decode rest := by
  have hlead : lead < 0x80 := by simpa [UInt8.lt_iff_toNat_lt] using h
  rw [decode.eq_def]
  simp only [hlead, ite_true]

/-- Decoding a sequence of two bytes. -/
theorem decode_two {lead b : UInt8} (hlow : 0xC2 ≤ lead.toNat) (hhigh : lead.toNat < 0xE0)
    (hb : isTail b = true) (rest : Bytes) :
    decode (lead :: b :: rest) =
      some (Char.ofNat (lead.toNat % 32 * 64 + payload b)) :: decode rest := by
  have h1 : ¬lead < 0x80 := by simp [UInt8.lt_iff_toNat_lt]; omega
  have h2 : ¬lead < 0xC2 := by simp [UInt8.lt_iff_toNat_lt]; omega
  have h3 : lead < 0xE0 := by simp [UInt8.lt_iff_toNat_lt]; omega
  rw [decode.eq_def]
  simp only [h1, h2, h3, hb, ite_true, ite_false]

/-- Decoding a sequence of three bytes. -/
theorem decode_three {lead b c : UInt8} (hlow : 0xE0 ≤ lead.toNat) (hhigh : lead.toNat < 0xF0)
    (hb : isSecond lead b = true) (hc : isTail c = true) (rest : Bytes) :
    decode (lead :: b :: c :: rest) =
      some (Char.ofNat ((lead.toNat % 16 * 64 + payload b) * 64 + payload c)) ::
        decode rest := by
  have h1 : ¬lead < 0x80 := by simp [UInt8.lt_iff_toNat_lt]; omega
  have h2 : ¬lead < 0xC2 := by simp [UInt8.lt_iff_toNat_lt]; omega
  have h3 : ¬lead < 0xE0 := by simp [UInt8.lt_iff_toNat_lt]; omega
  have h4 : lead < 0xF0 := by simp [UInt8.lt_iff_toNat_lt]; omega
  rw [decode.eq_def]
  simp only [h1, h2, h3, h4, hb, hc, ite_true, ite_false]

/-- Decoding a sequence of four bytes. -/
theorem decode_four {lead b c d : UInt8} (hlow : 0xF0 ≤ lead.toNat) (hhigh : lead.toNat < 0xF5)
    (hb : isSecond lead b = true) (hc : isTail c = true) (hd : isTail d = true) (rest : Bytes) :
    decode (lead :: b :: c :: d :: rest) =
      some (Char.ofNat
        (((lead.toNat % 8 * 64 + payload b) * 64 + payload c) * 64 + payload d)) ::
        decode rest := by
  have h1 : ¬lead < 0x80 := by simp [UInt8.lt_iff_toNat_lt]; omega
  have h2 : ¬lead < 0xC2 := by simp [UInt8.lt_iff_toNat_lt]; omega
  have h3 : ¬lead < 0xE0 := by simp [UInt8.lt_iff_toNat_lt]; omega
  have h4 : ¬lead < 0xF0 := by simp [UInt8.lt_iff_toNat_lt]; omega
  have h5 : lead < 0xF5 := by simp [UInt8.lt_iff_toNat_lt]; omega
  rw [decode.eq_def]
  simp only [h1, h2, h3, h4, h5, hb, hc, hd, ite_true, ite_false]

/-- A second byte, in terms of numbers. -/
theorem isSecond_of_toNat {lead b : UInt8} (hb : isTail b = true)
    (h0 : lead.toNat = 0xE0 → 0xA0 ≤ b.toNat) (hD : lead.toNat = 0xED → b.toNat ≤ 0x9F)
    (hF : lead.toNat = 0xF0 → 0x90 ≤ b.toNat) (hL : lead.toNat = 0xF4 → b.toNat ≤ 0x8F) :
    isSecond lead b = true := by
  rw [isSecond, hb, Bool.true_and]
  split
  · next h => simpa [UInt8.le_iff_toNat_le] using h0 (congrArg UInt8.toNat h)
  · split
    · next h => simpa [UInt8.le_iff_toNat_le] using hD (congrArg UInt8.toNat h)
    · split
      · next h => simpa [UInt8.le_iff_toNat_le] using hF (congrArg UInt8.toNat h)
      · split
        · next h => simpa [UInt8.le_iff_toNat_le] using hL (congrArg UInt8.toNat h)
        · rfl

/-- The bytes of a character decode to it. -/
theorem decode_encodeChar_append (c : Char) (rest : Bytes) :
    decode (String.utf8EncodeChar c ++ rest) = some c :: decode rest := by
  have hvalid : c.toNat < 0xD800 ∨ 0xDFFF < c.toNat ∧ c.toNat < 0x110000 := c.valid
  have hback : ∀ n, n = c.toNat → some (Char.ofNat n) = some c := by
    rintro n rfl
    rw [Char.ofNat_toNat]
  have hval : c.val.toNat = c.toNat := rfl
  simp only [String.utf8EncodeChar, hval]
  split
  · next h =>
    have hlead : (UInt8.ofNat c.toNat).toNat = c.toNat := by simp; omega
    rw [List.cons_append, List.nil_append, decode_one (by omega), hlead, Char.ofNat_toNat]
  · split
    · next h1 h2 =>
      have hlead : (UInt8.ofNat (c.toNat / 64 % 32 + 0xC0)).toNat = c.toNat / 64 + 0xC0 := by
        simp; omega
      simp only [List.cons_append, List.nil_append]
      rw [decode_two (by omega) (by omega) (isTail_ofNat _), hlead, payload_ofNat,
        hback _ (by omega)]
    · split
      · next h1 h2 h3 =>
        have hlead : (UInt8.ofNat (c.toNat / 4096 % 16 + 0xE0)).toNat = c.toNat / 4096 + 0xE0 := by
          simp; omega
        have hnext : (UInt8.ofNat (c.toNat / 64 % 64 + 0x80)).toNat = c.toNat / 64 % 64 + 0x80 := by
          simp; omega
        simp only [List.cons_append, List.nil_append]
        rw [decode_three (by omega) (by omega) (isSecond_of_toNat (isTail_ofNat _) (by omega)
          (by omega) (by omega) (by omega)) (isTail_ofNat _), hlead, payload_ofNat, payload_ofNat,
          hback _ (by omega)]
      · next h1 h2 h3 =>
        have hlead : (UInt8.ofNat (c.toNat / 262144 % 8 + 0xF0)).toNat =
            c.toNat / 262144 + 0xF0 := by
          simp; omega
        have hnext : (UInt8.ofNat (c.toNat / 4096 % 64 + 0x80)).toNat =
            c.toNat / 4096 % 64 + 0x80 := by
          simp; omega
        simp only [List.cons_append, List.nil_append]
        rw [decode_four (by omega) (by omega) (isSecond_of_toNat (isTail_ofNat _) (by omega)
          (by omega) (by omega) (by omega)) (isTail_ofNat _) (isTail_ofNat _), hlead,
          payload_ofNat, payload_ofNat, payload_ofNat, hback _ (by omega)]

/-- The bytes of a text decode to its characters. -/
theorem decode_encode (text : String) : decode (encode text) = text.toList.map some := by
  rw [encode]
  induction text.toList with
  | nil => rw [List.flatMap_nil, decode, List.map_nil]
  | cons c rest ih => rw [List.flatMap_cons, decode_encodeChar_append, ih, List.map_cons]

/-- Items that are read one by one, each as what it was made from. -/
theorem mapM_map_eq_some {α β γ : Type} {f : α → β} {g : β → Option γ} {h : α → γ}
    (hread : ∀ a, g (f a) = some (h a)) (items : List α) :
    (items.map f).mapM g = some (items.map h) := by
  induction items with
  | nil => rfl
  | cons item rest ih => simp [hread, ih]

/-- The bytes of a text spell it. -/
theorem text?_encode (text : String) : text? (encode text) = some text := by
  have hall : (text.toList.map some).mapM id = some (text.toList.map id) :=
    mapM_map_eq_some (f := some) (g := id) (fun _ => rfl) text.toList
  rw [text?, decode_encode, hall, List.map_id, Option.map_some, String.ofList_toList]

/-- The byte of a character below 128 belongs to that character only. -/
theorem mem_encodeChar_iff {b : UInt8} (hb : b.toNat < 0x80) (c : Char) :
    b ∈ String.utf8EncodeChar c ↔ c.toNat = b.toNat := by
  have hhigh : ∀ n, 0x80 ≤ n → n < 256 → b ≠ UInt8.ofNat n := by
    rintro n hlow hn rfl
    simp at hb
    omega
  have hval : c.val.toNat = c.toNat := rfl
  simp only [String.utf8EncodeChar, hval]
  split
  · next h =>
    have hlead : (UInt8.ofNat c.toNat).toNat = c.toNat := by simp; omega
    rw [List.mem_singleton, ← UInt8.toNat_inj, hlead, eq_comm]
  · next h1 =>
    -- Every byte of a longer sequence is above 127.
    have hne : c.toNat ≠ b.toNat := by omega
    have htail : ∀ n, b ≠ UInt8.ofNat (n % 64 + 0x80) := fun n => hhigh _ (by omega) (by omega)
    split
    · simp only [List.mem_cons, List.not_mem_nil, or_false, hne, iff_false, not_or]
      exact ⟨hhigh _ (by omega) (by omega), htail _⟩
    · split
      · simp only [List.mem_cons, List.not_mem_nil, or_false, hne, iff_false, not_or]
        exact ⟨hhigh _ (by omega) (by omega), htail _, htail _⟩
      · simp only [List.mem_cons, List.not_mem_nil, or_false, hne, iff_false, not_or]
        exact ⟨hhigh _ (by omega) (by omega), htail _, htail _, htail _⟩

/-- A character below 128 is spelt by one byte. -/
theorem encodeChar_of_lt {c : Char} (h : c.toNat < 0x80) :
    String.utf8EncodeChar c = [UInt8.ofNat c.toNat] := if_pos (Nat.le_of_lt_succ h)

/-- A byte of a character is the byte of a character below 128 only if both characters are the
same. -/
theorem byte_eq_iff {b : UInt8} {c : Char} (h : b ∈ String.utf8EncodeChar c) (d : Char)
    (hd : d.toNat < 0x80) : b = UInt8.ofNat d.toNat ↔ c = d := by
  constructor
  · rintro rfl
    have hbyte : (UInt8.ofNat d.toNat).toNat = d.toNat := by simp; omega
    have heq := (mem_encodeChar_iff (by omega) c).mp h
    rw [hbyte] at heq
    rw [← Char.ofNat_toNat c, heq, Char.ofNat_toNat]
  · rintro rfl
    rw [encodeChar_of_lt hd] at h
    exact List.mem_singleton.mp h

/-- A character below 128 is in a text exactly if its byte is among the bytes. -/
theorem mem_encode_iff {d : Char} (hd : d.toNat < 0x80) (text : String) :
    UInt8.ofNat d.toNat ∈ encode text ↔ d ∈ text.toList := by
  rw [encode, List.mem_flatMap]
  constructor
  · rintro ⟨c, hc, hbyte⟩
    rwa [← (byte_eq_iff hbyte d hd).mp rfl]
  · intro h
    exact ⟨d, h, by rw [encodeChar_of_lt hd]; exact List.mem_singleton_self _⟩

/-- A text starts with a character below 128 exactly if its bytes start with the byte of it. -/
theorem head?_encode_eq_some_iff {d : Char} (hd : d.toNat < 0x80) (text : String) :
    (encode text).head? = some (UInt8.ofNat d.toNat) ↔ text.toList.head? = some d := by
  rw [encode]
  cases text.toList with
  | nil => simp
  | cons c rest =>
    rw [List.flatMap_cons, List.head?_cons, Option.some.injEq]
    cases hbytes : String.utf8EncodeChar c with
    | nil => exact absurd hbytes String.utf8EncodeChar_ne_nil
    | cons byte others =>
      have hmem : byte ∈ String.utf8EncodeChar c := by rw [hbytes]; exact List.mem_cons_self
      rw [List.cons_append, List.head?_cons, Option.some.injEq]
      exact byte_eq_iff hmem d hd

/-- The number of a scalar value is the number of its character. -/
theorem toNat_ofNat {n : Nat} (h : n < 0xD800 ∨ 0xDFFF < n ∧ n < 0x110000) :
    (Char.ofNat n).toNat = n := by
  have hvalid : n.isValidChar := h
  rw [Char.ofNat, dif_pos hvalid]
  rfl

/-- A byte after the first, in terms of numbers. -/
theorem toNat_of_isTail {b : UInt8} (h : isTail b = true) : 0x80 ≤ b.toNat ∧ b.toNat ≤ 0xBF := by
  simpa [isTail, UInt8.le_iff_toNat_le] using h

/-- A second byte is a byte after the first, in the range that the first byte leaves. -/
theorem toNat_of_isSecond {lead b : UInt8} (h : isSecond lead b = true) :
    (0x80 ≤ b.toNat ∧ b.toNat ≤ 0xBF) ∧ (lead.toNat = 0xE0 → 0xA0 ≤ b.toNat) ∧
      (lead.toNat = 0xED → b.toNat ≤ 0x9F) ∧ (lead.toNat = 0xF0 → 0x90 ≤ b.toNat) ∧
      (lead.toNat = 0xF4 → b.toNat ≤ 0x8F) := by
  rw [isSecond, Bool.and_eq_true] at h
  have hlead : ∀ n : UInt8, lead.toNat = n.toNat → lead = n := fun n => UInt8.toNat_inj.mp
  refine ⟨toNat_of_isTail h.1, ?_, ?_, ?_, ?_⟩
  · intro heq
    simpa [hlead 0xE0 heq, UInt8.le_iff_toNat_le] using h.2
  · intro heq
    simpa [hlead 0xED heq, UInt8.le_iff_toNat_le] using h.2
  · intro heq
    simpa [hlead 0xF0 heq, UInt8.le_iff_toNat_le] using h.2
  · intro heq
    simpa [hlead 0xF4 heq, UInt8.le_iff_toNat_le] using h.2

/-- The byte of a number that is known. -/
theorem ofNat_eq_of_toNat {n : Nat} {b : UInt8} (h : n = b.toNat) : UInt8.ofNat n = b := by
  rw [h, UInt8.ofNat_toNat]

/-- A character of one byte is spelt by it. -/
theorem encodeChar_one {lead : UInt8} (h : lead.toNat < 0x80) :
    String.utf8EncodeChar (Char.ofNat lead.toNat) = [lead] := by
  have hchar := toNat_ofNat (n := lead.toNat) (by omega)
  rw [encodeChar_of_lt (by omega), hchar, UInt8.ofNat_toNat]

/-- A character of two bytes is spelt by them. -/
theorem encodeChar_two {lead b : UInt8} (hlow : 0xC2 ≤ lead.toNat) (hhigh : lead.toNat < 0xE0)
    (hb : isTail b = true) :
    String.utf8EncodeChar (Char.ofNat (lead.toNat % 32 * 64 + payload b)) = [lead, b] := by
  have hb' := toNat_of_isTail hb
  have hpayload : payload b = b.toNat - 0x80 := by
    rw [payload]
    omega
  have hchar := toNat_ofNat (n := lead.toNat % 32 * 64 + payload b) (by omega)
  simp only [String.utf8EncodeChar, Char.toNat_val, hchar]
  rw [if_neg (by omega), if_pos (by omega), ofNat_eq_of_toNat (b := lead) (by omega),
    ofNat_eq_of_toNat (b := b) (by omega)]

/-- A character of three bytes is spelt by them. -/
theorem encodeChar_three {lead b c : UInt8} (hlow : 0xE0 ≤ lead.toNat) (hhigh : lead.toNat < 0xF0)
    (hb : isSecond lead b = true) (hc : isTail c = true) :
    String.utf8EncodeChar (Char.ofNat ((lead.toNat % 16 * 64 + payload b) * 64 + payload c)) =
      [lead, b, c] := by
  obtain ⟨hb', h0, hD, -, -⟩ := toNat_of_isSecond hb
  have hc' := toNat_of_isTail hc
  have hpayload : payload b = b.toNat - 0x80 ∧ payload c = c.toNat - 0x80 := by
    simp only [payload]
    omega
  have hchar := toNat_ofNat (n := (lead.toNat % 16 * 64 + payload b) * 64 + payload c) (by omega)
  simp only [String.utf8EncodeChar, Char.toNat_val, hchar]
  rw [if_neg (by omega), if_neg (by omega), if_pos (by omega),
    ofNat_eq_of_toNat (b := lead) (by omega), ofNat_eq_of_toNat (b := b) (by omega),
    ofNat_eq_of_toNat (b := c) (by omega)]

/-- A character of four bytes is spelt by them. -/
theorem encodeChar_four {lead b c d : UInt8} (hlow : 0xF0 ≤ lead.toNat) (hhigh : lead.toNat < 0xF5)
    (hb : isSecond lead b = true) (hc : isTail c = true) (hd : isTail d = true) :
    String.utf8EncodeChar (Char.ofNat
        (((lead.toNat % 8 * 64 + payload b) * 64 + payload c) * 64 + payload d)) =
      [lead, b, c, d] := by
  obtain ⟨hb', -, -, hF, hL⟩ := toNat_of_isSecond hb
  have hc' := toNat_of_isTail hc
  have hd' := toNat_of_isTail hd
  have hpayload : payload b = b.toNat - 0x80 ∧ payload c = c.toNat - 0x80 ∧
      payload d = d.toNat - 0x80 := by
    simp only [payload]
    omega
  have hchar := toNat_ofNat
    (n := ((lead.toNat % 8 * 64 + payload b) * 64 + payload c) * 64 + payload d) (by omega)
  simp only [String.utf8EncodeChar, Char.toNat_val, hchar]
  rw [if_neg (by omega), if_neg (by omega), if_neg (by omega),
    ofNat_eq_of_toNat (b := lead) (by omega), ofNat_eq_of_toNat (b := b) (by omega),
    ofNat_eq_of_toNat (b := c) (by omega), ofNat_eq_of_toNat (b := d) (by omega)]

/-- Bytes whose first item is a character start with the bytes of that character. -/
theorem eq_encodeChar_append_of_decode {bytes : Bytes} {c : Char} {items : List (Option Char)}
    (h : decode bytes = some c :: items) :
    ∃ rest, bytes = String.utf8EncodeChar c ++ rest ∧ decode rest = items := by
  -- Four cases start with a character, one for each length; the others start with an ill-formed
  -- part.
  fun_cases decode bytes with
  | case2 lead rest h1 =>
    have hhigh : lead.toNat < 0x80 := UInt8.lt_iff_toNat_lt.mp h1
    rw [decode_one hhigh] at h
    cases h
    exact ⟨rest, by rw [encodeChar_one hhigh]; rfl, rfl⟩
  | case5 lead h1 h2 h3 b rest hb =>
    have hlow : 0xC2 ≤ lead.toNat := Nat.le_of_not_lt fun hlt => h2 (UInt8.lt_iff_toNat_lt.mpr hlt)
    have hhigh : lead.toNat < 0xE0 := UInt8.lt_iff_toNat_lt.mp h3
    rw [decode_two hlow hhigh hb] at h
    cases h
    exact ⟨rest, by rw [encodeChar_two hlow hhigh hb]; rfl, rfl⟩
  | case9 lead h1 h2 h3 h4 b hb d rest hd =>
    have hlow : 0xE0 ≤ lead.toNat := Nat.le_of_not_lt fun hlt => h3 (UInt8.lt_iff_toNat_lt.mpr hlt)
    have hhigh : lead.toNat < 0xF0 := UInt8.lt_iff_toNat_lt.mp h4
    rw [decode_three hlow hhigh hb hd] at h
    cases h
    exact ⟨rest, by rw [encodeChar_three hlow hhigh hb hd]; rfl, rfl⟩
  | case15 lead h1 h2 h3 h4 h5 b hb d hd e rest he =>
    have hlow : 0xF0 ≤ lead.toNat := Nat.le_of_not_lt fun hlt => h4 (UInt8.lt_iff_toNat_lt.mpr hlt)
    have hhigh : lead.toNat < 0xF5 := UInt8.lt_iff_toNat_lt.mp h5
    rw [decode_four hlow hhigh hb hd he] at h
    cases h
    exact ⟨rest, by rw [encodeChar_four hlow hhigh hb hd he]; rfl, rfl⟩
  | _ =>
    rw [decode.eq_def] at h
    simp [*] at h

/-- Only the empty byte string decodes to nothing. -/
theorem eq_nil_of_decode {bytes : Bytes} (h : decode bytes = []) : bytes = [] := by
  fun_cases decode bytes with
  | case1 => rfl
  | _ =>
    rw [decode.eq_def] at h
    simp [*] at h

/-- Bytes that decode to characters are the bytes of these characters. -/
theorem eq_flatMap_of_decode {bytes : Bytes} {chars : List Char}
    (h : decode bytes = chars.map some) : bytes = chars.flatMap String.utf8EncodeChar := by
  induction chars generalizing bytes with
  | nil => exact eq_nil_of_decode h
  | cons c chars ih =>
    obtain ⟨rest, rfl, hrest⟩ := eq_encodeChar_append_of_decode h
    rw [List.flatMap_cons, ← ih hrest]

/-- Items that are all there. -/
theorem eq_map_some_of_mapM_id {α : Type} {items : List (Option α)} {values : List α}
    (h : items.mapM id = some values) : items = values.map some := by
  induction items generalizing values with
  | nil =>
    cases h
    rfl
  | cons item items ih =>
    rw [List.mapM_cons] at h
    obtain ⟨value, hitem, h⟩ := Option.bind_eq_some_iff.mp h
    obtain ⟨others, hothers, h⟩ := Option.bind_eq_some_iff.mp h
    cases h
    rw [List.map_cons, ← ih hothers, ← hitem]
    rfl

/-- The text that bytes spell is the one with these bytes. -/
theorem text?_eq_some_iff {bytes : Bytes} {text : String} :
    text? bytes = some text ↔ bytes = encode text := by
  constructor
  · intro h
    obtain ⟨chars, hchars, rfl⟩ := Option.map_eq_some_iff.mp h
    rw [encode, String.toList_ofList]
    exact eq_flatMap_of_decode (eq_map_some_of_mapM_id hchars)
  · rintro rfl
    exact text?_encode text

/-- Different texts have different bytes. -/
theorem encode_inj {text other : String} : encode text = encode other ↔ text = other := by
  constructor
  · intro h
    have hother := text?_encode text
    rw [h, text?_encode, Option.some.injEq] at hother
    exact hother.symm
  · exact congrArg encode

end Fixtures.Utf8
