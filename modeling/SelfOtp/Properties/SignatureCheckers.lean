import SelfOtp.Lib.Utf16
import SelfOtp.Model.Signatures
import SelfOtp.Properties.WebhookAuthenticity

/-! When the two signature checkers agree. -/
namespace SelfOtp

/-! ### Hexadecimal digits -/

def charUnit (c : Char) : UInt16 := c.toNat.toUInt16

theorem unitChar_charUnit {c : Char} (small : c.toNat < 0x10000) : unitChar (charUnit c) = c := by
  have same : (charUnit c).toNat = c.toNat := by
    simp only [charUnit, Nat.toUInt16, UInt16.toNat_ofNat']
    omega
  rw [unitChar, same, Char.ofNat_toNat]

/-- Only surrogates have no character. -/
theorem charUnit_unitChar {u : UInt16} (real : unitChar u ≠ '\x00') : charUnit (unitChar u) = u := by
  by_cases valid : u.toNat.isValidChar
  · rw [charUnit, unitChar, JsString.toNat_ofNat valid]
    exact UInt16.ofNat_toNat
  · exact absurd (dif_neg valid) real

theorem toLower_beyond {c : Char} (beyond : 0x80 ≤ c.toNat) : c.toLower = c := by
  have above : ¬ (c.val ≥ 'A'.val ∧ c.val ≤ 'Z'.val) := by
    rintro ⟨-, low⟩
    have low : c.toNat ≤ 90 := low
    omega
  exact dif_neg above

theorem isHexDigit_beyond {c : Char} (beyond : 0x80 ≤ c.toNat) : isHexDigit c = false := by
  have above {d : Char} (small : d.toNat < 0x80) : decide (c ≤ d) = false := by
    refine decide_eq_false fun low => ?_
    have low : c.toNat ≤ d.toNat := low
    omega
  simp [isHexDigit, above (by decide : '9'.toNat < 0x80), above (by decide : 'f'.toNat < 0x80),
    above (by decide : 'F'.toNat < 0x80)]

/-- The hexadecimal digits are the characters that have a value. -/
theorem hexValue_isSome (c : Char) : (hexValue c).isSome = isHexDigit c := by
  by_cases small : c.toNat < 0x80
  · have ascii : ∀ n < 0x80, (hexValue (Char.ofNat n)).isSome = isHexDigit (Char.ofNat n) := by
      decide +kernel
    simpa only [Char.ofNat_toNat] using ascii c.toNat small
  · have beyond := Nat.not_lt.mp small
    rw [isHexDigit_beyond beyond, Option.isSome_eq_false_iff, Option.isNone_iff_eq_none, hexValue,
      toLower_beyond beyond, List.idxOf?_eq_none_iff]
    intro member
    have ascii : ∀ d ∈ hexAlphabet, d.toNat < 0x80 := forall_mem_of_all (by decide)
    exact small (ascii c member)

theorem toLower_mem_iff {c : Char} : c.toLower ∈ hexAlphabet ↔ isHexDigit c = true := by
  rw [← hexValue_isSome, hexValue, List.isSome_idxOf?]

theorem unitChar_asciiLower (u : UInt16) : unitChar (asciiLower u) = (unitChar u).toLower := by
  by_cases small : u.toNat < 0x80
  · have ascii : ∀ n < 0x80, unitChar (asciiLower (UInt16.ofNat n)) =
        (unitChar (UInt16.ofNat n)).toLower := by decide +kernel
    simpa only [UInt16.ofNat_toNat] using ascii u.toNat small
  · have kept : asciiLower u = u := by
      refine if_neg ?_
      rintro ⟨-, low⟩
      have low : u.toNat ≤ 90 := low
      omega
    rw [kept]
    by_cases real : unitChar u = '\x00'
    · rw [real]
      rfl
    · refine (toLower_beyond ?_).symm
      have back := congrArg UInt16.toNat (charUnit_unitChar real)
      simp only [charUnit, Nat.toUInt16, UInt16.toNat_ofNat'] at back
      omega

theorem hex_subset {bytes : List UInt8} {c : Char} (member : c ∈ hex bytes) : c ∈ hexAlphabet := by
  obtain ⟨b, -, member⟩ := List.mem_flatMap.mp member
  obtain ⟨high, low⟩ := hexByte_digits b
  rcases List.mem_cons.mp member with rfl | member
  · exact List.mem_of_getElem? high
  · rw [List.mem_singleton.mp member]
    exact List.mem_of_getElem? low

theorem hexAlphabet_digits : ∀ c ∈ hexAlphabet, c.toNat < 0x80 ∧ c ≠ '\x00' ∧ isHexDigit c = true :=
  forall_mem_of_all (by decide)

theorem hexText_length (bytes : List UInt8) : (hexText bytes).length = 2 * bytes.length := by
  rw [hexText, List.length_map, hex_length]

theorem map_unitChar_hexText (bytes : List UInt8) : (hexText bytes).map unitChar = hex bytes := by
  rw [hexText, List.map_map]
  refine (List.map_congr_left fun c member => ?_).trans (List.map_id _)
  have small := (hexAlphabet_digits c (hex_subset member)).1
  exact unitChar_charUnit (by omega)

/-- A text of code units is the hexadecimal text of the bytes, in either case. -/
theorem map_asciiLower_iff (s : JsString) (bytes : List UInt8) :
    s.map asciiLower = hexText bytes ↔ (s.map unitChar).map Char.toLower = hex bytes := by
  have lowered : (s.map unitChar).map Char.toLower = (s.map asciiLower).map unitChar := by
    rw [List.map_map, List.map_map]
    exact List.map_congr_left fun u _ => (unitChar_asciiLower u).symm
  rw [lowered]
  constructor
  · intro same
    rw [same, map_unitChar_hexText]
  · intro same
    rw [hexText, ← same, List.map_map]
    refine ((List.map_congr_left fun u member => ?_).trans (List.map_id _)).symm
    have member : unitChar u ∈ hex bytes := same ▸ List.mem_map_of_mem member
    exact charUnit_unitChar (hexAlphabet_digits _ (hex_subset member)).2.1

/-- The decoding reads all of a text of even length if and only if it has hexadecimal digits
alone. -/
theorem length_bufferFromHex {cs : List Char} {n : ℕ} (even : cs.length = 2 * n) :
    (bufferFromHex cs).length = n ↔ ∀ c ∈ cs, isHexDigit c = true := by
  induction n generalizing cs with
  | zero =>
    rw [List.length_eq_zero_iff.mp even]
    simp [bufferFromHex]
  | succ n ih =>
    rcases cs with _ | ⟨x, _ | ⟨y, rest⟩⟩
    · simp at even
    · simp only [List.length_cons, List.length_nil] at even
      omega
    · have even : rest.length = 2 * n := by
        simp only [List.length_cons] at even
        omega
      have rest_iff := ih even
      rw [List.forall_mem_cons, List.forall_mem_cons, ← rest_iff, ← hexValue_isSome, ← hexValue_isSome]
      simp only [bufferFromHex]
      cases first : hexValue x with
      | none => simp
      | some p =>
        cases second : hexValue y with
        | none => simp
        | some q => simp

/-! ### Lower case -/

section Digest

variable {T : CaseTable} {hmac : HmacSha256} {body secret signature : JsString}
  {header : Option JsString} {bytes : List UInt8}

/-- A hexadecimal digit is an ASCII unit, and not the sign that separates the parts of a header. -/
theorem hexUnit_small {u : UInt16} (digit : isHexDigit (unitChar u) = true) : u < 0x80 ∧ u ≠ 0x3D := by
  constructor
  · have real : unitChar u ≠ '\x00' := by
      intro none
      rw [none] at digit
      cases digit
    have small : ¬ 0x80 ≤ (unitChar u).toNat := by
      intro beyond
      rw [isHexDigit_beyond beyond] at digit
      cases digit
    have back := congrArg UInt16.toNat (charUnit_unitChar real)
    simp only [charUnit, Nat.toUInt16, UInt16.toNat_ofNat'] at back
    have low : u.toNat < 0x80 := by omega
    exact low
  · rintro rfl
    revert digit
    decide

theorem signature_digits (same : signature.map asciiLower = hexText bytes) :
    ∀ u ∈ signature, isHexDigit (unitChar u) = true := by
  intro u member
  rw [map_asciiLower_iff] at same
  have lowered : (unitChar u).toLower ∈ hex bytes :=
    same ▸ List.mem_map_of_mem (List.mem_map_of_mem member)
  exact toLower_mem_iff.mp (hex_subset lowered)

theorem CaseTable.lowerFrom_ascii {before s : JsString} (ascii : ∀ u ∈ s, u < 0x80) :
    T.lowerFrom before s = s.map asciiLower := by
  induction s generalizing before with
  | nil => rfl
  | cons u after ih =>
    rw [List.forall_mem_cons] at ascii
    rw [lowerFrom, if_pos ascii.1, ih ascii.2]
    rfl

/-- What lies beyond ASCII shows in the lower case. -/
theorem CaseTable.ascii_of_lowerFrom {before s : JsString}
    (digits : ∀ v ∈ T.lowerFrom before s, isHexDigit (unitChar v) = true) : ∀ u ∈ s, u < 0x80 := by
  induction s generalizing before with
  | nil => simp
  | cons u after ih =>
    rw [lowerFrom] at digits
    rw [List.forall_mem_cons]
    refine ⟨?_, ih fun v member => digits v (List.mem_append_right _ member)⟩
    by_contra large
    rw [if_neg large] at digits
    obtain ⟨v, member, other⟩ := T.beyond before u after (UInt16.not_lt.mp large)
    rw [digits v (List.mem_append_left _ member)] at other
    cases other

theorem CaseTable.toLowerCase_iff :
    T.toLowerCase signature = hexText bytes ↔ signature.map asciiLower = hexText bytes := by
  have lower (ascii : ∀ u ∈ signature, u < 0x80) : T.toLowerCase signature = signature.map asciiLower :=
    lowerFrom_ascii ascii
  constructor
  · intro same
    have digits : ∀ v ∈ T.lowerFrom [] signature, isHexDigit (unitChar v) = true := by
      intro v there
      have member : unitChar v ∈ hex bytes := by
        rw [← map_unitChar_hexText, ← same]
        exact List.mem_map_of_mem there
      exact (hexAlphabet_digits _ (hex_subset member)).2.2
    rw [← lower (ascii_of_lowerFrom digits), same]
  · intro same
    rw [lower fun u member => (hexUnit_small (signature_digits same u member)).1, same]

theorem CaseTable.toLowerCase_hexText : T.toLowerCase (hexText bytes) = hexText bytes := by
  rw [toLowerCase_iff, map_asciiLower_iff, map_unitChar_hexText, hex_lower]

/-! ### The checkers -/

/-- The header is `sha256=` and the hexadecimal digits, in either case, of the HMAC of the body. -/
def SignedBy (hmac : HmacSha256) (secret body : JsString) (header : Option JsString) : Prop :=
  ∃ signature, header = some (js "sha256=" ++ signature) ∧
    signature.map asciiLower = hexText (hmac secret.utf8 body.utf8).1

/-- The header is `sha256=` and 64 code units that are not all hexadecimal digits. -/
def Malformed (header : Option JsString) : Prop :=
  ∃ signature, header = some (js "sha256=" ++ signature) ∧ signature.length = 64 ∧
    ∃ u ∈ signature, isHexDigit (unitChar u) = false

/-- Neither checker throws, both return the same, and it tells whether the body is signed. -/
def CheckersAgree (T : CaseTable) (hmac : HmacSha256) (body : JsString) (header : Option JsString)
    (secret : JsString) : Prop :=
  ∃ b, Node.verifyMetaSignature hmac body header secret = some b ∧
    Edge.verifyMetaSignature T hmac body header secret = b ∧ (b = true ↔ SignedBy hmac secret body header)

theorem Node.verifyMetaSignature_prefixed :
    Node.verifyMetaSignature hmac body (some (js "sha256=" ++ signature)) secret =
      if signature.length ≠ 64 then some false
      else timingSafeEqual (bufferFromHex (signature.map unitChar)) (hmac secret.utf8 body.utf8).1 := by
  have size : (hexText (hmac secret.utf8 body.utf8).1).length = 64 := by
    rw [hexText_length, (hmac secret.utf8 body.utf8).2]
  have starts : (js "sha256=").isPrefixOf (js "sha256=" ++ signature) = true := by
    rw [List.isPrefixOf_iff_prefix]
    exact List.prefix_append _ _
  have nonempty : js "sha256=" ++ signature ≠ [] := List.append_ne_nil_of_left_ne_nil (by decide) _
  have dropped : (js "sha256=" ++ signature).drop 7 = signature := rfl
  have read (bytes : List UInt8) : bufferFromHex (hex bytes) = bytes :=
    ((bufferFromHex_iff _ _).mpr (hex_lower bytes)).2
  simp only [verifyMetaSignature, starts, nonempty, dropped, size, map_unitChar_hexText, read,
    not_true_eq_false, or_self, if_false]

/-- A header without the prefix is refused. -/
theorem Node.verifyMetaSignature_other (other : ∀ signature, header ≠ some (js "sha256=" ++ signature)) :
    Node.verifyMetaSignature hmac body header secret = some false := by
  cases header with
  | none => rfl
  | some text =>
    have unprefixed : ¬ (js "sha256=").isPrefixOf text = true := by
      rw [List.isPrefixOf_iff_prefix]
      rintro ⟨signature, same⟩
      exact other signature (congrArg some same.symm)
    exact if_pos (Or.inr unprefixed)

/-- With 64 hexadecimal digits the comparison is one of buffers of 32 bytes. -/
theorem Node.verifyMetaSignature_digits (size : signature.length = 64)
    (digits : ∀ u ∈ signature, isHexDigit (unitChar u) = true) :
    ∃ b, Node.verifyMetaSignature hmac body (some (js "sha256=" ++ signature)) secret = some b ∧
      (b = true ↔ signature.map asciiLower = hexText (hmac secret.utf8 body.utf8).1) := by
  have even : (signature.map unitChar).length = 2 * 32 := by rw [List.length_map, size]
  have length : (bufferFromHex (signature.map unitChar)).length = (hmac secret.utf8 body.utf8).1.length := by
    rw [(hmac secret.utf8 body.utf8).2, length_bufferFromHex even]
    intro c member
    obtain ⟨u, inside, rfl⟩ := List.mem_map.mp member
    exact digits u inside
  refine ⟨bufferFromHex (signature.map unitChar) == (hmac secret.utf8 body.utf8).1, ?_, ?_⟩
  · rw [verifyMetaSignature_prefixed, if_neg (not_not.mpr size), timingSafeEqual, if_pos length]
  · rw [beq_iff_eq, map_asciiLower_iff, ← bufferFromHex_iff]
    rw [even, (hmac secret.utf8 body.utf8).2]
    simp only [true_and]

theorem Node.verifyMetaSignature_malformed (malformed : Malformed header) :
    Node.verifyMetaSignature hmac body header secret = none := by
  obtain ⟨signature, rfl, size, u, member, other⟩ := malformed
  have even : (signature.map unitChar).length = 2 * 32 := by rw [List.length_map, size]
  have length : (bufferFromHex (signature.map unitChar)).length ≠ (hmac secret.utf8 body.utf8).1.length := by
    rw [(hmac secret.utf8 body.utf8).2, Ne, length_bufferFromHex even]
    intro digits
    rw [digits _ (List.mem_map_of_mem member)] at other
    cases other
  rw [verifyMetaSignature_prefixed, if_neg (not_not.mpr size), timingSafeEqual, if_neg length]

theorem intercalate_parts (hash : JsString) :
    ([0x3D] : JsString).intercalate [js "sha256", hash] = js "sha256=" ++ hash := by
  have flat : ([0x3D] : JsString).intercalate [js "sha256", hash] = js "sha256=" ++ (hash ++ []) := rfl
  rw [flat, List.append_nil]

theorem Edge.verifyMetaSignature_iff (nonempty : secret ≠ []) :
    Edge.verifyMetaSignature T hmac body header secret = true ↔ SignedBy hmac secret body header := by
  cases header with
  | none =>
    constructor
    · intro returned
      cases returned
    · rintro ⟨signature, absent, -⟩
      cases absent
  | some text =>
    constructor
    · intro returned
      simp only [verifyMetaSignature] at returned
      split at returned
      · cases returned
      split at returned
      next scheme expectedHash parts =>
        split at returned
        · cases returned
        next same =>
          -- the parts, joined, are the header
          have joined : List.intercalate [(0x3D : UInt16)] (text.splitOn 0x3D) = text :=
            List.intercalate_splitOn _
          rw [parts, not_not.mp same, intercalate_parts] at joined
          rw [beq_iff_eq, CaseTable.toLowerCase_hexText, eq_comm, CaseTable.toLowerCase_iff] at returned
          exact ⟨expectedHash, congrArg some joined.symm, returned⟩
      · cases returned
    · rintro ⟨signature, present, signed⟩
      obtain rfl := Option.some.inj present
      -- a signature of hexadecimal digits has no `=` in it
      have parts : (js "sha256=" ++ signature).splitOn 0x3D = [js "sha256", signature] := by
        rw [← intercalate_parts]
        refine List.splitOn_intercalate _ (fun part member => ?_) (by simp)
        rcases List.mem_cons.mp member with rfl | member
        · decide
        · rw [List.mem_singleton.mp member]
          exact fun inside => (hexUnit_small (signature_digits signed _ inside)).2 rfl
      have present : js "sha256=" ++ signature ≠ [] := List.append_ne_nil_of_left_ne_nil (by decide) _
      simp only [verifyMetaSignature, present, nonempty, or_self, if_false, parts, ne_eq, not_true_eq_false,
        beq_iff_eq]
      rw [CaseTable.toLowerCase_hexText, CaseTable.toLowerCase_iff.mpr signed]

/-- The checkers agree, and tell whether the body is signed, if and only if the header is not
`sha256=` and 64 code units that are not all hexadecimal digits. -/
theorem checkers_agree_iff (nonempty : secret ≠ []) :
    CheckersAgree T hmac body header secret ↔ ¬ Malformed header := by
  constructor
  · rintro ⟨b, returned, -⟩ malformed
    rw [Node.verifyMetaSignature_malformed malformed] at returned
    cases returned
  · intro wellFormed
    -- it is enough that the Node checker tells whether the body is signed
    suffices node : ∃ b, Node.verifyMetaSignature hmac body header secret = some b ∧
        (b = true ↔ SignedBy hmac secret body header) by
      obtain ⟨b, returned, signed⟩ := node
      refine ⟨b, returned, ?_, signed⟩
      rw [Bool.eq_iff_iff, Edge.verifyMetaSignature_iff nonempty, signed]
    by_cases prefixed : ∃ signature, header = some (js "sha256=" ++ signature)
    · obtain ⟨signature, rfl⟩ := prefixed
      have only : SignedBy hmac secret body (some (js "sha256=" ++ signature)) ↔
          signature.map asciiLower = hexText (hmac secret.utf8 body.utf8).1 := by
        constructor
        · rintro ⟨other, same, signed⟩
          rwa [List.append_cancel_left (Option.some.inj same)]
        · exact fun signed => ⟨signature, rfl, signed⟩
      rw [only]
      by_cases size : signature.length = 64
      · refine Node.verifyMetaSignature_digits size fun u member => ?_
        -- some other unit among 64 is the malformed header
        by_contra other
        exact wellFormed ⟨signature, rfl, size, u, member, Bool.eq_false_iff.mpr other⟩
      · refine ⟨false, by rw [Node.verifyMetaSignature_prefixed, if_pos size], ?_⟩
        constructor
        · intro returned
          cases returned
        · intro signed
          have length := congrArg List.length signed
          rw [List.length_map, hexText_length, (hmac secret.utf8 body.utf8).2] at length
          exact absurd length size
    · refine ⟨false, Node.verifyMetaSignature_other fun signature same => prefixed ⟨signature, same⟩, ?_⟩
      constructor
      · intro returned
        cases returned
      · rintro ⟨signature, same, -⟩
        exact absurd ⟨signature, same⟩ prefixed

end Digest

/-- Every unit beyond ASCII is its own lower case, as it is for most. -/
def plainTable : CaseTable where
  lower _ u _ := [u]
  beyond _ u _ large := by
    refine ⟨u, List.mem_singleton_self u, Bool.eq_false_iff.mpr fun digit => ?_⟩
    exact absurd (hexUnit_small digit).1 (UInt16.not_lt.mpr large)

/-- The HMAC-SHA256 of `The quick brown fox jumps over the lazy dog` under the key `key`. -/
def foxDigest : Digest :=
  ⟨[0xf7, 0xbc, 0x83, 0xf4, 0x30, 0x53, 0x84, 0x24, 0xb1, 0x32, 0x98, 0xe6, 0xaa, 0x6f, 0xb1, 0x43,
    0xef, 0x4d, 0x59, 0xa1, 0x49, 0x46, 0x17, 0x59, 0x97, 0x47, 0x9d, 0xbc, 0x2d, 0x1a, 0x3c, 0xd8],
    rfl⟩

def foxHeader : JsString :=
  js "sha256=F7BC83F430538424B13298E6AA6FB143EF4D59A14946175997479DBC2D1A3CD8"

/-- Both checkers take a signature in capital letters. -/
theorem checkers_agree_of_fox :
    js "key" ≠ [] ∧ CheckersAgree plainTable (fun _ _ => foxDigest)
      (js "The quick brown fox jumps over the lazy dog") (some foxHeader) (js "key") := by
  refine ⟨by decide, (checkers_agree_iff (by decide)).mpr ?_⟩
  rintro ⟨signature, same, -, u, member, other⟩
  have digits : ∀ v ∈ foxHeader.drop 7, isHexDigit (unitChar v) = true :=
    forall_mem_of_all (by decide +kernel)
  rw [Option.some.inj same] at digits
  rw [digits u member] at other
  cases other

/-- Given 64 characters that are no digits, the Node checker throws. -/
theorem checkers_disagree_about_z :
    ¬ ∀ (T : CaseTable) (hmac : HmacSha256) (body : JsString) (header : Option JsString)
      (secret : JsString), secret ≠ [] → CheckersAgree T hmac body header secret := by
  intro agree
  obtain ⟨b, returned, -⟩ := agree plainTable (fun _ _ => foxDigest) []
    (some (js "sha256=" ++ List.replicate 64 0x7A)) (js "key") (by decide)
  rw [Node.verifyMetaSignature_malformed ⟨List.replicate 64 0x7A, rfl, rfl, 0x7A, by decide, by decide⟩]
    at returned
  cases returned

end SelfOtp
