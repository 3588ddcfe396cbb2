import LotusRisk.Lib.Base64Strict
import LotusRisk.Lib.Json
import LotusRisk.Security.Models

/-! The segments of a compact credential have one text for each value. -/

namespace LotusRisk
set_option autoImplicit true

open JsonText

section Segment

/-- `[A-Za-z0-9_-]`. -/
def segmentCharacter (c : Char) : Bool :=
  ('A' ≤ c && c ≤ 'Z') || ('a' ≤ c && c ≤ 'z') || ('0' ≤ c && c ≤ '9') || c = '_' || c = '-'

/-- `base64.urlsafe_b64encode(decoded).decode().rstrip("=")`. -/
def encodeSegment (decoded : List UInt8) : String :=
  String.ofList (Base64.stripPadding (Base64.encode decoded))

/-- `_decode`; `binascii.Error` is a `ValueError`. -/
def decodeSegment (segment : String) : Except PyException (List UInt8) :=
  if segment.toList.isEmpty || !segment.toList.all segmentCharacter then
    .error (.valueError "invalid compact encoding")
  else
    match Base64.decodeStrict (segment.toList ++ Base64.padding segment.toList.length) with
    | none => .error (.valueError (s!"Invalid base64-encoded string: number of data characters " ++
        s!"({segment.length}) cannot be 1 more than a multiple of 4"))
    | some decoded =>
      if encodeSegment decoded ≠ segment then .error (.valueError "noncanonical compact encoding")
      else .ok decoded

theorem toList_encodeSegment (decoded : List UInt8) :
    (encodeSegment decoded).toList = Base64.encodeData decoded := by
  rw [encodeSegment, String.toList_ofList, Base64.stripPadding_encode]

theorem encodeSegment_eq_iff {segment : String} :
    encodeSegment decoded = segment ↔ Base64.encodeData decoded = segment.toList := by
  rw [← toList_encodeSegment, String.toList_inj]

theorem segmentCharacter_alphabet (h : n < 64) : segmentCharacter (Base64.alphabet n) = true := by
  have hall : ∀ m : Fin 64, segmentCharacter (Base64.alphabet m.val) = true := by decide
  exact hall ⟨n, h⟩

theorem encodeData_ne_nil (h : decoded ≠ []) : Base64.encodeData decoded ≠ [] := by
  intro hnil
  exact h (Base64.encodeData_injective (hnil.trans rfl))

/-- What is decoded is not empty, and its encoding is the segment. -/
theorem decodeSegment_eq_ok {segment : String} :
    decodeSegment segment = .ok decoded ↔ decoded ≠ [] ∧ encodeSegment decoded = segment := by
  constructor
  · intro h
    rw [decodeSegment] at h
    split at h
    · cases h
    · rename_i hcharacters
      split at h
      · cases h
      · split at h
        · cases h
        · rename_i hcanonical
          cases h
          have hencode := not_not.1 hcanonical
          refine ⟨?_, hencode⟩
          rintro rfl
          rw [encodeSegment_eq_iff] at hencode
          rw [← hencode] at hcharacters
          exact hcharacters rfl
  · rintro ⟨hne, hencode⟩
    have hdata := encodeSegment_eq_iff.1 hencode
    have hnonempty : segment.toList.isEmpty = false := by
      rw [← hdata, List.isEmpty_eq_false_iff]
      exact encodeData_ne_nil hne
    have hcharacters : segment.toList.all segmentCharacter = true := by
      rw [List.all_eq_true]
      intro c hc
      rw [← hdata] at hc
      obtain ⟨n, hn, rfl⟩ := Base64.mem_encodeData hc
      exact segmentCharacter_alphabet hn
    have hdecode : Base64.decodeStrict (segment.toList ++
        Base64.padding segment.toList.length) = some decoded := by
      rw [← hdata]
      exact Base64.decodeStrict_encode decoded
    rw [decodeSegment, hnonempty, hcharacters, hdecode]
    exact if_neg (not_not.2 hencode)

theorem decodeSegment_injective {segment segment' : String}
    (h : decodeSegment segment = .ok decoded) (h' : decodeSegment segment' = .ok decoded) :
    segment = segment' := by
  rw [← (decodeSegment_eq_ok.1 h).2, (decodeSegment_eq_ok.1 h').2]

/-- The accepted texts, by their characters. -/
theorem exists_decodeSegment {segment : String} :
    (∃ decoded, decodeSegment segment = .ok decoded) ↔
      segment ≠ "" ∧ Base64.Canonical segment.toList := by
  rw [Base64.canonical_iff]
  constructor
  · rintro ⟨decoded, h⟩
    obtain ⟨hne, hencode⟩ := decodeSegment_eq_ok.1 h
    have hdata := encodeSegment_eq_iff.1 hencode
    refine ⟨?_, decoded, hdata⟩
    rintro rfl
    exact encodeData_ne_nil hne hdata
  · rintro ⟨hne, decoded, hdata⟩
    refine ⟨decoded, decodeSegment_eq_ok.2 ⟨?_, encodeSegment_eq_iff.2 hdata⟩⟩
    rintro rfl
    exact hne (String.toList_inj.1 hdata.symm)

end Segment

section Credential

/-- `json.loads` with the hooks that refuse a repeated member and a constant that is not JSON. -/
abbrev JsonLoads := List UInt8 → Except PyException Json

variable (loads : JsonLoads)

/-- `_object`. -/
def objectOf (segment : String) : Except PyException (List (String × Json)) := do
  match ← loads (← decodeSegment segment) with
  | .obj members => .ok members
  | _ => .error (.typeError "object required")

/-- `_text`. -/
def claimText (claims : List (String × Json)) (field : String) : Except PyException String :=
  match claims.lookup field with
  | some (.str value) =>
    if !trimmedText value then .error (.valueError "invalid text claim")
    else if 512 < value.length then .error (.valueError "unbounded text claim")
    else .ok value
  | _ => .error (.valueError "invalid text claim")

def claimIs (text : String) : Option Json → Bool
  | some (.str value) => value = text
  | _ => false

def requireHeader (header : List (String × Json)) : Except PyException Unit :=
  if !claimIs "EdDSA" (header.lookup "alg") ||
      header.any (fun member => member.1 ∉ ["alg", "kid", "typ"]) then
    .error (.valueError "unsupported protected header")
  else if (header.lookup "typ").isSome && !claimIs "JWT" (header.lookup "typ") then
    .error (.valueError "unsupported credential type")
  else .ok ()

def requireSignatureSize (signature : List UInt8) : Except PyException Unit :=
  if signature.length ≠ 64 then .error (.valueError "invalid signature size") else .ok ()

structure CompactParts where
  headerPart : String
  claimsPart : String
  signature : List UInt8
  kid : String

/-- `_compact_parts`, after the split. -/
def compactPartsOf (headerPart claimsPart signaturePart : String) :
    Except PyException CompactParts := do
  let header ← objectOf loads headerPart
  requireHeader header
  let signature ← decodeSegment signaturePart
  requireSignatureSize signature
  let kid ← claimText header "kid"
  return { headerPart, claimsPart, signature, kid }

/-- `_compact_parts`. -/
def compactParts (credential : String) : Except PyException CompactParts :=
  if 16384 < credential.length then .error (.valueError "unbounded credential")
  else
    match (credential.toList.splitOn '.').map String.ofList with
    | [headerPart, claimsPart, signaturePart] =>
      compactPartsOf loads headerPart claimsPart signaturePart
    | segments =>
      if segments.length < 3 then
        .error (.valueError s!"not enough values to unpack (expected 3, got {segments.length})")
      else .error (.valueError "too many values to unpack (expected 3)")

/-- What a verification reads of a credential's text: the parts, and the object of the claims. -/
def readCredential (credential : String) :
    Except PyException (CompactParts × List (String × Json)) := do
  let parts ← compactParts loads credential
  let claims ← objectOf loads parts.claimsPart
  return (parts, claims)

/-- The bytes that the text of an accepted credential carries. -/
structure Carries (credential : String) (header payload signature : List UInt8) : Prop where
  accepted : ∃ parts claims, readCredential loads credential = .ok (parts, claims) ∧
    decodeSegment parts.headerPart = .ok header ∧ decodeSegment parts.claimsPart = .ok payload ∧
    parts.signature = signature

variable {loads}

theorem decodeSegment_of_objectOf {segment : String}
    (h : objectOf loads segment = .ok members) :
    ∃ decoded, decodeSegment segment = .ok decoded := by
  rw [objectOf] at h
  obtain ⟨decoded, hdecoded, _⟩ := bind_eq_ok.1 h
  exact ⟨decoded, hdecoded⟩

/-- The parts are those of the text, and the signature is what its segment encodes. -/
theorem compactParts_eq_ok (h : compactParts loads credential = .ok parts) :
    ∃ signaturePart, credential.toList.splitOn '.' =
        [parts.headerPart.toList, parts.claimsPart.toList, signaturePart.toList] ∧
      (∃ header, decodeSegment parts.headerPart = .ok header) ∧
      decodeSegment signaturePart = .ok parts.signature := by
  rw [compactParts] at h
  split at h
  · cases h
  · split at h
    · rename_i headerPart claimsPart signaturePart hsplit
      rw [compactPartsOf] at h
      obtain ⟨header, hheader, h⟩ := bind_eq_ok.1 h
      obtain ⟨_, _, h⟩ := bind_eq_ok.1 h
      obtain ⟨signature, hsignature, h⟩ := bind_eq_ok.1 h
      obtain ⟨_, _, h⟩ := bind_eq_ok.1 h
      obtain ⟨kid, _, h⟩ := bind_eq_ok.1 h
      cases h
      have hlists := congrArg (List.map String.toList) hsplit
      rw [List.map_map, List.map_cons, List.map_cons, List.map_cons, List.map_nil] at hlists
      rw [show String.toList ∘ String.ofList = id from funext fun l => String.toList_ofList,
        List.map_id] at hlists
      exact ⟨signaturePart, hlists, decodeSegment_of_objectOf hheader, hsignature⟩
    · split at h <;> cases h

theorem exists_carries (h : readCredential loads credential = .ok (parts, claims)) :
    ∃ header payload, Carries loads credential header payload parts.signature := by
  have hread := h
  rw [readCredential] at h
  obtain ⟨parts', hparts, h⟩ := bind_eq_ok.1 h
  obtain ⟨claims', hclaims, h⟩ := bind_eq_ok.1 h
  cases h
  obtain ⟨_, _, ⟨header, hheader⟩, _⟩ := compactParts_eq_ok hparts
  obtain ⟨payload, hpayload⟩ := decodeSegment_of_objectOf hclaims
  exact ⟨header, payload, ⟨_, _, hread, hheader, hpayload, rfl⟩⟩

/-- The segments, and with them the text, are those of the bytes that are carried. -/
theorem Carries.splitOn (h : Carries loads credential header payload signature) :
    credential.toList.splitOn '.' = [Base64.encodeData header, Base64.encodeData payload,
      Base64.encodeData signature] := by
  obtain ⟨parts, claims, hread, hheader, hpayload, rfl⟩ := h.accepted
  rw [readCredential] at hread
  obtain ⟨parts', hparts, hread⟩ := bind_eq_ok.1 hread
  obtain ⟨claims', _, hread⟩ := bind_eq_ok.1 hread
  cases hread
  obtain ⟨signaturePart, hsplit, _, hsignature⟩ := compactParts_eq_ok hparts
  rw [hsplit, encodeSegment_eq_iff.1 (decodeSegment_eq_ok.1 hheader).2,
    encodeSegment_eq_iff.1 (decodeSegment_eq_ok.1 hpayload).2,
    encodeSegment_eq_iff.1 (decodeSegment_eq_ok.1 hsignature).2]

theorem Carries.injective (h : Carries loads credential header payload signature)
    (h' : Carries loads credential' header payload signature) : credential = credential' := by
  have hsplit : credential.toList.splitOn '.' = credential'.toList.splitOn '.' :=
    h.splitOn.trans h'.splitOn.symm
  apply String.toList_inj.1
  have hjoin : [ '.'].intercalate (credential.toList.splitOn '.') = credential.toList :=
    List.intercalate_splitOn '.'
  rw [← hjoin, hsplit, List.intercalate_splitOn]

end Credential

/-- The segment codec is canonical, and so is the text of a credential. -/
theorem segment_codec_canonical (loads : JsonLoads) :
    (∀ text, (∃ raw, decodeSegment text = .ok raw) ↔ ∃ raw, raw ≠ [] ∧ encodeSegment raw = text) ∧
    (∀ text, (∃ raw, decodeSegment text = .ok raw) ↔
      text ≠ "" ∧ Base64.Canonical text.toList) ∧
    (∀ text raw, decodeSegment text = .ok raw → encodeSegment raw = text) ∧
    (∀ raw, raw ≠ [] → decodeSegment (encodeSegment raw) = .ok raw) ∧
    (∀ text text' raw, decodeSegment text = .ok raw → decodeSegment text' = .ok raw →
      text = text') ∧
    (∀ credential parts claims, readCredential loads credential = .ok (parts, claims) →
      ∃ header payload, Carries loads credential header payload parts.signature) ∧
    ∀ credential credential' header payload signature,
      Carries loads credential header payload signature →
      Carries loads credential' header payload signature → credential = credential' := by
  have hiff : ∀ text, (∃ raw, decodeSegment text = .ok raw) ↔
      ∃ raw, raw ≠ [] ∧ encodeSegment raw = text :=
    fun text => exists_congr fun raw => decodeSegment_eq_ok
  have hdecode : ∀ raw, raw ≠ [] → decodeSegment (encodeSegment raw) = .ok raw :=
    fun raw hne => decodeSegment_eq_ok.2 ⟨hne, rfl⟩
  exact ⟨hiff, fun _ => exists_decodeSegment, fun _ _ h => (decodeSegment_eq_ok.1 h).2, hdecode,
    fun _ _ _ h h' => decodeSegment_injective h h', fun _ _ _ h => exists_carries h,
    fun _ _ _ _ _ h h' => h.injective h'⟩

/-- A header segment, and a text whose last character has open bits. -/
example : decodeSegment "eyJhbGciOiJFZERTQSJ9" = .ok "\x7b\"alg\":\"EdDSA\"\x7d".toUTF8.data.toList ∧
    decodeSegment "QR" = .error (.valueError "noncanonical compact encoding") := by
  decide

end LotusRisk
