import LotusRisk.Lib.Base64
import LotusRisk.Lib.JsonRoundTrip
import LotusRisk.Python

/-! The opaque cursor of a contribution page. -/

namespace LotusRisk
open JsonText
set_option autoImplicit true

section Codec

/-- `text.encode("utf-8")`. -/
def encodeUtf8 (text : String) : List UInt8 := text.toUTF8.data.toList

/-- `raw.decode("utf-8")`; `none` is `UnicodeDecodeError`. -/
def decodeUtf8 (raw : List UInt8) : Option String := String.fromUTF8? ⟨raw.toArray⟩

def encodeContributionCursor (scenarioId : String) (ordinal : Nat) : String :=
  let payload := encodeUtf8 (dumps (.arr [.str scenarioId, .int ordinal]))
  String.ofList (Base64.stripPadding (Base64.encode payload))

/-- `urlsafe_b64decode(cursor + padding)`, which takes ASCII text only. -/
def paddedBase64Decode (cursor : String) : Option (List UInt8) :=
  let padded := cursor.toList ++ Base64.padding cursor.length
  if padded.all (fun c => c.toNat < 128) then Base64.decode padded else none

/-- The type and range checks on the decoded payload; a JSON boolean is a Python integer. -/
def cursorKey : Json → Option (String × Nat)
  | .arr [.str scenarioId, .int ordinal] =>
    if scenarioId.isEmpty then none
    else if ordinal < 0 then none
    else some (scenarioId, ordinal.toNat)
  | .arr [.str scenarioId, .bool ordinal] =>
    if scenarioId.isEmpty then none else some (scenarioId, ordinal.toNat)
  | _ => none

def decodeContributionCursor (cursor : String) : Except PyException (String × Nat) :=
  match paddedBase64Decode cursor >>= decodeUtf8 >>= loads >>= cursorKey with
  | some key => .ok key
  | none => .error (.valueError "scenario job contribution cursor is invalid")

end Codec

section RoundTrip

theorem decodeUtf8_encodeUtf8 (text : String) : decodeUtf8 (encodeUtf8 text) = some text := by
  have hb : (⟨text.toUTF8.data.toList.toArray⟩ : ByteArray) = text.toUTF8 := by
    rw [Array.toArray_toList]
  have hv : text.toUTF8.IsValidUTF8 := text.isValidUTF8
  unfold decodeUtf8 encodeUtf8 String.fromUTF8?
  rw [hb, dif_pos hv]
  rfl

theorem length_encodeContributionCursor (scenarioId : String) (ordinal : Nat) :
    (encodeContributionCursor scenarioId ordinal).length =
      (Base64.encodeData (encodeUtf8 (dumps (.arr [.str scenarioId, .int ordinal])))).length := by
  unfold encodeContributionCursor
  dsimp only
  rw [Base64.stripPadding_encode, String.length_ofList]

/-- The padding that encoding strips is the padding that decoding puts back. -/
theorem paddedBase64Decode_encodeContributionCursor (scenarioId : String) (ordinal : Nat) :
    paddedBase64Decode (encodeContributionCursor scenarioId ordinal) =
      some (encodeUtf8 (dumps (.arr [.str scenarioId, .int ordinal]))) := by
  have hp : (encodeContributionCursor scenarioId ordinal).toList ++
      Base64.padding (encodeContributionCursor scenarioId ordinal).length =
        Base64.encode (encodeUtf8 (dumps (.arr [.str scenarioId, .int ordinal]))) := by
    rw [length_encodeContributionCursor]
    unfold encodeContributionCursor
    dsimp only
    rw [String.toList_ofList, Base64.stripPadding_encode]
    rfl
  have ha := Base64.encode_ascii (encodeUtf8 (dumps (.arr [.str scenarioId, .int ordinal])))
  unfold paddedBase64Decode
  dsimp only
  rw [hp, if_pos (List.all_eq_true.2 (fun c hc => decide_eq_true (ha c hc)))]
  exact Base64.decode_encode _

theorem cursorKey_payload (h : scenarioId ≠ "") (ordinal : Nat) :
    cursorKey (.arr [.str scenarioId, .int ordinal]) = some (scenarioId, ordinal) := by
  have he : scenarioId.isEmpty = false := by
    rw [← Bool.not_eq_true, String.isEmpty_iff]
    exact h
  have ho : ¬ (ordinal : Int) < 0 := by omega
  unfold cursorKey
  dsimp only
  rw [he, if_neg Bool.false_ne_true, if_neg ho, Int.toNat_natCast]

theorem decodeContributionCursor_encode (h : scenarioId ≠ "") (ordinal : Nat) :
    decodeContributionCursor (encodeContributionCursor scenarioId ordinal) =
      .ok (scenarioId, ordinal) := by
  have hl : loads (dumps (.arr [.str scenarioId, .int ordinal])) =
      some (.arr [.str scenarioId, .int ordinal]) := by
    apply loads_dumps
    apply Plain.arr
    intro v hv
    rcases List.mem_cons.1 hv with rfl | hv
    · exact .str scenarioId
    · rw [List.mem_singleton.1 hv]
      exact .int ordinal
  unfold decodeContributionCursor
  rw [paddedBase64Decode_encodeContributionCursor]
  simp only [bind, Option.bind_some, decodeUtf8_encodeUtf8, hl, cursorKey_payload h]

/-- The page after the last row of a scenario, as in the documented example. -/
example : encodeContributionCursor "growth_slowdown" 249 = "WyJncm93dGhfc2xvd2Rvd24iLDI0OV0" := by
  decide

end RoundTrip

end LotusRisk
