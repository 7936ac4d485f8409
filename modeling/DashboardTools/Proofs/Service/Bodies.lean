import DashboardTools.Proofs.Http.Building
import DashboardTools.Proofs.Json.RoundTrip
import DashboardTools.Proofs.Service.Calling

/-!
# Bodies of successful calls

The body of a success is blank, or it states a value, or it is neither. Nothing else decides what a
call under a token answers once such a body came: null, that value, or an error of reading.
-/

namespace DashboardTools.Service

open DashboardTools.Api
open DashboardTools.Credential
open DashboardTools.Http
open DashboardTools.Json
open DashboardTools.Text

/-- A body is a JSON text that nests no deeper than the limit and denotes a value. -/
def States (bytes : List UInt8) (value : Value) : Prop :=
  ∃ text raw, Utf8.decode? bytes = some text ∧ IsDocument text raw ∧ raw.nesting ≤ nestingLimit ∧
    Denotes raw value

/-- A body consists of blanks alone, or of nothing. -/
def IsBlankBody (bytes : List UInt8) : Prop := ∀ byte ∈ bytes, isBlankByte byte = true

/-- An exchange under a token brought a body: its answer is a success whose body was read to its
end. -/
def BringsBody (exchange : Exchange) (bytes : List UInt8) : Prop :=
  (∃ token : String, bearer token.toList ∈ exchange.request.authorization) ∧
    ∃ reply, exchange.reply? = some reply ∧ reply.isSuccess = true ∧ reply.body? = some bytes

/-- Bytes below 128 are characters on their own, and a sequence of them is always a text. -/
theorem decode?_ascii {bytes : List UInt8} (low : ∀ byte ∈ bytes, byte.toNat < 0x80) :
    Utf8.decode? bytes = some (bytes.map fun byte => Char.ofNat byte.toNat) := by
  have parts : Utf8.parts bytes = (bytes.map fun byte => Char.ofNat byte.toNat).map some := by
    induction bytes with
    | nil => rfl
    | cons byte rest inductionHypothesis =>
      have isLow := low byte List.mem_cons_self
      have first : Utf8.firstPart ((byte :: rest).map (·.toNat)) =
          (some (Char.ofNat byte.toNat), 1) := by
        cases rest with
        | nil => exact if_pos isLow
        | cons next rest => exact if_pos isLow
      have others := inductionHypothesis fun other member => low other (List.mem_cons_of_mem _ member)
      simp only [Utf8.parts, List.map_cons] at first others ⊢
      rw [Utf8.partsAfter, first]
      exact congrArg _ others
  rw [Utf8.decode?, parts, Utf8.allWhole?_map_some]

/-- A blank byte is at most a space, so it is no part of a visible character. -/
theorem isBlankByte_le {byte : UInt8} (blank : isBlankByte byte = true) : byte.toNat ≤ 0x20 := by
  simp only [isBlankByte, Bool.or_eq_true, beq_iff_eq] at blank
  rcases blank with (((rfl | rfl) | rfl) | rfl) | rfl <;> decide

/-- A JSON text has a character that can be seen. -/
theorem visible_of_isDocument {text : List Char} {raw : Raw} (states : IsDocument text raw) :
    ∃ c ∈ text, 0x20 < c.toNat := by
  obtain ⟨before, written, after, rfl, _, states, _⟩ := states
  obtain ⟨c, tail, rfl, visible, _⟩ := states.start
  exact ⟨c, by simp, visible⟩

/-- The body of a JSON text is not blank, since every document has a visible character in it. -/
theorem not_blank_of_isDocument {bytes : List UInt8} {text : List Char} {raw : Raw}
    (decoded : Utf8.decode? bytes = some text) (document : IsDocument text raw) :
    ¬ IsBlankBody bytes := by
  intro blank
  have low : ∀ byte ∈ bytes, byte.toNat < 0x80 := by
    intro byte member
    exact Nat.lt_of_le_of_lt (isBlankByte_le (blank byte member)) (by decide)
  rw [decode?_ascii low] at decoded
  obtain rfl := Option.some.inj decoded
  obtain ⟨c, member, visible⟩ := visible_of_isDocument document
  obtain ⟨byte, there, rfl⟩ := List.mem_map.mp member
  have small := isBlankByte_le (blank byte there)
  have isValid : byte.toNat.isValidChar := .inl (by omega)
  rw [Char.ofNat, dif_pos isValid] at visible
  exact absurd small (Nat.not_le_of_lt visible)

/-- A body that states a value is not blank, since every document shows at least one visible
character. -/
theorem States.not_blank {bytes : List UInt8} {value : Value} (states : States bytes value) :
    ¬ IsBlankBody bytes := by
  obtain ⟨text, raw, decoded, document, _⟩ := states
  exact not_blank_of_isDocument decoded document

/-- A blank body is taken as null. The service answers some calls with nothing at all. -/
theorem decodeBody_of_blank {bytes : List UInt8} (blank : IsBlankBody bytes) :
    decodeBody bytes = .ok .null := by
  have all : bytes.all isBlankByte = true := List.all_eq_true.mpr blank
  have null : Value.parse? (.ofList "null".toList) = some .null :=
    @parse?_write_value .compact .null trivial (by simp [Value.FloatsReadBack, Value.floats])
      (Nat.zero_le _)
  simp only [decodeBody, textOfBody?, if_pos all, Option.bind_some, null]

/-- A body that is not blank is decoded to a value exactly when it states that value. -/
theorem decodeBody_eq_ok_iff {bytes : List UInt8} (filled : ¬ IsBlankBody bytes) (value : Value) :
    decodeBody bytes = .ok value ↔ States bytes value := by
  have notAll : ¬ bytes.all isBlankByte = true := fun all => filled (List.all_eq_true.mp all)
  simp only [decodeBody, textOfBody?, if_neg notAll]
  constructor
  · intro decoded
    split at decoded
    next read found =>
      obtain rfl := Except.ok.inj decoded
      obtain ⟨text, decoded, parsed⟩ := Option.bind_eq_some_iff.mp found
      obtain ⟨raw, states, denotes⟩ := (parse?_eq_some_iff _ _).mp parsed
      rw [String.toList_ofList] at states
      exact ⟨text, raw, decoded, states, denotes⟩
    next => cases decoded
  · rintro ⟨text, raw, decoded, states, denotes⟩
    have parsed : Value.parse? (.ofList text) = some value :=
      (parse?_eq_some_iff _ _).mpr ⟨raw, by rwa [String.toList_ofList], denotes⟩
    rw [decoded, Option.bind_some, parsed]

/-- A body that is neither blank nor states a value cannot be read. -/
theorem decodeBody_of_neither {bytes : List UInt8} (filled : ¬ IsBlankBody bytes)
    (nothing : ∀ value, ¬ States bytes value) : decodeBody bytes = .error .serialization := by
  cases decoded : decodeBody bytes with
  | ok value => exact absurd ((decodeBody_eq_ok_iff filled value).mp decoded) (nothing value)
  | error error =>
    unfold decodeBody at decoded
    split at decoded
    · cases decoded
    · rw [← decoded]

/-- A JSON text that denotes nothing cannot be read either. -/
theorem decodeBody_of_meaningless {text : List Char} {raw : Raw} (document : IsDocument text raw)
    (nothing : ∀ value, ¬ Denotes raw value) :
    decodeBody (Utf8.encode text) = .error .serialization := by
  have noValue : ∀ value, ¬ States (Utf8.encode text) value := by
    rintro value ⟨other, otherRaw, decoded, states, _, denotes⟩
    rw [Utf8.decode?_encode] at decoded
    obtain rfl := Option.some.inj decoded
    have same := (Raw.parse?_eq_some_iff text raw).mpr document
    rw [(Raw.parse?_eq_some_iff text otherRaw).mpr states] at same
    obtain rfl := Option.some.inj same
    exact nothing value denotes
  exact decodeBody_of_neither (not_blank_of_isDocument (Utf8.decode?_encode text) document) noValue

variable {service : Service} {exchange : Exchange} {bytes : List UInt8}

/-- An exchange under a token is none of a renewal. -/
theorem not_refresh_of_brings {token : String} (brings : BringsBody exchange bytes) :
    (service.refreshPlan token).build ≠ .ok exchange.request := by
  intro built
  obtain ⟨⟨header, carried⟩, _⟩ := brings
  have planned := (Plan.bearer_mem_iff built header).mp carried
  cases planned

/-- A planned call whose exchange brought a body answers that body. -/
theorem callUnder_received {plan : Plan} {chronicle : Chronicle}
    (made : exchange ∈ ((service.callUnder plan).run Chronicle.handle chronicle).2.exchanges)
    (new : exchange ∉ chronicle.exchanges) (brings : BringsBody exchange bytes) :
    ((service.callUnder plan).run Chronicle.handle chronicle).1 = .ok bytes := by
  obtain ⟨ending, sent⟩ := run_callUnder service plan chronicle
  rw [sent, List.mem_append, Option.mem_toList] at made
  have own : plan.exchange? chronicle.world = some exchange := made.resolve_left new
  obtain ⟨_, reply, replied, success, body⟩ := brings
  have answered := ((Plan.exchange?_eq_some own).2.2.2 reply).mpr replied
  generalize ((service.callUnder plan).run Chronicle.handle chronicle).1 = result at ending
  generalize ((service.callUnder plan).run Chronicle.handle chronicle).2.world = left at ending
  cases ending with
  | unanswered cause answer =>
    rw [answered] at answer
    cases answer
  | expired other answer status =>
    obtain rfl := Except.ok.inj (answered.symm.trans answer)
    simp [Reply.isSuccess, status] at success
  | failed other answer status failure =>
    obtain rfl := Except.ok.inj (answered.symm.trans answer)
    rw [success] at failure
    cases failure
  | broken other answer status success nothing =>
    obtain rfl := Except.ok.inj (answered.symm.trans answer)
    rw [body] at nothing
    cases nothing
  | received other read answer status success held =>
    obtain rfl := Except.ok.inj (answered.symm.trans answer)
    rw [body] at held
    rw [Option.some.inj held]

/-- A call one of whose exchanges under a token brought a body answers that body. -/
theorem callForBody_received {path : String} {options : RequestOptions} {chronicle : Chronicle}
    (made : exchange ∈
      ((service.callForBody path options).run Chronicle.handle chronicle).2.exchanges)
    (new : exchange ∉ chronicle.exchanges) (brings : BringsBody exchange bytes) :
    ((service.callForBody path options).run Chronicle.handle chronicle).1 = .ok bytes := by
  cases loaded : load? chronicle.world.disk service.credentialFile with
  | none =>
    rw [run_callForBody_without _ (run_accessToken_none chronicle loaded)] at made
    exact absurd made new
  | some credential =>
    cases due : credential.needsRefresh chronicle.world.now with
    | false =>
      have token := run_accessToken_fresh chronicle loaded due
      have ran : (service.callForBody path options).run Chronicle.handle chronicle = _ :=
        run_callForBody_under _ token
      rw [ran] at made ⊢
      exact callUnder_received made new brings
    | true =>
      have token := run_accessToken_due chronicle loaded due
      have sent := (run_refresh service credential.refreshToken chronicle).2
      have newAfter : exchange ∉ ((service.refresh? credential.refreshToken).run Chronicle.handle
          chronicle).2.exchanges := by
        rw [sent, List.mem_append, Option.mem_toList]
        rintro (earlier | renewal)
        · exact new earlier
        · exact not_refresh_of_brings brings (Plan.exchange?_eq_some renewal).1
      cases renewed : ((service.refresh? credential.refreshToken).run Chronicle.handle chronicle).1 with
      | none =>
        rw [renewed, Option.map_none] at token
        rw [run_callForBody_without _ token] at made
        dsimp only at made
        exact absurd made newAfter
      | some credential =>
        rw [renewed, Option.map_some] at token
        have ran : (service.callForBody path options).run Chronicle.handle chronicle = _ :=
          run_callForBody_under _ token
        rw [ran] at made ⊢
        exact callUnder_received made newAfter brings

end DashboardTools.Service
