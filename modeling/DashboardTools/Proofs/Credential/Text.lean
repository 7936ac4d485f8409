import DashboardTools.Proofs.Credential.Reading
import DashboardTools.Proofs.Json.Reading

/-!
# The text that keeps a credential

The text of a credential keeps all of it: reading that text gives the same credential back, with
arbitrary characters in its tokens, as long as the number codec reads back the time of expiry that
it printed. So a credential that was saved is loaded.
-/

namespace DashboardTools.Credential

open DashboardTools.Disk
open DashboardTools.Json
open DashboardTools.Text

/-- The fields that are found in the text of a credential. -/
theorem record_text (credential : Credential) :
    Record.parse? fieldNames credential.text.toList =
      some [("access_token", .string (piecesOf credential.accessToken.toList)),
        ("refresh_token", .string (piecesOf credential.refreshToken.toList)),
        ("expires_at", (Value.float credential.expiresAt).raw),
        ("token_type", .string (piecesOf credential.tokenType.toList))] := by
  have record := Record.parse?_write fieldNames .pretty [
    ("access_token", .string credential.accessToken),
    ("refresh_token", .string credential.refreshToken),
    ("expires_at", .float credential.expiresAt), ("token_type", .string credential.tokenType)]
    (by simp [fieldNames]) (by simp)
  rw [text, Value.pretty, String.toList_ofList, toValue, record]
  simp [Value.raw]

/-- The text of a credential is read as that credential. -/
theorem parse?_text (credential : Credential) (readsBack : ReadsBack credential.expiresAt) :
    parse? credential.text.toList = some credential := by
  have expires := float?_raw readsBack
  rw [parse?, record_text]
  simp [Record.text?, Record.float?, Record.field?, Raw.text?, expires]

/-- Whatever the number codec makes of the time of expiry, the tokens are read as they were
written. -/
theorem tokens_of_parse?_text {credential other : Credential}
    (read : parse? credential.text.toList = some other) :
    other.accessToken = credential.accessToken ∧ other.refreshToken = credential.refreshToken ∧
      other.tokenType = credential.tokenType := by
  rw [parse?, record_text] at read
  cases expires : (Value.float credential.expiresAt).raw.float? with
  | none => simp [Record.text?, Record.float?, Record.field?, Raw.text?, expires] at read
  | some time =>
    simp [Record.text?, Record.float?, Record.field?, Raw.text?, expires] at read
    subst read
    exact ⟨rfl, rfl, rfl⟩

/-- Records whose texts agree have the same tokens and the same token type. The texts say nothing
about the times, which may be rounded. -/
theorem tokens_of_text_eq {first second : Credential} (same : first.text = second.text) :
    first.accessToken = second.accessToken ∧ first.refreshToken = second.refreshToken ∧
      first.tokenType = second.tokenType := by
  have one := record_text first
  rw [same, record_text second] at one
  have pieces {one other : String} (equal : piecesOf one.toList = piecesOf other.toList) :
      one = other := by
    have read := textOfPieces?_piecesOf one
    rw [equal, textOfPieces?_piecesOf] at read
    exact (Option.some.inj read).symm
  simp only [Option.some.injEq, List.cons.injEq, Prod.mk.injEq, Raw.string.injEq, true_and,
    and_true] at one
  obtain ⟨access, refresh, _, kind⟩ := one
  exact ⟨(pieces access).symm, (pieces refresh).symm, (pieces kind).symm⟩

/-- Bytes that keep a record and are the text of a credential keep that credential's tokens. -/
theorem tokens_of_kept {record credential : Credential} {bytes : List UInt8}
    (keeps : bytes = Utf8.encode record.text.toList ∨ (Utf8.decode? bytes).bind parse? = some record)
    (text : bytes = Utf8.encode credential.text.toList) :
    record.accessToken = credential.accessToken ∧
      record.refreshToken = credential.refreshToken ∧ record.tokenType = credential.tokenType := by
  rw [text] at keeps
  cases keeps with
  | inl same =>
    have equal := congrArg Utf8.decode? same
    rw [Utf8.decode?_encode, Utf8.decode?_encode] at equal
    exact tokens_of_text_eq (String.toList_inj.mp (Option.some.inj equal)).symm
  | inr read =>
    rw [Utf8.decode?_encode, Option.bind_some] at read
    exact tokens_of_parse?_text read

variable {disk : Disk} {path : Path} {process : Nat} {credential : Credential}

/-- A credential whose text is read is loaded, provided that its time is read back unchanged. -/
theorem load?_of_text (readsBack : ReadsBack credential.expiresAt)
    (readable : disk.read path = .ok (Utf8.encode credential.text.toList)) :
    load? disk path = some credential := by
  rw [load?_of_read readable, Utf8.decode?_encode, Option.bind_some, parse?_text _ readsBack]

/-- A credential that was saved is loaded, provided that its time is read back unchanged. -/
theorem load?_saveOn (wellFormed : disk.WellFormed) (readsBack : ReadsBack credential.expiresAt)
    (saved : (saveOn process path credential disk).1 = .ok ()) :
    load? (saveOn process path credential disk).2 path = some credential :=
  load?_of_text readsBack (read_saveOn wellFormed saved)

/-- A save that failed leaves a credential loaded that was loaded, and brings none to light unless
it could make the path lead somewhere else. -/
theorem load?_saveOn_failed (wellFormed : disk.WellFormed) {problem : Problem}
    (failed : (saveOn process path credential disk).1 = .error problem)
    (settled : ¬ CanReveal disk path ∨ load? disk path ≠ none) :
    load? (saveOn process path credential disk).2 path = load? disk path := by
  rcases settled with settled | loaded
  · exact load?_congr fun held => ⟨
      fun readable => (read_before_saveOn_failed wellFormed failed readable).2 settled,
      fun readable => read_saveOn_failed wellFormed failed readable⟩
  · obtain ⟨before, loaded⟩ := Option.ne_none_iff_exists'.mp loaded
    obtain ⟨held, readable, decoded⟩ := read_of_load? loaded
    rw [loaded, load?_of_read (read_saveOn_failed wellFormed failed readable), decoded]

/-- A session to be saved, with a time that is read back unchanged. -/
def sampleCredential : Credential := ⟨"access", "refresh", 1700000123.5, "Bearer"⟩

/-- Where it is saved: the directory is missing on the empty disk. -/
def samplePath : Path := "home/credentials.json".toList

/-- The sample's time of expiry is read back from its text unchanged. -/
theorem sampleCredential_readsBack : ReadsBack sampleCredential.expiresAt := by
  unfold ReadsBack
  decide +kernel

/-- Saving the sample on an empty disk succeeds, the directory for it being made on the way. -/
theorem sampleCredential_saved :
    (saveOn 7 samplePath sampleCredential Disk.empty).1 = .ok () := by
  have works : (saveOn 7 samplePath sampleCredential Disk.empty).1.isOk = true := by
    decide +kernel
  cases result : (saveOn 7 samplePath sampleCredential Disk.empty).1 with
  | ok done => rfl
  | error problem =>
    rw [result] at works
    cases works

/-- The disk with the session on it, kept closed so that proofs go by what is known of saves. -/
@[irreducible] def sampleDisk : Disk := (saveOn 7 samplePath sampleCredential Disk.empty).2

/-- The disk that holds the saved sample is well-formed, as every disk is after a save on a
well-formed one. -/
theorem sampleDisk_wellFormed : sampleDisk.WellFormed := by
  unfold sampleDisk
  exact saveOn_wellFormed empty_wellFormed

/-- Loading from the disk that holds the saved sample answers the sample. -/
theorem sampleCredential_loaded : load? sampleDisk samplePath = some sampleCredential := by
  unfold sampleDisk
  exact load?_saveOn empty_wellFormed sampleCredential_readsBack sampleCredential_saved

end DashboardTools.Credential
