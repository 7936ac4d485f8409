import DashboardTools.Http.Request
import DashboardTools.Proofs.Credential.Stages
import DashboardTools.Proofs.Credential.Text
import DashboardTools.Proofs.Disk.Alike

/-!
# Credentials that differ in their tokens

Credentials are alike when they tell the same of everything but their tokens, and a header can carry
both access tokens or neither. The texts of alike credentials are read as alike credentials again,
no matter what the number codec makes of the time of expiry. So saving, clearing and loading do the
same on two disks whose files state alike credentials or none.
-/

namespace DashboardTools

open DashboardTools.Disk
open DashboardTools.Http
open DashboardTools.Json
open DashboardTools.Text

/-- Whether a header can carry a token, which depends on its characters alone. -/
def canCarry (token : String) : Bool := isHeaderText (bearer token.toList)

/-- Two credentials are the same but for their tokens, and both access tokens can be sent or
neither. -/
structure Credential.Alike (credential other : Credential) : Prop where
  expiresAt : credential.expiresAt = other.expiresAt
  tokenType : credential.tokenType = other.tokenType
  carried : canCarry credential.accessToken = canCarry other.accessToken

/-- Two grants are the same but for their tokens, and both access tokens can be sent or neither. -/
structure TokenGrant.Alike (grant other : TokenGrant) : Prop where
  expiresIn : grant.expiresIn = other.expiresIn
  tokenType : grant.tokenType = other.tokenType
  carried : canCarry grant.accessToken = canCarry other.accessToken

/-- A grant is alike itself, since being alike compares only what is not a token. -/
theorem TokenGrant.Alike.refl (grant : TokenGrant) : grant.Alike grant := ⟨rfl, rfl, rfl⟩

namespace Credential

/-- A credential is alike itself, since being alike says nothing of the tokens. -/
theorem Alike.refl (credential : Credential) : credential.Alike credential := ⟨rfl, rfl, rfl⟩

/-- The credential that the bytes of a file state, if they state one. -/
def stated? (bytes : List UInt8) : Option Credential := (Utf8.decode? bytes).bind parse?

/-- Two files state alike credentials, or neither states any. Files that state none may differ in
all their bytes. -/
def FilesAlike (bytes other : List UInt8) : Prop := Option.Rel Alike (stated? bytes) (stated? other)

/-- Bytes are alike themselves, whether or not they hold a credential. -/
theorem FilesAlike.refl (bytes : List UInt8) : FilesAlike bytes bytes := by
  unfold FilesAlike
  cases stated? bytes with
  | none => exact .none
  | some credential => exact .some (.refl credential)

variable {credential otherCredential : Credential}

/-- Grants that are alike bring records that are alike when they are taken at the same time. -/
theorem ofGrant_alike {grant other : TokenGrant} (alike : grant.Alike other) (now : Float) :
    (ofGrant grant now).Alike (ofGrant other now) :=
  ⟨by simp only [ofGrant, alike.expiresIn], alike.tokenType, alike.carried⟩

/-- Alike credentials are due for refresh at the same times, since only the time of expiry
decides. -/
theorem Alike.needsRefresh (alike : credential.Alike otherCredential) (now : Float) :
    credential.needsRefresh now = otherCredential.needsRefresh now := by
  simp only [Credential.needsRefresh, alike.expiresAt]

/-- Alike credentials say the same about when they expire, since both have the same time. -/
theorem Alike.expiry (alike : credential.Alike otherCredential) :
    credential.expiry? = otherCredential.expiry? := by
  simp only [Credential.expiry?, alike.expiresAt]

/-- The text of a credential is read as that credential, with the time of expiry that the number
codec reads. -/
theorem parse?_text_eq (credential : Credential) :
    parse? credential.text.toList =
      (Value.float credential.expiresAt).raw.float?.map fun time =>
        { credential with expiresAt := time } := by
  rw [parse?, record_text]
  cases expires : (Value.float credential.expiresAt).raw.float? with
  | none => simp [Record.text?, Record.float?, Record.field?, Raw.text?, expires]
  | some time => simp [Record.text?, Record.float?, Record.field?, Raw.text?, expires]

/-- The texts of alike credentials state alike credentials, whether or not their times are read back
unchanged. -/
theorem Alike.texts (alike : credential.Alike otherCredential) :
    FilesAlike (Utf8.encode credential.text.toList) (Utf8.encode otherCredential.text.toList) := by
  unfold FilesAlike stated?
  simp only [Utf8.decode?_encode, Option.bind_some, parse?_text_eq, alike.expiresAt]
  cases (Value.float otherCredential.expiresAt).raw.float? with
  | none => exact .none
  | some time => exact .some ⟨rfl, alike.tokenType, alike.carried⟩

variable {related : List UInt8 → List UInt8 → Prop} {disk other : Disk}

/-- Two runs of file operations end with the same result on disks that are alike. -/
def EndsAlike (related : List UInt8 → List UInt8 → Prop) {α : Type} (ending otherEnding : α × Disk) :
    Prop :=
  ending.1 = otherEnding.1 ∧ Disk.Alike related ending.2 otherEnding.2

/-- A change that works on both disks, or on neither, ends alike. -/
theorem change_endsAlike (alike : Disk.Alike related disk other) (change : Change)
    (results : AgreeUpTo (Disk.Alike related) (disk.apply change) (other.apply change)) :
    EndsAlike related (Disk.handle _ (.change change) disk)
      (Disk.handle _ (.change change) other) := by
  simp only [Disk.handle]
  generalize disk.apply change = one at results ⊢
  generalize other.apply change = two at results ⊢
  cases results with
  | error problem => exact ⟨rfl, alike⟩
  | ok next => exact ⟨rfl, next⟩

/-- Looking at alike disks and making directories ends alike, with the same answers and with alike
disks. -/
theorem makesDirectories_endsAlike (alike : Disk.Alike related disk other) {mode : Nat} {γ : Type}
    {operation : Operation γ} (makes : MakesDirectories mode operation) :
    EndsAlike related (Disk.handle γ operation disk) (Disk.handle γ operation other) := by
  cases operation with
  | isThere path => exact ⟨alike.isThere path, alike⟩
  | isDirectory path => exact ⟨alike.isDirectory path, alike⟩
  | change change =>
    cases change with
    | makeDirectory path made => exact change_endsAlike alike _ (alike.makeDirectory path made)
    | create path made => exact makes.elim
    | append path bytes => exact makes.elim
    | rename source target => exact makes.elim
    | remove path => exact makes.elim
    | setMode path made => exact makes.elim

/-- Making the missing directories of a path ends alike on alike disks: with the same answer, and
with disks that are alike again. -/
theorem ensureDirectory_endsAlike (alike : Disk.Alike related disk other) (path : Path) :
    EndsAlike related ((ensureDirectory path).run Disk.handle disk)
      ((ensureDirectory path).run Disk.handle other) := by
  have inStep : Program.InStep
      (fun _ operation otherOperation =>
        operation = otherOperation ∧ MakesDirectories directoryMode operation)
      (fun _ _ answer otherAnswer => answer = otherAnswer) Eq
      (ensureDirectory path) (ensureDirectory path) :=
    (ensureDirectory_uses path).inStep (fun _ makes => ⟨rfl, makes⟩) fun _ _ _ _ same => same
  refine inStep.run (fun _ => True) (fun _ _ fit => fit) ?_ alike trivial
  rintro γ operation _ disk other ⟨rfl, makes⟩ alike _
  exact makesDirectories_endsAlike alike makes

/-- Files with related bytes written to the same place of alike disks leave them alike. -/
theorem written_alike (alike : Disk.Alike related disk other) {after otherAfter : Disk}
    {location : Location} {mode : Nat} {bytes otherBytes : List UInt8}
    (written : Written disk after location mode bytes)
    (otherWritten : Written other otherAfter location mode otherBytes)
    (bytesRelated : related bytes otherBytes) : Disk.Alike related after otherAfter := by
  refine ⟨written.start.trans (alike.start.trans otherWritten.start.symm), fun place => ?_⟩
  rw [written.node, otherWritten.node]
  split
  · exact .some (.file mode bytesRelated)
  · exact alike.node place

/-- The file beside is created at one place on both disks and takes the bytes of both sides. These
may be of different length, so the writing is looked at as a whole. -/
theorem fill_endsAlike (empty : related [] []) (alike : Disk.Alike related disk other)
    {bytes otherBytes : List UInt8} (bytesRelated : related bytes otherBytes) (temporary : Path) :
    (∃ problem, disk.create temporary fileMode = .error problem ∧
      other.create temporary fileMode = .error problem) ∨
    ∃ opened otherOpened filled otherFilled,
      disk.create temporary fileMode = .ok opened ∧
      other.create temporary fileMode = .ok otherOpened ∧
      (appendAll temporary bytes).run Disk.handle opened = (.ok (), filled) ∧
      (appendAll temporary otherBytes).run Disk.handle otherOpened = (.ok (), otherFilled) ∧
      Disk.Alike related filled otherFilled := by
  have created := alike.create empty temporary fileMode
  generalize creation : disk.create temporary fileMode = one at created ⊢
  generalize otherCreation : other.create temporary fileMode = two at created ⊢
  cases created with
  | error problem => exact .inl ⟨problem, rfl, rfl⟩
  | @ok opened otherOpened openedAlike =>
    obtain ⟨place, mode, begun⟩ := begun_of_create creation
    obtain ⟨otherPlace, otherMode, otherBegun⟩ := begun_of_create otherCreation
    have leads : opened.LeadsTo temporary place := begun.leads_after
    have otherLeads : otherOpened.LeadsTo temporary otherPlace := otherBegun.leads_after
    obtain rfl : place = otherPlace := (openedAlike.leadsTo leads).unique otherLeads
    obtain rfl : mode = otherMode := by
      have nodes := openedAlike.node place
      rw [begun.written.here, otherBegun.written.here] at nodes
      cases nodes with
      | some nodes => cases nodes; rfl
    obtain ⟨filled, appended, written⟩ := appendAll_run leads begun.written.here bytes
    obtain ⟨otherFilled, otherAppended, otherWritten⟩ :=
      appendAll_run otherLeads otherBegun.written.here otherBytes
    exact .inr ⟨opened, otherOpened, filled, otherFilled, rfl, rfl, appended, otherAppended,
      written_alike openedAlike written otherWritten bytesRelated⟩

/-- Putting related bytes in the place of the file, or taking the file beside away again, ends
alike. -/
theorem replaceOrTidy_endsAlike (empty : related [] []) (alike : Disk.Alike related disk other)
    {bytes otherBytes : List UInt8} (bytesRelated : related bytes otherBytes)
    (temporary path : Path) :
    EndsAlike related ((replaceOrTidy temporary path bytes).run Disk.handle disk)
      ((replaceOrTidy temporary path otherBytes).run Disk.handle other) := by
  have tidied {disk other : Disk} (alike : Disk.Alike related disk other) :=
    change_endsAlike alike (.remove temporary) (alike.remove temporary)
  rcases fill_endsAlike empty alike bytesRelated temporary with ⟨problem, created, otherCreated⟩ |
    ⟨opened, otherOpened, filled, otherFilled, created, otherCreated, appended, otherAppended,
      filledAlike⟩
  · simp only [replaceOrTidy, replace, FileProgram.change, Program.run_sequence,
      Program.run_request, Disk.handle, Disk.apply, created, otherCreated, Program.run_pure]
    exact ⟨rfl, (tidied alike).2⟩
  · simp only [replaceOrTidy, replace, FileProgram.change, Program.run_sequence,
      Program.run_request, Disk.handle, Disk.apply, created, otherCreated, appended, otherAppended]
    have renamed := filledAlike.rename temporary path
    generalize filled.rename temporary path = one at renamed ⊢
    generalize otherFilled.rename temporary path = two at renamed ⊢
    cases renamed with
    | error problem => exact ⟨rfl, (tidied filledAlike).2⟩
    | ok movedAlike =>
      exact change_endsAlike movedAlike (.setMode path fileMode)
        (movedAlike.setMode path fileMode)

/-- Saving alike credentials on disks whose files state alike credentials ends alike. -/
theorem save_endsAlike (alike : Disk.Alike FilesAlike disk other)
    (credentials : credential.Alike otherCredential) (process : Nat) (path : Path) :
    EndsAlike FilesAlike ((save process path credential).run Disk.handle disk)
      ((save process path otherCredential).run Disk.handle other) := by
  obtain ⟨sameResult, madeAlike⟩ := ensureDirectory_endsAlike alike path
  unfold save
  rw [Program.run_sequence, Program.run_sequence, ← sameResult]
  cases ((ensureDirectory path).run Disk.handle disk).1 with
  | error problem => exact ⟨rfl, madeAlike⟩
  | ok done => exact replaceOrTidy_endsAlike (.refl []) madeAlike credentials.texts _ path

/-- Clearing a path on alike disks leaves alike disks. Whether there was a file to remove is the
same on both. -/
theorem clear_alike (alike : Disk.Alike related disk other) (path : Path) :
    Disk.Alike related (clear disk path) (clear other path) := by
  unfold clear
  have removed := alike.remove path
  generalize disk.remove path = one at removed ⊢
  generalize other.remove path = two at removed ⊢
  cases removed with
  | error problem => exact alike
  | ok next => exact next

/-- Alike credentials are loaded from such disks, or none from both. -/
theorem load?_alike (alike : Disk.Alike FilesAlike disk other) (path : Path) :
    Option.Rel Alike (load? disk path) (load? other path) := by
  unfold load?
  have readable := alike.read path
  generalize disk.read path = one at readable ⊢
  generalize other.read path = two at readable ⊢
  cases readable with
  | error problem => exact .none
  | ok bytes => exact bytes

end Credential

end DashboardTools
