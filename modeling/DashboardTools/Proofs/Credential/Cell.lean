import DashboardTools.Proofs.Credential.Text

/-!
# The credential file as a cell

Seen through saving, loading and clearing, the credential file is a cell that holds a credential or
none. Calls that took effect are the saves that succeeded and the clears; a load answers what the
last of them left. A save that failed leaves the cell alone, with one exception: where the path goes
up and its directory was missing, the directories that the save made may let the path lead to a
file that was on the disk all the time.
-/

namespace DashboardTools.Credential

open DashboardTools.Disk
open DashboardTools.Json
open DashboardTools.Text

/-- A call on the credential file: the three things that can be done with it. -/
inductive Call where
  | save (credential : Credential)
  | load
  | clear

/-- What a call answers, one kind of answer for each kind of call. -/
inductive Answer where
  | saved (result : Except Problem Unit)
  | loaded (found : Option Credential)
  | cleared

/-- A call as it went, with the disks before and after it. -/
structure Event where
  call : Call
  before : Disk
  answer : Answer
  after : Disk

/-- Makes one call, and notes the disk before it, its answer and the disk after it. -/
def Call.perform (process : Nat) (path : Path) (call : Call) (disk : Disk) : Event :=
  match call with
  | .save credential =>
    let saving := saveOn process path credential disk
    ⟨call, disk, .saved saving.1, saving.2⟩
  | .load => ⟨call, disk, .loaded (load? disk path), disk⟩
  | .clear => ⟨call, disk, .cleared, Credential.clear disk path⟩

/-- Makes calls one after the other, each on the disk that the one before left. -/
def events (process : Nat) (path : Path) (disk : Disk) : List Call → List Event
  | [] => []
  | call :: calls =>
    let event := call.perform process path disk
    event :: events process path event.after calls

/-- What a call that took effect left in the cell; `none` for all other calls. -/
def Event.effect? (event : Event) : Option (Option Credential) :=
  match event.call, event.answer with
  | .save credential, .saved (.ok ()) => some (some credential)
  | .clear, _ => some none
  | _, _ => none

/-- A save that succeeded has the effect of putting its credential into the cell. -/
theorem Event.effect?_saved {event : Event} {credential : Credential}
    (call : event.call = .save credential) (answer : event.answer = .saved (.ok ())) :
    event.effect? = some (some credential) := by
  simp [Event.effect?, call, answer]

/-- What the last call that took effect left in the cell. -/
def lastResult (initial : Option Credential) (done : List Event) : Option Credential :=
  done.foldl (fun cell event => event.effect?.getD cell) initial

/-- The call is no failed save that can bring a file to light. -/
def Event.Settled (path : Path) (event : Event) : Prop :=
  ∀ problem, event.answer = .saved (.error problem) → ¬ CanReveal event.before path

/-- The cell was empty and now holds what a file keeps that was on the disk before. -/
def Event.Reveals (path : Path) (event : Event) : Prop :=
  CanReveal event.before path ∧ load? event.before path = none ∧
    ∃ location bytes, event.after.LeadsTo path location ∧
      event.before.bytesAt? location = some bytes ∧
      load? event.after path = (Utf8.decode? bytes).bind parse?

/-- Once some event has had an effect, the result of the last one no longer depends on what the cell
held at the start. -/
theorem lastResult_of_effect {done : List Event} (effective : ∃ event ∈ done, event.effect? ≠ none)
    (first second : Option Credential) : lastResult first done = lastResult second done := by
  induction done generalizing first second with
  | nil =>
    obtain ⟨event, member, _⟩ := effective
    cases member
  | cons event done inductionHypothesis =>
    change lastResult (event.effect?.getD first) done = lastResult (event.effect?.getD second) done
    cases effect : event.effect? with
    | some left => rfl
    | none =>
      obtain ⟨other, member, took⟩ := effective
      rcases List.mem_cons.mp member with rfl | later
      · exact absurd effect took
      · exact inductionHypothesis ⟨other, later, took⟩ _ _

variable {process : Nat} {path : Path} {disk : Disk} {call : Call}

/-- Every call leaves a well-formed disk well-formed, whatever it answers. -/
theorem perform_wellFormed (wellFormed : disk.WellFormed) :
    (call.perform process path disk).after.WellFormed := by
  cases call with
  | save credential => exact saveOn_wellFormed wellFormed
  | load => exact wellFormed
  | clear => exact clear_wellFormed wellFormed path

/-- After a settled call the cell holds what the call left, or what it held before. -/
theorem load?_perform (wellFormed : disk.WellFormed)
    (readsBack : ∀ credential, call = .save credential → ReadsBack credential.expiresAt)
    (settled : (call.perform process path disk).Settled path) :
    load? (call.perform process path disk).after path =
      (call.perform process path disk).effect?.getD (load? disk path) := by
  cases call with
  | save credential =>
    cases result : (saveOn process path credential disk).1 with
    | ok done =>
      rw [show (Call.save credential).perform process path disk =
        ⟨.save credential, disk, .saved (.ok ()), (saveOn process path credential disk).2⟩ by
          simp [Call.perform, result]]
      exact load?_saveOn wellFormed (readsBack credential rfl) result
    | error problem =>
      have answer : ((Call.save credential).perform process path disk).answer =
          .saved (.error problem) := by simp [Call.perform, result]
      rw [show ((Call.save credential).perform process path disk).effect? = none by
        simp [Call.perform, Event.effect?, result]]
      exact load?_saveOn_failed wellFormed result (.inl (settled problem answer))
  | load => rfl
  | clear => exact load?_clear wellFormed path

/-- A save that failed leaves the cell alone or brings a file to light. -/
theorem load?_perform_failed (wellFormed : disk.WellFormed) {problem : Problem}
    (failed : (call.perform process path disk).answer = .saved (.error problem)) :
    load? (call.perform process path disk).after path = load? disk path ∨
      (call.perform process path disk).Reveals path := by
  cases call with
  | load => cases failed
  | clear => cases failed
  | save credential =>
    have refused : (saveOn process path credential disk).1 = .error problem :=
      Answer.saved.inj failed
    change load? (saveOn process path credential disk).2 path = _ ∨ _
    by_cases same : load? (saveOn process path credential disk).2 path = load? disk path
    · exact .inl same
    · have unsettled : CanReveal disk path := Classical.not_not.mp fun settled =>
        same (load?_saveOn_failed wellFormed refused (.inl settled))
      have empty : load? disk path = none := Classical.not_not.mp fun loaded =>
        same (load?_saveOn_failed wellFormed refused (.inr loaded))
      obtain ⟨found, loaded⟩ := Option.ne_none_iff_exists'.mp (empty ▸ same)
      obtain ⟨held, readable, decoded⟩ := read_of_load? loaded
      obtain ⟨location, leads, there⟩ :=
        (read_before_saveOn_failed wellFormed refused readable).1
      exact .inr ⟨unsettled, empty, location, held, leads, there, load?_of_read readable⟩

/-- Every failed save that could bring a file to light came before a call that took effect. -/
def Overwritten (path : Path) (done : List Event) : Prop :=
  ∀ first failed since, done = first ++ failed :: since →
    failed.Settled path ∨ ∃ event ∈ since, event.effect? ≠ none

/-- If every failed save of a run was settled or overwritten, so was every one after the first
event. -/
theorem Overwritten.tail {event : Event} {done : List Event}
    (overwritten : Overwritten path (event :: done)) : Overwritten path done :=
  fun first failed since split => overwritten (event :: first) failed since (by rw [split]; rfl)

/-- Each call is made on a well-formed disk, and the cell then holds what the last call before it
that took effect left. The induction is on the calls; the initial disk varies. -/
theorem events_before (wellFormed : disk.WellFormed) (calls : List Call)
    (readsBack : ∀ credential, .save credential ∈ calls → ReadsBack credential.expiresAt)
    {earlier later : List Event} {event : Event}
    (split : events process path disk calls = earlier ++ event :: later) :
    event.before.WellFormed ∧ event = event.call.perform process path event.before ∧
      (Overwritten path earlier →
        load? event.before path = lastResult (load? disk path) earlier) := by
  induction calls generalizing disk earlier with
  | nil => exact absurd split (by simp [events])
  | cons call calls inductionHypothesis =>
    have made : (call.perform process path disk).before = disk ∧
        (call.perform process path disk).call = call := by
      cases call <;> exact ⟨rfl, rfl⟩
    cases earlier with
    | nil =>
      obtain ⟨rfl, _⟩ := List.cons.inj split
      rw [made.1, made.2]
      exact ⟨wellFormed, rfl, fun _ => rfl⟩
    | cons head earlier =>
      obtain ⟨rfl, further⟩ := List.cons.inj split
      obtain ⟨beforeWellFormed, performed, holds⟩ := inductionHypothesis
        (perform_wellFormed wellFormed)
        (fun credential member => readsBack credential (List.mem_cons_of_mem _ member)) further
      refine ⟨beforeWellFormed, performed, fun overwritten => ?_⟩
      rw [holds overwritten.tail]
      rcases overwritten [] _ earlier rfl with settled | effective
      · rw [load?_perform wellFormed (fun credential same =>
          readsBack credential (same ▸ List.mem_cons_self)) settled]
        rfl
      · exact lastResult_of_effect effective _ _

/-- The credential file is a cell, for every path, every sequence of calls and every well-formed
disk to start from. A load answers what the last call before it that took effect left, and changes
nothing; clearing again changes nothing either. A save that failed leaves the cell alone, unless the
path goes up, its directory was missing, and the path now leads to a file that was there before. -/
theorem store_acts_as_cell (process : Nat) (path : Path) (disk : Disk) (calls : List Call)
    (wellFormed : disk.WellFormed)
    (readsBack : ∀ credential, .save credential ∈ calls → ReadsBack credential.expiresAt)
    (earlier : List Event) (event : Event) (later : List Event)
    (split : events process path disk calls = earlier ++ event :: later) :
    (event.call = .load → event.after = event.before ∧
      (Overwritten path earlier →
        event.answer = .loaded (lastResult (load? disk path) earlier))) ∧
    (event.call = .clear → clear event.after path = event.after) ∧
    (∀ problem, event.answer = .saved (.error problem) →
      load? event.after path = load? event.before path ∨ event.Reveals path) := by
  obtain ⟨beforeWellFormed, performed, holds⟩ := events_before wellFormed calls readsBack split
  have failing (problem : Problem) (failed : event.answer = .saved (.error problem)) :
      load? event.after path = load? event.before path ∨ event.Reveals path := by
    rw [performed] at failed
    have outcome := load?_perform_failed beforeWellFormed failed
    rwa [← performed] at outcome
  obtain ⟨call, before, answer, after⟩ := event
  simp only at performed holds failing ⊢
  refine ⟨?_, ?_, failing⟩
  · rintro rfl
    obtain ⟨_, _, rfl, rfl⟩ := Event.mk.inj performed
    exact ⟨rfl, fun overwritten => by rw [holds overwritten]⟩
  · rintro rfl
    obtain ⟨_, _, rfl, rfl⟩ := Event.mk.inj performed
    exact clear_clear before path

/-- A record saved on an empty disk is what the next load answers, and the load leaves the disk as
it found it. -/
theorem saved_session_is_loaded :
    Disk.empty.WellFormed ∧ ReadsBack sampleCredential.expiresAt ∧
      ∃ earlier event later,
        events 7 samplePath Disk.empty [.save sampleCredential, .load, .clear] =
          earlier ++ event :: later ∧
        event.after = event.before ∧ event.answer = .loaded (some sampleCredential) := by
  have readsBack : ∀ credential,
      Call.save credential ∈ [.save sampleCredential, .load, .clear] →
        ReadsBack credential.expiresAt := by
    intro credential member
    obtain rfl : credential = sampleCredential := by simpa using member
    exact sampleCredential_readsBack
  let saving := (Call.save sampleCredential).perform 7 samplePath Disk.empty
  let loading := Call.load.perform 7 samplePath saving.after
  have succeeded : saving.answer = .saved (.ok ()) := by
    change Answer.saved (saveOn 7 samplePath sampleCredential Disk.empty).1 = _
    rw [sampleCredential_saved]
  have settled : Overwritten samplePath [saving] := by
    intro first failed since split
    have same : failed = saving := by
      have member : failed ∈ [saving] := split ▸ List.mem_append_right _ List.mem_cons_self
      simpa using member
    refine .inl fun problem refused => ?_
    rw [same, succeeded] at refused
    cases refused
  have left : lastResult (load? Disk.empty samplePath) [saving] = some sampleCredential := by
    rw [lastResult, List.foldl_cons, List.foldl_nil, Event.effect?_saved rfl succeeded,
      Option.getD_some]
  have acts := store_acts_as_cell 7 samplePath Disk.empty [.save sampleCredential, .load, .clear]
    empty_wellFormed readsBack [saving] loading _ rfl
  obtain ⟨unchanged, answers⟩ := acts.1 rfl
  exact ⟨empty_wellFormed, sampleCredential_readsBack, [saving], loading,
    [Call.clear.perform 7 samplePath loading.after], rfl, unchanged, left ▸ answers settled⟩

/-- A path with a name that is short enough for a file and too long for the file beside it. -/
def hiddenPath : Path := "a/../b/".toList ++ List.replicate 251 'x'

/-- A disk with a credential file that `hiddenPath` leads to once there is a directory `a`. -/
def hiddenDisk : Disk where
  start := ["work".toList]
  nodes := [(["work".toList], .directory commonMode),
    (["b".toList, "work".toList], .directory commonMode),
    ([List.replicate 251 'x', "b".toList, "work".toList],
      .file fileMode (Utf8.encode sampleCredential.text.toList))]

/-- A save that fails can change what is loaded. Directories that it made can let the path lead to a
file that was hidden before. -/
theorem failed_save_can_reveal :
    ¬ ∀ (process : Nat) (path : Path) (credential : Credential) (disk : Disk) (problem : Problem),
      disk.WellFormed → ReadsBack credential.expiresAt →
        (saveOn process path credential disk).1 = .error problem →
          load? (saveOn process path credential disk).2 path = load? disk path := by
  intro unchanged
  have wellFormed : hiddenDisk.WellFormed := wellFormed_of_nodes (by decide) (by decide +kernel)
  have fails : (saveOn 7 hiddenPath sampleCredential hiddenDisk).1.isOk = false := by
    decide +kernel
  have before : (load? hiddenDisk hiddenPath).isSome = false := by decide +kernel
  have after : (load? (saveOn 7 hiddenPath sampleCredential hiddenDisk).2 hiddenPath).isSome =
      true := by decide +kernel
  cases result : (saveOn 7 hiddenPath sampleCredential hiddenDisk).1 with
  | ok done =>
    rw [result] at fails
    cases fails
  | error problem =>
    rw [unchanged 7 hiddenPath sampleCredential hiddenDisk problem wellFormed
      sampleCredential_readsBack result, before] at after
    cases after

end DashboardTools.Credential
