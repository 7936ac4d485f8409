import DashboardTools.Disk.Operation
import DashboardTools.Proofs.Program.Marks

/-!
# File systems that refuse changes

A disk says which changes are possible. A file system that keeps a disk may also refuse a change for
a reason of its own, such as a lack of space or of permission, at any time and with any problem. It
tells the truth about what is there, makes only changes that are possible, and leaves the disk alone
when it reports a problem. The disk by itself is the file system that refuses nothing.
-/

namespace DashboardTools.Disk

/-- What an answer to an operation tells about the disks before and after it. -/
def Answers (before after : Disk) : {γ : Type} → Operation γ → γ → Prop
  | _, .isThere path, there => there = before.isThere path ∧ after = before
  | _, .isDirectory path, there => there = before.isDirectory path ∧ after = before
  | _, .change change, .ok () => before.apply change = .ok after
  | _, .change _, .error _ => after = before

/-- A file system: it keeps a disk and answers operations, each of them truly. -/
structure FileSystem (State : Type) where
  disk : State → Disk
  answer : Handler Operation State
  answers : ∀ {γ : Type} (operation : Operation γ) (state : State),
    Answers (disk state) (disk (answer γ operation state).2) operation (answer γ operation state).1

namespace FileSystem

/-- The file system that makes every change that its disk allows. -/
def plain : FileSystem Disk where
  disk := id
  answer := handle
  answers operation disk := by
    cases operation with
    | isThere path => exact ⟨rfl, rfl⟩
    | isDirectory path => exact ⟨rfl, rfl⟩
    | change change =>
      simp only [handle]
      cases applied : disk.apply change with
      | ok changed => exact applied
      | error problem => rfl

/-- The file system that refuses certain changes whatever its disk is like. -/
def refusing (refuses : Change → Option Problem) : FileSystem Disk where
  disk := id
  answer
    | _, .change change, disk =>
      match refuses change with
      | some problem => (.error problem, disk)
      | none => handle _ (.change change) disk
    | _, .isThere path, disk => handle _ (.isThere path) disk
    | _, .isDirectory path, disk => handle _ (.isDirectory path) disk
  answers operation disk := by
    cases operation with
    | isThere path => exact ⟨rfl, rfl⟩
    | isDirectory path => exact ⟨rfl, rfl⟩
    | change change =>
      simp only
      cases refuses change with
      | some problem => rfl
      | none => exact plain.answers (.change change) disk

variable {State Mark α : Type}

/-- A change is refused only where the disk does not allow it. -/
def Grants (system : FileSystem State) (change : Change) : Prop :=
  ∀ state problem, (system.answer _ (.change change) state).1 = .error problem →
    ∃ other, (system.disk state).apply change = .error other

/-- The run of a program of file operations can be marked, where all that is asked of a state is
asked of its disk. -/
abbrev Marked (system : FileSystem State) (fits : Mark → Disk → Prop)
    (follows : Mark × Disk → Mark × Disk → Prop) (post : α → Mark → Disk → Prop)
    (program : FileProgram α) (mark : Mark) (state : State) : Prop :=
  program.Marked system.answer (fun mark state => fits mark (system.disk state))
    (fun first second => follows (first.1, system.disk first.2) (second.1, system.disk second.2))
    (fun value mark state => post value mark (system.disk state)) mark state

variable {system : FileSystem State} {fits : Mark → Disk → Prop}
variable {follows : Mark × Disk → Mark × Disk → Prop} {mark : Mark} {state : State}

/-- The disks of a marked run with their marks: each disk fits its mark, and each point follows all
points before it. -/
theorem Marked.disks {post : α → Mark → Disk → Prop} {program : FileProgram α}
    (marked : system.Marked fits follows post program mark state)
    (transitive : ∀ first second third, follows first second → follows second third →
      follows first third) :
    ∃ points : List (Mark × Disk),
      points.map (·.2) = (program.statesAfter system.answer state).map system.disk ∧
      (∀ point ∈ points, fits point.1 point.2) ∧
      ((mark, system.disk state) :: points).Pairwise follows := by
  obtain ⟨points, states, fitting, ordered⟩ := Program.Marked.points marked
    fun _ _ _ earlier later => transitive _ _ _ earlier later
  refine ⟨points.map fun point => (point.1, system.disk point.2), ?_, ?_, ?_⟩
  · rw [← states, List.map_map, List.map_map]
    rfl
  · intro point member
    obtain ⟨marked, there, rfl⟩ := List.mem_map.mp member
    exact fitting marked there
  · exact List.pairwise_map.mpr ordered

/-- A change is made as the disk allows it, or nothing happens. -/
theorem marked_change {change : Change} {post : Except Problem Unit → Mark → Disk → Prop}
    (made : ∀ next, (system.disk state).apply change = .ok next →
      ∃ newMark, fits newMark next ∧ follows (mark, system.disk state) (newMark, next) ∧
        post (.ok ()) newMark next)
    (still : fits mark (system.disk state))
    (stays : follows (mark, system.disk state) (mark, system.disk state))
    (refused : ∀ problem, (system.Grants change →
        ∃ other, (system.disk state).apply change = .error other) →
      post (.error problem) mark (system.disk state)) :
    system.Marked fits follows post (FileProgram.change change) mark state := by
  have answered := system.answers (.change change) state
  cases result : (system.answer _ (.change change) state).1 with
  | ok done =>
    rw [result] at answered
    obtain ⟨newMark, fit, follow, ends⟩ := made _ answered
    refine .ask newMark fit follow ?_
    rw [result]
    exact ends
  | error problem =>
    rw [result] at answered
    have same : system.disk (system.answer _ (.change change) state).2 = system.disk state := answered
    refine .ask mark ?_ ?_ ?_
    · rw [same]
      exact still
    · simp only [same]
      exact stays
    · rw [result, same]
      exact refused problem fun grants => grants state problem result

/-- Asking whether there is a directory changes nothing, so the mark stays and the answer is that of
the disk. -/
theorem marked_isDirectory {path : Path} {post : Bool → Mark → Disk → Prop}
    (still : fits mark (system.disk state))
    (stays : follows (mark, system.disk state) (mark, system.disk state))
    (ends : post ((system.disk state).isDirectory path) mark (system.disk state)) :
    system.Marked fits follows post (Program.request (.isDirectory path)) mark state := by
  obtain ⟨told, same⟩ := system.answers (.isDirectory path) state
  refine .ask mark ?_ ?_ ?_
  · rw [same]
    exact still
  · simp only [same]
    exact stays
  · rw [told, same]
    exact ends

/-- Asking whether there is anything changes nothing, so the mark stays and the answer is that of
the disk. -/
theorem marked_isThere {path : Path} {post : Bool → Mark → Disk → Prop}
    (still : fits mark (system.disk state))
    (stays : follows (mark, system.disk state) (mark, system.disk state))
    (ends : post ((system.disk state).isThere path) mark (system.disk state)) :
    system.Marked fits follows post (Program.request (.isThere path)) mark state := by
  obtain ⟨told, same⟩ := system.answers (.isThere path) state
  refine .ask mark ?_ ?_ ?_
  · rw [same]
    exact still
  · simp only [same]
    exact stays
  · rw [told, same]
    exact ends

end FileSystem

end DashboardTools.Disk
