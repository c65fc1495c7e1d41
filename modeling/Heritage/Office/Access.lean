import Heritage.Assignments.History
import Heritage.Office.System

/-!
# Who holds a post

A check looks up the active assignment of a lead or a client and compares its
staff member; a filter asks for some active assignment of the staff member.
While no post is held twice they ask the same.
-/

namespace Heritage.Office

open Heritage.Store
open Heritage.Assignments

/-- The staff member has the one active assignment of the post. -/
def Holds (rows : List StaffAssignment) (staffId : Uuid) (post : Post) :
    Prop :=
  ∃ row, holders post rows = [row] ∧ row.assignedStaffId = staffId

section Holders

variable {rows : List StaffAssignment} {staffId : Uuid} {post : Post}

/-- Some active assignment of the post is the staff member's. -/
theorem holds_iff_exists (sound : Exclusively rows) :
    Holds rows staffId post ↔
      ∃ row ∈ holders post rows, row.assignedStaffId = staffId := by
  constructor
  · rintro ⟨row, only, own⟩
    refine ⟨row, ?_, own⟩
    rw [only]
    exact List.mem_singleton_self row
  · rintro ⟨row, member, own⟩
    have atMostOne : (holders post rows).length ≤ 1 := sound.exclusive post
    have only : holders post rows = [row] := by
      cases shape : holders post rows with
      | nil =>
          rw [shape] at member
          exact absurd member List.not_mem_nil
      | cons head tail =>
          rw [shape] at member atMostOne
          have noTail : tail = [] := by
            apply List.length_eq_zero_iff.mp
            simpa using atMostOne
          rw [noTail] at member ⊢
          rw [List.mem_singleton.mp member]
    exact ⟨row, only, own⟩

/-- The holder found is the staff member. -/
theorem findHolder_any_iff (sound : Exclusively rows) :
    ((findHolder post rows).any fun active =>
        active.assignedStaffId = staffId) ↔
      Holds rows staffId post := by
  rw [holds_iff_exists sound, findHolder,
    find?_holder_any sound.exclusive fun active =>
      decide (active.assignedStaffId = staffId),
    List.any_eq_true]
  simp only [mem_holders, isActive, Bool.and_eq_true, decide_eq_true_eq,
    and_assoc]

theorem findLead_any_iff (sound : Exclusively rows) {leadId : Uuid} :
    ((findActiveAssignmentForLead rows leadId).any fun active =>
        active.assignedStaffId = staffId) ↔
      Holds rows staffId (.lead leadId) := by
  rw [findActiveAssignmentForLead_eq]
  exact findHolder_any_iff sound

theorem findClient_any_iff (sound : Exclusively rows) {clientId : Uuid} :
    ((findActiveAssignmentForClient rows clientId).any fun active =>
        active.assignedStaffId = staffId) ↔
      Holds rows staffId (.client clientId) := by
  rw [findActiveAssignmentForClient_eq]
  exact findHolder_any_iff sound

theorem anyLead_iff (sound : Exclusively rows) {leadId : Uuid} :
    (rows.any fun assignment =>
        assignment.leadId = some leadId ∧
          assignment.assignedStaffId = staffId ∧
          assignment.endedAt = none) ↔
      Holds rows staffId (.lead leadId) := by
  rw [holds_iff_exists sound, List.any_eq_true]
  simp only [mem_holders, concerns, decide_eq_true_eq]
  constructor
  · rintro ⟨row, member, ofLead, own, active⟩
    exact ⟨row, ⟨member, active, ofLead⟩, own⟩
  · rintro ⟨row, ⟨member, active, ofLead⟩, own⟩
    exact ⟨row, member, ofLead, own, active⟩

theorem anyClient_iff (sound : Exclusively rows) {clientId : Uuid} :
    (rows.any fun assignment =>
        assignment.clientId = some clientId ∧
          assignment.assignedStaffId = staffId ∧
          assignment.endedAt = none) ↔
      Holds rows staffId (.client clientId) := by
  rw [holds_iff_exists sound, List.any_eq_true]
  simp only [mem_holders, concerns, decide_eq_true_eq]
  constructor
  · rintro ⟨row, member, ofClient, own, active⟩
    exact ⟨row, ⟨member, active, ofClient⟩, own⟩
  · rintro ⟨row, ⟨member, active, ofClient⟩, own⟩
    exact ⟨row, member, ofClient, own, active⟩

theorem anyBooking_iff (sound : Exclusively rows) {bookingId : Uuid}
    {role : Role} :
    (rows.any fun assignment =>
        assignment.bookingId = some bookingId ∧
          assignment.assignedStaffId = staffId ∧
          assignment.role = role ∧
          assignment.endedAt = none) ↔
      Holds rows staffId (.booking bookingId role) := by
  rw [holds_iff_exists sound, List.any_eq_true]
  simp only [mem_holders, concerns, decide_eq_true_eq]
  constructor
  · rintro ⟨row, member, ofBooking, own, sameRole, active⟩
    exact ⟨row, ⟨member, active, ofBooking, sameRole⟩, own⟩
  · rintro ⟨row, ⟨member, active, ofBooking, sameRole⟩, own⟩
    exact ⟨row, member, ofBooking, own, sameRole, active⟩

end Holders

section Soundness

variable {platform : Invitations.Platform}

/-- An attempt rewrites the assignments as the desk's own attempts do. -/
theorem attempt_sound {context : Journeys.AttemptContext} {rawToken : String}
    {database : Database} {actor : AuthenticatedUser}
    (sound : Sound database.desk.clients.tables) (call : Call) :
    Sound
      (attempt platform context rawToken database actor
        call).database.desk.clients.tables := by
  cases call with
  | clients waiting =>
      exact
        (@step_sound platform.strings ⟨database.desk, [waiting]⟩
          (.attempt context.toRequestContext 0) sound).1
  | journeys call number =>
      exact sound
  | invitation operation =>
      exact sound
  | payment operation =>
      exact sound

theorem act_sound (state : State) (request : Request)
    (sound : Sound state.database.desk.clients.tables) :
    Sound (act platform state request).database.desk.clients.tables := by
  cases request with
  | attempt context rawToken index =>
      unfold act
      dsimp only
      cases state.waiting[index]? with
      | none => exact sound
      | some waiting => exact attempt_sound sound waiting.call
  | assign context actor operation =>
      exact
        (@step_sound platform.strings ⟨state.database.desk, []⟩
          (.assign context actor operation) sound).1
  | _ =>
      exact sound

theorem share_sound {database : Database}
    (sound : Sound database.desk.clients.tables) :
    Sound (share database).desk.clients.tables :=
  (@step_sound ⟨id, id⟩ ⟨database.desk, []⟩
    (.profilesChanged database.clientProfiles) sound).1

/-- Nobody shares a post with another, whatever was requested. -/
theorem databaseAfter_sound (platform : Invitations.Platform)
    (requests : List Request) :
    Sound (databaseAfter platform requests).desk.clients.tables := by
  unfold databaseAfter stateAfter
  apply
    @run_invariant _ _ (step platform)
      (fun state => Sound state.database.desk.clients.tables) State.initial
      sound_empty
  intro state request sound
  exact share_sound (act_sound state request sound)

end Soundness

end Heritage.Office
