import OpenLink.SessionRuns

/-!
Which stations a CPDLC message can bring into a session, and which ones lose their
slot with it. A station that sends or receives nothing can still be displaced.
-/
namespace OpenLink.SessionMembers
open Cpdlc Session SessionRuns SessionSteps Slots

variable (toUppercase : String → String) (session : CPDLCSession) (message : CpdlcEnvelope)

def requested : List AcarsEndpointCallsign :=
  match message.message with
  | .metaMessage (.logonRequest station _ _) => [station]
  | _ => []

def involved : List AcarsEndpointCallsign :=
  (slots session).map callsign ++ message.source :: message.destination :: requested message

/-- The message puts another station in the one slot that this station holds. -/
def displaces (station : AcarsEndpointCallsign) : Prop :=
  heldBy session.inactiveConnection station = true ∧
    heldBy session.activeConnection station = false ∧
    ∃ placed, newcomer session (.message message) = some placed ∧ callsign placed ≠ station

theorem holds_mem (station : AcarsEndpointCallsign) :
    session.holds station = true ↔ station ∈ (slots session).map callsign := by
  rw [holds_iff, List.mem_map]

/-- A connection is put into the active slot where that is free, else into the inactive one. -/
def placing (conn : CPDLCConnection) : CPDLCSession :=
  if session.activeConnection.isNone then { session with activeConnection := some conn }
  else { session with inactiveConnection := some conn }

theorem placing_holds (conn : CPDLCConnection) (station : AcarsEndpointCallsign)
    (held : (placing session conn).holds station = true) :
    session.holds station = true ∨ callsign conn = station := by
  rcases session with ⟨aircraft, _ | active, inactive, nda⟩
  · simp only [placing, CPDLCSession.holds, held_some, held_none, Option.isNone_none, if_true,
      Bool.or_eq_true, is_at_iff, Bool.false_or] at held ⊢
    exact held.symm
  · simp only [placing, CPDLCSession.holds, held_some, Option.isNone_some, Bool.false_eq_true,
      if_false, Bool.or_eq_true, is_at_iff] at held ⊢
    exact held.imp_left Or.inl

theorem placing_loses (conn : CPDLCConnection) (station : AcarsEndpointCallsign)
    (held : session.holds station = true)
    (lost : (placing session conn).holds station = false) :
    session.activeConnection.isSome = true ∧ heldBy session.inactiveConnection station = true ∧
      heldBy session.activeConnection station = false ∧ callsign conn ≠ station := by
  rcases session with ⟨aircraft, _ | active, inactive, nda⟩
  · simp only [placing, CPDLCSession.holds, held_some, held_none, Option.isNone_none, if_true,
      Bool.or_eq_false_iff, Bool.false_or] at held lost
    rw [lost.2] at held
    cases held
  · simp only [placing, CPDLCSession.holds, held_some, Option.isNone_some, Bool.false_eq_true,
      if_false, Bool.or_eq_false_iff] at held lost
    simp only [lost.1, Bool.false_or] at held
    refine ⟨rfl, held, lost.1, fun same => ?_⟩
    rw [(is_at_iff station conn).mpr same] at lost
    cases lost.2

theorem connection_request_places (station : AcarsEndpointCallsign) :
    session.connectionRequest station =
      if invited session station then placing session (ndaConnection station) else session := by
  rw [connection_request_eq]
  rfl

theorem step_callsigns (station : AcarsEndpointCallsign)
    (member : station ∈ (slots (step toUppercase session (.message message))).map callsign) :
    station ∈ involved session message := by
  have done := stepped toUppercase session (.message message)
  generalize step toUppercase session (.message message) = after at done member
  rw [involved, List.mem_append]
  cases done with
  | idle => exact Or.inl member
  | logonRequest source destination asked origin arrival =>
      rw [← holds_mem] at member ⊢
      refine (placing_holds session (.new ⟨asked, ""⟩) station member).imp_right fun same => ?_
      simp [requested, ← same]
  | logonAccepted source destination =>
      rw [slots_logon_accepted, update_first_keys callsign _ _ callsign_log_on] at member
      exact Or.inl member
  | connectionRequest source destination =>
      rw [← holds_mem] at member ⊢
      rw [connection_request_places] at member
      split at member
      · refine (placing_holds session (ndaConnection source) station member).imp_right
          fun same => ?_
        simp [← same, ndaConnection]
      · exact Or.inl member
  | connectionAccepted source destination _ accepted =>
      rw [slots_connection_accepted session destination after accepted,
        update_first_keys callsign _ _ callsign_establish] at member
      exact Or.inl member
  | application source destination msg admitted =>
      exact Or.inl (((apply_elements_sublist source msg.elements session).map callsign).subset
        member)

/-- A station leaves a session with a message of its own, or is displaced. -/
theorem step_loses (station : AcarsEndpointCallsign) (held : session.holds station = true)
    (lost : (step toUppercase session (.message message)).holds station = false) :
    station = message.source ∨ displaces session message station := by
  have done := stepped toUppercase session (.message message)
  generalize step toUppercase session (.message message) = after at done lost
  have kept : (slots after).map callsign = (slots session).map callsign → False := by
    intro same
    rw [← Bool.not_eq_true, holds_mem, same, ← holds_mem] at lost
    exact lost held
  -- a step that leaves the callsigns of the slots as they are loses nobody
  cases done with
  | idle => exact (kept rfl).elim
  | logonRequest source destination asked origin arrival =>
      obtain ⟨taken, behind, front, other⟩ :=
        placing_loses session (.new ⟨asked, ""⟩) station held lost
      exact Or.inr ⟨behind, front, .new ⟨asked, ""⟩, by simp [newcomer, taken], other⟩
  | logonAccepted source destination =>
      refine (kept ?_).elim
      rw [slots_logon_accepted, update_first_keys callsign _ _ callsign_log_on]
  | connectionRequest source destination =>
      rw [connection_request_places] at lost kept
      cases asked : invited session source with
      | false => exact (kept (by simp [asked])).elim
      | true =>
          rw [asked, if_pos rfl] at lost
          obtain ⟨taken, behind, front, other⟩ :=
            placing_loses session (ndaConnection source) station held lost
          exact Or.inr ⟨behind, front, ndaConnection source, by simp [newcomer, taken, asked], other⟩
  | connectionAccepted source destination _ accepted =>
      refine (kept ?_).elim
      rw [slots_connection_accepted session destination after accepted,
        update_first_keys callsign _ _ callsign_establish]
  | application source destination msg admitted =>
      by_contra neither
      rw [not_or] at neither
      obtain ⟨conn, member, same⟩ := (holds_iff session station).mp held
      have stays := apply_elements_keep source msg.elements session conn member
        fun own => absurd (same.symm.trans own) neither.1
      have still := (holds_iff _ station).mpr ⟨conn, stays, same⟩
      rw [still] at lost
      cases lost

end OpenLink.SessionMembers
