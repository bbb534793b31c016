import OpenLink.SessionSteps
import Mathlib.Data.List.Forall2

/-!
Two runs of the server that spell callsigns differently. The relation `spelled` takes a
callsign of the one run to the callsign that stands in its place in the other; what
carries callsigns is compared field by field.
-/
namespace OpenLink.Respelling
open Cpdlc Session SessionSteps

/-- Two callsigns are one in the first run exactly when they are in the second. -/
def OneToOne (spelled : AcarsEndpointCallsign → AcarsEndpointCallsign → Prop) : Prop :=
  ∀ left right other another, spelled left right → spelled other another →
    (left = other ↔ right = another)

variable (spelled : AcarsEndpointCallsign → AcarsEndpointCallsign → Prop)

/-! What a run reads and keeps, apart from the spelling. -/
section Relations

structure EndpointLike (left right : AcarsRoutingEndpoint) : Prop where
  callsign : spelled left.callsign right.callsign
  address : left.address = right.address

structure ConnectionLike (left right : CPDLCConnection) : Prop where
  station : EndpointLike spelled left.station right.station
  logon : left.logon = right.logon
  connection : left.connection = right.connection

structure SessionLike (left right : CPDLCSession) : Prop where
  aircraft : EndpointLike spelled left.aircraft right.aircraft
  active : Option.Rel (ConnectionLike spelled) left.activeConnection right.activeConnection
  inactive : Option.Rel (ConnectionLike spelled) left.inactiveConnection right.inactiveConnection
  nextDataAuthority :
    Option.Rel (EndpointLike spelled) left.nextDataAuthority right.nextDataAuthority

structure ConnectionViewLike (left right : CpdlcConnectionView) : Prop where
  peer : spelled left.peer right.peer
  phase : left.phase = right.phase

structure SessionViewLike (left right : CpdlcSessionView) : Prop where
  aircraft : Option.Rel spelled left.aircraft right.aircraft
  address : left.aircraftAddress = right.aircraftAddress
  active : Option.Rel (ConnectionViewLike spelled) left.activeConnection right.activeConnection
  inactive :
    Option.Rel (ConnectionViewLike spelled) left.inactiveConnection right.inactiveConnection
  nextDataAuthority : Option.Rel spelled left.nextDataAuthority right.nextDataAuthority

def ArgumentLike : CpdlcArgument → CpdlcArgument → Prop
  | .facilityDesignation left, .facilityDesignation right => spelled left right
  | left, right => left = right

structure ElementLike (left right : MessageElement) : Prop where
  id : left.id = right.id
  args : if left.id = "UM160" then List.Forall₂ (ArgumentLike spelled) left.args right.args
    else left.args = right.args

structure ApplicationLike (left right : CpdlcApplicationMessage) : Prop where
  min : left.min = right.min
  mrn : left.mrn = right.mrn
  elements : List.Forall₂ (ElementLike spelled) left.elements right.elements
  timestamp : left.timestamp = right.timestamp

inductive MetaLike : CpdlcMetaMessage → CpdlcMetaMessage → Prop where
  | logonRequest {left right : AcarsEndpointCallsign} (station : spelled left right)
      (flightPlanOrigin flightPlanDestination : ICAOAirportCode) :
      MetaLike (.logonRequest left flightPlanOrigin flightPlanDestination)
        (.logonRequest right flightPlanOrigin flightPlanDestination)
  | logonResponse (accepted : Bool) : MetaLike (.logonResponse accepted) (.logonResponse accepted)
  | connectionRequest : MetaLike .connectionRequest .connectionRequest
  | connectionResponse (accepted : Bool) :
      MetaLike (.connectionResponse accepted) (.connectionResponse accepted)
  | logonForward {left right other another : AcarsEndpointCallsign} (flight : spelled left right)
      (flightPlanOrigin flightPlanDestination : ICAOAirportCode)
      (newStation : spelled other another) :
      MetaLike (.logonForward left flightPlanOrigin flightPlanDestination other)
        (.logonForward right flightPlanOrigin flightPlanDestination another)
  | sessionUpdate {left right : CpdlcSessionView} (view : SessionViewLike spelled left right) :
      MetaLike (.sessionUpdate left) (.sessionUpdate right)

inductive MessageLike : CpdlcMessageType → CpdlcMessageType → Prop where
  | application {left right : CpdlcApplicationMessage} (same : ApplicationLike spelled left right) :
      MessageLike (.application left) (.application right)
  | metaMessage {left right : CpdlcMetaMessage} (same : MetaLike spelled left right) :
      MessageLike (.metaMessage left) (.metaMessage right)

structure CpdlcLike (left right : CpdlcEnvelope) : Prop where
  source : spelled left.source right.source
  destination : spelled left.destination right.destination
  message : MessageLike spelled left.message right.message

end Relations

/-! The session methods compare callsigns exactly, which a one-to-one spelling respects. -/
section Methods
variable {spelled} (exactly : OneToOne spelled) {left right : CPDLCSession}
  (same : SessionLike spelled left right) {station other : AcarsEndpointCallsign}
  (named : spelled station other)

include exactly named in
theorem held_like {slot another : Option CPDLCConnection}
    (taken : Option.Rel (ConnectionLike spelled) slot another) :
    heldBy slot station = heldBy another other := by
  cases taken with
  | none => rfl
  | some conn =>
      rw [Bool.eq_iff_iff]
      simpa [heldBy] using exactly _ _ _ _ conn.station.callsign named

theorem new_like {aircraft another : AcarsRoutingEndpoint}
    (owner : EndpointLike spelled aircraft another) :
    SessionLike spelled (.new aircraft) (.new another) :=
  ⟨owner, .none, .none, .none⟩

include same in
theorem logon_request_like {endpoint another : AcarsRoutingEndpoint}
    (asked : EndpointLike spelled endpoint another) :
    SessionLike spelled (left.logonRequest endpoint) (right.logonRequest another) := by
  have fresh : ConnectionLike spelled (.new endpoint) (.new another) := ⟨asked, rfl, rfl⟩
  obtain ⟨_, leftActive, _, _⟩ := left
  obtain ⟨_, rightActive, _, _⟩ := right
  obtain ⟨aircraft, active, inactive, nda⟩ := same
  cases active with
  | none => exact ⟨aircraft, .some fresh, inactive, nda⟩
  | some conn => exact ⟨aircraft, .some conn, .some fresh, nda⟩

theorem log_on_like {slot another : Option CPDLCConnection}
    (taken : Option.Rel (ConnectionLike spelled) slot another) :
    Option.Rel (ConnectionLike spelled) (slot.map .logOn) (another.map .logOn) := by
  cases taken with
  | none => exact .none
  | some conn => exact .some ⟨conn.station, rfl, conn.connection⟩

include exactly same named in
theorem logon_accepted_like :
    SessionLike spelled (left.logonAccepted station) (right.logonAccepted other) := by
  unfold CPDLCSession.logonAccepted
  rw [held_like exactly named same.active, held_like exactly named same.inactive]
  split
  · exact ⟨same.aircraft, log_on_like same.active, same.inactive, same.nextDataAuthority⟩
  · split
    · exact ⟨same.aircraft, same.active, log_on_like same.inactive, same.nextDataAuthority⟩
    · exact same

include exactly named in
theorem designated_like {authority another : Option AcarsRoutingEndpoint}
    (designated : Option.Rel (EndpointLike spelled) authority another) :
    (authority.any fun nda => nda.callsign == station) =
      another.any fun nda => nda.callsign == other := by
  cases designated with
  | none => rfl
  | some endpoint =>
      rw [Bool.eq_iff_iff]
      simpa using exactly _ _ _ _ endpoint.callsign named

theorem free_like {slot another : Option CPDLCConnection}
    (taken : Option.Rel (ConnectionLike spelled) slot another) :
    slot.isNone = another.isNone := by
  cases taken <;> rfl

include exactly same named in
theorem connection_request_like :
    SessionLike spelled (left.connectionRequest station) (right.connectionRequest other) := by
  have fresh : ConnectionLike spelled (CPDLCConnection.new ⟨station, ""⟩).logOn
      (CPDLCConnection.new ⟨other, ""⟩).logOn := ⟨⟨named, rfl⟩, rfl, rfl⟩
  unfold CPDLCSession.connectionRequest
  rw [held_like exactly named same.active, held_like exactly named same.inactive,
    designated_like exactly named same.nextDataAuthority, free_like same.active]
  split
  · exact same
  · split
    · exact same
    · split
      -- the designated authority logs on without asking
      · split
        · exact ⟨same.aircraft, .some fresh, same.inactive, same.nextDataAuthority⟩
        · exact ⟨same.aircraft, same.active, .some fresh, same.nextDataAuthority⟩
      · exact same

def OutcomeLike {Value : Type} (like : Value → Value → Prop) :
    Except String Value → Except String Value → Prop
  | .ok left, .ok right => like left right
  | .error _, .error _ => True
  | _, _ => False

theorem outcome_map {Value Result : Type} {like : Value → Value → Prop}
    {alike : Result → Result → Prop} {change other : Value → Result}
    (kept : ∀ left right, like left right → alike (change left) (other right))
    {left right : Except String Value} (outcome : OutcomeLike like left right) :
    OutcomeLike alike (left.map change) (right.map other) := by
  cases left <;> cases right
  · trivial
  · exact outcome
  · exact outcome
  · exact kept _ _ outcome

theorem connect_like {slot another : Option CPDLCConnection}
    (taken : Option.Rel (ConnectionLike spelled) slot another) :
    OutcomeLike (Option.Rel (ConnectionLike spelled)) (slot.mapM CPDLCConnection.connect)
      (another.mapM CPDLCConnection.connect) := by
  cases taken with
  | none => exact .none
  | @some conn other like =>
      simp only [Option.mapM_some, CPDLCConnection.connect, like.logon]
      split
      · exact .some ⟨like.station, rfl, rfl⟩
      · trivial

include exactly same named in
theorem connection_accepted_like :
    OutcomeLike (SessionLike spelled) (left.connectionAccepted station)
      (right.connectionAccepted other) := by
  unfold CPDLCSession.connectionAccepted
  rw [held_like exactly named same.active, held_like exactly named same.inactive]
  simp only [bind_pure_comp]
  split
  · refine outcome_map ?_ (connect_like same.active)
    exact fun _ _ linked => ⟨same.aircraft, linked, same.inactive, same.nextDataAuthority⟩
  · split
    · refine outcome_map ?_ (connect_like same.inactive)
      exact fun _ _ linked => ⟨same.aircraft, same.active, linked, same.nextDataAuthority⟩
    · exact same

include exactly same named in
theorem termination_like :
    SessionLike spelled (left.terminationRequest station) (right.terminationRequest other) := by
  unfold CPDLCSession.terminationRequest
  rw [held_like exactly named same.active, held_like exactly named same.inactive]
  split
  · exact ⟨same.aircraft, same.inactive, .none, same.nextDataAuthority⟩
  · split
    · exact ⟨same.aircraft, same.active, .none, same.nextDataAuthority⟩
    · exact same

end Methods

/-! The updates that the handlers make. -/
section Updates
variable {spelled} (exactly : OneToOne spelled)

theorem facility_like {left right : MessageElement} (same : ElementLike spelled left right) :
    Option.Rel spelled (designatedFacility left) (designatedFacility right) := by
  obtain ⟨leftId, leftArgs⟩ := left
  obtain ⟨rightId, rightArgs⟩ := right
  obtain ⟨rfl, args⟩ := same
  unfold designatedFacility
  by_cases designation : leftId = "UM160"
  · simp only [if_pos designation] at args ⊢
    cases args with
    | nil => exact .none
    | @cons first second _ _ argument _ =>
        cases first with
        | facilityDesignation facility =>
            cases second with
            | facilityDesignation other => exact .some argument
            | _ => cases argument
        | _ =>
            obtain rfl : _ = second := argument
            exact .none
  · simp only [if_neg designation]
    exact .none

include exactly in
theorem apply_element_like {left right : CPDLCSession} (same : SessionLike spelled left right)
    {source other : AcarsEndpointCallsign} (named : spelled source other)
    {element another : MessageElement} (alike : ElementLike spelled element another) :
    SessionLike spelled (applyElement source left element) (applyElement other right another) := by
  have service : endsService element = endsService another := by
    rw [endsService, endsService, alike.id]
  have facility := facility_like alike
  rw [apply_element_eq, apply_element_eq, service]
  generalize designatedFacility element = first at facility ⊢
  generalize designatedFacility another = second at facility ⊢
  cases facility with
  | none =>
      cases endsService another with
      | false => exact same
      | true => exact termination_like exactly same named
  | some facility => exact ⟨same.aircraft, same.active, same.inactive, .some ⟨facility, rfl⟩⟩

include exactly in
theorem apply_elements_like {source other : AcarsEndpointCallsign} (named : spelled source other)
    {elements others : List MessageElement}
    (alike : List.Forall₂ (ElementLike spelled) elements others) {left right : CPDLCSession}
    (same : SessionLike spelled left right) :
    SessionLike spelled (elements.foldl (applyElement source) left)
      (others.foldl (applyElement other) right) := by
  induction alike generalizing left right with
  | nil => exact same
  | cons element _ ih => exact ih (apply_element_like exactly same named element)

include exactly in
/-- An application message is taken in both runs or in neither. -/
theorem application_like (toUppercase : String → String) {source other : AcarsEndpointCallsign}
    (named : spelled source other) {msg another : CpdlcApplicationMessage}
    (alike : ApplicationLike spelled msg another) {maybeSession maybeOther : Option CPDLCSession}
    (stored : Option.Rel (SessionLike spelled) maybeSession maybeOther) :
    OutcomeLike (fun left right => SessionLike spelled left.1 right.1)
      (applicationUpdate toUppercase source msg maybeSession)
      (applicationUpdate toUppercase other another maybeOther) := by
  cases stored with
  | none => trivial
  | @some left right same =>
      obtain ⟨_, leftActive, _, _⟩ := left
      obtain ⟨_, rightActive, _, _⟩ := right
      have active := same.active
      cases active with
      | none => trivial
      | @some conn peer connected =>
          have ready : conn.readyExchange = peer.readyExchange := by
            simp only [CPDLCConnection.readyExchange, connected.logon, connected.connection]
          unfold applicationUpdate
          simp only [normalizeMessage, ready, alike.min]
          cases peer.readyExchange with
          | false => trivial
          | true =>
              by_cases valid : minInRange another.min = true
              · simp only [valid, OutcomeLike, Bool.not_true, Bool.false_eq_true, if_false,
                  apply_normalized_elements]
                exact apply_elements_like exactly named alike.elements same
              · simp only [valid, Bool.not_true, Bool.false_eq_true, Bool.not_false, if_false, if_true]
                trivial

def UpdateLike (spelled : AcarsEndpointCallsign → AcarsEndpointCallsign → Prop)
    (first second : Option CPDLCSession → Except String (Option CPDLCSession)) : Prop :=
  ∀ left right, Option.Rel (SessionLike spelled) left right →
    OutcomeLike (Option.Rel (SessionLike spelled)) (first left) (second right)

theorem started_like {left right : Option CPDLCSession}
    (stored : Option.Rel (SessionLike spelled) left right) {aircraft another : AcarsRoutingEndpoint}
    (owner : EndpointLike spelled aircraft another) :
    SessionLike spelled (left.getD (.new aircraft)) (right.getD (.new another)) := by
  cases stored with
  | none => exact new_like owner
  | some same => exact same

include exactly in
theorem meta_like {aircraft another : AcarsRoutingEndpoint}
    (owner : EndpointLike spelled aircraft another)
    {source other destination peer : AcarsEndpointCallsign} (named : spelled source other)
    (addressed : spelled destination peer) {message content : CpdlcMetaMessage}
    (alike : MetaLike spelled message content) :
    Option.Rel (UpdateLike spelled) (metaUpdate aircraft source destination message)
      (metaUpdate another other peer content) := by
  cases alike with
  | logonRequest station _ _ =>
      exact .some fun _ _ stored =>
        .some (logon_request_like (started_like stored owner) ⟨station, rfl⟩)
  | logonResponse accepted =>
      cases accepted with
      | false => exact .none
      | true =>
          exact .some fun _ _ stored =>
            .some (logon_accepted_like exactly (started_like stored owner) named)
  | connectionRequest =>
      exact .some fun _ _ stored =>
        .some (connection_request_like exactly (started_like stored owner) named)
  | connectionResponse accepted =>
      cases accepted with
      | false => exact .none
      | true =>
          refine .some fun left right stored => ?_
          have linked := connection_accepted_like exactly (started_like stored owner) addressed
          simp only [bind_pure_comp]
          exact outcome_map (fun _ _ updated => .some updated) linked
  | logonForward flight _ _ newStation => exact .none
  | sessionUpdate view => exact .none

end Updates

end OpenLink.Respelling
