import OpenLink.ApplicationMessages

/-!
What each handler makes of the stored sessions, address by address, and what it
returns. The server keeps every session under the address of its aircraft, which
is what lets a termination find the session it was listed from.
-/
namespace OpenLink.HandlerEffects
open Actions ApplicationMessages Cpdlc CpdlcServer Envelope Kv Runs Session SessionRuns SessionSteps
  Slots

/-! The aircraft of a session. -/
section Aircraft
variable (toUppercase : String → String)

theorem logon_request_aircraft (session : CPDLCSession) (station : AcarsRoutingEndpoint) :
    (session.logonRequest station).aircraft = session.aircraft := by
  unfold CPDLCSession.logonRequest
  split_ifs <;> rfl

theorem logon_accepted_aircraft (session : CPDLCSession) (station : AcarsEndpointCallsign) :
    (session.logonAccepted station).aircraft = session.aircraft := by
  unfold CPDLCSession.logonAccepted
  split_ifs <;> rfl

theorem step_aircraft (session : CPDLCSession) (handler : Handler) :
    (step toUppercase session handler).aircraft = session.aircraft := by
  have done := stepped toUppercase session handler
  generalize step toUppercase session handler = after at done ⊢
  cases done with
  | idle => rfl
  | logonRequest source destination station origin arrival => exact logon_request_aircraft _ _
  | logonAccepted source destination => exact logon_accepted_aircraft _ _
  | connectionRequest source destination =>
      rw [connection_request_eq]
      split_ifs <;> rfl
  | connectionAccepted source destination _ accepted =>
      rcases connection_accepted_cases session destination after accepted with
        ⟨conn, _, _, _, rfl⟩ | ⟨_, conn, _, _, _, rfl⟩ | ⟨_, rfl⟩ <;> rfl
  | application source destination msg admitted =>
      exact apply_elements_aircraft source msg.elements session
  | stationOffline station => exact termination_request_aircraft session station

theorem session_after_aircraft (aircraft : AcarsRoutingEndpoint) (handlers : List Handler) :
    (sessionAfter toUppercase aircraft handlers).aircraft = aircraft :=
  run_invariant (step toUppercase) (fun session => session.aircraft = aircraft)
    (fun session handler same => (step_aircraft toUppercase session handler).trans same)
    (.new aircraft) rfl handlers

theorem terminations_aircraft (stations : List AcarsEndpointCallsign) (session : CPDLCSession) :
    (stations.foldl CPDLCSession.terminationRequest session).aircraft = session.aircraft :=
  run_invariant CPDLCSession.terminationRequest (fun after => after.aircraft = session.aircraft)
    (fun after station same => (termination_request_aircraft after station).trans same)
    session rfl stations

/-- Every session is stored under the address of its aircraft. -/
def Keyed (store : SessionStore) : Prop :=
  ∀ id session, store.get id = some session → sessionId session.aircraft = id

theorem terminated_keyed (stations : List AcarsEndpointCallsign) (store after : SessionStore)
    (ended : ∀ id, after.get id = (store.get id).map fun session =>
      stations.foldl CPDLCSession.terminationRequest session)
    (keyed : Keyed store) : Keyed after := by
  intro id session stored
  rw [ended, Option.map_eq_some_iff] at stored
  obtain ⟨before, found, rfl⟩ := stored
  rw [terminations_aircraft]
  exact keyed id before found

end Aircraft

/-! A CPDLC message. -/
section Messages
variable (toUppercase : String → String)

/-- A meta update starts a missing session and then takes the step of its handler. -/
theorem meta_update_step (aircraft : AcarsRoutingEndpoint) (cpdlc : CpdlcEnvelope)
    (message : CpdlcMetaMessage) (content : cpdlc.message = .metaMessage message)
    (update : Option CPDLCSession → Except String (Option CPDLCSession))
    (known : metaUpdate aircraft cpdlc.source cpdlc.destination message = some update)
    (maybeSession updated : Option CPDLCSession) (done : update maybeSession = .ok updated) :
    updated = some (step toUppercase (maybeSession.getD (.new aircraft)) (.message cpdlc)) := by
  obtain ⟨source, destination, _⟩ := cpdlc
  subst content
  cases message with
  | logonRequest station origin arrival =>
      cases known
      cases done
      rfl
  | logonResponse accepted =>
      cases accepted <;> cases known
      cases done
      rfl
  | connectionRequest =>
      cases known
      cases done
      rfl
  | connectionResponse accepted =>
      cases accepted <;> cases known
      cases outcome : (maybeSession.getD (.new aircraft)).connectionAccepted destination with
      | error message => simp [outcome, bind, Except.bind] at done
      | ok after =>
          simp only [outcome, bind, Except.bind, pure, Except.pure, Except.ok.injEq] at done
          simp [← done, step, handle, metaUpdate, outcome, bind, Except.bind, pure, Except.pure,
            Except.map]
  | logonForward flight origin arrival station => cases known
  | sessionUpdate view => cases known

variable (cpdlc : CpdlcEnvelope) (acars : AcarsEnvelope)
    (envelope : OpenLinkEnvelope) (store : SessionStore)

def sessionAt : CPDLCSession :=
  (store.get (sessionId acars.routing.aircraft)).getD (.new acars.routing.aircraft)

def forwarded : OpenLinkEnvelope :=
  match cpdlc.message, envelope.payload with
  | .application msg, .acars acarsEnvelope =>
      { envelope with
        payload := .acars { acarsEnvelope with
          message := .cpdlc { cpdlc with
            message := .application (normalizeMessage toUppercase msg) } } }
  | _, _ => envelope

/-- What a message can do: fail, pass on, or take one step of its session as well. -/
inductive Handled :
    Except String (AcarsEndpointCallsign × Option CPDLCSession × OpenLinkEnvelope) × SessionStore →
      Prop where
  | failed (message : String) : Handled (.error message, store)
  | passed : Handled (.ok (cpdlc.destination, none, forwarded toUppercase cpdlc envelope), store)
  | updated : Handled (.ok (cpdlc.destination,
          some (step toUppercase (sessionAt acars store) (.message cpdlc)),
          forwarded toUppercase cpdlc envelope),
        store.put (sessionId acars.routing.aircraft)
          (step toUppercase (sessionAt acars store) (.message cpdlc)))

theorem handled_application (msg : CpdlcApplicationMessage)
    (content : cpdlc.message = .application msg) :
    Handled toUppercase cpdlc acars envelope store
      (runOn (handleCpdlcMessage toUppercase cpdlc acars envelope) store) := by
  obtain ⟨source, destination, _⟩ := cpdlc
  subst content
  by_cases taken : ∃ session, store.get (sessionId acars.routing.aircraft) = some session ∧
      admits session msg = true
  · obtain ⟨session, stored, admitted⟩ := taken
    have stepTaken := step_application toUppercase session source destination msg
    rw [admitted, if_pos rfl] at stepTaken
    have working : sessionAt acars store = session := by simp [sessionAt, stored]
    have outcome := run_application_accepted toUppercase store msg
      ⟨source, destination, .application msg⟩ acars session stored admitted
    have done : Handled toUppercase ⟨source, destination, .application msg⟩ acars envelope store _ :=
      .updated
    rw [working, stepTaken] at done
    simp only [handleCpdlcMessage, handleCpdlcMessageUnder, run_bind, outcome, run_pure]
    cases payload : envelope.payload <;> simpa [forwarded, payload] using done
  · have refused : ∀ session, store.get (sessionId acars.routing.aircraft) = some session →
        admits session msg = false := by
      intro session stored
      by_contra admitted
      exact taken ⟨session, stored, by simpa using admitted⟩
    obtain ⟨message, outcome⟩ := run_application_refused toUppercase store msg
      ⟨source, destination, .application msg⟩ acars refused
    simp only [handleCpdlcMessage, handleCpdlcMessageUnder, run_bind, outcome]
    exact .failed message

theorem handled_meta (message : CpdlcMetaMessage) (content : cpdlc.message = .metaMessage message) :
    Handled toUppercase cpdlc acars envelope store
      (runOn (handleCpdlcMessage toUppercase cpdlc acars envelope) store) := by
  have kept : forwarded toUppercase cpdlc envelope = envelope := by simp [forwarded, content]
  simp only [handleCpdlcMessage, handleCpdlcMessageUnder, content]
  cases known : metaUpdate acars.routing.aircraft cpdlc.source cpdlc.destination message with
  | none =>
      simp only [handleCpdlcMetaMessageUnder, known, run_bind, run_pure]
      have done : Handled toUppercase cpdlc acars envelope store _ := .passed
      rwa [kept] at done
  | some update =>
      simp only [handleCpdlcMetaMessageUnder, known, run_bind, run_get_and_update]
      cases result : update (store.get (sessionId acars.routing.aircraft)) with
      | error failure => exact .failed failure
      | ok updated =>
          have taken := meta_update_step toUppercase _ cpdlc message content update known _ _ result
          subst taken
          have done : Handled toUppercase cpdlc acars envelope store _ := .updated
          rwa [kept] at done

theorem handled :
    Handled toUppercase cpdlc acars envelope store
      (runOn (handleCpdlcMessage toUppercase cpdlc acars envelope) store) := by
  cases content : cpdlc.message with
  | application msg => exact handled_application toUppercase cpdlc acars envelope store msg content
  | metaMessage message =>
      exact handled_meta toUppercase cpdlc acars envelope store message content

theorem handled_keyed (keyed : Keyed store) :
    Keyed (runOn (handleCpdlcMessage toUppercase cpdlc acars envelope) store).2 := by
  have done := handled toUppercase cpdlc acars envelope store
  generalize runOn (handleCpdlcMessage toUppercase cpdlc acars envelope) store =
    outcome at done ⊢
  cases done with
  | failed failure => exact keyed
  | passed => exact keyed
  | updated =>
      intro id session stored
      rw [KvStore.get_put] at stored
      split at stored
      · next own =>
          cases stored
          rw [own, step_aircraft]
          cases known : store.get (sessionId acars.routing.aircraft) with
          | none => simp [sessionAt, known, CPDLCSession.new]
          | some existing => simpa [sessionAt, known] using keyed _ existing known
      · exact keyed id session stored

end Messages

/-! The end of a station's service. -/
section Terminations
variable (station : AcarsEndpointCallsign)

def listed (store : SessionStore) : List CPDLCSession :=
  (store.keys.filterMap store.get).filter (relevant station)

theorem run_list_sessions (store : SessionStore) :
    runOn (listSessionsForCallsign station) store = (.ok (listed station store), store) := rfl

theorem mem_listed (store : SessionStore) (session : CPDLCSession) :
    session ∈ listed station store ↔
      (∃ id, store.get id = some session) ∧ relevant station session = true := by
  rw [listed, List.mem_filter, List.mem_filterMap]
  refine and_congr_left fun _ => ⟨?_, ?_⟩
  · rintro ⟨id, _, stored⟩
    exact ⟨id, stored⟩
  · rintro ⟨id, stored⟩
    exact ⟨id, (store.mem_keys_iff id).mpr ⟨session, stored⟩, stored⟩

theorem listed_distinct (store : SessionStore) (keyed : Keyed store) :
    ((listed station store).map fun session => sessionId session.aircraft).Nodup := by
  have within : ∀ ids : List String,
      ((ids.filterMap store.get).map fun session => sessionId session.aircraft).Sublist ids := by
    intro ids
    induction ids with
    | nil => exact List.Sublist.refl _
    | cons id rest ih =>
        cases stored : store.get id with
        | none => simpa [stored] using ih.cons id
        | some session =>
            have own := keyed id session stored
            simpa [stored, own] using ih
  exact store.keys_nodup.sublist ((List.filter_sublist.map _).trans (within store.keys))

theorem run_terminate_one (aircraft : AcarsRoutingEndpoint) (store : SessionStore) :
    ∃ after, runOn (getAndUpdateSessionForAircraft aircraft fun maybeSession =>
        (terminationUpdate station maybeSession).map fun updated => (updated, ())) store =
          (.ok ((store.get (sessionId aircraft)).map fun session =>
            session.terminationRequest station, ()), after) ∧
      ∀ id, after.get id = if id = sessionId aircraft then
        (store.get id).map fun session => session.terminationRequest station else store.get id := by
  rw [run_get_and_update]
  cases stored : store.get (sessionId aircraft) with
  | none =>
      refine ⟨store.delete (sessionId aircraft), rfl, fun id => ?_⟩
      rw [KvStore.get_delete]
      split
      · next own => simp [own, stored]
      · rfl
  | some session =>
      refine ⟨store.put (sessionId aircraft) (session.terminationRequest station), ?_,
        fun id => ?_⟩
      · simp [termination_update_eq, Except.map]
      · rw [KvStore.get_put]
        split
        · next own => simp [own, stored]
        · rfl

def reported (store : SessionStore) (sessions : List CPDLCSession) : List CPDLCSession :=
  sessions.filterMap fun listing =>
    ((store.get (sessionId listing.aircraft)).map fun session =>
      session.terminationRequest station).filter fun ended => !ended.holds station

/-- The loop over sessions of different addresses terminates each of them once. -/
theorem run_terminate_each (sessions updatedSessions : List CPDLCSession) (store : SessionStore)
    (distinct : (sessions.map fun session => sessionId session.aircraft).Nodup) :
    ∃ after, runOn (terminateEach station sessions updatedSessions) store =
        (.ok (updatedSessions ++ reported station store sessions), after) ∧
      ∀ id, after.get id = if id ∈ sessions.map (fun session => sessionId session.aircraft) then
        (store.get id).map fun session => session.terminationRequest station else store.get id := by
  induction sessions generalizing updatedSessions store with
  | nil => exact ⟨store, by simp [terminateEach, reported], by simp⟩
  | cons session rest ih =>
      obtain ⟨fresh, tail⟩ := List.nodup_cons.mp (List.map_cons ▸ distinct)
      obtain ⟨first, ran, effect⟩ := run_terminate_one station session.aircraft store
      have untouched : reported station first rest = reported station store rest := by
        refine List.filterMap_congr fun listing member => ?_
        rw [effect, if_neg]
        intro same
        exact fresh (List.mem_map.mpr ⟨listing, member, same⟩)
      -- what the first session adds to the result, and the rest of the loop
      have unfolded : runOn (terminateEach station (session :: rest) updatedSessions) store =
          runOn (terminateEach station rest
            (updatedSessions ++ reported station store [session])) first := by
        rw [terminateEach, run_bind, ran]
        cases stored : store.get (sessionId session.aircraft) with
        | none => simp [reported, stored]
        | some before =>
            cases still : (before.terminationRequest station).holds station with
            | true => simp [reported, stored, still, Option.filter]
            | false => simp [reported, stored, still, Option.filter]
      have split : reported station store (session :: rest) =
          reported station store [session] ++ reported station store rest := by
        simp only [reported, ← List.filterMap_append, List.singleton_append]
      obtain ⟨after, finished, later⟩ :=
        ih (updatedSessions ++ reported station store [session]) first tail
      refine ⟨after, by rw [unfolded, finished, untouched, split, List.append_assoc], ?_⟩
      intro id
      rw [later, effect]
      by_cases here : id = sessionId session.aircraft
      · subst here
        simp [fresh]
      · simp [here]

theorem irrelevant_kept (session : CPDLCSession) (irrelevant : relevant station session = false) :
    session.terminationRequest station = session :=
  termination_request_absent session station (Bool.or_eq_false_iff.mp irrelevant).2

/-- A termination takes the station out of the first slot it holds in every stored session,
and touches nothing else. It returns what it was listed for and does not hold the station any
more. -/
theorem run_terminate_exact (store : SessionStore) (keyed : Keyed store) :
    ∃ after,
      runOn (terminateSessionsForStation station) store =
        (.ok (((listed station store).map fun session => session.terminationRequest station).filter
          fun ended => !ended.holds station), after) ∧
      ∀ id, after.get id =
        (store.get id).map fun session => session.terminationRequest station := by
  obtain ⟨after, ran, effect⟩ := run_terminate_each station (listed station store) [] store
    (listed_distinct station store keyed)
  have returned : reported station store (listed station store) =
      ((listed station store).map fun session => session.terminationRequest station).filter
        fun ended => !ended.holds station := by
    rw [List.filter_map, ← List.filterMap_eq_map, List.filterMap_filter]
    refine List.filterMap_congr fun session member => ?_
    obtain ⟨⟨id, stored⟩, _⟩ := (mem_listed station store session).mp member
    rw [keyed id session stored, stored]
    simp [Option.filter]
  refine ⟨after, ?_, ?_⟩
  · simp only [terminateSessionsForStation, run_bind, run_list_sessions, ran, List.nil_append,
      returned]
  · intro id
    rw [effect]
    split
    · rfl
    -- a session that is not listed does not have the station, so a termination would not change it
    · next absent =>
        cases stored : store.get id with
        | none => rfl
        | some session =>
            have irrelevant : relevant station session = false := by
              by_contra found
              apply absent
              have member : session ∈ listed station store :=
                (mem_listed station store session).mpr ⟨⟨id, stored⟩, by simpa using found⟩
              exact List.mem_map.mpr ⟨session, member, keyed id session stored⟩
            simp [irrelevant_kept station session irrelevant]

theorem run_terminate_sessions (store : SessionStore) (keyed : Keyed store) :
    ∃ updated after,
      runOn (terminateSessionsForStation station) store = (.ok updated, after) ∧
      (∀ id, after.get id =
        (store.get id).map fun session => session.terminationRequest station) ∧
      ∀ session ∈ updated, ∃ id before, store.get id = some before ∧
        relevant station before = true ∧ session = before.terminationRequest station := by
  obtain ⟨after, ran, effect⟩ := run_terminate_exact station store keyed
  refine ⟨_, after, ran, effect, ?_⟩
  intro session member
  obtain ⟨before, inList, same⟩ := List.mem_map.mp (List.mem_filter.mp member).1
  obtain ⟨⟨id, stored⟩, wanted⟩ := (mem_listed station store before).mp inList
  exact ⟨id, before, stored, wanted, same.symm⟩

end Terminations

end OpenLink.HandlerEffects
