import OpenLink.StoredSessions

/-!
Taking a station out of all stored sessions, and the sessions that are reported for
it. The listing also finds the sessions of an aircraft with the station's callsign,
and a termination takes off one connection where a session has two of them.
-/
namespace OpenLink.Terminations
open Actions Cpdlc CpdlcServer HandlerEffects Kv Runs Session SessionSteps StoredSessions

/-! The connections of one session with a station. -/
section Connections
variable (station : AcarsEndpointCallsign) (session : CPDLCSession)

def connections : List CPDLCConnection := (slots session).filter (isAt station)

def Removed (before after : CPDLCSession) : Prop :=
  (connections station after).length < (connections station before).length

theorem holds_connections :
    session.holds station = true ↔ 0 < (connections station session).length := by
  rw [holds_iff, connections, List.length_pos_iff_exists_mem]
  simp only [List.mem_filter, is_at_iff]

theorem termination_connections :
    (connections station (session.terminationRequest station)).length =
      (connections station session).length - 1 := by
  rw [connections, connections, slots_termination_request]
  rcases session with ⟨aircraft, _ | active, _ | inactive, nda⟩
  · rfl
  · by_cases hit : isAt station inactive = true <;> simp [slots, hit]
  · by_cases hit : isAt station active = true <;> simp [slots, hit]
  · by_cases hit : isAt station active = true <;> by_cases other : isAt station inactive = true <;>
      simp [slots, hit, other]

theorem removed_iff :
    Removed station session (session.terminationRequest station) ↔
      session.holds station = true := by
  rw [Removed, termination_connections, holds_connections]
  omega

/-- A termination leaves the station in a session that has it in both slots. -/
theorem still_holds_iff :
    (session.terminationRequest station).holds station = true ↔
      1 < (connections station session).length := by
  rw [holds_connections, termination_connections]
  omega

end Connections

/-! What is reported. -/
section Reports
variable (station : AcarsEndpointCallsign) (store : SessionStore)

/-- The call returns the sessions it has taken the station out of, each of them once, and
changes no other session. -/
def ReportsChanged : Prop :=
  ∃ updated after,
    runOn (terminateSessionsForStation station) store = (.ok updated, after) ∧
    (updated.map fun session => sessionId session.aircraft).Nodup ∧
    (∀ session, session ∈ updated ↔ ∃ id before, store.get id = some before ∧
      after.get id = some session ∧ Removed station before session) ∧
    (∀ session ∈ updated, session.holds station = false) ∧
    ∀ id, (∀ session ∈ updated, sessionId session.aircraft ≠ id) → after.get id = store.get id

/-- No session belongs to an aircraft with this callsign without being connected to the
station, and none is connected to it twice. -/
def Clear : Prop :=
  ∀ id session, store.get id = some session →
    ¬ (session.aircraft.callsign = station ∧ session.holds station = false) ∧
      (connections station session).length ≤ 1

def reported : List CPDLCSession :=
  ((listed station store).map fun session => session.terminationRequest station).filter
    fun ended => !ended.holds station

theorem reported_distinct (keyed : Keyed store) :
    ((reported station store).map fun session => sessionId session.aircraft).Nodup := by
  have ids : ((listed station store).map fun session => sessionId session.aircraft) =
      (((listed station store).map fun session => session.terminationRequest station).map
        fun session => sessionId session.aircraft) := by
    rw [List.map_map]
    refine List.map_congr_left fun session _ => ?_
    rw [Function.comp_apply, termination_request_aircraft]
  have distinct := listed_distinct station store keyed
  rw [ids] at distinct
  exact distinct.sublist (List.filter_sublist.map _)

/-- A clear store reports the sessions that held the station. -/
theorem reported_iff (clear : Clear station store) (session : CPDLCSession) :
    session ∈ reported station store ↔ ∃ id before, store.get id = some before ∧
      before.holds station = true ∧ session = before.terminationRequest station := by
  rw [reported, List.mem_filter, List.mem_map]
  constructor
  · rintro ⟨⟨before, inList, rfl⟩, _⟩
    obtain ⟨⟨id, stored⟩, wanted⟩ := (mem_listed station store before).mp inList
    refine ⟨id, before, stored, ?_, rfl⟩
    by_contra idle
    rw [Bool.not_eq_true] at idle
    rw [relevant, idle, Bool.or_false, beq_iff_eq] at wanted
    exact (clear id before stored).1 ⟨wanted, idle⟩
  · rintro ⟨id, before, stored, held, rfl⟩
    refine ⟨⟨before, (mem_listed station store before).mpr ⟨⟨id, stored⟩, ?_⟩, rfl⟩, ?_⟩
    · rw [relevant, held, Bool.or_true]
    · have single := (clear id before stored).2
      rw [Bool.not_eq_true', ← Bool.not_eq_true, still_holds_iff]
      omega

theorem clear_reports (keyed : Keyed store) (clear : Clear station store) :
    ReportsChanged station store := by
  obtain ⟨after, ran, effect⟩ := run_terminate_exact station store keyed
  refine ⟨reported station store, after, ran, reported_distinct station store keyed, ?_, ?_, ?_⟩
  · intro session
    rw [reported_iff station store clear]
    constructor
    · rintro ⟨id, before, stored, held, rfl⟩
      exact ⟨id, before, stored, by rw [effect, stored]; rfl, (removed_iff station before).mpr held⟩
    · rintro ⟨id, before, stored, now, removed⟩
      rw [effect, stored, Option.map_some, Option.some.injEq] at now
      subst now
      exact ⟨id, before, stored, (removed_iff station before).mp removed, rfl⟩
  · intro session inResult
    simpa using (List.mem_filter.mp inResult).2
  · intro id other
    rw [effect]
    cases stored : store.get id with
    | none => rfl
    | some session =>
        have idle : session.holds station = false := by
          by_contra held
          rw [Bool.not_eq_false] at held
          refine other _ ((reported_iff station store clear _).mpr ⟨id, session, stored, held, rfl⟩)
            ?_
          rw [termination_request_aircraft]
          exact keyed id session stored
        rw [Option.map_some, termination_request_absent session station idle]

theorem reports_clear (keyed : Keyed store) (reports : ReportsChanged station store) :
    Clear station store := by
  obtain ⟨after, ran, effect⟩ := run_terminate_exact station store keyed
  obtain ⟨updated, changed, same, _, returned, free, _⟩ := reports
  rw [ran] at same
  obtain ⟨result, rfl⟩ := Prod.mk.inj same
  obtain rfl := Except.ok.inj result
  intro id session stored
  constructor
  · rintro ⟨own, idle⟩
    -- the session is listed for its aircraft, so it is returned as it was
    have kept := termination_request_absent session station idle
    have inResult : session ∈ reported station store := by
      rw [reported, List.mem_filter, List.mem_map]
      refine ⟨⟨session, (mem_listed station store session).mpr ⟨⟨id, stored⟩, ?_⟩, kept⟩, ?_⟩
      · simp [relevant, own]
      · simp [idle]
    obtain ⟨other, before, found, now, removed⟩ := (returned session).mp inResult
    rw [effect, found, Option.map_some, Option.some.injEq] at now
    have held := (removed_iff station before).mp (now ▸ removed)
    have place : other = id := by
      rw [← keyed other before found, ← keyed id session stored, ← now,
        termination_request_aircraft]
    rw [place, stored, Option.some.injEq] at found
    rw [← found, idle] at held
    cases held
  · by_contra twice
    rw [Nat.not_le] at twice
    have held : session.holds station = true :=
      (holds_connections station session).mpr (Nat.lt_of_succ_lt twice)
    have inResult := (returned (session.terminationRequest station)).mpr
      ⟨id, session, stored, by rw [effect, stored]; rfl, (removed_iff station session).mpr held⟩
    have gone := free _ inResult
    rw [← Bool.not_eq_true, still_holds_iff] at gone
    exact gone twice

/-- What is reported is what was changed exactly where no stored session belongs to an
aircraft with the station's callsign only, or is connected to the station twice. -/
theorem reports_changed_iff (keyed : Keyed store) :
    ReportsChanged station store ↔ Clear station store :=
  ⟨reports_clear station store keyed, clear_reports station store keyed⟩

end Reports

/-! A flight that is handed over from `LFPG` to `LFFF`, and one that `LFFF` controls. -/
section Sample

def handedOver : CPDLCSession where
  aircraft := ⟨"AFR123", "39A1B2"⟩
  activeConnection := some ⟨⟨"LFPG", "LFPG"⟩, true, true⟩
  inactiveConnection := some ⟨⟨"LFFF", "LFFF"⟩, true, true⟩
  nextDataAuthority := some ⟨"LFFF", "LFFF"⟩

def controlled : CPDLCSession where
  aircraft := ⟨"BAW45", "400CB6"⟩
  activeConnection := some ⟨⟨"LFFF", "LFFF"⟩, true, true⟩
  inactiveConnection := none
  nextDataAuthority := none

def flights : SessionStore := (KvStore.empty.put "39A1B2" handedOver).put "400CB6" controlled

theorem flights_stored {id : String} {session : CPDLCSession}
    (stored : flights.get id = some session) :
    (id = "39A1B2" ∧ session = handedOver) ∨ (id = "400CB6" ∧ session = controlled) := by
  rw [flights, KvStore.get_put, KvStore.get_put] at stored
  split at stored
  · next same => exact .inr ⟨same, (Option.some.inj stored).symm⟩
  · split at stored
    · next same => exact .inl ⟨same, (Option.some.inj stored).symm⟩
    · cases stored

theorem flights_keyed : Keyed flights := by
  intro id session stored
  rcases flights_stored stored with ⟨rfl, rfl⟩ | ⟨rfl, rfl⟩ <;> rfl

/-- The first flight loses a connection and the second keeps its own. -/
theorem reports_changed_iff_other : ReportsChanged "LFPG" flights := by
  refine (reports_changed_iff "LFPG" flights flights_keyed).mpr ?_
  intro id session stored
  rcases flights_stored stored with ⟨rfl, rfl⟩ | ⟨rfl, rfl⟩ <;> decide

/-! A session of an aircraft whose callsign is that of a station going offline. -/

def ownSession : SessionStore := KvStore.empty.put "39A1B2" (.new ⟨"LFPG", "39A1B2"⟩)

theorem own_session_keyed : Keyed ownSession := by
  intro id session stored
  rw [ownSession, KvStore.get_put] at stored
  split at stored
  · next same =>
      cases stored
      exact same.symm
  · cases stored

/-- The session is reported though nothing in it has changed. -/
theorem own_session_reported :
    ¬ ∀ (station : AcarsEndpointCallsign) (store : SessionStore), Keyed store →
      ReportsChanged station store := by
  intro always
  have clear := reports_clear "LFPG" ownSession own_session_keyed
    (always "LFPG" ownSession own_session_keyed)
  have stored : ownSession.get "39A1B2" = some (.new ⟨"LFPG", "39A1B2"⟩) := by decide
  exact (clear "39A1B2" _ stored).1 ⟨rfl, rfl⟩

end Sample

end OpenLink.Terminations
