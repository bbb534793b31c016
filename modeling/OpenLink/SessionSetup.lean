import OpenLink.ClientParity

/-!
How an aircraft and a station set up a connection, and where that leaves the MINs of
the pair in either direction.
-/
namespace OpenLink.SessionSetup
open CyclicCounters ClientParity Envelope MinSequencing Runs SdkClient TsEnvelope TsTypes

/-! What a call does with the MINs of either client. -/
section Calls

def sequenceOf (pair : String × String) : String := sessionKey pair.1 pair.2

def counter (helper : HelperCall) : Option (Operation String) :=
  helper.operation.map (Operation.map sequenceOf)

theorem perform_client (client : OpenLinkClient) (helper : HelperCall) :
    (perform client helper).2 = (counter helper).elim client (clientAllocator.apply client) := by
  cases helper with
  | logonResponse atc aircraft address accepted => cases accepted <;> rfl
  | _ => rfl

theorem perform_sequences (minSequences : Sequences) (helper : HelperCall) :
    (tsPerform minSequences helper).2 =
      (counter helper).elim minSequences (tsAllocator.apply minSequences) := by
  cases helper with
  | logonResponse atc aircraft address accepted => cases accepted <;> rfl
  | _ => rfl

/-- Where the counter of a key stands after a call, by how often it had been used before. -/
theorem call_position (client : Client) (helper : HelperCall) (key : String) (count : Nat)
    (standing : client.position key = count % 63) :
    (client.call helper).2.position key =
      (counter helper).elim count (tally key count) % 63 := by
  cases client with
  | rust client =>
      change clientPosition (perform client helper).2 key = _
      rw [perform_client]
      cases counter helper with
      | none => exact standing
      | some operation => exact position_step client_cycles client operation key count standing
  | typescript minSequences =>
      change tsPosition (tsPerform minSequences helper).2 key = _
      rw [perform_sequences]
      cases counter helper with
      | none => exact standing
      | some operation => exact position_step ts_cycles minSequences operation key count standing

theorem position_standing (client : Client) (key : String) :
    client.position key = client.position key % 63 :=
  (Nat.mod_eq_of_lt (stored_position_bound _)).symm

def advance (client : Client) (helper : HelperCall) : Client := (client.call helper).2

theorem history_position (helpers : List HelperCall) (client : Client) (key : String) (count : Nat)
    (standing : client.position key = count % 63) :
    (exec advance client helpers).position key =
      exec (tally key) count (helpers.filterMap counter) % 63 := by
  induction helpers generalizing client count with
  | nil => exact standing
  | cons helper rest ih =>
      have moved := call_position client helper key count standing
      rw [exec_cons, ih (advance client helper) _ moved]
      cases called : counter helper with
      | none => rw [List.filterMap_cons_none called, Option.elim_none]
      | some operation => rw [List.filterMap_cons_some called, exec_cons, Option.elim_some]

theorem built_min (minSequences : Sequences) (helper : HelperCall) (pair : String × String)
    (numbered : helper.operation = some (.next pair)) :
    tsMessageMin (tsPerform minSequences helper).1 =
      some (tsPosition minSequences (sequenceOf pair) + 1) := by
  have value := congrArg some (ts_cycles.value minSequences (sequenceOf pair))
  cases helper with
  | logonRequest | connectionRequest | connectionResponse | logonForward => cases numbered
  | logonResponse _ _ _ accepted => cases accepted <;> cases numbered
  | _ => cases numbered; exact value

theorem call_min (client : Client) (helper : HelperCall) (pair : String × String)
    (numbered : helper.operation = some (.next pair)) :
    tsMessageMin (client.call helper).1 = some (client.position (sequenceOf pair) + 1) := by
  cases client with
  | rust client =>
      have alike := table_alike client
      change tsMessageMin (wire (perform client helper).1) = some (clientPosition client _ + 1)
      rw [(perform_alike alike helper).1, built_min _ _ _ numbered, alike]
  | typescript minSequences => exact built_min minSequences helper pair numbered

end Calls

/-- The two ways to a connection: with a logon before it, or prepared by the station that the
aircraft was connected to until then. -/
inductive Setup where
  | logon
  | nextDataAuthority
  deriving DecidableEq

section Setup
variable (aircraftCallsign acarsAddress stationCallsign : String)

def Setup.aircraftCalls : Setup → List HelperCall
  | .logon => [.logonRequest aircraftCallsign acarsAddress stationCallsign,
      .connectionResponse aircraftCallsign acarsAddress stationCallsign true]
  | .nextDataAuthority => [.connectionResponse aircraftCallsign acarsAddress stationCallsign true]

def Setup.stationCalls : Setup → List HelperCall
  | .logon => [.logonResponse stationCallsign aircraftCallsign acarsAddress true,
      .connectionRequest stationCallsign aircraftCallsign acarsAddress]
  | .nextDataAuthority => [.connectionRequest stationCallsign aircraftCallsign acarsAddress]

/-- Only a logon sets the MINs of the aircraft back; without one the stored MIN has to be the
first already, or one that counts as the first. -/
def Restarts (setup : Setup) (aircraft : Client) : Prop :=
  let stored := aircraft.stored (sequenceOf (aircraftCallsign, stationCallsign))
  setup = .logon ∨ stored ≤ 1 ∨ 63 < stored

theorem aircraft_counters (setup : Setup) :
    (setup.aircraftCalls aircraftCallsign acarsAddress stationCallsign).filterMap counter =
      if setup = .logon then [.reset (sequenceOf (aircraftCallsign, stationCallsign))] else [] := by
  cases setup <;> rfl

theorem station_counters (setup : Setup) :
    (setup.stationCalls aircraftCallsign acarsAddress stationCallsign).filterMap counter =
      (if setup = .logon then [.reset (sequenceOf (stationCallsign, aircraftCallsign))] else []) ++
        [.reset (sequenceOf (stationCallsign, aircraftCallsign))] := by
  cases setup <;> rfl

theorem stored_position_zero (stored : Nat) :
    storedPosition stored = 0 ↔ stored ≤ 1 ∨ 63 < stored := by
  unfold storedPosition
  split <;> omega

theorem aircraft_position (setup : Setup) (aircraft : Client) :
    (exec advance aircraft
        (setup.aircraftCalls aircraftCallsign acarsAddress stationCallsign)).position
          (sequenceOf (aircraftCallsign, stationCallsign)) = 0 ↔
      Restarts aircraftCallsign stationCallsign setup aircraft := by
  rw [history_position _ aircraft _ _ (position_standing aircraft _), aircraft_counters]
  by_cases afresh : setup = .logon
  · simp [afresh, tally, Restarts]
  · rw [if_neg afresh, exec_nil, ← position_standing, Client.position, stored_position_zero]
    simp [afresh, Restarts]

theorem station_position (setup : Setup) (station : Client) :
    (exec advance station
        (setup.stationCalls aircraftCallsign acarsAddress stationCallsign)).position
          (sequenceOf (stationCallsign, aircraftCallsign)) = 0 := by
  rw [history_position _ station _ _ (position_standing station _), station_counters, exec_snoc]
  simp [tally]

end Setup

/-- After a setup the first application messages carry MIN 1 in both directions exactly when the
aircraft's MINs restart; whatever went before, the station's always do. -/
theorem session_setup (setup : Setup) (aircraft station : Client)
    (aircraftCallsign acarsAddress stationCallsign : String) (downlink uplink : HelperCall)
    (down : downlink.operation = some (.next (aircraftCallsign, stationCallsign)))
    (up : uplink.operation = some (.next (stationCallsign, aircraftCallsign))) :
    let aircraftAfter := exec advance aircraft
      (setup.aircraftCalls aircraftCallsign acarsAddress stationCallsign)
    let stationAfter := exec advance station
      (setup.stationCalls aircraftCallsign acarsAddress stationCallsign)
    tsMessageMin (aircraftAfter.call downlink).1 = some 1 ∧
        tsMessageMin (stationAfter.call uplink).1 = some 1 ↔
      Restarts aircraftCallsign stationCallsign setup aircraft := by
  intro aircraftAfter stationAfter
  rw [call_min aircraftAfter downlink _ down, call_min stationAfter uplink _ up]
  have settled := station_position aircraftCallsign acarsAddress stationCallsign setup station
  have exact := aircraft_position aircraftCallsign acarsAddress stationCallsign setup aircraft
  rw [settled, ← exact]
  simp only [Option.some.injEq, Nat.add_eq_right, and_true]
  rfl

/-- A logon after eight messages each way. -/
theorem session_setup_logon :
    let aircraft := Client.rust ⟨"demonetwork", "1", fun _ => some 9⟩
    let station := Client.typescript fun _ => some 9
    let downlink := HelperCall.aircraftApplication "AFR123" "39401A" "LFFF" [] none 0
    let uplink := HelperCall.contactRequest "LFFF" "AFR123" "39401A" "EGTT" 0
    let aircraftAfter := exec advance aircraft (Setup.logon.aircraftCalls "AFR123" "39401A" "LFFF")
    let stationAfter := exec advance station (Setup.logon.stationCalls "AFR123" "39401A" "LFFF")
    tsMessageMin (aircraftAfter.call downlink).1 = some 1 ∧
      tsMessageMin (stationAfter.call uplink).1 = some 1 :=
  (session_setup .logon _ _ "AFR123" "39401A" "LFFF" _ _ rfl rfl).mpr (Or.inl rfl)

/-- An aircraft that has sent a station one message goes on with the second MIN when it is
handed back to that station. -/
theorem handover_keeps_min :
    let downlink := HelperCall.aircraftApplication "AFR123" "39401A" "LFFF" [] none 0
    let aircraft := advance (.rust ⟨"demonetwork", "1", fun _ => none⟩) downlink
    let aircraftAfter := exec advance aircraft
      (Setup.nextDataAuthority.aircraftCalls "AFR123" "39401A" "LFFF")
    tsMessageMin (aircraftAfter.call downlink).1 = some 2 ∧
      tsMessageMin (aircraftAfter.call downlink).1 ≠ some 1 := by
  decide

/-- In terms of the history of a client: the messages that it has sent the station since it
last set their MINs back come to a whole number of rounds. -/
theorem restarts_history (setup : Setup) (aircraft : Client) (fresh : aircraft.Fresh)
    (history : List HelperCall) (aircraftCallsign stationCallsign : String) :
    Restarts aircraftCallsign stationCallsign setup (exec advance aircraft history) ↔
      setup = .logon ∨
        63 ∣ uses (sequenceOf (aircraftCallsign, stationCallsign)) (history.filterMap counter) := by
  have standing : aircraft.position (sequenceOf (aircraftCallsign, stationCallsign)) = 0 := by
    cases aircraft with
    | rust client =>
        have empty : client.minSequences = fun _ => none := fresh
        simp [Client.position, Client.stored, empty, storedPosition]
    | typescript minSequences =>
        have empty : minSequences = fun _ => none := fresh
        simp [Client.position, Client.stored, empty, storedPosition]
  have counted := history_position history aircraft _ 0 standing
  simp only [Restarts, uses]
  rw [← stored_position_zero, Nat.dvd_iff_mod_eq_zero, ← counted]
  rfl

end OpenLink.SessionSetup
