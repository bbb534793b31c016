import OpenLink.PresenceLeases

/-!
The presence of a station whose program is a tab of the GUI. The listener of the tab reports the
station again from time to time; that the tab was closed it finds out only after something has woken
it up. A status is published at once.
-/
namespace OpenLink.TabPresence
open Actions Cpdlc CpdlcServer Envelope Kv MainLoop MessageBuilder PresenceLeases RefusedKeys Registry
  Runs Server

/-! The tab and its listener. -/
section Tab

inductive Listener where
  | idle
  | starting
  | waiting
  | stopped
  deriving DecidableEq

structure GuiTab where
  shown : Bool
  connected : Bool
  listener : Listener
  statuses : List StationStatus

def GuiTab.new : GuiTab := ⟨true, false, .idle, []⟩

inductive TabEvent where
  | connect
  | subscribed (success : Bool)
  | heartbeat
  | message
  | ended
  | close
  deriving DecidableEq

def report (status : StationStatus) (tab : GuiTab) : GuiTab :=
  { tab with statuses := tab.statuses ++ [status] }

def checkTab (tab : GuiTab) : GuiTab :=
  { tab with listener := if tab.shown then .waiting else .stopped }

def wake (action : GuiTab → GuiTab) (tab : GuiTab) : GuiTab :=
  if tab.listener = .waiting then checkTab (action tab) else tab

def tabStep (tab : GuiTab) : TabEvent → GuiTab
  | .connect =>
      if tab.shown ∧ ¬ tab.connected then
        { report .online tab with connected := true, listener := .starting }
      else tab
  | .subscribed success =>
      if tab.listener = .starting then
        if success then checkTab tab else { tab with listener := .stopped }
      else tab
  | .heartbeat => wake (report .online) tab
  | .message => wake id tab
  | .ended => if tab.listener = .waiting then { tab with listener := .stopped } else tab
  | .close =>
      if tab.shown then
        { (if tab.connected then report .offline tab else tab) with shown := false }
      else tab

/-- A heartbeat is what wakes up the listener of a tab that was closed. -/
def Revives (tab : GuiTab) (event : TabEvent) : Prop :=
  tab.shown = false ∧ tab.listener = .waiting ∧ event = .heartbeat

instance (tab : GuiTab) (event : TabEvent) : Decidable (Revives tab event) :=
  inferInstanceAs (Decidable (_ ∧ _))

inductive Reports (revived : Prop) (tab : GuiTab) : Prop where
  | fresh (unconnected : tab.connected = false) (idle : tab.listener = .idle)
      (silent : tab.statuses = []) (alone : ¬ revived)
  | present (connected : tab.connected = true) (shown : tab.shown = true) (beats : Nat)
      (online : tab.statuses = List.replicate (beats + 1) .online) (alone : ¬ revived)
  | closed (connected : tab.connected = true) (hidden : tab.shown = false) (beats : Nat)
      (offline : tab.statuses = List.replicate (beats + 1) .online ++ [.offline])
      (alone : ¬ revived)
  | returned (connected : tab.connected = true) (hidden : tab.shown = false) (beats : Nat)
      (online : tab.statuses = List.replicate (beats + 1) .online ++ [.offline, .online])
      (stopped : tab.listener = .stopped) (late : revived)

theorem step_reports {revived : Prop} {tab : GuiTab} (reports : Reports revived tab)
    (event : TabEvent) : Reports (revived ∨ Revives tab event) (tabStep tab event) := by
  cases tab with
  | mk shown connected listener statuses =>
    cases reports with
    | fresh unconnected idle silent alone =>
        dsimp only at unconnected idle silent
        subst unconnected idle silent
        have calm : ¬ (revived ∨ Revives ⟨shown, false, .idle, []⟩ event) := by
          simp [Revives, alone]
        cases event with
        | connect =>
            cases shown with
            | false => exact .fresh rfl rfl rfl calm
            | true => exact .present rfl rfl 0 rfl calm
        | close => cases shown <;> exact .fresh rfl rfl rfl calm
        | _ => exact .fresh rfl rfl rfl calm
    | present connected shown beats online alone =>
        dsimp only at connected shown online
        subst connected shown online
        have calm : ¬ (revived ∨
            Revives ⟨true, true, listener, List.replicate (beats + 1) .online⟩ event) := by
          simp [Revives, alone]
        cases event with
        | heartbeat =>
            cases listener with
            | waiting => exact .present rfl rfl (beats + 1) List.replicate_succ'.symm calm
            | _ => exact .present rfl rfl beats rfl calm
        | close => exact .closed rfl rfl beats rfl calm
        | subscribed success =>
            cases success <;> cases listener <;> exact .present rfl rfl beats rfl calm
        | connect => exact .present rfl rfl beats rfl calm
        | _ => cases listener <;> exact .present rfl rfl beats rfl calm
    | closed connected hidden beats offline alone =>
        dsimp only at connected hidden offline
        subst connected hidden offline
        cases event with
        | heartbeat =>
            cases listener with
            | waiting =>
                -- the beat wakes the listener once more, which reports the tab and then stops
                exact .returned rfl rfl beats (List.append_assoc _ _ _) rfl (.inr ⟨rfl, rfl, rfl⟩)
            | _ => exact .closed rfl rfl beats rfl (by simp [Revives, alone])
        | subscribed success =>
            cases success <;> cases listener <;>
              exact .closed rfl rfl beats rfl (by simp [Revives, alone])
        | connect => exact .closed rfl rfl beats rfl (by simp [Revives, alone])
        | close => exact .closed rfl rfl beats rfl (by simp [Revives, alone])
        | _ => cases listener <;> exact .closed rfl rfl beats rfl (by simp [Revives, alone])
    | returned connected hidden beats online stopped late =>
        dsimp only at connected hidden online stopped
        subst connected hidden online stopped
        cases event with
        | subscribed success => exact .returned rfl rfl beats rfl rfl (.inl late)
        | _ => exact .returned rfl rfl beats rfl rfl (.inl late)

/-- A heartbeat reported the station again after its tab was closed. -/
def Late (events : List TabEvent) : Prop := Seen tabStep Revives .new events

theorem run_reports (events : List TabEvent) :
    Reports (Late events) (exec tabStep .new events) := by
  induction events using List.reverseRecOn with
  | nil =>
      refine .fresh rfl rfl rfl ?_
      rintro ⟨before, event, short, _, _⟩
      simp at short
  | append_singleton before event ih =>
      have grown : Late (before ++ [event]) ↔
          Late before ∨ Revives (exec tabStep .new before) event := seen_snoc
      rw [exec_snoc, grown]
      exact step_reports ih event

end Tab

/-! What the server makes of it. -/
section Server
variable (accepts : String → Bool)

def reportsOf (id : StationId) (events : List Event) : List StationEntry :=
  events.filterMap fun event => (reported accepts event).filter fun entry => entry.stationId == id

theorem last_report (id : StationId) (events : List Event) :
    (lastReport accepts id events).map Prod.fst = (reportsOf accepts id events).getLast? := by
  induction events with
  | nil => rfl
  | cons event rest ih =>
      have split : reportsOf accepts id (event :: rest) =
          ((reported accepts event).filter fun entry => entry.stationId == id).toList ++
            reportsOf accepts id rest := by
        cases own : (reported accepts event).filter fun entry => entry.stationId == id <;>
          simp [reportsOf, own]
      rw [lastReport, Option.map_or, ih, split, List.getLast?_append]
      cases (reported accepts event).filter fun entry => entry.stationId == id <;> rfl

/-- A sweep takes a station off line, and nothing else of what it has reported matters. -/
theorem leased_offline {ttl : DateTime} {times : List DateTime} {entry : StationEntry}
    (offline : entry.status = .offline) : leased ttl times entry = entry := by
  unfold leased
  have never : (times.find? fun time => stale time ttl entry) = none := by
    simp [stale, offline]
  rw [never]

theorem closed_presence (config : ServerConfig) (update : SessionUpdate) (server : OpenLinkServer)
    (lawful : Lawful accepts server.stationRegistry) (tabEvents : List TabEvent)
    (events : List Event) (id : StationId)
    (hidden : (exec tabStep .new tabEvents).shown = false)
    (connected : (exec tabStep .new tabEvents).connected = true)
    (delivered : (reportsOf accepts id events).map StationEntry.status =
      (exec tabStep .new tabEvents).statuses) :
    let after := exec (mainLoopUnder config update (refusing accepts)) server events
    let entry := getStatus after.stationRegistry id
    (¬ Late tabEvents → entry.map StationEntry.status = some .offline) ∧
      (Late tabEvents → ∃ report later, lastReport accepts id events = some (report, later) ∧
        report.status = .online ∧
          entry = some (leased (leaseTtl config) (sweeps later) report)) := by
  intro after entry
  have present : entry = _ := presence_from config accepts update server lawful events id
  have last : ((lastReport accepts id events).map Prod.fst).map StationEntry.status =
      (exec tabStep .new tabEvents).statuses.getLast? := by
    rw [last_report, ← List.getLast?_map, delivered]
  have shape := run_reports tabEvents
  rw [present]
  generalize exec tabStep .new tabEvents = tab at *
  cases found : lastReport accepts id events with
  | none =>
      -- a tab that was connected has reported something
      cases shape with
      | fresh unconnected => simp [unconnected] at connected
      | present _ shown => simp [shown] at hidden
      | closed _ _ beats offline => simp [found, offline] at last
      | returned _ _ beats online => simp [found, online] at last
  | some report =>
      rw [found, Option.map_some, Option.map_some] at last
      rw [Option.map_some, Option.some_or]
      cases shape with
      | fresh unconnected => simp [unconnected] at connected
      | present _ shown => simp [shown] at hidden
      | closed _ _ beats offline alone =>
          have status : report.1.status = .offline := by simpa [offline] using last
          refine ⟨fun _ => ?_, fun late => absurd late alone⟩
          rw [Option.map_some, leased_offline status, status]
      | returned _ _ beats online _ late =>
          have status : report.1.status = .online := by simpa [online] using last
          exact ⟨fun alone => absurd late alone, fun _ => ⟨report.1, report.2, rfl, status, rfl⟩⟩

theorem tower_back :
    let heard (second : DateTime) (status : StationStatus) : Event :=
      .arrives (second * 1000000000) (envelope "e1" 1 (.address "vatsim" "42")
        (.server "vatsim") none (stationStatus "LFPG" "LFPG" "LFPG" status))
    let events := [heard 1 .online, heard 10 .offline, heard 25 .online, sweptAt 80]
    let after := exec (mainLoopUnder vatsimConfig getAndUpdateSessionForAircraft
      (refusing validKey)) Registrations.towerServer events
    ∃ report later, lastReport validKey "LFPG" events = some (report, later) ∧
      report.status = .online ∧
      getStatus after.stationRegistry "LFPG" =
        some (leased (leaseTtl vatsimConfig) (sweeps later) report) := by
  intro heard events after
  have late : Late [.connect, .subscribed true, .close, .heartbeat] :=
    ⟨[.connect, .subscribed true, .close], .heartbeat, List.prefix_refl _, trivial, by decide⟩
  exact (closed_presence validKey vatsimConfig getAndUpdateSessionForAircraft
    Registrations.towerServer tower_lawful [.connect, .subscribed true, .close, .heartbeat] events
    "LFPG" rfl rfl (by decide)).2 late

end Server

end OpenLink.TabPresence
