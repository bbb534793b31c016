import OpenLink.AtcConsole
import OpenLink.GuiMessages
import OpenLink.Runs

/-!
To whom a reply goes that is composed on the console, after whatever session updates and
selections have come in between.
-/
namespace OpenLink.ReplyTargets
open AtcConsole Cpdlc Envelope GuiClient GuiMessages Runs SdkClient

def IsLinked (tab : TabState) (aircraft : String) : Prop :=
  ∃ key session, tab.atcSessions.lookup key = some session ∧
    session.aircraft = some aircraft ∧ session.aircraftAddress.isSome = true

theorem linked_mem (tab : TabState) (flight : AtcLinkedFlight) :
    flight ∈ linkedFlights tab ↔
      ∃ key session, tab.atcSessions.lookup key = some session ∧
        linkedFlight session = some flight := by
  simp only [linkedFlights, List.mem_mergeSort, List.mem_filterMap, List.mem_map]
  constructor
  · rintro ⟨session, ⟨⟨key, _⟩, member, rfl⟩, linked⟩
    exact ⟨key, _, AList.mem_lookup_iff.mpr member, linked⟩
  · rintro ⟨key, session, found, linked⟩
    exact ⟨session, ⟨⟨key, session⟩, AList.mem_lookup_iff.mp found, rfl⟩, linked⟩

theorem linked_flight (session : CpdlcSessionView) (flight : AtcLinkedFlight) :
    linkedFlight session = some flight ↔
      ∃ callsign address, session.aircraft = some callsign ∧
        session.aircraftAddress = some address ∧
        ⟨callsign, callsign, address, linkedPhase session⟩ = flight := by
  simp [linkedFlight, Option.bind_eq_some_iff]

theorem is_linked (tab : TabState) (aircraft : String) :
    IsLinked tab aircraft ↔ ∃ flight ∈ linkedFlights tab, flight.aircraftCallsign = aircraft := by
  constructor
  · rintro ⟨key, session, found, named, addressed⟩
    obtain ⟨address, hasAddress⟩ := Option.isSome_iff_exists.mp addressed
    exact ⟨⟨aircraft, aircraft, address, linkedPhase session⟩,
      (linked_mem tab _).mpr ⟨key, session, found,
        (linked_flight session _).mpr ⟨aircraft, address, named, hasAddress, rfl⟩⟩, rfl⟩
  · rintro ⟨flight, member, rfl⟩
    obtain ⟨key, session, found, linked⟩ := (linked_mem tab flight).mp member
    obtain ⟨callsign, address, named, hasAddress, rfl⟩ := (linked_flight session flight).mp linked
    exact ⟨key, session, found, named, by simp [hasAddress]⟩

/-! The target of the reply. -/
section Target

/-- The reply keeps its aircraft and its MRN, whatever happens on the console. -/
theorem reply_locked (console : Console) (aircraft : String) (mrn : UInt8)
    (target : console.composeTargetCallsign = some aircraft)
    (replying : console.composeMrn = some mrn) (events : List ConsoleEvent) :
    let after := exec consoleStep console events
    after.composeTargetCallsign = some aircraft ∧ after.composeMrn = some mrn := by
  apply run_invariant consoleStep (fun console =>
    console.composeTargetCallsign = some aircraft ∧ console.composeMrn = some mrn)
  · intro state event locked
    cases event <;> exact locked
  · exact ⟨target, replying⟩

theorem compose_flight_cases (console : Console) (aircraft : String)
    (target : console.composeTargetCallsign = some aircraft) :
    (IsLinked console.tab aircraft ∧ ∃ flight, composeFlight console = some flight ∧
        flight.aircraftCallsign = aircraft) ∨
      (¬ IsLinked console.tab aircraft ∧ composeFlight console = selectedFlight console.tab) := by
  rw [is_linked, composeFlight, target, Option.bind_some]
  cases found : (linkedFlights console.tab).find?
      fun flight => flight.aircraftCallsign = aircraft with
  | some flight =>
      have named : flight.aircraftCallsign = aircraft := by
        simpa using List.find?_some found
      exact Or.inl ⟨⟨flight, List.mem_of_find?_eq_some found, named⟩, flight, rfl, named⟩
  | none =>
      refine Or.inr ⟨?_, rfl⟩
      rintro ⟨flight, member, named⟩
      have other := List.find?_eq_none.mp found flight member
      simp [named] at other

variable (client : OpenLinkClient) (now : DateTime) (callsign : String)
  (element : Option MessageElement)

/-- What a console sends, if anything, goes to the flight that it composes to. -/
theorem sent_cases (console : Console) (message : OpenLinkMessage) :
    (send client now callsign element console).1 = some message ↔
      ∃ flight, composeFlight console = some flight ∧ flight.phase = .connected ∧
        console.composeElements ++ element.toList ≠ [] ∧
        (client.cpdlcStationApplication now callsign flight.aircraftCallsign
          flight.aircraftAddress (console.composeElements ++ element.toList)
          console.composeMrn).1 = message := by
  unfold send canCompose
  cases found : composeFlight console with
  | none => simp
  | some flight =>
      by_cases connected : flight.phase = .connected
      · simp only [Option.filter_some, connected, decide_true, if_true, sendComposedMessage]
        by_cases nothing : console.composeElements ++ element.toList = []
        · simp [nothing]
        · simp [nothing, connected]
      · simp only [Option.filter_some, connected, decide_false, Bool.false_eq_true, if_false]
        simp [connected]

theorem sent_addressee (flight : AtcLinkedFlight) (elements : List MessageElement)
    (mrn : Option UInt8) :
    addressee (client.cpdlcStationApplication now callsign flight.aircraftCallsign
      flight.aircraftAddress elements mrn).1 = some (flight.aircraftCallsign, mrn) := rfl

end Target

/-- Whatever updates and selections come in, the reply goes to its aircraft or nowhere, exactly
when the aircraft is still among the flights, or no connected flight is selected, or nothing is
composed. -/
theorem reply_target_iff (client : OpenLinkClient) (now : DateTime) (callsign : String)
    (element : Option MessageElement) (console : Console) (aircraft : String) (mrn : UInt8)
    (target : console.composeTargetCallsign = some aircraft)
    (replying : console.composeMrn = some mrn) (events : List ConsoleEvent) :
    let after := exec consoleStep console events
    (∀ message, (send client now callsign element after).1 = some message →
        addressee message = some (aircraft, some mrn)) ↔
      IsLinked after.tab aircraft ∨
        (∀ flight, selectedFlight after.tab = some flight → flight.phase ≠ .connected) ∨
        after.composeElements ++ element.toList = [] := by
  intro after
  obtain ⟨locked, kept⟩ := reply_locked console aircraft mrn target replying events
  rcases compose_flight_cases after aircraft locked with
    ⟨linked, flight, found, named⟩ | ⟨unlinked, fallback⟩
  · refine iff_of_true ?_ (Or.inl linked)
    intro message sent
    obtain ⟨other, composed, _, _, rfl⟩ := (sent_cases client now callsign element _ _).mp sent
    obtain rfl := Option.some.inj (found.symm.trans composed)
    rw [sent_addressee, named, kept]
  -- the locked aircraft has left, and the reply falls back to the flight selected
  · constructor
    · intro right
      by_contra exposed
      obtain ⟨connected, composed⟩ := not_or.mp (not_or.mp exposed).2
      push Not at connected
      obtain ⟨flight, selected, online⟩ := connected
      have sent := (sent_cases client now callsign element after _).mpr
        ⟨flight, fallback.trans selected, online, composed, rfl⟩
      have reached := right _ sent
      rw [sent_addressee] at reached
      have same : flight.aircraftCallsign = aircraft :=
        congrArg Prod.fst (Option.some.inj reached)
      obtain ⟨idx, _, listed⟩ := Option.bind_eq_some_iff.mp selected
      exact unlinked ((is_linked after.tab aircraft).mpr
        ⟨flight, List.mem_of_getElem? listed, same⟩)
    · rintro (linked | idle | nothing) message sent
      · exact absurd linked unlinked
      · obtain ⟨flight, composed, online, _, _⟩ := (sent_cases client now callsign element _ _).mp sent
        exact absurd online (idle flight (fallback.symm.trans composed))
      · obtain ⟨_, _, _, composed, _⟩ := (sent_cases client now callsign element _ _).mp sent
        exact absurd nothing composed

/-! A controller with two flights, who is about to refuse a request of the first. -/

def connectedFlight (callsign : String) : CpdlcSessionView :=
  ⟨some callsign, some callsign, some ⟨"LFPG", .connected⟩, none, none⟩

def departed (callsign : String) : CpdlcSessionView := ⟨some callsign, some callsign, none, none, none⟩

def refusing : Console where
  tab := ⟨⟨"LFPG", "LFPG", .atc⟩, none, some 0,
    (AList.singleton "BAW45" (connectedFlight "BAW45")).insert "AFR123" (connectedFlight "AFR123")⟩
  composeElements := [⟨"UM0", []⟩]
  composeMrn := some 5
  composeTargetCallsign := some "AFR123"

def freshClient : OpenLinkClient := ⟨"net", "LFPG", fun _ => none⟩

def lookingAround : List ConsoleEvent :=
  [.sessionUpdate (connectedFlight "BAW45"), .clickRow 1, .addElement ⟨"UM166", []⟩,
    .sessionUpdate (connectedFlight "AFR123"), .clickRow 0]

theorem reply_target_refusing :
    let after := exec consoleStep refusing lookingAround
    (∀ message, (send freshClient 0 "LFPG" none after).1 = some message →
        addressee message = some ("AFR123", some 5)) ↔
      IsLinked after.tab "AFR123" ∨
        (∀ flight, selectedFlight after.tab = some flight → flight.phase ≠ .connected) ∨
        after.composeElements ++ (none : Option MessageElement).toList = [] :=
  reply_target_iff freshClient 0 "LFPG" none refusing "AFR123" 5 rfl rfl lookingAround

/-- The first flight leaves, and the second is refused. -/
theorem other_flight_refused :
    refusing.composeTargetCallsign = some "AFR123" ∧ refusing.composeMrn = some 5 ∧
      ((send freshClient 0 "LFPG" none
        (exec consoleStep refusing [.sessionUpdate (departed "AFR123")])).1.bind addressee) =
          some ("BAW45", some 5) := by
  refine ⟨rfl, rfl, ?_⟩
  decide +kernel

end OpenLink.ReplyTargets
