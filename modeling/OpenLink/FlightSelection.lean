import OpenLink.Ranks
import OpenLink.ReplyTargets

/-!
Which flight is selected while session updates come in. The selection is a position in
the sorted list of flights, so it stays with its aircraft only as long as no flight
before it comes or goes.
-/
namespace OpenLink.FlightSelection
open AtcConsole Cpdlc GuiClient Ranks ReplyTargets Runs

def selectedCallsign (tab : TabState) : Option String :=
  (selectedFlight tab).map AtcLinkedFlight.callsign

/-- The selection stays with its aircraft, or ends when the aircraft leaves. -/
def Stable (before after : TabState) : Prop :=
  match selectedCallsign before with
  | some callsign => selectedCallsign after =
      if (after.atcSessions.lookup callsign).isSome then some callsign else none
  | none => selectedCallsign after = none

def isConnectedSession (session : CpdlcSessionView) : Bool :=
  session.activeConnection.isSome || session.inactiveConnection.isSome

def links (session : CpdlcSessionView) : Bool :=
  isConnectedSession session && (linkedFlight session).isSome

/-- No flight before the selected one comes or goes; the selected flight stays, or goes as the last
one of the list; and where the selection points behind the list, the list does not grow. -/
def Steady (tab : TabState) (session : CpdlcSessionView) : Prop :=
  ∀ key, flightKey session = some key →
    match selectedCallsign tab with
    | some callsign =>
        (key < callsign → (IsLinked tab key ↔ links session = true)) ∧
        (key = callsign →
          if isConnectedSession session then links session = true
          else ∀ other, IsLinked tab other → other ≤ callsign)
    | none => tab.selectedFlightIdx = some (linkedFlights tab).length → links session = true →
        IsLinked tab key

/-! The list of the callsigns. -/
section Callsigns

def Keyed (tab : TabState) : Prop :=
  ∀ key session, tab.atcSessions.lookup key = some session → flightKey session = some key

def linkedCallsigns (tab : TabState) : List String :=
  (linkedFlights tab).map AtcLinkedFlight.callsign

theorem selected_callsign (tab : TabState) :
    selectedCallsign tab = tab.selectedFlightIdx.bind fun idx => (linkedCallsigns tab)[idx]? := by
  unfold selectedCallsign selectedFlight linkedCallsigns
  cases tab.selectedFlightIdx <;> simp

theorem callsign_mem (tab : TabState) (callsign : String) :
    callsign ∈ linkedCallsigns tab ↔ IsLinked tab callsign := by
  rw [linkedCallsigns, List.mem_map, is_linked]
  constructor
  · rintro ⟨flight, member, rfl⟩
    obtain ⟨key, session, found, linked⟩ := (linked_mem tab flight).mp member
    obtain ⟨name, address, named, hasAddress, rfl⟩ := (linked_flight session flight).mp linked
    exact ⟨_, member, rfl⟩
  · rintro ⟨flight, member, rfl⟩
    obtain ⟨key, session, found, linked⟩ := (linked_mem tab flight).mp member
    obtain ⟨name, address, named, hasAddress, rfl⟩ := (linked_flight session flight).mp linked
    exact ⟨_, member, rfl⟩

theorem linked_key {tab : TabState} (keyed : Keyed tab) {key : String}
    {session : CpdlcSessionView} (found : tab.atcSessions.lookup key = some session)
    {flight : AtcLinkedFlight} (linked : linkedFlight session = some flight) :
    flight.callsign = key := by
  obtain ⟨callsign, address, named, _, rfl⟩ := (linked_flight session flight).mp linked
  have own := keyed key session found
  simpa [flightKey, named] using own

/-- Items that are picked by what they are labelled with come in the order of the labels. -/
theorem picked_sublist {Item Picked Label : Type} (pick : Item → Option Picked)
    (label : Item → Label) (read : Picked → Label) (items : List Item)
    (agrees : ∀ item ∈ items, ∀ picked, pick item = some picked → read picked = label item) :
    ((items.filterMap pick).map read).Sublist (items.map label) := by
  induction items with
  | nil => exact List.Sublist.slnil
  | cons item rest ih =>
      have later := ih fun other member => agrees other (List.mem_cons_of_mem _ member)
      rw [List.filterMap_cons]
      split
      · exact later.cons _
      · next picked found =>
          rw [List.map_cons, List.map_cons, agrees item List.mem_cons_self picked found]
          exact later.cons_cons _

theorem callsigns_sorted {tab : TabState} (keyed : Keyed tab) :
    (linkedCallsigns tab).Pairwise (· < ·) := by
  have distinct : (linkedCallsigns tab).Nodup := by
    have same : linkedCallsigns tab |>.Perm
        ((tab.atcSessions.entries.filterMap fun entry => linkedFlight entry.2).map
          AtcLinkedFlight.callsign) := by
      rw [linkedCallsigns, linkedFlights, List.filterMap_map]
      exact (List.mergeSort_perm _ _).map _
    refine same.nodup_iff.mpr ((picked_sublist _ Sigma.fst _ _ ?_).nodup
      tab.atcSessions.keys_nodup)
    intro entry member flight linked
    exact linked_key keyed (AList.mem_lookup_iff.mpr member) linked
  have sorted : (linkedCallsigns tab).Pairwise (· ≤ ·) := by
    rw [linkedCallsigns, List.pairwise_map]
    have ordered := List.pairwise_mergeSort
      (fun (first second third : AtcLinkedFlight) (left : decide (first.callsign ≤ second.callsign))
        (right : decide (second.callsign ≤ third.callsign)) =>
        decide_eq_true (le_trans (of_decide_eq_true left) (of_decide_eq_true right)))
      (fun first second => by
        simpa using le_total first.callsign second.callsign)
      ((tab.atcSessions.entries.map Sigma.snd).filterMap linkedFlight)
    exact ordered.imp fun before => of_decide_eq_true before
  exact (sorted.and distinct).imp fun both => lt_of_le_of_ne both.1 both.2

def linkedSet (tab : TabState) : Finset String := (linkedCallsigns tab).toFinset

theorem linked_set (tab : TabState) (callsign : String) :
    callsign ∈ linkedSet tab ↔ IsLinked tab callsign := by
  rw [linkedSet, List.mem_toFinset, callsign_mem]

theorem linked_card {tab : TabState} (keyed : Keyed tab) :
    (linkedSet tab).card = (linkedCallsigns tab).length :=
  List.toFinset_card_of_nodup ((callsigns_sorted keyed).imp ne_of_lt)

theorem linked_rank {tab : TabState} (keyed : Keyed tab) (idx : Nat) (callsign : String) :
    (linkedCallsigns tab)[idx]? = some callsign ↔
      callsign ∈ linkedSet tab ∧ rank (linkedSet tab) callsign = idx := by
  rw [getElem_rank (callsigns_sorted keyed), linkedSet, List.mem_toFinset]

end Callsigns

/-! What one update does to the list. -/
section Update
variable {tab : TabState} (session : CpdlcSessionView)

theorem reconciled_lookup {key : String} (own : flightKey session = some key)
    (sessions : AList fun _ : String => CpdlcSessionView) (other : String) :
    (reconcile session sessions).lookup other =
      if other = key then if isConnectedSession session then some session else none
      else sessions.lookup other := by
  unfold reconcile isConnectedSession
  rw [own]
  by_cases same : other = key
  · subst same
    cases session.activeConnection <;> cases session.inactiveConnection <;> simp
  · cases session.activeConnection <;> cases session.inactiveConnection <;> simp [same]

theorem updated_sessions (atc : tab.setup.stationType = .atc) :
    (handleSessionUpdate session tab).atcSessions = reconcile session tab.atcSessions := by
  simp [handleSessionUpdate, atc]

theorem keyed_update (keyed : Keyed tab) (atc : tab.setup.stationType = .atc) :
    Keyed (handleSessionUpdate session tab) := by
  intro key stored found
  rw [updated_sessions session atc] at found
  cases own : flightKey session with
  | none => exact keyed key stored (by simpa [reconcile, own] using found)
  | some changed =>
      rw [reconciled_lookup session own] at found
      split_ifs at found with same connected
      · obtain rfl := Option.some.inj found
        rw [own, same]
      · exact keyed key stored found

theorem linked_own (keyed : Keyed tab) (callsign : String) :
    IsLinked tab callsign ↔
      ((tab.atcSessions.lookup callsign).bind linkedFlight).isSome = true := by
  constructor
  · rintro ⟨key, stored, found, named, addressed⟩
    have own := keyed key stored found
    simp only [flightKey, named, Option.some_or, Option.some.injEq] at own
    subst own
    obtain ⟨address, hasAddress⟩ := Option.isSome_iff_exists.mp addressed
    simp [found, linkedFlight, named, hasAddress]
  · intro linked
    obtain ⟨flight, found⟩ := Option.isSome_iff_exists.mp linked
    obtain ⟨stored, lookup, flying⟩ := Option.bind_eq_some_iff.mp found
    obtain ⟨name, address, named, hasAddress, rfl⟩ := (linked_flight stored flight).mp flying
    have own := keyed callsign stored lookup
    simp only [flightKey, named, Option.some_or, Option.some.injEq] at own
    subst own
    exact ⟨name, stored, lookup, named, by simp [hasAddress]⟩

theorem linked_stored (keyed : Keyed tab) {callsign : String} (linked : IsLinked tab callsign) :
    (tab.atcSessions.lookup callsign).isSome = true := by
  obtain ⟨flight, found⟩ := Option.isSome_iff_exists.mp ((linked_own keyed callsign).mp linked)
  obtain ⟨stored, lookup, _⟩ := Option.bind_eq_some_iff.mp found
  rw [lookup]
  rfl

theorem linked_update (keyed : Keyed tab) (atc : tab.setup.stationType = .atc) {key : String}
    (own : flightKey session = some key) :
    linkedSet (handleSessionUpdate session tab) =
      change (linkedSet tab) key (links session = true) := by
  ext callsign
  rw [linked_set, linked_own (keyed_update session keyed atc), updated_sessions session atc,
    reconciled_lookup session own, mem_change, linked_set, linked_own keyed]
  split_ifs with same connected
  · simp [links, connected]
  · simp [links, connected]
  · rfl

theorem update_unkeyed (atc : tab.setup.stationType = .atc) (nobody : flightKey session = none) :
    (handleSessionUpdate session tab).atcSessions = tab.atcSessions := by
  rw [updated_sessions session atc, reconcile, nobody]

/-- A selection that is dropped has pointed behind the list anyway. -/
theorem selected_update (atc : tab.setup.stationType = .atc) :
    selectedCallsign (handleSessionUpdate session tab) =
      tab.selectedFlightIdx.bind fun idx =>
        (linkedCallsigns (handleSessionUpdate session tab))[idx]? := by
  have short : ∀ tab : TabState,
      (linkedCallsigns tab).length ≤ tab.atcSessions.entries.length := by
    intro tab
    have fewer := List.length_filterMap_le linkedFlight (tab.atcSessions.entries.map Sigma.snd)
    rw [List.length_map] at fewer
    rwa [linkedCallsigns, List.length_map, linkedFlights, List.length_mergeSort]
  have idx : (handleSessionUpdate session tab).selectedFlightIdx =
      tab.selectedFlightIdx.filter fun idx =>
        idx < (handleSessionUpdate session tab).atcSessions.entries.length := by
    simp [handleSessionUpdate, atc]
  rw [selected_callsign, idx]
  cases tab.selectedFlightIdx with
  | none => rfl
  | some idx =>
      by_cases within :
          idx < (handleSessionUpdate session tab).atcSessions.entries.length
      · rw [Option.filter_some, if_pos (decide_eq_true within)]
      · have beyond := le_trans (short _) (Nat.le_of_not_lt within)
        rw [Option.filter_some, if_neg (by simpa using within), Option.bind_none, Option.bind_some]
        exact (List.getElem?_eq_none beyond).symm

theorem update_lookup (atc : tab.setup.stationType = .atc) {key : String}
    (own : flightKey session = some key) (callsign : String) :
    (handleSessionUpdate session tab).atcSessions.lookup callsign =
      if callsign = key then if isConnectedSession session then some session else none
      else tab.atcSessions.lookup callsign := by
  rw [updated_sessions session atc, reconciled_lookup session own]

theorem update_behind (keyed : Keyed tab) (atc : tab.setup.stationType = .atc) {key : String}
    (own : flightKey session = some key) (idx : Nat) :
    (linkedCallsigns (handleSessionUpdate session tab))[idx]? = none ↔
      (change (linkedSet tab) key (links session = true)).card ≤ idx := by
  rw [List.getElem?_eq_none_iff, ← linked_card (keyed_update session keyed atc),
    linked_update session keyed atc own]

theorem stable_own (keyed : Keyed tab) (atc : tab.setup.stationType = .atc) {key : String}
    (own : flightKey session = some key) {idx : Nat}
    (here : (linkedCallsigns tab)[idx]? = some key) :
    (linkedCallsigns (handleSessionUpdate session tab))[idx]? =
        (if ((handleSessionUpdate session tab).atcSessions.lookup key).isSome then some key
        else none) ↔
      if isConnectedSession session then links session = true
      else ∀ other, IsLinked tab other → other ≤ key := by
  obtain ⟨_, ranked⟩ := (linked_rank keyed idx key).mp here
  rw [update_lookup session atc own, if_pos rfl]
  by_cases connected : isConnectedSession session = true
  · have kept : rank (change (linkedSet tab) key (links session = true)) key = idx := by
      rw [← ranked]
      exact (rank_change _ _ _ _).mpr fun below => absurd below (lt_irrefl key)
    simp only [connected, if_true, Option.isSome_some]
    rw [linked_rank (keyed_update session keyed atc), linked_update session keyed atc own,
      mem_change, if_pos rfl, and_iff_left kept]
  · have gone : ¬ links session = true := by simp [links, connected]
    simp only [connected, Bool.false_eq_true, if_false, Option.isSome_none]
    rw [update_behind session keyed atc own, change, if_neg gone, ← ranked, card_erase_rank]
    simp only [linked_set]

theorem stable_other (keyed : Keyed tab) (atc : tab.setup.stationType = .atc) {key callsign : String}
    (own : flightKey session = some key) (other : callsign ≠ key) {idx : Nat}
    (here : (linkedCallsigns tab)[idx]? = some callsign) :
    (linkedCallsigns (handleSessionUpdate session tab))[idx]? =
        (if ((handleSessionUpdate session tab).atcSessions.lookup callsign).isSome then
          some callsign
        else none) ↔
      (key < callsign → (IsLinked tab key ↔ links session = true)) := by
  obtain ⟨member, ranked⟩ := (linked_rank keyed idx callsign).mp here
  have stays := linked_stored keyed ((linked_set tab callsign).mp member)
  rw [update_lookup session atc own, if_neg other, if_pos stays,
    linked_rank (keyed_update session keyed atc), linked_update session keyed atc own, mem_change,
    if_neg other, and_iff_right member, ← ranked, rank_change, linked_set]

theorem stable_nobody (keyed : Keyed tab) (atc : tab.setup.stationType = .atc)
    (nobody : flightKey session = none) : Stable tab (handleSessionUpdate session tab) := by
  have same := update_unkeyed session atc nobody
  have list : linkedCallsigns (handleSessionUpdate session tab) = linkedCallsigns tab := by
    rw [linkedCallsigns, linkedCallsigns, linkedFlights, linkedFlights, same]
  unfold Stable
  rw [selected_update session atc, list, same, ← selected_callsign]
  cases selected : selectedCallsign tab with
  | none => rfl
  | some callsign =>
      rw [selected_callsign] at selected
      obtain ⟨idx, _, here⟩ := Option.bind_eq_some_iff.mp selected
      have linked := (callsign_mem tab callsign).mp (List.mem_of_getElem? here)
      exact (if_pos (linked_stored keyed linked)).symm

theorem stable_behind (keyed : Keyed tab) (atc : tab.setup.stationType = .atc) {key : String}
    (own : flightKey session = some key) {idx : Nat}
    (behind : (linkedCallsigns tab)[idx]? = none) :
    (linkedCallsigns (handleSessionUpdate session tab))[idx]? = none ↔
      ((linkedFlights tab).length = idx → links session = true → IsLinked tab key) := by
  rw [List.getElem?_eq_none_iff, ← linked_card keyed] at behind
  have length : (linkedFlights tab).length = (linkedSet tab).card := by
    rw [linked_card keyed, linkedCallsigns, List.length_map]
  rw [update_behind session keyed atc own, card_change_le _ _ _ behind, length, linked_set]

theorem stable_iff_steady (keyed : Keyed tab) (atc : tab.setup.stationType = .atc) :
    Steady tab session ↔ Stable tab (handleSessionUpdate session tab) := by
  cases own : flightKey session with
  | none =>
      refine iff_of_true ?_ (stable_nobody session keyed atc own)
      intro key named
      rw [own] at named
      cases named
  | some key =>
      have only : Steady tab session ↔ _ :=
        ⟨fun steady => steady key own, fun steady other named => by
          obtain rfl := Option.some.inj (own.symm.trans named)
          exact steady⟩
      unfold Stable
      rw [only, selected_update session atc]
      cases selected : selectedCallsign tab with
      | some callsign =>
          rw [selected_callsign] at selected
          obtain ⟨idx, pointed, here⟩ := Option.bind_eq_some_iff.mp selected
          simp only [pointed, Option.bind_some]
          by_cases same : callsign = key
          · subst same
            rw [stable_own session keyed atc own here]
            simp
          · rw [stable_other session keyed atc own same here]
            simp [Ne.symm same]
      | none =>
          cases pointed : tab.selectedFlightIdx with
          | none => simp
          | some idx =>
              have behind : (linkedCallsigns tab)[idx]? = none := by
                rwa [selected_callsign, pointed, Option.bind_some] at selected
              simp only [Option.bind_some, Option.some.injEq]
              rw [stable_behind session keyed atc own behind, eq_comm]

end Update

/-! Every tab of a controller. -/
section Tabs

inductive TabEvent where
  | sessionUpdate (session : CpdlcSessionView)
  | select (idx : Option Nat)

def tabStep (tab : TabState) : TabEvent → TabState
  | .sessionUpdate session => handleSessionUpdate session tab
  | .select idx => { tab with selectedFlightIdx := idx }

def update (tab : TabState) (session : CpdlcSessionView) : TabState :=
  handleSessionUpdate session tab

def Controlled (tab : TabState) : Prop := Keyed tab ∧ tab.setup.stationType = .atc

theorem controlled_update (tab : TabState) (session : CpdlcSessionView)
    (controlled : Controlled tab) : Controlled (update tab session) := by
  refine ⟨keyed_update session controlled.1 controlled.2, ?_⟩
  simp [update, handleSessionUpdate, controlled.2]

theorem controlled_tab (setup : SetupFields) (atc : setup.stationType = .atc)
    (past : List TabEvent) : Controlled (exec tabStep (.new setup) past) := by
  apply run_invariant tabStep Controlled
  · intro tab event controlled
    cases event with
    | sessionUpdate session => exact controlled_update tab session controlled
    | select idx => exact controlled
  · refine ⟨?_, atc⟩
    intro key session found
    simp [TabState.new] at found

end Tabs

/-- Through any session updates the selection of a controller's tab stays with its aircraft until
the aircraft leaves, exactly when every update is steady. -/
theorem selection_stable_iff (setup : SetupFields) (atc : setup.stationType = .atc)
    (past : List TabEvent) (updates : List CpdlcSessionView) :
    let tab := exec tabStep (.new setup) past
    Guarded update Steady tab updates ↔
      ∀ before session, before ++ [session] <+: updates →
        Stable (exec update tab before) (exec update tab (before ++ [session])) := by
  intro tab
  apply guarded_steps update Steady Controlled controlled_update Stable
  · intro state session controlled
    exact stable_iff_steady session controlled.1 controlled.2
  · exact controlled_tab setup atc past

/-! A controller who has selected the second of three flights. -/

def controllerSetup : SetupFields := ⟨"LFPG", "LFPG", .atc⟩

def threeFlights : List TabEvent :=
  [.sessionUpdate (connectedFlight "DLH9"), .sessionUpdate (connectedFlight "BAW45"),
    .sessionUpdate (connectedFlight "AFR123"), .select (some 1)]

theorem selected_in_order (tab : TabState)
    (ordered : ((tab.atcSessions.entries.map Sigma.snd).filterMap linkedFlight).Pairwise
      fun first second => decide (first.callsign ≤ second.callsign) = true) :
    selectedCallsign tab = tab.selectedFlightIdx.bind fun idx =>
      (((tab.atcSessions.entries.map Sigma.snd).filterMap linkedFlight)[idx]?).map
        AtcLinkedFlight.callsign := by
  have same : linkedFlights tab = _ := List.mergeSort_of_pairwise ordered
  rw [selected_callsign, linkedCallsigns, same]
  simp only [List.getElem?_map]

theorem selection_stable_last :
    let tab := exec tabStep (.new controllerSetup) threeFlights
    Guarded update Steady tab [departed "DLH9"] ↔
      ∀ before session, before ++ [session] <+: [departed "DLH9"] →
        Stable (exec update tab before) (exec update tab (before ++ [session])) :=
  selection_stable_iff controllerSetup rfl threeFlights [departed "DLH9"]

/-- The first flight leaves, and the third is selected instead of the second. -/
theorem selection_moves :
    let tab := exec tabStep (.new controllerSetup) threeFlights
    selectedCallsign tab = some "BAW45" ∧
      selectedCallsign (exec update tab [departed "AFR123"]) = some "DLH9" ∧
      ((exec update tab [departed "AFR123"]).atcSessions.lookup "BAW45").isSome = true ∧
      ¬ Stable tab (exec update tab [departed "AFR123"]) := by
  intro tab
  have before : selectedCallsign tab = some "BAW45" := by
    rw [selected_in_order tab (by decide +kernel)]
    decide +kernel
  have after : selectedCallsign (exec update tab [departed "AFR123"]) = some "DLH9" := by
    rw [selected_in_order _ (by decide +kernel)]
    decide +kernel
  have remains : ((exec update tab [departed "AFR123"]).atcSessions.lookup "BAW45").isSome =
      true := by decide +kernel
  refine ⟨before, after, remains, ?_⟩
  intro stable
  simp only [Stable, before, after, remains, if_true] at stable
  exact absurd (Option.some.inj stable) (by decide)

end OpenLink.FlightSelection
