import OpenLink.MinSequencing

/-!
The two clients side by side. The TypeScript client offers the helpers of the Rust
client under the same names, each of which calls one of its builders; a call with
the same arguments gives both the same message.
-/
namespace OpenLink.ClientParity
open Cpdlc CyclicCounters Envelope MessageBuilder MinSequencing Runs SdkClient TsEnvelope TsTypes

inductive HelperCall where
  | logonRequest (aircraftCallsign aircraftAddress targetStation : String)
  | logonResponse (atcCallsign aircraftCallsign aircraftAddress : String) (accepted : Bool)
  | connectionRequest (atcCallsign aircraftCallsign aircraftAddress : String)
  | connectionResponse (aircraftCallsign aircraftAddress atcCallsign : String) (accepted : Bool)
  | nextDataAuthority (atcCallsign aircraftCallsign aircraftAddress ndaCallsign : String)
      (now : DateTime)
  | contactRequest (atcCallsign aircraftCallsign aircraftAddress nextStation : String)
      (now : DateTime)
  | endService (atcCallsign aircraftCallsign aircraftAddress : String) (now : DateTime)
  | logonForward (atcCallsign aircraftCallsign aircraftAddress newStation : String)
  | stationApplication (stationCallsign aircraftCallsign aircraftAddress : String)
      (elements : List MessageElement) (mrn : Option UInt8) (now : DateTime)
  | aircraftApplication (aircraftCallsign aircraftAddress stationCallsign : String)
      (elements : List MessageElement) (mrn : Option UInt8) (now : DateTime)
  | logicalAck (senderCallsign receiverCallsign aircraftCallsign aircraftAddress : String)
      (mrn : UInt8) (now : DateTime)

def perform (client : OpenLinkClient) : HelperCall → OpenLinkMessage × OpenLinkClient
  | .logonRequest aircraft address station => client.cpdlcLogonRequest aircraft address station
  | .logonResponse atc aircraft address accepted =>
      client.cpdlcLogonResponse atc aircraft address accepted
  | .connectionRequest atc aircraft address => client.cpdlcConnectionRequest atc aircraft address
  | .connectionResponse aircraft address atc accepted =>
      (OpenLinkClient.cpdlcConnectionResponse aircraft address atc accepted, client)
  | .nextDataAuthority atc aircraft address nda now =>
      client.cpdlcNextDataAuthority now atc aircraft address nda
  | .contactRequest atc aircraft address next now =>
      client.cpdlcContactRequest now atc aircraft address next
  | .endService atc aircraft address now => client.cpdlcEndService now atc aircraft address
  | .logonForward atc aircraft address station =>
      (OpenLinkClient.cpdlcLogonForward atc aircraft address station, client)
  | .stationApplication station aircraft address elements mrn now =>
      client.cpdlcStationApplication now station aircraft address elements mrn
  | .aircraftApplication aircraft address station elements mrn now =>
      client.cpdlcAircraftApplication now aircraft address station elements mrn
  | .logicalAck sender receiver aircraft address mrn now =>
      client.cpdlcLogicalAck now sender receiver aircraft address mrn

/-- The helpers of the TypeScript client, which leave every optional parameter of a
builder at its default. -/
def tsPerform (minSequences : Sequences) : HelperCall → TsMessage × Sequences
  | .logonRequest aircraft address station =>
      buildLogonRequest minSequences aircraft address station "ZZZZ" "ZZZZ"
  | .logonResponse atc aircraft address accepted =>
      buildLogonResponse minSequences atc aircraft address accepted
  | .connectionRequest atc aircraft address =>
      buildConnectionRequest minSequences atc aircraft address
  | .connectionResponse aircraft address atc accepted =>
      (buildConnectionResponse aircraft address atc accepted, minSequences)
  | .nextDataAuthority atc aircraft address nda now =>
      buildNextDataAuthority minSequences now atc aircraft address nda
  | .contactRequest atc aircraft address next now =>
      buildContactRequest minSequences now atc aircraft address next "UNKNOWN"
  | .endService atc aircraft address now => buildEndService minSequences now atc aircraft address
  | .logonForward atc aircraft address station =>
      (buildLogonForward atc aircraft address station "ZZZZ" "ZZZZ", minSequences)
  | .stationApplication station aircraft address elements mrn now =>
      buildStationApplication minSequences now station aircraft address
        (elements.map wireElement) (mrn.map UInt8.toNat)
  | .aircraftApplication aircraft address station elements mrn now =>
      buildAircraftApplication minSequences now aircraft address station
        (elements.map wireElement) (mrn.map UInt8.toNat)
  | .logicalAck sender receiver aircraft address mrn now =>
      buildLogicalAckForSender minSequences now aircraft address sender receiver mrn.toNat
        (sender == aircraft)

/-- Both clients would hand out the same MIN for every pair. -/
def Alike (client : OpenLinkClient) (minSequences : Sequences) : Prop :=
  ∀ key, clientPosition client key = tsPosition minSequences key

def tableOf (client : OpenLinkClient) : Sequences :=
  fun key => (client.minSequences key).map UInt8.toNat

theorem table_alike (client : OpenLinkClient) : Alike client (tableOf client) := by
  intro key
  unfold clientPosition tsPosition tableOf
  cases client.minSequences key <;> rfl

def clientOf (minSequences : Sequences) : OpenLinkClient :=
  ⟨"", "", fun key => some (UInt8.ofNat (tsPosition minSequences key + 1))⟩

theorem client_alike (minSequences : Sequences) : Alike (clientOf minSequences) minSequences := by
  intro key
  have small : tsPosition minSequences key < 63 := stored_position_bound _
  have byte : (UInt8.ofNat (tsPosition minSequences key + 1)).toNat =
      tsPosition minSequences key + 1 := Nat.mod_eq_of_lt (by omega)
  rw [clientPosition, clientOf, Option.getD_some, byte, storedPosition, if_pos (by omega),
    Nat.add_sub_cancel]

section Alike
variable {client : OpenLinkClient} {minSequences : Sequences}

theorem next_min_alike (alike : Alike client minSequences) (sender receiver : String) :
    (client.nextMinForSession sender receiver).1.toNat =
        (nextMinForSession minSequences sender receiver).1 ∧
      Alike (client.nextMinForSession sender receiver).2
        (nextMinForSession minSequences sender receiver).2 :=
  have moved := next_alike client_cycles ts_cycles client minSequences alike
    (sessionKey sender receiver)
  ⟨moved.1, moved.2.1⟩

theorem reset_min_alike (alike : Alike client minSequences) (sender receiver : String) :
    Alike (client.resetMinForSession sender receiver)
      (resetMinForSession minSequences sender receiver) :=
  (next_alike client_cycles ts_cycles client minSequences alike (sessionKey sender receiver)).2.2

/-- All messages with a MIN are built in this way. -/
theorem application_alike (alike : Alike client minSequences) (now : DateTime)
    (aircraft address sender receiver : String) (elements : List MessageElement)
    (mrn : Option UInt8) :
    let numbered := client.nextMinForSession sender receiver
    let built := buildApplication minSequences now aircraft address sender receiver
      (elements.map wireElement) (mrn.map UInt8.toNat)
    wire (cpdlc aircraft address sender receiver
        (applicationMessageWithMinAndMrn now elements numbered.1 mrn)) = built.1 ∧
      Alike numbered.2 built.2 := by
  obtain ⟨same, after⟩ := next_min_alike alike sender receiver
  refine ⟨?_, after⟩
  simp only [buildApplication, ← same]
  rfl

theorem ack_element_alike (sender aircraft : String) :
    wireElement ⟨if sender = aircraft then CpdlcRuntime.logicalAckDownlinkId
        else CpdlcRuntime.logicalAckUplinkId, []⟩ =
      ⟨logicalAckElementIdForSender (sender == aircraft), []⟩ := by
  by_cases own : sender = aircraft
  · simp only [own, if_true, beq_self_eq_true]
    rfl
  · simp only [own, if_false, beq_eq_false_iff_ne.mpr own]
    rfl

theorem perform_alike (alike : Alike client minSequences) (call : HelperCall) :
    wire (perform client call).1 = (tsPerform minSequences call).1 ∧
      Alike (perform client call).2 (tsPerform minSequences call).2 := by
  cases call with
  | logonRequest aircraft address station =>
      exact ⟨rfl, reset_min_alike alike aircraft station⟩
  | logonResponse atc aircraft address accepted =>
      cases accepted with
      | true => exact ⟨rfl, reset_min_alike alike atc aircraft⟩
      | false => exact ⟨rfl, alike⟩
  | connectionRequest atc aircraft address =>
      exact ⟨rfl, reset_min_alike alike atc aircraft⟩
  | connectionResponse aircraft address atc accepted => exact ⟨rfl, alike⟩
  | logonForward atc aircraft address station => exact ⟨rfl, alike⟩
  | nextDataAuthority atc aircraft address nda now =>
      exact application_alike alike now aircraft address atc aircraft _ none
  | contactRequest atc aircraft address next now =>
      exact application_alike alike now aircraft address atc aircraft _ none
  | endService atc aircraft address now =>
      exact application_alike alike now aircraft address atc aircraft _ none
  | stationApplication station aircraft address elements mrn now =>
      exact application_alike alike now aircraft address station aircraft elements mrn
  | aircraftApplication aircraft address station elements mrn now =>
      exact application_alike alike now aircraft address aircraft station elements mrn
  | logicalAck sender receiver aircraft address mrn now =>
      have sent := application_alike alike now aircraft address sender receiver
        [⟨if sender = aircraft then CpdlcRuntime.logicalAckDownlinkId
          else CpdlcRuntime.logicalAckUplinkId, []⟩] (some mrn)
      rw [List.map_singleton, ack_element_alike] at sent
      exact sent

theorem emitted_alike (network : NetworkId) (cid : NetworkAddress) (calls : List HelperCall) :
    (outputs perform ⟨network, cid, fun _ => none⟩ calls).map wire =
      outputs tsPerform (fun _ => none) calls :=
  outputs_lockstep Alike (fun _ _ call alike => perform_alike alike call) _ _ (fun _ => rfl) calls

end Alike

def messageMin : OpenLinkMessage → Option Nat
  | .acars ⟨_, .cpdlc ⟨_, _, .application message⟩⟩ => some message.min.toNat
  | _ => none

def tsMessageMin : TsMessage → Option Nat
  | .acars _ ⟨_, _, .application message⟩ => some message.min
  | _ => none

theorem wire_min (message : OpenLinkMessage) : tsMessageMin (wire message) = messageMin message := by
  obtain ⟨⟨aircraft⟩, source, destination, application | other⟩ | other := message <;> rfl

theorem emitted_mins (network : NetworkId) (cid : NetworkAddress) (calls : List HelperCall) :
    (outputs perform ⟨network, cid, fun _ => none⟩ calls).map messageMin =
      (outputs tsPerform (fun _ => none) calls).map tsMessageMin := by
  rw [← emitted_alike network cid, List.map_map]
  exact List.map_congr_left fun message _ => (wire_min message).symm

/-! Either client, with its messages as the wire carries them. -/
section Client

inductive Client where
  | rust (client : OpenLinkClient)
  | typescript (minSequences : Sequences)

namespace Client

def call : Client → HelperCall → TsMessage × Client
  | .rust client, helper => (wire (perform client helper).1, .rust (perform client helper).2)
  | .typescript minSequences, helper =>
      ((tsPerform minSequences helper).1, .typescript (tsPerform minSequences helper).2)

def stored : Client → String → Nat
  | .rust client, key => ((client.minSequences key).getD 1).toNat
  | .typescript minSequences, key => (minSequences key).getD 1

def position (client : Client) (key : String) : Nat := storedPosition (client.stored key)

def Fresh (client : Client) : Prop :=
  match client with
  | .rust client => client.minSequences = fun _ => none
  | .typescript minSequences => minSequences = fun _ => none

end Client

def HelperCall.operation : HelperCall → Option (Operation (String × String))
  | .logonRequest aircraft _ station => some (.reset (aircraft, station))
  | .logonResponse atc aircraft _ accepted => if accepted then some (.reset (atc, aircraft)) else none
  | .connectionRequest atc aircraft _ => some (.reset (atc, aircraft))
  | .connectionResponse _ _ _ _ | .logonForward _ _ _ _ => none
  | .nextDataAuthority atc aircraft _ _ _ | .contactRequest atc aircraft _ _ _
  | .endService atc aircraft _ _ => some (.next (atc, aircraft))
  | .stationApplication station aircraft _ _ _ _ => some (.next (station, aircraft))
  | .aircraftApplication aircraft _ station _ _ _ => some (.next (aircraft, station))
  | .logicalAck sender receiver _ _ _ _ => some (.next (sender, receiver))

end Client

theorem min_sequencing :
    (∀ network cid operations pair,
      Counted ((exec clientStep ⟨network, cid, fun _ => none⟩ operations).nextMinForSession
        pair.1 pair.2).1.toNat pair operations) ∧
    (∀ operations pair,
      Counted (nextMinForSession (exec tsStep (fun _ => none) operations) pair.1 pair.2).1
        pair operations) ∧
    (∀ toUppercase operations pair,
      Counted ((exec (trackerStep toUppercase) .empty operations).nextMin
          (sessionOf toUppercase pair)).1.toNat
        (sessionOf toUppercase pair)
        (operations.map (Operation.map (sessionOf toUppercase)))) ∧
    ∀ network cid calls,
      (outputs perform ⟨network, cid, fun _ => none⟩ calls).map messageMin =
        (outputs tsPerform (fun _ => none) calls).map tsMessageMin :=
  ⟨client_law, ts_law, tracker_law, emitted_mins⟩

end OpenLink.ClientParity
