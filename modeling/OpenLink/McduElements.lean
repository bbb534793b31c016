import OpenLink.McduScreen
import OpenLink.Words

/-!
What becomes of the elements that the MCDU builds: a receiver knows them only if the registry
does, and reads them only if every value is one of its type.
-/
namespace OpenLink.McduElements
open Cpdlc DcduMessages McduScreen MessageRegistry Runs Texts TsTypes Words

/-- A downlink of the registry, with arguments that can be read and have the types declared. -/
def ValidDownlink (element : TsElement) : Prop :=
  ∃ definition read, findDefinition element.id = some definition ∧
    definition.direction = .downlink ∧ readElement element = some read ∧
    read.args.map CpdlcArgument.argType = definition.args

/-- The types of the arguments that can be read: a speed is written as a number, but is a text. -/
def builtTypes : Option String → Option (List ArgType)
  | none => some []
  | some "Level" => some [.level]
  | some "Degrees" => some [.degrees]
  | some "Position" => some [.position]
  | some "Distance" => some [.distance]
  | some "FreeText" => some [.freeText]
  | some _ => none

def Fits (scratchpad : Text) (argType : Option String) : Prop :=
  (argType = some "Level" → ∀ number ∈ parseInt (bareLevel scratchpad), number ≤ 65535) ∧
    (argType = some "Degrees" → ∀ number ∈ parseInt scratchpad, number ≤ 65535)

/-- A distance without its direction, speeds, and what the registry does not know or declares
otherwise. -/
def wrongKeys : List (McduPage × Nat × Side) :=
  [(.latReq, 0, .right), (.vertReq, 0, .right), (.whenCanWe, 0, .left), (.whenCanWe, 1, .left),
    (.otherReq, 0, .left), (.reports, 1, .left), (.reports, 2, .left)]

def Meets (state : McduState) : McduEvent → Prop
  | .key _ => True
  | .lsk row side => (state.currentPage, row, side) ∉ wrongKeys ∧
      ∀ dmId argType, onLsk state row side = some (.addElement dmId argType) →
        Fits state.scratchpad argType

/-! What can be read of an element. -/
section Reading

theorem read_number (dmId argType : String) (number : Nat) :
    readElement ⟨dmId, [⟨argType, .number number⟩]⟩ =
      if number ≤ 65535 then
        (numberArgument argType).map fun build => ⟨dmId, [build (UInt16.ofNat number)]⟩
      else none := by
  have size : number < UInt16.size ↔ number ≤ 65535 := Nat.lt_succ_iff
  simp only [readElement, List.mapM_cons, List.mapM_nil, readArgument, size]
  split
  · cases numberArgument argType <;> rfl
  · rfl

theorem read_text (dmId argType value : String) :
    readElement ⟨dmId, [⟨argType, .text value⟩]⟩ =
      (textArgument argType).map fun build => ⟨dmId, [build value]⟩ := by
  simp only [readElement, List.mapM_cons, List.mapM_nil, readArgument]
  cases textArgument argType <;> rfl

def mcduTypes : List (Option String) :=
  [none, some "Level", some "Speed", some "Degrees", some "Position", some "Distance",
    some "FreeText"]

def ReadsAs (element : TsElement) (types : List ArgType) : Prop :=
  ∃ read, readElement element = some read ∧ read.args.map CpdlcArgument.argType = types

theorem reads_number {argType : String} {build : UInt16 → CpdlcArgument}
    (known : numberArgument argType = some build) (dmId : String) (number : Nat)
    (types : List ArgType) :
    ReadsAs ⟨dmId, [⟨argType, .number number⟩]⟩ types ↔
      [(build (UInt16.ofNat number)).argType] = types ∧ number ≤ 65535 := by
  rw [ReadsAs, read_number, known]
  by_cases fits : number ≤ 65535
  · simp [fits]
  · simp [fits]

theorem reads_text {argType : String} {build : String → CpdlcArgument}
    (known : textArgument argType = some build) (dmId value : String) (types : List ArgType) :
    ReadsAs ⟨dmId, [⟨argType, .text value⟩]⟩ types ↔ [(build value).argType] = types := by
  rw [ReadsAs, read_text, known]
  simp

theorem pushed_value {scratchpad : Text} {dmId argType : String} {element : TsElement}
    (pushed : pushedElement scratchpad dmId (some argType) = some element) :
    ∃ value, argumentValue scratchpad argType = some value ∧ element = ⟨dmId, [⟨argType, value⟩]⟩ := by
  simp only [pushedElement] at pushed
  split at pushed
  · cases pushed
  · obtain ⟨value, typed, rfl⟩ := Option.map_eq_some_iff.mp pushed
    exact ⟨value, typed, rfl⟩

theorem pushed_number {scratchpad typed : Text} {dmId argType : String} {element : TsElement}
    (numeric : argumentValue scratchpad argType = (parseInt typed).map .number)
    (pushed : pushedElement scratchpad dmId (some argType) = some element) :
    ∃ number, parseInt typed = some number ∧ element = ⟨dmId, [⟨argType, .number number⟩]⟩ := by
  obtain ⟨value, typed, rfl⟩ := pushed_value pushed
  rw [numeric] at typed
  obtain ⟨number, parsed, rfl⟩ := Option.map_eq_some_iff.mp typed
  exact ⟨number, parsed, rfl⟩

theorem reads_plain {scratchpad : Text} {dmId name : String} {element : TsElement}
    {build : String → CpdlcArgument} (known : textArgument name = some build)
    (plain : name ≠ "Level" ∧ name ≠ "Speed" ∧ name ≠ "Degrees")
    (pushed : pushedElement scratchpad dmId (some name) = some element) (types : List ArgType) :
    ReadsAs element types ↔
      [(build (String.ofList scratchpad)).argType] = types ∧ Fits scratchpad (some name) := by
  obtain ⟨value, written, rfl⟩ := pushed_value pushed
  have text : argumentValue scratchpad name = some (.text (String.ofList scratchpad)) := by
    simp [argumentValue, plain]
  rw [text] at written
  cases written
  rw [reads_text known]
  simp [Fits, plain]

theorem reads_pushed {scratchpad : Text} {dmId : String} {argType : Option String}
    {element : TsElement} (used : argType ∈ mcduTypes)
    (pushed : pushedElement scratchpad dmId argType = some element) (types : List ArgType) :
    ReadsAs element types ↔ builtTypes argType = some types ∧ Fits scratchpad argType := by
  simp only [mcduTypes, List.mem_cons, List.not_mem_nil, or_false] at used
  rcases used with rfl | rfl | rfl | rfl | rfl | rfl | rfl
  · cases pushed
    simp [ReadsAs, readElement, builtTypes, Fits]
  · obtain ⟨number, parsed, rfl⟩ := pushed_number rfl pushed
    rw [reads_number rfl]
    simp [builtTypes, Fits, parsed, CpdlcArgument.argType]
  · obtain ⟨number, parsed, rfl⟩ := pushed_number rfl pushed
    have unknown : numberArgument "Speed" = none := rfl
    simp [ReadsAs, read_number, unknown, builtTypes]
  · obtain ⟨number, parsed, rfl⟩ := pushed_number rfl pushed
    rw [reads_number rfl]
    simp [builtTypes, Fits, parsed, CpdlcArgument.argType]
  · rw [reads_plain rfl (by decide) pushed]
    simp [builtTypes, CpdlcArgument.argType]
  · rw [reads_plain rfl (by decide) pushed]
    simp [builtTypes, CpdlcArgument.argType]
  · rw [reads_plain rfl (by decide) pushed]
    simp [builtTypes, CpdlcArgument.argType]

end Reading

/-! The keys against the registry. -/
section Keys

def declared (dmId : String) (argType : Option String) : Bool :=
  (findDefinition dmId).any fun definition =>
    definition.direction == .downlink && builtTypes argType == some definition.args

def checkedKey (page : McduPage) (row : Nat) (side : Side) : Option LskAction → Bool
  | some (.addElement dmId argType) => mcduTypes.contains argType &&
      declared dmId argType == !wrongKeys.contains (page, row, side)
  | _ => true

def mcduPages : List McduPage :=
  [.atcMenu, .connectionStatus, .notification, .latReq, .vertReq, .whenCanWe, .otherReq, .text,
    .reports]

theorem keys_checked : ∀ page ∈ mcduPages, ∀ side ∈ [Side.left, .right], ∀ pending notify : Bool,
    ∀ row < 6, checkedKey page row side
      ((pageRows pending notify page)[row]?.bind fun data => data.onLsk side) = true := by
  decide +kernel

theorem declared_iff {dmId : String} {argType : Option String} :
    declared dmId argType = true ↔ ∃ definition, findDefinition dmId = some definition ∧
      definition.direction = .downlink ∧ builtTypes argType = some definition.args := by
  rw [declared, Option.any_eq_true]
  simp only [Bool.and_eq_true, beq_iff_eq]

/-- A page has six rows, so that the table of all keys is complete. -/
theorem page_rows_length (pending notify : Bool) (page : McduPage) :
    (pageRows pending notify page).length = 6 := by
  cases page <;> rfl

theorem key_kind {state : McduState} {row : Nat} {side : Side} {dmId : String}
    {argType : Option String} (offered : onLsk state row side = some (.addElement dmId argType)) :
    argType ∈ mcduTypes ∧
      (declared dmId argType = true ↔ (state.currentPage, row, side) ∉ wrongKeys) := by
  have short : row < 6 := by
    by_contra long
    have absent : (pageRows (hasPending state) (canNotify state) state.currentPage)[row]? = none := by
      rw [List.getElem?_eq_none_iff, page_rows_length]
      exact Nat.not_lt.mp long
    rw [onLsk, absent] at offered
    cases offered
  have checked := keys_checked state.currentPage (by cases state.currentPage <;> decide) side
    (by cases side <;> decide) (hasPending state) (canNotify state) row short
  rw [← onLsk, offered] at checked
  simp only [checkedKey, Bool.and_eq_true, List.contains_iff_mem, beq_iff_eq] at checked
  obtain ⟨used, same⟩ := checked
  refine ⟨used, ?_⟩
  rw [same, Bool.not_eq_true', ← Bool.not_eq_true, List.contains_iff_mem]

end Keys

theorem meets_offered {state : McduState} {row : Nat} {side : Side} {dmId : String}
    {argType : Option String} (offered : onLsk state row side = some (.addElement dmId argType)) :
    Meets state (.lsk row side) ↔
      declared dmId argType = true ∧ Fits state.scratchpad argType := by
  rw [Meets, (key_kind offered).2, offered]
  refine and_congr_right fun _ => ⟨fun all => all dmId argType rfl, ?_⟩
  rintro fits _ _ same
  cases same
  exact fits

theorem offered_valid {state : McduState} {row : Nat} {side : Side} {dmId : String}
    {argType : Option String} (offered : onLsk state row side = some (.addElement dmId argType))
    {element : TsElement} (pushed : pushedElement state.scratchpad dmId argType = some element) :
    ValidDownlink element ↔ Meets state (.lsk row side) := by
  have used := (key_kind offered).1
  have named : element.id = dmId := by
    cases argType with
    | none => cases pushed; rfl
    | some argType =>
        obtain ⟨value, _, rfl⟩ := pushed_value pushed
        rfl
  rw [meets_offered offered, declared_iff]
  constructor
  · rintro ⟨definition, read, found, down, readable, types⟩
    rw [named] at found
    obtain ⟨built, small⟩ := (reads_pushed used pushed _).mp ⟨read, readable, types⟩
    exact ⟨⟨definition, found, down, built⟩, small⟩
  · rintro ⟨⟨definition, found, down, built⟩, small⟩
    obtain ⟨read, readable, types⟩ := (reads_pushed used pushed _).mpr ⟨built, small⟩
    exact ⟨definition, read, by rw [named]; exact found, down, readable, types⟩

/-- An event adds an element only at a key that offers it. -/
theorem pushed_offered {state : McduState} {event : McduEvent} {element : TsElement}
    (pushed : pushedBy state event = some element) :
    ∃ row side dmId argType, event = .lsk row side ∧
      onLsk state row side = some (.addElement dmId argType) ∧
      pushedElement state.scratchpad dmId argType = some element := by
  cases event with
  | key key => cases pushed
  | lsk row side =>
      rw [pushedBy] at pushed
      split at pushed
      · next dmId argType offered => exact ⟨row, side, dmId, argType, rfl, offered, pushed⟩
      · cases pushed

/-- What an event adds is a valid downlink exactly when its key is none of the wrong ones and the
number typed, if it needs one, is not too large. -/
theorem element_valid_iff (state : McduState) (event : McduEvent) (element : TsElement)
    (pushed : pushedBy state event = some element) :
    ValidDownlink element ↔ Meets state event := by
  obtain ⟨row, side, dmId, argType, rfl, offered, added⟩ := pushed_offered pushed
  exact offered_valid offered added

def vertical (scratchpad : Text) : McduState :=
  { McduState.initial with currentPage := .vertReq, scratchpad := scratchpad }

theorem climb_valid_iff :
    ValidDownlink ⟨"DM9", [⟨"Level", .number 350⟩]⟩ ↔
      Meets (vertical "FL350".toList) (.lsk 0 .left) :=
  element_valid_iff (vertical "FL350".toList) (.lsk 0 .left) ⟨"DM9", [⟨"Level", .number 350⟩]⟩
    (by decide +kernel)

def typing (text : String) : List McduEvent := text.toList.map fun char => .key (.character char)

/-- The speed key writes a number, where the type wants a text. -/
theorem speed_unreadable :
    pushedBy (exec step .initial (.lsk 0 .right :: typing "250")) (.lsk 0 .right) =
        some ⟨"DM18", [⟨"Speed", .number 250⟩]⟩ ∧
      readElement ⟨"DM18", [⟨"Speed", .number 250⟩]⟩ = none ∧
      ¬ ValidDownlink ⟨"DM18", [⟨"Speed", .number 250⟩]⟩ := by
  have unreadable : readElement ⟨"DM18", [⟨"Speed", .number 250⟩]⟩ = none := by decide +kernel
  refine ⟨by decide +kernel, unreadable, ?_⟩
  rintro ⟨definition, read, _, _, readable, _⟩
  rw [unreadable] at readable
  cases readable

/-! What a run of the screen keeps. -/
section Machine

theorem mem_added {state : McduState} {dmId : String} {argType : Option String}
    {element : TsElement} (member : element ∈ (addElement dmId argType state).pendingElements) :
    element ∈ state.pendingElements ∨
      pushedElement state.scratchpad dmId argType = some element := by
  unfold addElement at member
  cases pushed : pushedElement state.scratchpad dmId argType with
  | none =>
      rw [pushed] at member
      exact .inl member
  | some added =>
      rw [pushed] at member
      have kept : element ∈ (if dmId = "DM67" ∨ added.args = [] then state.pendingElements
          else state.pendingElements.filter fun other => other.id ≠ dmId) ++ [added] := by
        cases argType <;> exact member
      rcases List.mem_append.mp kept with earlier | last
      · split at earlier
        · exact .inl earlier
        · exact .inl (List.mem_of_mem_filter earlier)
      · exact .inr (congrArg some (List.mem_singleton.mp last).symm)

theorem mem_pending {state : McduState} {event : McduEvent} {element : TsElement}
    (member : element ∈ (step state event).pendingElements) :
    element ∈ state.pendingElements ∨ pushedBy state event = some element := by
  cases event with
  | key key => exact .inl member
  | lsk row side =>
      rw [step, respond] at member
      rw [pushedBy]
      cases offered : onLsk state row side with
      | none =>
          rw [offered] at member
          exact .inl member
      | some action =>
          rw [offered] at member
          cases action with
          | addElement dmId argType =>
              rcases mem_added member with earlier | pushed
              · exact .inl earlier
              · exact .inr pushed
          | setCurrentPage page => exact .inl member
          | eraseInputs => cases member
          | doTransferToDcdu =>
              simp only [perform] at member
              split at member
              · exact .inl member
              · cases member
          | transferScratchpad =>
              simp only [perform] at member
              split at member <;> exact .inl member
          | logonRequest => exact .inl member

def Admitted (state : McduState) (event : McduEvent) : Prop :=
  ∀ element, pushedBy state event = some element → Meets state event

theorem pending_valid (events : List McduEvent)
    (admitted : Guarded step Admitted .initial events) :
    ∀ element ∈ (exec step .initial events).pendingElements, ValidDownlink element := by
  refine guarded_invariant step Admitted
    (fun state => ∀ element ∈ state.pendingElements, ValidDownlink element) ?_ .initial
    (by simp [McduState.initial]) events admitted
  intro state event valid meets element member
  rcases mem_pending member with earlier | pushed
  · exact valid element earlier
  · obtain ⟨row, side, dmId, argType, rfl, offered, added⟩ := pushed_offered pushed
    exact (offered_valid offered added).mpr (meets element pushed)

theorem transferred_pending {state : McduState} {event : McduEvent} {elements : List TsElement}
    {mrn : Option Nat} (asked : .transferToDcdu elements mrn ∈ (respond state event).1) :
    elements = state.pendingElements := by
  cases event with
  | key key => cases asked
  | lsk row side =>
      rw [respond] at asked
      split at asked
      · next action _ =>
        cases action with
        | doTransferToDcdu =>
            simp only [perform] at asked
            split at asked
            · cases asked
            · cases List.mem_singleton.mp asked
              rfl
        | transferScratchpad =>
            simp only [perform] at asked
            split at asked <;> cases asked
        | logonRequest => cases List.mem_singleton.mp asked
        | setCurrentPage page => cases asked
        | addElement dmId argType => cases asked
        | eraseInputs => cases asked
      · cases asked

theorem transfers_valid (events : List McduEvent)
    (admitted : Guarded step Admitted .initial events) (before : List McduEvent)
    (event : McduEvent) (part : before ++ [event] <+: events) (elements : List TsElement)
    (mrn : Option Nat)
    (asked : .transferToDcdu elements mrn ∈ (respond (exec step .initial before) event).1) :
    ∀ element ∈ elements, ValidDownlink element := by
  obtain ⟨after, rfl⟩ := (List.prefix_append before [event]).trans part
  rw [transferred_pending asked]
  exact pending_valid before (guarded_earlier step Admitted .initial before after admitted)

end Machine

end OpenLink.McduElements
