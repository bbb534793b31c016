import OpenLink.DcduLayout
import OpenLink.Rendering
import OpenLink.Words

/-!
The commands of the controller's console, and the element that a command makes of what is typed into
its fields. The labels of the buttons and fields are left out. The upper case of a character is a
parameter, as it is that of Unicode.
-/
namespace OpenLink.CommandElements
open Cpdlc DcduLayout MessageRegistry Rendering Texts

/-! What the console offers. -/
section Offers

def verticalButtons : List String := ["UM20", "UM23", "UM19", "UM46", "UM36"]

def lateralButtons : List String := ["UM74", "UM80", "UM81", "UM92", "UM190"]

def otherButtons : List String := ["UM169", "UM117", "UM120", "UM106", "UM116"]

def verticalDropdown : List String :=
  ["UM19", "UM20", "UM21", "UM22", "UM23", "UM24", "UM25", "UM26", "UM27", "UM28",
    "UM29", "UM30", "UM31", "UM32", "UM34", "UM36", "UM37", "UM38", "UM39",
    "UM46", "UM47", "UM48", "UM49", "UM50",
    "UM61",
    "UM128", "UM129", "UM133", "UM135", "UM148", "UM149"]

def lateralDropdown : List String :=
  ["UM51", "UM52", "UM53", "UM54", "UM55",
    "UM61", "UM64", "UM67",
    "UM74", "UM79", "UM80", "UM81", "UM82",
    "UM92", "UM94", "UM96",
    "UM130",
    "UM190", "UM215"]

def otherDropdown : List String :=
  ["UM106", "UM107", "UM108", "UM109", "UM116",
    "UM117", "UM120", "UM123", "UM179",
    "UM128", "UM129", "UM130", "UM132", "UM133", "UM135",
    "UM148", "UM149",
    "UM153", "UM158", "UM168", "UM169", "UM176", "UM183",
    "UM222"]

def offeredCommands : String → List String
  | "vertical" => verticalButtons ++ verticalDropdown
  | "lateral" => lateralButtons ++ lateralDropdown
  | _ => otherButtons ++ otherDropdown

def commandDomain (key : String) : String :=
  if verticalButtons.contains key || verticalDropdown.contains key then "vertical"
  else if lateralButtons.contains key || lateralDropdown.contains key then "lateral"
  else if key = "L_TURN_LEFT" ∨ key = "L_TURN_RIGHT" then "lateral"
  else "other"

def stripPrefix (lead key : String) : Option String :=
  (lead.toList.isPrefixOf? key.toList).map String.ofList

def selectedCommand (key : String) : Option String := stripPrefix "cmd:" key

def selectedGroup (key : String) : Option String :=
  (stripPrefix "grp:" key).or ((selectedCommand key).map commandDomain)

theorem strip_prefix_append (lead rest : String) : stripPrefix lead (lead ++ rest) = some rest := by
  have found : lead.toList.isPrefixOf? (lead ++ rest).toList = some rest.toList := by
    rw [List.isPrefixOf?_eq_some_iff_append_eq, String.toList_append]
  rw [stripPrefix, found, Option.map_some, String.ofList_toList]

end Offers

/-! The element of a command. -/
section Elements
variable (upper : Char → Text)

def commandUplinkId (key : String) : Option String :=
  if key = "L_TURN_LEFT" ∨ key = "L_TURN_RIGHT" then some "UM94"
  else if "UM".toList.isPrefixOf key.toList then
    (findDefinition key).map MessageDefinition.id
  else none

def commandParams (key : String) : Nat :=
  if key = "L_TURN_LEFT" ∨ key = "L_TURN_RIGHT" then 1
  else ((commandUplinkId key).bind findDefinition).elim 0 fun definition => definition.args.length

def commandNeedsParam (key : String) : Bool := commandParams key != 0

def argValue (args : List String) (idx : Nat) : Option Text :=
  (args[idx]?.map fun value => trim value.toList).filter fun value => value ≠ []

/-- Other than the model's own reading of a level, this one takes a number of up to sixteen bits
where the prefix is missing. -/
def readLevel (raw : Text) : Option FlightLevel :=
  let text := toUppercase upper (trim raw)
  let digits := ("FL".toList.isPrefixOf? text).getD text
  (parseDecimal 65535 digits).bind fun value =>
    if "FL".toList.isPrefixOf text ∧ 1000 ≤ value then none else some ⟨UInt16.ofNat value⟩

def parseArgument (argType : ArgType) (raw : Text) : Option CpdlcArgument :=
  let value := trim raw
  if value = [] then none
  else
    match argType with
    | .level => (readLevel upper value).map .level
    | .speed => some (.speed (String.ofList value))
    | .time => some (.time (String.ofList value))
    | .position => some (.position (String.ofList (toUppercase upper value)))
    | .direction => some (.direction (String.ofList (toUppercase upper value)))
    | .degrees => (parseDecimal 65535 value).map fun degrees => .degrees (UInt16.ofNat degrees)
    | .distance => some (.distance (String.ofList value))
    | .routeClearance => some (.routeClearance (String.ofList value))
    | .procedureName => some (.procedureName (String.ofList value))
    | .unitName => some (.unitName (String.ofList value))
    | .facilityDesignation => some (.facilityDesignation (String.ofList value))
    | .frequency => some (.frequency (String.ofList value))
    | .code => some (.code (String.ofList value))
    | .atisCode => some (.atisCode (String.ofList value))
    | .errorInfo => some (.errorInfo (String.ofList value))
    | .freeText => some (.freeText (String.ofList value))
    | .verticalRate => some (.verticalRate (String.ofList value))
    | .altimeter => some (.altimeter (String.ofList value))
    | .legType => some (.legType (String.ofList value))
    | .positionReport => some (.positionReport (String.ofList value))
    | .remainingFuel => some (.remainingFuel (String.ofList value))
    | .personsOnBoard => some (.personsOnBoard (String.ofList value))
    | .speedType => some (.speedType (String.ofList value))
    | .departureClearance => some (.departureClearance (String.ofList value))

def parseArguments (args : List String) : Nat → List ArgType → Option (List CpdlcArgument)
  | _, [] => some []
  | idx, argType :: rest => do
      let raw ← argValue args idx
      let parsed ← parseArgument upper argType raw
      let parsedArgs ← parseArguments args (idx + 1) rest
      return parsed :: parsedArgs

def buildCommandElement (command : String) (args : List String) : Option MessageElement := do
  let id ← commandUplinkId command
  let definition ← findDefinition id
  if command = "L_TURN_LEFT" ∨ command = "L_TURN_RIGHT" then
    let raw ← argValue args 0
    let heading ← parseDecimal 65535 raw
    let direction := if command = "L_TURN_LEFT" then "LEFT" else "RIGHT"
    return ⟨id, [.direction direction, .degrees (UInt16.ofNat heading)]⟩
  else
    let parsedArgs ← parseArguments upper args 0 definition.args
    return ⟨id, parsedArgs⟩

def commandElement (command : String) (inputs : List String) : Option MessageElement :=
  buildCommandElement upper command (if commandNeedsParam command then inputs else [])

end Elements

/-! Every element is a valid uplink. -/
section Validity

def ValidUplink (element : MessageElement) : Prop :=
  ∃ definition, findDefinition element.id = some definition ∧ definition.direction = .uplink ∧
    element.args.map CpdlcArgument.argType = definition.args

variable {upper : Char → Text}

theorem parsed_type {argType : ArgType} {raw : Text} {parsed : CpdlcArgument}
    (read : parseArgument upper argType raw = some parsed) : parsed.argType = argType := by
  unfold parseArgument at read
  simp only at read
  split at read
  · cases read
  · cases argType <;> first
      | (cases read; rfl)
      | (obtain ⟨value, _, rfl⟩ := Option.map_eq_some_iff.mp read; rfl)

theorem parsed_types {args : List String} {idx : Nat} {types : List ArgType}
    {parsed : List CpdlcArgument} (read : parseArguments upper args idx types = some parsed) :
    parsed.map CpdlcArgument.argType = types := by
  induction types generalizing idx parsed with
  | nil =>
      cases read
      rfl
  | cons argType rest ih =>
      simp only [parseArguments, bind, Option.bind_eq_some_iff, pure, Option.some.injEq] at read
      obtain ⟨raw, _, first, typed, others, later, rfl⟩ := read
      rw [List.map_cons, parsed_type typed, ih later]

theorem uplinks_up : ∀ definition ∈ messageRegistry,
    "UM".toList.isPrefixOf definition.id.toList = true → definition.direction = .uplink := by
  decide +kernel

theorem command_definition {command id : String} (known : commandUplinkId command = some id) :
    ∃ definition, findDefinition id = some definition ∧ definition.direction = .uplink := by
  unfold commandUplinkId at known
  split_ifs at known with turn lead
  · cases known
    exact ⟨_, rfl, rfl⟩
  · obtain ⟨definition, found, rfl⟩ := Option.map_eq_some_iff.mp known
    have named : definition.id = command := by
      simpa using List.find?_some found
    have member := List.mem_of_find?_eq_some found
    rw [named]
    exact ⟨definition, found, uplinks_up definition member (by rw [named]; exact lead)⟩

theorem build_valid {command : String} {args : List String} {element : MessageElement}
    (built : buildCommandElement upper command args = some element) : ValidUplink element := by
  simp only [buildCommandElement, bind, Option.bind_eq_some_iff] at built
  obtain ⟨id, known, definition, found, rest⟩ := built
  obtain ⟨declared, same, direction⟩ := command_definition known
  obtain rfl : declared = definition := Option.some.inj (same.symm.trans found)
  split at rest
  · next turn =>
    have um94 : id = "UM94" := by
      rw [commandUplinkId, if_pos turn] at known
      exact (Option.some.inj known).symm
    subst um94
    simp only [Option.bind_eq_some_iff, pure, Option.some.injEq] at rest
    obtain ⟨raw, _, heading, _, rfl⟩ := rest
    exact ⟨declared, found, direction, by cases found; rfl⟩
  · simp only [Option.bind_eq_some_iff, pure, Option.some.injEq] at rest
    obtain ⟨parsed, read, rfl⟩ := rest
    exact ⟨declared, found, direction, parsed_types read⟩

end Validity

/-! What an element displays can be typed back. -/
section Display
variable {upper : Char → Text}

def PlainCase (upper : Char → Text) : Prop :=
  ∀ char, char.isDigit = true ∨ char = 'F' ∨ char = 'L' → upper char = [char]

/-- The display is what a field keeps of itself: it has no outer white space, and it is in upper
case where the field writes it so. -/
structure Typable (upper : Char → Text) (arg : CpdlcArgument) : Prop where
  nonempty : displayArgument arg ≠ []
  trimmed : trim (displayArgument arg) = displayArgument arg
  upperCase : arg.argType = .position ∨ arg.argType = .direction →
    toUppercase upper (displayArgument arg) = displayArgument arg

theorem upper_plain (plain : PlainCase upper) {text : Text}
    (known : ∀ char ∈ text, char.isDigit = true ∨ char = 'F' ∨ char = 'L') :
    toUppercase upper text = text := by
  induction text with
  | nil => rfl
  | cons char rest ih =>
      rw [toUppercase, List.flatMap_cons, plain char (known char List.mem_cons_self)]
      exact congrArg (char :: ·) (ih fun other member => known other (List.mem_cons_of_mem _ member))

theorem level_plain (level : FlightLevel) :
    ∀ char ∈ displayLevel level, char.isDigit = true ∨ char = 'F' ∨ char = 'L' := by
  intro char member
  rw [displayLevel] at member
  split at member
  · rcases List.mem_append.mp member with lead | digit
    · simp only [String.reduceToList, List.mem_cons, List.not_mem_nil, or_false] at lead
      exact .inr lead
    · exact .inl (decimal_digits _ char digit)
  · exact .inl (decimal_digits _ char member)

/-- A level of any size is read back from its display. -/
theorem read_level_display (plain : PlainCase upper) (level : FlightLevel) :
    readLevel upper (displayLevel level) = some level := by
  have small : level.value.toNat ≤ 65535 := Nat.le_of_lt_succ level.value.toNat_lt
  have solid : trim (displayLevel level) = displayLevel level := by
    apply trim_solid
    intro char member
    rcases level_plain level char member with digit | rfl | rfl
    · exact digit_not_white digit
    · rfl
    · rfl
  have parsed : parseDecimal 65535 (decimal level.value.toNat) = some level.value.toNat :=
    parse_decimal small
  rw [readLevel, solid, upper_plain plain (level_plain level), displayLevel]
  by_cases low : level.value < 1000
  · have numeric : "FL".toList.isPrefixOf? ("FL".toList ++ decimal level.value.toNat) =
        some (decimal level.value.toNat) := List.isPrefixOf?_eq_some_iff_append_eq.mpr rfl
    have below : ¬ 1000 ≤ level.value.toNat := Nat.not_le.mpr low
    simp only [if_pos low, numeric, Option.getD_some, parsed, Option.bind_some, below, and_false,
      if_false, UInt16.ofNat_toNat]
  · -- a number of feet has no prefix to strip
    have bare : "FL".toList.isPrefixOf? (decimal level.value.toNat) = none := by
      rw [Option.eq_none_iff_forall_not_mem]
      intro rest found
      have whole := List.isPrefixOf?_eq_some_iff_append_eq.mp found
      have digit := decimal_digits level.value.toNat 'F' (by rw [← whole]; simp)
      exact absurd digit (by decide)
    have unprefixed : "FL".toList.isPrefixOf (decimal level.value.toNat) = false := by
      rw [← Bool.not_eq_true, List.isPrefixOf_iff_prefix]
      rintro ⟨rest, whole⟩
      have found := List.isPrefixOf?_eq_some_iff_append_eq.mpr whole
      rw [bare] at found
      cases found
    simp only [if_neg low, bare, Option.getD_none, parsed, Option.bind_some, unprefixed,
      Bool.false_eq_true, false_and, if_false, UInt16.ofNat_toNat]

theorem parse_display (plain : PlainCase upper) {arg : CpdlcArgument} (typable : Typable upper arg) :
    parseArgument upper arg.argType (displayArgument arg) = some arg := by
  obtain ⟨nonempty, trimmed, upperCase⟩ := typable
  simp only [parseArgument, trimmed, if_neg nonempty]
  cases arg with
  | level level =>
      exact congrArg (Option.map _) (read_level_display plain level)
  | degrees degrees =>
      have parsed : parseDecimal 65535 (decimal degrees.toNat) = some degrees.toNat :=
        parse_decimal (Nat.le_of_lt_succ degrees.toNat_lt)
      simp only [CpdlcArgument.argType, displayArgument, parsed, Option.map_some,
        UInt16.ofNat_toNat]
  | position text =>
      have same : toUppercase upper text.toList = text.toList := upperCase (.inl rfl)
      simp only [CpdlcArgument.argType, displayArgument, same, String.ofList_toList]
  | direction text =>
      have same : toUppercase upper text.toList = text.toList := upperCase (.inr rfl)
      simp only [CpdlcArgument.argType, displayArgument, same, String.ofList_toList]
  | _ text => simp only [CpdlcArgument.argType, displayArgument, String.ofList_toList]

def shownInputs (args : List CpdlcArgument) : List String :=
  args.map fun arg => String.ofList (displayArgument arg)

theorem parse_shown (plain : PlainCase upper) (before args : List CpdlcArgument)
    (typable : ∀ arg ∈ args, Typable upper arg) :
    parseArguments upper (shownInputs (before ++ args)) before.length
      (args.map CpdlcArgument.argType) = some args := by
  induction args generalizing before with
  | nil => rfl
  | cons arg rest ih =>
      have own := typable arg List.mem_cons_self
      have later := ih (before ++ [arg]) fun other member =>
        typable other (List.mem_cons_of_mem _ member)
      rw [List.append_assoc, List.singleton_append, List.length_append, List.length_singleton]
        at later
      have value : argValue (shownInputs (before ++ arg :: rest)) before.length =
          some (displayArgument arg) := by
        simp [argValue, shownInputs, own.trimmed, own.nonempty]
      rw [List.map_cons, parseArguments, value]
      simp only [Option.bind_eq_bind, Option.bind_some, parse_display plain own, later]
      rfl

theorem uplinks_named : ∀ definition ∈ messageRegistry, definition.direction = .uplink →
    "UM".toList.isPrefixOf definition.id.toList = true := by
  decide +kernel

theorem found_id {id : String} {definition : MessageDefinition}
    (found : findDefinition id = some definition) : definition.id = id := by
  simpa using List.find?_some found

theorem uplink_command {id : String} {definition : MessageDefinition}
    (found : findDefinition id = some definition) (up : definition.direction = .uplink) :
    ¬ (id = "L_TURN_LEFT" ∨ id = "L_TURN_RIGHT") ∧ commandUplinkId id = some id := by
  have named := found_id found
  have turn : ¬ (id = "L_TURN_LEFT" ∨ id = "L_TURN_RIGHT") := by
    rintro (rfl | rfl) <;> cases found
  have lead := uplinks_named definition (List.mem_of_find?_eq_some found) up
  rw [named] at lead
  exact ⟨turn, by rw [commandUplinkId, if_neg turn, if_pos lead, found, Option.map_some, named]⟩

theorem build_display (plain : PlainCase upper) {element : MessageElement}
    (valid : ValidUplink element) (typable : ∀ arg ∈ element.args, Typable upper arg) :
    buildCommandElement upper element.id (shownInputs element.args) = some element := by
  obtain ⟨id, args⟩ := element
  obtain ⟨definition, found, up, types⟩ := valid
  obtain ⟨turn, known⟩ := uplink_command found up
  have read : parseArguments upper (shownInputs args) 0 definition.args = some args := by
    rw [← types]
    exact parse_shown plain [] args typable
  simp only [buildCommandElement, known, found, bind, Option.bind_some, if_neg turn]
  rw [read]
  rfl

theorem command_params {element : MessageElement} (valid : ValidUplink element) :
    commandParams element.id = element.args.length := by
  obtain ⟨definition, found, up, types⟩ := valid
  obtain ⟨turn, known⟩ := uplink_command found up
  have fields : definition.args.length = element.args.length := by rw [← types, List.length_map]
  rw [commandParams, if_neg turn, known, Option.bind_some, found]
  exact fields

theorem command_display (plain : PlainCase upper) {element : MessageElement}
    (valid : ValidUplink element) (typable : ∀ arg ∈ element.args, Typable upper arg) :
    commandElement upper element.id (shownInputs element.args) = some element := by
  have inputs : (if commandNeedsParam element.id then shownInputs element.args else []) =
      shownInputs element.args := by
    obtain ⟨id, args⟩ := element
    cases args with
    | nil => exact ite_self _
    | cons arg rest => rw [commandNeedsParam, command_params valid]; rfl
  rw [commandElement, inputs]
  exact build_display plain valid typable

end Display

section Sample

def asciiCase (char : Char) : Text := [char.toUpper]

theorem plain_ascii : PlainCase asciiCase := by
  rintro char (digit | rfl | rfl)
  · obtain ⟨_, last⟩ := Char.isDigit_iff_toNat.mp digit
    rcases Words.upper_cases char with ⟨same, _⟩ | ⟨lower, _⟩
    · exact congrArg ([·]) same
    · exact absurd (lower.trans last) (by decide)
  · rfl
  · rfl

end Sample

end OpenLink.CommandElements
