import OpenLink.TemplateMatching

/-!
A message element sent to Hoppie as text and decoded again. The text alone has to
say which definition wrote it, so the round trip is a question of which other
definitions match the text.
-/
namespace OpenLink.TextRoundTrip
open Cpdlc HoppieClient MessageRegistry Rendering Selection TemplateMatching Templates Texts Translator

def pieces (definition : MessageDefinition) (args : List CpdlcArgument) : List (Text × Text) :=
  (args.map displayArgument).zip (splitTemplate definition.template.toList).tail

/-- Arguments of the declared types, each with a text that is not empty, has no
white space at its ends and opens no placeholder. -/
structure Admissible (definition : MessageDefinition) (args : List CpdlcArgument) : Prop where
  declared : args.map CpdlcArgument.argType = definition.args
  solid : ∀ arg ∈ args, Solid (displayArgument arg)

/-- Arguments that moreover survive their own way to text and back, with template
text between them that marks their ends. -/
structure Legible (definition : MessageDefinition) (args : List CpdlcArgument) : Prop where
  declared : args.map CpdlcArgument.argType = definition.args
  sound : ∀ arg ∈ args, Sound arg
  separated : Separated (pieces definition args)

theorem Legible.admissible {definition : MessageDefinition} {args : List CpdlcArgument}
    (legible : Legible definition args) : Admissible definition args where
  declared := legible.declared
  solid := fun arg given => sound_solid (legible.sound arg given)

/-! What the declared types and the texts of the arguments give. -/
namespace Admissible
variable {definition : MessageDefinition} {args : List CpdlcArgument}
  (admissible : Admissible definition args)

include admissible

theorem arity : args.length = definition.args.length := by
  rw [← admissible.declared, List.length_map]

theorem none_declared (bare : definition.args = []) : args = [] := by
  have empty := admissible.arity
  rw [bare, List.length_nil] at empty
  exact List.length_eq_zero_iff.mp empty

theorem values : ∀ value ∈ args.map displayArgument, Solid value := by
  intro value written
  obtain ⟨arg, given, rfl⟩ := List.mem_map.mp written
  exact admissible.solid arg given

end Admissible

section Own
variable {definition : MessageDefinition} {args : List CpdlcArgument}
  (member : definition ∈ messageRegistry)

include member in
/-- The text of an element: its layout, filled, with no white space at its ends. -/
theorem render_layout (admissible : Admissible definition args) :
    ∃ layout : Layout, splitTemplate definition.template.toList = layout.segments ∧
      render definition args = layout.filled (args.map displayArgument) ∧
      args.length = layout.slots.length ∧
      trim (render definition args) = render definition args := by
  obtain ⟨layout, template, count, tidy⟩ := registry_layout member
  have counted : args.length = layout.slots.length := admissible.arity.trans count.symm
  have filled := render_filled definition layout template args counted admissible.solid
  refine ⟨layout, ?_, filled, counted, ?_⟩
  · rw [← template, split_template_layout]
  · rw [filled]
    exact filled_trimmed layout tidy admissible.values (by simpa using counted)

include member in
/-- A definition matches what it has rendered, with the arguments it was given. -/
theorem match_own (legible : Legible definition args) :
    tryMatchTemplate (render definition args) definition = some args := by
  by_cases bare : definition.args = []
  · have none := legible.admissible.none_declared bare
    subst none
    simp [tryMatchTemplate, bare, render, eqIgnoreAsciiCase]
  · obtain ⟨layout, segments, filled, counted, _⟩ := render_layout member legible.admissible
    have solid := legible.admissible.values
    have separated := legible.separated
    rw [pieces, segments, Layout.segments, List.tail_cons] at separated
    have extracted := extract_filled layout (args.map displayArgument) (by simpa using counted)
      solid separated
    have full : [] ∉ args.map displayArgument :=
      fun empty => (solid [] empty).nonempty rfl
    have arity : (args.map displayArgument).length = definition.args.length := by
      rw [List.length_map, legible.admissible.arity]
    simp only [tryMatchTemplate, if_neg bare, segments, filled, extracted]
    rw [if_neg (by simpa using arity), if_neg full, ← legible.declared,
      text_arguments_display args legible.sound]

end Own

/-! The definitions that would be preferred to a given one. -/
section Rivals

def before (definition : MessageDefinition) : List MessageDefinition :=
  messageRegistry.takeWhile fun other => other.id ≠ definition.id

def behind (definition : MessageDefinition) : List MessageDefinition :=
  (messageRegistry.dropWhile fun other => other.id ≠ definition.id).tail

/-- Those of the same direction that are more specific, or as specific and earlier. -/
def rivals (definition : MessageDefinition) : List MessageDefinition :=
  (before definition).filter (fun other =>
      other.direction = definition.direction ∧ specificity definition ≤ specificity other) ++
    (behind definition).filter fun other =>
      other.direction = definition.direction ∧ specificity definition < specificity other

def Unrivalled (definition : MessageDefinition) (body : Text) : Prop :=
  ∀ rival ∈ rivals definition, tryMatchTemplate body rival = none

instance (definition : MessageDefinition) (body : Text) : Decidable (Unrivalled definition body) :=
  inferInstanceAs (Decidable (∀ rival ∈ _, _))

theorem eq_of_id {definition other : MessageDefinition} (member : definition ∈ messageRegistry)
    (present : other ∈ messageRegistry) (same : other.id = definition.id) :
    other = definition := by
  have found := find_definition_of_mem definition member
  rw [← same, find_definition_of_mem other present] at found
  exact Option.some.inj found

theorem before_id {definition other : MessageDefinition} (earlier : other ∈ before definition) :
    other.id ≠ definition.id := by
  simpa using List.mem_takeWhile_imp earlier

theorem registry_around {definition : MessageDefinition}
    (member : definition ∈ messageRegistry) :
    messageRegistry = before definition ++ definition :: behind definition := by
  have whole := List.takeWhile_append_dropWhile
    (p := fun other : MessageDefinition => decide (other.id ≠ definition.id)) (l := messageRegistry)
  cases rest : messageRegistry.dropWhile fun other => other.id ≠ definition.id with
  | nil =>
      rw [rest, List.append_nil] at whole
      rw [← whole] at member
      exact absurd rfl (before_id member)
  | cons first tail =>
      have stopped := List.head?_dropWhile_not
        (fun other : MessageDefinition => decide (other.id ≠ definition.id)) messageRegistry
      rw [rest] at stopped
      have present : first ∈ messageRegistry := by
        rw [← whole, rest]
        simp
      have same : first = definition := by
        apply eq_of_id member present
        simpa using stopped
      rw [rest, same] at whole
      simp only [before, behind, rest, List.tail_cons]
      exact whole.symm

theorem matching_append (body : Text) (direction : MessageDirection)
    (left right : List MessageDefinition) :
    matching body direction (left ++ right) =
      matching body direction left ++ matching body direction right := by
  simp [matching]

theorem mem_matching {body : Text} {direction : MessageDirection}
    {definitions : List MessageDefinition} {found : MessageDefinition × List CpdlcArgument} :
    found ∈ matching body direction definitions ↔
      found.1 ∈ definitions ∧ found.1.direction = direction ∧
        tryMatchTemplate body found.1 = some found.2 := by
  simp only [matching, List.mem_filterMap, List.mem_filter, Option.map_eq_some_iff]
  constructor
  · rintro ⟨definition, ⟨listed, facing⟩, args, matched, rfl⟩
    exact ⟨listed, by simpa using facing, matched⟩
  · rintro ⟨listed, facing, matched⟩
    exact ⟨found.1, ⟨listed, by simpa using facing⟩, found.2, matched, rfl⟩

/-- A definition that matches is chosen exactly when no rival matches as well. -/
theorem chosen_iff {definition : MessageDefinition} (member : definition ∈ messageRegistry)
    {body : Text} {args : List CpdlcArgument}
    (own : tryMatchTemplate body definition = some args) :
    choose (fun found => specificity found.1)
        (matching body definition.direction messageRegistry) = some (definition, args) ↔
      Unrivalled definition body := by
  have cut : matching body definition.direction messageRegistry =
      matching body definition.direction (before definition) ++
        (definition, args) :: matching body definition.direction (behind definition) := by
    conv_lhs => rw [registry_around member]
    rw [matching_append]
    simp [matching, own]
  have fresh : (definition, args) ∉ matching body definition.direction (before definition) :=
    fun earlier => before_id (mem_matching.mp earlier).1 rfl
  rw [cut, choose_iff _ fresh]
  constructor
  · rintro ⟨below, above⟩ rival listed
    -- a rival that matched would score as much in front, or more behind
    by_contra matched
    obtain ⟨found, matched⟩ := Option.ne_none_iff_exists'.mp matched
    rcases List.mem_append.mp listed with earlier | later
    · obtain ⟨place, strong⟩ := List.mem_filter.mp earlier
      obtain ⟨facing, strong⟩ := of_decide_eq_true strong
      have weaker := below (rival, found) (mem_matching.mpr ⟨place, facing, matched⟩)
      exact absurd strong (Nat.not_le_of_lt weaker)
    · obtain ⟨place, strong⟩ := List.mem_filter.mp later
      obtain ⟨facing, strong⟩ := of_decide_eq_true strong
      have weaker := above (rival, found) (mem_matching.mpr ⟨place, facing, matched⟩)
      exact absurd strong (Nat.not_lt_of_le weaker)
  · intro alone
    constructor
    · rintro ⟨other, found⟩ listed
      obtain ⟨place, facing, matched⟩ := mem_matching.mp listed
      by_contra strong
      have rival : other ∈ rivals definition := List.mem_append_left _
        (List.mem_filter.mpr ⟨place, decide_eq_true ⟨facing, Nat.le_of_not_lt strong⟩⟩)
      rw [alone other rival] at matched
      contradiction
    · rintro ⟨other, found⟩ listed
      obtain ⟨place, facing, matched⟩ := mem_matching.mp listed
      by_contra strong
      have rival : other ∈ rivals definition := List.mem_append_right _
        (List.mem_filter.mpr ⟨place, decide_eq_true ⟨facing, Nat.lt_of_not_le strong⟩⟩)
      rw [alone other rival] at matched
      contradiction

theorem free_text_read {definition : MessageDefinition}
    (template : definition.template = "[free text]") (declared : definition.args = [.freeText])
    {body : Text} (nonempty : body ≠ []) (trimmed : trim body = body) :
    tryMatchTemplate body definition = some [.freeText (String.ofList body)] := by
  have cut : splitTemplate "[free text]".toList = [[], []] := by decide +kernel
  have values : extractValuesBetweenSegments body (splitTemplate definition.template.toList) =
      [body] := by
    rw [template, cut]
    simp [extractValuesBetweenSegments, extractRemaining, trimmed]
  simp [tryMatchTemplate, declared, values, nonempty.symm, textToArgument]

/-- In either direction a free text definition takes any body that is not blank. -/
theorem free_text_matches (direction : MessageDirection) {body : Text} (nonempty : body ≠ [])
    (trimmed : trim body = body) :
    ∃ definition ∈ messageRegistry, definition.direction = direction ∧
      tryMatchTemplate body definition = some [.freeText (String.ofList body)] := by
  cases direction with
  | uplink =>
      exact ⟨⟨"UM169", .uplink, "[free text]", [.freeText], .R⟩, by simp [messageRegistry], rfl,
        free_text_read rfl rfl nonempty trimmed⟩
  | downlink =>
      exact ⟨⟨"DM67", .downlink, "[free text]", [.freeText], .R⟩, by simp [messageRegistry], rfl,
        free_text_read rfl rfl nonempty trimmed⟩

/-- The element decoded is that of the definition chosen: the fallback is for blank
bodies only. -/
theorem decoded_chosen {definition : MessageDefinition} (member : definition ∈ messageRegistry)
    {args : List CpdlcArgument} (admissible : Admissible definition args) {body : Text}
    (trimmed : trim body = body) :
    matchBodyToElement body definition.direction = (definition.id, args) ↔
      choose (fun found => specificity found.1)
        (matching body definition.direction messageRegistry) = some (definition, args) := by
  cases chosen : choose (fun found : MessageDefinition × List CpdlcArgument => specificity found.1)
      (matching body definition.direction messageRegistry) with
  | some found =>
      obtain ⟨best, bestArgs⟩ := found
      have listed := (mem_matching.mp (choose_mem _ chosen)).1
      simp only [matchBodyToElement, trimmed, chosen, Option.some.injEq, Prod.mk.injEq]
      exact and_congr_left fun _ =>
        ⟨fun id => eq_of_id member listed id, fun same => congrArg MessageDefinition.id same⟩
  | none =>
      -- the fallback element is a free text, which its own definition would have matched
      simp only [matchBodyToElement, trimmed, chosen, reduceCtorEq, iff_false]
      intro decoded
      obtain ⟨_, rfl⟩ := Prod.mk.inj decoded
      have written := admissible.solid (.freeText (String.ofList body)) (by simp)
      rw [displayArgument, String.toList_ofList] at written
      obtain ⟨free, listed, facing, matched⟩ :=
        free_text_matches definition.direction written.nonempty trimmed
      have present : (free, [CpdlcArgument.freeText (String.ofList body)]) ∈
          matching body definition.direction messageRegistry :=
        mem_matching.mpr ⟨listed, facing, matched⟩
      obtain ⟨best, held⟩ := choose_some
        (fun found : MessageDefinition × List CpdlcArgument => specificity found.1)
        (List.ne_nil_of_mem present)
      rw [chosen] at held
      contradiction

/-- An element is decoded exactly when its definition matches with its arguments
and no rival matches as well. -/
theorem decoded_iff {definition : MessageDefinition} (member : definition ∈ messageRegistry)
    {args : List CpdlcArgument} (admissible : Admissible definition args) {body : Text}
    (trimmed : trim body = body) :
    matchBodyToElement body definition.direction = (definition.id, args) ↔
      tryMatchTemplate body definition = some args ∧ Unrivalled definition body := by
  rw [decoded_chosen member admissible trimmed]
  constructor
  · intro chosen
    have own := (mem_matching.mp (choose_mem _ chosen)).2.2
    exact ⟨own, (chosen_iff member own).mp chosen⟩
  · rintro ⟨own, alone⟩
    exact (chosen_iff member own).mpr alone

end Rivals

/-! Definitions that cannot match, seen from their template alone. -/
section Excluded

/-- Two placeholders with only white space between them leave one value empty. -/
theorem extract_adjacent {segments : List Text}
    (adjacent : ∃ segment ∈ segments, segment ≠ [] ∧ trim segment = []) (remaining : Text) :
    (extractRemaining segments remaining).length < segments.length ∨
      [] ∈ extractRemaining segments remaining := by
  induction segments generalizing remaining with
  | nil => simp at adjacent
  | cons segment rest ih =>
      have later : ¬ (segment ≠ [] ∧ trim segment = []) →
          ∃ segment ∈ rest, segment ≠ [] ∧ trim segment = [] := by
        intro solid
        obtain ⟨blank, member, white⟩ := adjacent
        rcases List.mem_cons.mp member with rfl | further
        · exact absurd white solid
        · exact ⟨blank, further, white⟩
      rw [extractRemaining]
      by_cases empty : segment = []
      -- behind an empty segment nothing remains to be read
      · rw [if_pos empty]
        rcases ih (later (by simp [empty])) [] with short | hit
        · left
          simpa using short
        · exact .inr (List.mem_cons_of_mem _ hit)
      · rw [if_neg empty]
        by_cases white : trim segment = []
        -- the empty needle occurs at once, and the value in front of it is empty
        · rw [white, split_once_empty]
          right
          simp [trim, trimStart, trimEnd]
        · have more := later (by simp [white])
          cases splitOnce (trim segment) remaining with
          | none =>
              obtain ⟨blank, member, _⟩ := more
              have further := List.length_pos_of_mem member
              left
              simp only [List.length_cons, List.length_nil]
              omega
          | some found =>
              rcases ih more (trimStart found.2) with short | hit
              · left
                simpa using short
              · exact .inr (List.mem_cons_of_mem _ hit)

theorem unmatched_of_values {definition : MessageDefinition} {body : Text}
    (slotted : definition.args ≠ [])
    (unusable : (extractValuesBetweenSegments body (splitTemplate
        definition.template.toList)).length ≠ definition.args.length ∨
      [] ∈ extractValuesBetweenSegments body (splitTemplate definition.template.toList)) :
    tryMatchTemplate body definition = none := by
  simp only [tryMatchTemplate, if_neg slotted]
  rcases unusable with arity | hit
  · rw [if_pos arity]
  · rw [if_pos hit, ite_self]

theorem following_length {definition : MessageDefinition}
    (member : definition ∈ messageRegistry) :
    (splitTemplate definition.template.toList).tail.length = definition.args.length := by
  obtain ⟨layout, template, count, _⟩ := registry_layout member
  rw [← template, split_template_layout, Layout.segments, List.tail_cons, Layout.following,
    List.length_map, count]

def adjacent (definition : MessageDefinition) : Bool :=
  (splitTemplate definition.template.toList).tail.any fun segment =>
    segment ≠ [] && trim segment = []

/-- A definition whose template has two such placeholders is never decoded. -/
theorem adjacent_unmatched {definition : MessageDefinition}
    (member : definition ∈ messageRegistry) (tight : adjacent definition = true) (body : Text) :
    tryMatchTemplate body definition = none := by
  have adjacent : ∃ segment ∈ (splitTemplate definition.template.toList).tail,
      segment ≠ [] ∧ trim segment = [] := by
    obtain ⟨segment, within, blank⟩ := List.any_eq_true.mp tight
    exact ⟨segment, within, by simpa using blank⟩
  have arity := following_length member
  cases cut : splitTemplate definition.template.toList with
  | nil => simp [cut] at adjacent
  | cons lead following =>
      rw [cut, List.tail_cons] at arity adjacent
      have slotted : 0 < definition.args.length := by
        obtain ⟨_, within, _⟩ := adjacent
        rw [← arity]
        exact List.length_pos_of_mem within
      apply unmatched_of_values (List.ne_nil_of_length_pos slotted)
      rw [cut, extractValuesBetweenSegments]
      have unusable := extract_adjacent adjacent
      split
      · exact (unusable body).imp (by omega) id
      · split
        next after _ => exact (unusable (trimStart after)).imp (by omega) id
        next => exact .inl (by simp; omega)

theorem lead_unmatched {definition : MessageDefinition} {body : Text}
    (slotted : definition.args ≠ [])
    (lead : ¬ trimEnd ((splitTemplate definition.template.toList).headD []) <+: body) :
    tryMatchTemplate body definition = none := by
  apply unmatched_of_values slotted
  left
  cases cut : splitTemplate definition.template.toList with
  | nil => simpa [extractValuesBetweenSegments] using Ne.symm (mt List.length_eq_zero_iff.mp slotted)
  | cons first following =>
      rw [cut, List.headD_cons] at lead
      have nonempty : first ≠ [] := by
        rintro rfl
        exact lead (by simp [trimEnd])
      have absent : (trimEnd first).isPrefixOf? body = none := by
        cases found : (trimEnd first).isPrefixOf? body with
        | none => rfl
        | some after =>
            exact absurd ⟨after, List.isPrefixOf?_eq_some_iff_append_eq.mp found⟩ lead
      simp only [extractValuesBetweenSegments, if_neg nonempty, absent, List.length_nil]
      exact Ne.symm (mt List.length_eq_zero_iff.mp slotted)

/-- No text that starts with `known` matches the definition. -/
def excluded (known : Text) (definition : MessageDefinition) : Bool :=
  if definition.args = [] then
    !(known.map Char.toLower).isPrefixOf (definition.template.toList.map Char.toLower)
  else
    let lead := trimEnd ((splitTemplate definition.template.toList).headD [])
    (!lead.isPrefixOf known && !known.isPrefixOf lead) || adjacent definition

theorem excluded_unmatched {definition : MessageDefinition}
    (member : definition ∈ messageRegistry) {known body : Text} (start : known <+: body)
    (out : excluded known definition = true) : tryMatchTemplate body definition = none := by
  unfold excluded at out
  split at out
  next bare =>
    have different : eqIgnoreAsciiCase body definition.template.toList = false := by
      rw [eqIgnoreAsciiCase, beq_eq_false_iff_ne]
      intro same
      have lowered : known.map Char.toLower <+: definition.template.toList.map Char.toLower := by
        rw [← same]
        exact start.map _
      simp [List.isPrefixOf_iff_prefix.mpr lowered] at out
    simp [tryMatchTemplate, bare, different]
  next slotted =>
    rcases Bool.or_eq_true_iff.mp out with apart | tight
    · apply lead_unmatched slotted
      intro lead
      obtain ⟨notShort, notLong⟩ := Bool.and_eq_true_iff.mp apart
      rcases List.prefix_or_prefix_of_prefix lead start with short | long
      · rw [List.isPrefixOf_iff_prefix.mpr short] at notShort
        contradiction
      · rw [List.isPrefixOf_iff_prefix.mpr long] at notLong
        contradiction
    · exact adjacent_unmatched member tight body

end Excluded

/-! Definitions that have no rival whatever their arguments are. -/
section Distinctive

/-- What the text of every legible element of the definition starts with. -/
def known (definition : MessageDefinition) : Text :=
  (splitTemplate definition.template.toList).headD [] ++
    if definition.args.head? = some .level then "FL".toList else []

def distinctive (definition : MessageDefinition) : Bool :=
  if definition.args = [] then
    (rivals definition).all fun rival =>
      (tryMatchTemplate definition.template.toList rival).isNone
  else (rivals definition).all (excluded (known definition))

theorem rival_mem {definition rival : MessageDefinition} (rivalry : rival ∈ rivals definition) :
    rival ∈ messageRegistry := by
  rcases List.mem_append.mp rivalry with earlier | later
  · exact (List.takeWhile_sublist _).subset (List.mem_filter.mp earlier).1
  · have place := (List.mem_filter.mp later).1
    exact (List.dropWhile_sublist _).subset (List.mem_of_mem_tail place)

theorem known_start {definition : MessageDefinition} (member : definition ∈ messageRegistry)
    {args : List CpdlcArgument} (legible : Legible definition args) :
    known definition <+: render definition args := by
  obtain ⟨layout, segments, filled, counted, _⟩ := render_layout member legible.admissible
  rw [known, segments, filled, Layout.segments, List.headD_cons, Layout.filled,
    List.prefix_append_right_inj]
  split
  next level =>
    cases args with
    | nil => simp [← legible.declared] at level
    | cons arg rest =>
        cases arg with
        | level value =>
            have low : value.value < 1000 := legible.sound (.level value) (by simp)
            cases shape : layout.following with
            | nil => simp [Layout.following] at shape; simp [shape] at counted
            | cons segment following =>
                rw [List.map_cons, List.zip_cons_cons, fill_cons, displayArgument, displayLevel,
                  if_pos low, List.append_assoc]
                exact List.prefix_append _ _
        | _ => simp [← legible.declared, CpdlcArgument.argType] at level
  next => exact List.nil_prefix

theorem distinctive_unrivalled {definition : MessageDefinition}
    (member : definition ∈ messageRegistry) {args : List CpdlcArgument}
    (legible : Legible definition args) (clear : distinctive definition = true) :
    Unrivalled definition (render definition args) := by
  intro rival rivalry
  unfold distinctive at clear
  split at clear
  next bare =>
    have none := legible.admissible.none_declared bare
    have unmatched := List.all_eq_true.mp clear rival rivalry
    rw [none, render]
    simpa using unmatched
  next =>
    exact excluded_unmatched (rival_mem rivalry) (known_start member legible)
      (List.all_eq_true.mp clear rival rivalry)

end Distinctive

/-! The way through Hoppie and back. -/
section Relay

def throughHoppie (now : DateTime) (min : UInt8) (direction : MessageDirection)
    (envelope : CpdlcEnvelope) : Option CpdlcEnvelope :=
  match openlinkToHoppie envelope with
  | none => none
  | some out => (hoppieToOpenlink now out.sender out.peer out.packet min direction).toOption

theorem mrn_read_back (mrn : Option UInt8) :
    ((mrn.map fun mrn => decimal mrn.toNat).bind (parseDecimal 255)).map UInt8.ofNat = mrn := by
  cases mrn with
  | none => rfl
  | some mrn =>
      have small : mrn.toNat ≤ 255 := Nat.le_of_lt_succ mrn.toNat_lt
      simp [parse_decimal small]

theorem through_hoppie (message : CpdlcApplicationMessage)
    (source destination : AcarsEndpointCallsign) (now : DateTime) (min : UInt8)
    (direction : MessageDirection) :
    throughHoppie now min direction ⟨source, destination, .application message⟩ =
      some ⟨source, destination, .application ⟨min, message.mrn,
        [⟨(matchBodyToElement (trimEnd (renderMessage message)) direction).1,
          (matchBodyToElement (trimEnd (renderMessage message)) direction).2⟩], now⟩⟩ := by
  simp only [throughHoppie, openlinkToHoppie, hoppieToOpenlink, parse_packet_of, mrn_read_back,
    Except.toOption]

/-- An element comes back as it was exactly when its template reads its own text
back and no rival matches that text. The former holds of every legible element,
the latter of those whose definition is distinctive. -/
theorem text_round_trip_iff (definition : MessageDefinition)
    (member : definition ∈ messageRegistry) (args : List CpdlcArgument)
    (admissible : Admissible definition args) (source destination : AcarsEndpointCallsign)
    (min : UInt8) (mrn : Option UInt8) (sent now : DateTime) (bridgeMin : UInt8) :
    (throughHoppie now bridgeMin definition.direction ⟨source, destination,
          .application ⟨min, mrn, [⟨definition.id, args⟩], sent⟩⟩ =
        some ⟨source, destination,
          .application ⟨bridgeMin, mrn, [⟨definition.id, args⟩], now⟩⟩ ↔
      tryMatchTemplate (render definition args) definition = some args ∧
        Unrivalled definition (render definition args)) ∧
      (Legible definition args →
        tryMatchTemplate (render definition args) definition = some args ∧
          (distinctive definition = true → Unrivalled definition (render definition args))) := by
  obtain ⟨_, _, _, _, trimmed⟩ := render_layout member admissible
  have written : renderMessage ⟨min, mrn, [⟨definition.id, args⟩], sent⟩ =
      render definition args := by
    simp [renderMessage, renderElement, find_definition_of_mem definition member, List.intercalate]
  constructor
  · rw [through_hoppie, written, trim_end_trimmed trimmed,
      ← decoded_iff member admissible trimmed]
    simp [Prod.ext_iff]
  · intro legible
    exact ⟨match_own member legible, distinctive_unrivalled member legible⟩

def reachByTime : List CpdlcArgument := [.level ⟨350⟩, .time "1200"]

theorem text_round_trip_reach :
    throughHoppie 0 2 .uplink ⟨"LFPG", "AFR123",
        .application ⟨1, some 7, [⟨"UM26", reachByTime⟩], 0⟩⟩ =
      some ⟨"LFPG", "AFR123", .application ⟨2, some 7, [⟨"UM26", reachByTime⟩], 0⟩⟩ := by
  have listed : (⟨"UM26", .uplink, "CLIMB TO REACH [level] BY [time]", [.level, .time], .WU⟩ :
      MessageDefinition) ∈ messageRegistry := by decide +kernel
  have legible : Legible ⟨"UM26", .uplink, "CLIMB TO REACH [level] BY [time]", [.level, .time], .WU⟩
      reachByTime := ⟨rfl, by decide +kernel, by decide +kernel⟩
  obtain ⟨exactly, holds⟩ := text_round_trip_iff _ listed reachByTime legible.admissible
    "LFPG" "AFR123" 1 (some 7) 0 0 2
  have own := holds legible
  exact exactly.mpr ⟨own.1, own.2 (by decide +kernel)⟩

def climbAtPosition : List CpdlcArgument := [.position "BOKSU", .level ⟨350⟩]

/-- The text does not say whether a climb is bound to a time or to a position. -/
theorem position_read_as_time :
    climbAtPosition.map CpdlcArgument.argType = [.position, .level] ∧
      (∀ arg ∈ climbAtPosition, Solid (displayArgument arg)) ∧
      throughHoppie 0 2 .uplink ⟨"LFPG", "AFR123",
          .application ⟨1, none, [⟨"UM22", climbAtPosition⟩], 0⟩⟩ =
        some ⟨"LFPG", "AFR123",
          .application ⟨2, none, [⟨"UM21", [.time "BOKSU", .level ⟨350⟩]⟩], 0⟩⟩ := by
  decide +kernel

end Relay

end OpenLink.TextRoundTrip
